/-
Laws of trimming: what is cut off is blank, what is left neither starts nor ends with a blank, and
these two facts determine it.
-/
import WhereFilter.Text.Blank
import WhereFilter.Proofs.Text.Run
import Mathlib.Data.List.Basic

namespace WhereFilter.Text

/-! ## Blank texts and trimmed texts -/

/-- A text of blanks alone. -/
def AllBlank (text : List Char) : Prop := ∀ c ∈ text, isBlank c = true

/-- A text that neither starts nor ends with a blank. -/
structure Trimmed (text : List Char) : Prop where
  head : ∀ c ∈ text.head?, isBlank c = false
  last : ∀ c ∈ text.getLast?, isBlank c = false

theorem allBlank_nil : AllBlank [] := fun _ h => absurd h List.not_mem_nil

theorem allBlank_space : AllBlank [' '] := List.forall_mem_singleton.2 (by decide)

theorem trimmed_nil : Trimmed [] := ⟨by simp, by simp⟩

theorem Trimmed.reverse {text : List Char} (h : Trimmed text) : Trimmed text.reverse :=
  ⟨by simpa using h.last, by simpa using h.head⟩

/-- A text between two characters that are no blanks is trimmed. -/
theorem trimmed_ends {a b : Char} {text : List Char} (ha : isBlank a = false) (hb : isBlank b = false) :
    Trimmed (a :: text ++ [b]) :=
  ⟨by simpa using ha, by rw [List.getLast?_append]; simpa using hb⟩

theorem trimmed_of_no_blank {text : List Char} (h : ∀ c ∈ text, isBlank c = false) : Trimmed text :=
  ⟨fun c hc => h c (List.mem_of_mem_head? hc), fun c hc => h c (List.mem_of_mem_getLast? hc)⟩

/-- Two trimmed texts with anything between them make a trimmed text. -/
theorem Trimmed.around {a b : List Char} (ha : Trimmed a) (hb : Trimmed b) (ha0 : a ≠ []) (hb0 : b ≠ [])
    (between : List Char) : Trimmed (a ++ between ++ b) := by
  constructor
  · rw [List.append_assoc, List.head?_append_of_ne_nil _ ha0]; exact ha.head
  · rw [List.getLast?_append_of_ne_nil _ hb0]; exact hb.last

/-! ## Trimming -/

/-- Trimming takes blanks off both ends. -/
theorem exists_trim (text : List Char) :
    ∃ before after, AllBlank before ∧ AllBlank after ∧ text = before ++ trim text ++ after := by
  refine ⟨text.takeWhile isBlank, ((trimStart text).reverse.takeWhile isBlank).reverse,
    mem_takeWhile, fun c hc => mem_takeWhile c (by simpa using hc), ?_⟩
  rw [trim, trimEnd, List.append_assoc, ← List.reverse_append, List.takeWhile_append_dropWhile,
    List.reverse_reverse, trimStart, List.takeWhile_append_dropWhile]

theorem trimmed_trim (text : List Char) : Trimmed (trim text) := by
  obtain ⟨before, after, -, -, h⟩ := exists_trim text
  constructor
  · intro c hc
    -- the first character of what is left is the first that was not dropped at the start
    refine head_dropWhile isBlank text c ?_
    have hs : trimStart text = trim text ++ ((trimStart text).reverse.takeWhile isBlank).reverse := by
      rw [trim, trimEnd, ← List.reverse_append, List.takeWhile_append_dropWhile, List.reverse_reverse]
    have : (trimStart text).head? = some c := by
      rw [hs, List.head?_append, hc]; rfl
    exact this
  · rw [trim, trimEnd, List.getLast?_reverse]
    exact head_dropWhile isBlank _

/-- A trimmed text is what trimming leaves of it, whatever blanks are put around it. -/
theorem trim_around {before text after : List Char} (hb : AllBlank before) (ha : AllBlank after)
    (h : Trimmed text) : trim (before ++ text ++ after) = text := by
  by_cases h0 : text = []
  · subst h0
    have : trimStart (before ++ [] ++ after) = [] := by
      rw [trimStart, List.append_nil, List.dropWhile_eq_nil_iff]
      intro c hc
      exact (List.mem_append.1 hc).elim (hb c) (ha c)
    rw [trim, this]; rfl
  · have hs : trimStart (before ++ text ++ after) = text ++ after := by
      rw [trimStart, List.append_assoc]
      refine dropWhile_run_append hb ?_
      rw [List.head?_append_of_ne_nil _ h0]; exact h.head
    rw [trim, hs, trimEnd, List.reverse_append,
      dropWhile_run_append (fun c hc => ha c (by simpa using hc)) h.reverse.head, List.reverse_reverse]

theorem trim_of_trimmed {text : List Char} (h : Trimmed text) : trim text = text := by
  have := trim_around allBlank_nil allBlank_nil h
  simpa using this

theorem trim_blank_append {blanks : List Char} (hb : AllBlank blanks) (text : List Char) :
    trim (blanks ++ text) = trim text := by
  obtain ⟨before, after, hbefore, hafter, ht⟩ := exists_trim text
  have hall : AllBlank (blanks ++ before) := fun c hc => (List.mem_append.1 hc).elim (hb c) (hbefore c)
  have := trim_around hall hafter (trimmed_trim text)
  rwa [List.append_assoc, List.append_assoc, ← List.append_assoc before, ← ht] at this

theorem trim_append_blank {blanks : List Char} (hb : AllBlank blanks) (text : List Char) :
    trim (text ++ blanks) = trim text := by
  obtain ⟨before, after, hbefore, hafter, ht⟩ := exists_trim text
  have hall : AllBlank (after ++ blanks) := fun c hc => (List.mem_append.1 hc).elim (hafter c) (hb c)
  have := trim_around hbefore hall (trimmed_trim text)
  rwa [← List.append_assoc, ← ht] at this

theorem trim_eq_nil_iff {text : List Char} : trim text = [] ↔ AllBlank text := by
  constructor
  · intro h c hc
    obtain ⟨before, after, hb, ha, ht⟩ := exists_trim text
    rw [h, List.append_nil] at ht
    rw [ht] at hc
    exact (List.mem_append.1 hc).elim (hb c) (ha c)
  · intro h
    simpa using trim_around h allBlank_nil trimmed_nil

end WhereFilter.Text
