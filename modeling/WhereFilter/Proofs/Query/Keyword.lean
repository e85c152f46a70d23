/-
The keyword `AND` as a word of its own: where it stands in a text, and how the characters around it
that belong to no word keep the parts of a text apart.
-/
import WhereFilter.Proofs.Text.Trim
import WhereFilter.Proofs.Text.Word
import WhereFilter.Query.Reader
import Mathlib.Data.Bool.AllAny

namespace WhereFilter.Query

open WhereFilter.Text

/-- The letters write `AND` in any case, and between the texts around them they are a word of their
own. -/
structure StandsAlone (before letters after : List Char) : Prop where
  letters_and : letters.map Char.toLower = ['a', 'n', 'd']
  before_apart : ∀ c ∈ before.getLast?, isWord c = false
  after_apart : ∀ c ∈ after.head?, isWord c = false

/-- The text has the keyword `AND` in it as a word of its own. -/
def HoldsAnd (text : List Char) : Prop :=
  ∃ before letters after, text = before ++ letters ++ after ∧ StandsAlone before letters after

/-! ## The letters -/

namespace StandsAlone

variable {before letters after : List Char}

theorem length_letters (h : StandsAlone before letters after) : letters.length = 3 := by
  simpa using congrArg List.length h.letters_and

theorem isWord_letters (h : StandsAlone before letters after) : ∀ c ∈ letters, isWord c = true := by
  intro c hc
  have hl : c.toLower ∈ ['a', 'n', 'd'] := by
    rw [← h.letters_and]; exact List.mem_map_of_mem hc
  have hand : ∀ x ∈ ['a', 'n', 'd'], isWord x = true := List.all_iff_forall_prop.1 (by decide)
  rw [← isWord_toLower]
  exact hand _ hl

theorem not_mem_letters (h : StandsAlone before letters after) {c : Char} (hc : isWord c = false) : c ∉ letters := by
  intro hm
  rw [h.isWord_letters c hm] at hc; cases hc

theorem exists_letters (h : StandsAlone before letters after) :
    ∃ a n d, letters = [a, n, d] ∧ isAnd a n d = true := by
  obtain ⟨a, n, d, rfl⟩ := List.length_eq_three.1 h.length_letters
  refine ⟨a, n, d, rfl, ?_⟩
  simpa [isAnd, sameIgnoringAsciiCase] using h.letters_and

/-- What stands further away makes no difference. -/
theorem of_append {further : List Char} (h : StandsAlone (further ++ before) letters after) :
    StandsAlone before letters after := by
  refine ⟨h.letters_and, fun c hc => h.before_apart c ?_, h.after_apart⟩
  rw [List.getLast?_append, hc]; rfl

/-- A character that belongs to no word keeps apart what stands further away. -/
theorem behind {c : Char} (hc : isWord c = false) (further : List Char) (h : StandsAlone before letters after) :
    StandsAlone (further ++ c :: before) letters after := by
  refine ⟨h.letters_and, fun x hx => ?_, h.after_apart⟩
  rw [List.getLast?_append, List.getLast?_cons, Option.some_or, Option.mem_some_iff] at hx
  cases hl : before.getLast? with
  | none => rw [hl] at hx; exact hx ▸ hc
  | some y => rw [hl] at hx; exact h.before_apart x (hx ▸ hl)

theorem of_append_after {further : List Char} (h : StandsAlone before letters (after ++ further)) :
    StandsAlone before letters after := by
  refine ⟨h.letters_and, h.before_apart, fun c hc => h.after_apart c ?_⟩
  rw [List.head?_append, hc]; rfl

end StandsAlone

/-! ## Texts kept apart -/

theorem not_holdsAnd_nil : ¬ HoldsAnd [] := by
  rintro ⟨before, letters, after, ht, h⟩
  have := congrArg List.length ht
  simp only [List.length_nil, List.length_append, h.length_letters] at this
  omega

theorem not_holdsAnd_of_no_d {text : List Char} (h : ∀ c ∈ text, c.toLower ≠ 'd') : ¬ HoldsAnd text := by
  rintro ⟨before, letters, after, rfl, hl⟩
  have hd : 'd' ∈ letters.map Char.toLower := by rw [hl.letters_and]; decide
  obtain ⟨c, hc, hcd⟩ := List.mem_map.1 hd
  exact h c (by simp [hc]) hcd

/-- The keyword stands on one side of a character that belongs to no word. -/
theorem holdsAnd_append_cons {c : Char} (hc : isWord c = false) (left right : List Char) :
    HoldsAnd (left ++ c :: right) ↔ HoldsAnd left ∨ HoldsAnd right := by
  constructor
  · rintro ⟨before, letters, after, ht, h⟩
    rw [List.append_assoc] at ht
    rcases List.append_eq_append_iff.1 ht with ⟨m, rfl, hm⟩ | ⟨m, rfl, hm⟩
    · -- the letters start behind the left text
      cases m with
      | nil =>
        cases letters with
        | nil => simpa using h.length_letters
        | cons x letters =>
          simp only [List.nil_append, List.cons_append, List.cons.injEq] at hm
          exact absurd (hm.1 ▸ List.mem_cons_self ..) (h.not_mem_letters hc)
      | cons x m =>
        simp only [List.cons_append, List.cons.injEq] at hm
        obtain ⟨rfl, rfl⟩ := hm
        refine .inr ⟨m, letters, after, by simp, ?_⟩
        have h' : StandsAlone (left ++ [c] ++ m) letters after := by simpa using h
        exact h'.of_append
    · rcases List.append_eq_append_iff.1 hm.symm with ⟨l, rfl, hl⟩ | ⟨l, rfl, hl⟩
      · -- the letters would reach over the character
        cases l with
        | nil =>
          refine .inl ⟨before, m, [], by simp, ?_⟩
          have h' : StandsAlone before m ([] ++ after) := by simpa using h
          exact h'.of_append_after
        | cons x l =>
          simp only [List.cons_append, List.cons.injEq] at hl
          exact absurd (by simp [hl.1]) (h.not_mem_letters hc)
      · exact .inl ⟨before, letters, l, by simp, StandsAlone.of_append_after (hl ▸ h)⟩
  · rintro (⟨before, letters, after, rfl, h⟩ | ⟨before, letters, after, rfl, h⟩)
    · refine ⟨before, letters, after ++ c :: right, by simp, h.letters_and, h.before_apart, fun x hx => ?_⟩
      cases after with
      | nil => simp only [List.nil_append, List.head?_cons, Option.mem_some_iff] at hx; exact hx ▸ hc
      | cons a after => exact h.after_apart x (by simpa using hx)
    · exact ⟨left ++ c :: before, letters, after, by simp, h.behind hc left⟩

theorem holdsAnd_cons {c : Char} (hc : isWord c = false) (text : List Char) : HoldsAnd (c :: text) ↔ HoldsAnd text := by
  have := holdsAnd_append_cons hc [] text
  simpa [not_holdsAnd_nil] using this

/-- A run of word characters holds the keyword only by being it. -/
theorem holdsAnd_word_iff {word : List Char} (hw : ∀ c ∈ word, isWord c = true) :
    HoldsAnd word ↔ word.map Char.toLower = ['a', 'n', 'd'] := by
  constructor
  · rintro ⟨before, letters, after, rfl, h⟩
    have hb : before = [] := by
      rcases before.eq_nil_or_concat with rfl | ⟨l, a, rfl⟩
      · rfl
      · have h1 := h.before_apart a (by simp)
        rw [hw a (by simp)] at h1; cases h1
    have ha : after = [] := by
      cases after with
      | nil => rfl
      | cons a after =>
        have h1 := h.after_apart a (by simp)
        rw [hw a (by simp)] at h1; cases h1
    subst hb ha
    simpa using h.letters_and
  · intro h
    exact ⟨[], word, [], by simp, h, by simp, by simp⟩

/-! ## Blanks -/

theorem holdsAnd_blank_append {blanks : List Char} (hb : AllBlank blanks) (text : List Char) :
    HoldsAnd (blanks ++ text) ↔ HoldsAnd text := by
  induction blanks with
  | nil => rfl
  | cons c blanks ih =>
    rw [List.cons_append, holdsAnd_cons (isWord_of_isBlank (hb c (List.mem_cons_self ..)))]
    exact ih fun x hx => hb x (List.mem_cons_of_mem _ hx)

theorem holdsAnd_append_blank {blanks : List Char} (hb : AllBlank blanks) (text : List Char) :
    HoldsAnd (text ++ blanks) ↔ HoldsAnd text := by
  cases blanks with
  | nil => rw [List.append_nil]
  | cons c blanks =>
    rw [holdsAnd_append_cons (isWord_of_isBlank (hb c (List.mem_cons_self ..))), or_iff_left]
    have := holdsAnd_blank_append (fun x hx => hb x (List.mem_cons_of_mem c hx)) []
    rw [List.append_nil] at this
    rw [this]; exact not_holdsAnd_nil

theorem holdsAnd_trim (text : List Char) : HoldsAnd (trim text) ↔ HoldsAnd text := by
  obtain ⟨before, after, hb, ha, ht⟩ := exists_trim text
  conv_rhs => rw [ht]
  rw [holdsAnd_append_blank ha, holdsAnd_blank_append hb]

end WhereFilter.Query
