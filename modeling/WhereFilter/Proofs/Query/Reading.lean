/-
What a text reads as: the declarative reading of queries (`Reads`), and that `Query.parse` gives
exactly this reading. The texts of the conditions are those of the one cutting at the keyword `AND`;
the first of them that is no condition is the fault.
-/
import WhereFilter.Proofs.Condition.Reading
import WhereFilter.Proofs.Query.Cutting
import Mathlib.Data.List.Forall2

namespace WhereFilter.Query

open WhereFilter.Text

/-! ## The first failure -/

section MapM

variable {α β ε : Type} {f : α → Except ε β}

theorem mapM_cons_eq (x : α) (xs : List α) :
    (x :: xs).mapM f = match f x with
      | .error e => .error e
      | .ok y => (xs.mapM f).map (y :: ·) := by
  rw [List.mapM_cons]
  cases f x with
  | error e => rfl
  | ok y => cases xs.mapM f <;> rfl

theorem mapM_eq_ok_iff {xs : List α} {ys : List β} :
    xs.mapM f = .ok ys ↔ List.Forall₂ (fun x y => f x = .ok y) xs ys := by
  induction xs generalizing ys with
  | nil =>
    rw [List.mapM_nil, List.forall₂_nil_left_iff]
    constructor
    · intro h; cases h; rfl
    · rintro rfl; rfl
  | cons x xs ih =>
    rw [mapM_cons_eq, List.forall₂_cons_left_iff]
    constructor
    · intro h
      cases hx : f x with
      | error e => rw [hx] at h; cases h
      | ok y =>
        rw [hx] at h
        cases hs : xs.mapM f with
        | error e => rw [hs] at h; cases h
        | ok zs => rw [hs] at h; cases h; exact ⟨y, zs, rfl, ih.1 hs, rfl⟩
    · rintro ⟨y, zs, hy, hz, rfl⟩
      rw [hy, ih.2 hz]; rfl

theorem mapM_append_error {before after : List α} {x : α} {e : ε} (hb : ∀ b ∈ before, ∃ y, f b = .ok y)
    (hx : f x = .error e) : (before ++ x :: after).mapM f = .error e := by
  induction before with
  | nil => rw [List.nil_append, mapM_cons_eq, hx]
  | cons b before ih =>
    obtain ⟨y, hy⟩ := hb b (List.mem_cons_self ..)
    rw [List.cons_append, mapM_cons_eq, hy, ih fun c hc => hb c (List.mem_cons_of_mem _ hc)]
    rfl

theorem exists_of_mapM_error {xs : List α} {e : ε} (h : xs.mapM f = .error e) :
    ∃ before x after, xs = before ++ x :: after ∧ (∀ b ∈ before, ∃ y, f b = .ok y) ∧ f x = .error e := by
  induction xs with
  | nil => cases h
  | cons x xs ih =>
    rw [mapM_cons_eq] at h
    cases hx : f x with
    | error e' => rw [hx] at h; cases h; exact ⟨[], x, xs, rfl, by simp, hx⟩
    | ok y =>
      rw [hx] at h
      cases hs : xs.mapM f with
      | ok ys => rw [hs] at h; cases h
      | error e' =>
        rw [hs] at h
        cases h
        obtain ⟨before, z, after, rfl, hb, hz⟩ := ih hs
        refine ⟨x :: before, z, after, rfl, fun b hb' => ?_, hz⟩
        rcases List.mem_cons.1 hb' with rfl | hb'
        exacts [⟨y, hx⟩, hb b hb']

end MapM

/-! ## The reading -/

/-- The text starts with `WHERE` in any case, and `rest` stands behind it. -/
def BehindWhere (text rest : List Char) : Prop :=
  ∃ start, text = start ++ rest ∧ start.map Char.toLower = ['w', 'h', 'e', 'r', 'e']

/-- The texts of the conditions: the pieces that are not blank, without the blanks around them. -/
def Cutting.conditionTexts (c : Cutting) : List (List Char) :=
  (c.pieces.filter fun piece => !isBlankText piece).map trim

/-- What a text reads as. -/
inductive Reads (input : String) : Except Malformed Query → Prop
  | empty : AllBlank input.toList → Reads input (.error ⟨.empty, input⟩)
  | missingWhere : ¬ AllBlank input.toList → (¬ ∃ rest, BehindWhere (trim input.toList) rest) →
      Reads input (.error ⟨.missingWhere, String.ofList (trim input.toList)⟩)
  | query {rest : List Char} {c : Cutting} {conditions : List Condition} :
      BehindWhere (trim input.toList) rest → c.IsOf (trim rest) →
      List.Forall₂ (fun text condition => Condition.parse (String.ofList text) = .ok condition)
        c.conditionTexts conditions →
      Reads input (.ok ⟨conditions⟩)
  | invalidCondition {rest : List Char} {c : Cutting} {before after : List (List Char)} {text : List Char} :
      BehindWhere (trim input.toList) rest → c.IsOf (trim rest) →
      c.conditionTexts = before ++ text :: after →
      (∀ earlier ∈ before, ∃ condition, Condition.parse (String.ofList earlier) = .ok condition) →
      (∀ condition, Condition.parse (String.ofList text) ≠ .ok condition) →
      Reads input (.error ⟨.invalidCondition, String.ofList text⟩)

/-! ## Reading computes it -/

theorem afterWhere?_eq_some_iff {text rest : List Char} : afterWhere? text = some rest ↔ BehindWhere text rest := by
  simp only [afterWhere?, sameIgnoringAsciiCase, beq_iff_eq]
  constructor
  · intro h
    split at h
    · rename_i hw
      cases h
      exact ⟨text.take 5, (List.take_append_drop 5 text).symm, by simpa using hw⟩
    · cases h
  · rintro ⟨start, rfl, hs⟩
    have hl : start.length = 5 := by simpa using congrArg List.length hs
    rw [← hl, List.take_left, List.drop_left, hs]
    rfl

theorem Cutting.conditionTexts_eq (c : Cutting) : c.conditionTexts = (c.pieces.map trim).filter (!·.isEmpty) := by
  rw [Cutting.conditionTexts, List.filter_map]
  rfl

theorem segments_eq {c : Cutting} {text : List Char} (h : c.IsOf text) : segments text = c.conditionTexts := by
  rw [segments, h.cut_eq, c.conditionTexts_eq]

theorem parse_of_allBlank {input : String} (h : AllBlank input.toList) :
    Query.parse input = .error ⟨.empty, input⟩ := by
  have ht := trim_eq_nil_iff.2 h
  simp [Query.parse, ht]

theorem parse_of_missingWhere {input : String} (h : ¬ AllBlank input.toList)
    (hw : ¬ ∃ rest, BehindWhere (trim input.toList) rest) :
    Query.parse input = .error ⟨.missingWhere, String.ofList (trim input.toList)⟩ := by
  have ha : afterWhere? (trim input.toList) = none := by
    cases hr : afterWhere? (trim input.toList) with
    | none => rfl
    | some rest => exact absurd ⟨rest, afterWhere?_eq_some_iff.1 hr⟩ hw
  have ht : trim input.toList ≠ [] := fun hn => h (trim_eq_nil_iff.1 hn)
  simp [Query.parse, ht, ha]

theorem parse_of_behindWhere {input : String} {rest : List Char} (h : BehindWhere (trim input.toList) rest) :
    Query.parse input =
      ((segments (trim rest)).mapM fun text => Condition.parse (String.ofList text)).map Query.mk := by
  have ha := afterWhere?_eq_some_iff.2 h
  have ht : trim input.toList ≠ [] := by
    intro hn
    rw [hn] at ha; cases ha
  rw [Query.parse]
  simp only [List.isEmpty_iff, ht, ite_false, ha]
  cases (segments (trim rest)).mapM fun text => Condition.parse (String.ofList text) <;> rfl

/-- Whatever a text is, it has a reading, and that is what `Query.parse` gives. -/
theorem reads_parse (input : String) : Reads input (Query.parse input) := by
  by_cases hb : AllBlank input.toList
  · rw [parse_of_allBlank hb]; exact .empty hb
  by_cases hw : ∃ rest, BehindWhere (trim input.toList) rest
  · obtain ⟨rest, hw⟩ := hw
    obtain ⟨c, hc, -⟩ := existsUnique_cutting (trim rest)
    rw [parse_of_behindWhere hw, segments_eq hc]
    cases hm : c.conditionTexts.mapM fun text => Condition.parse (String.ofList text) with
    | ok conditions => exact .query hw hc (mapM_eq_ok_iff.1 hm)
    | error e =>
      obtain ⟨before, text, after, ht, hbefore, he⟩ := exists_of_mapM_error hm
      -- whatever is no condition is a fault of one kind, with the text itself
      have hn : ∀ condition, Condition.parse (String.ofList text) ≠ .ok condition := by
        intro condition h; rw [h] at he; cases he
      rw [Condition.parse_eq_error hn] at he
      cases he
      exact .invalidCondition hw hc ht hbefore hn
  · rw [parse_of_missingWhere hb hw]; exact .missingWhere hb hw

theorem Reads.parse_eq {input : String} {result : Except Malformed Query} (h : Reads input result) :
    Query.parse input = result := by
  cases h with
  | empty hb => exact parse_of_allBlank hb
  | missingWhere hb hw => exact parse_of_missingWhere hb hw
  | query hw hc hall => rw [parse_of_behindWhere hw, segments_eq hc, mapM_eq_ok_iff.2 hall]; rfl
  | invalidCondition hw hc ht hbefore hn =>
    rw [parse_of_behindWhere hw, segments_eq hc, ht, mapM_append_error hbefore (Condition.parse_eq_error hn)]
    rfl

/-- Every text has exactly one cutting at the keyword `AND`, and every input text has exactly one
reading, which `Query.parse` gives. -/
theorem parse_eq_iff_reads :
    (∀ text : List Char, ∃! c : Cutting, c.IsOf text) ∧
      ∀ (input : String) (result : Except Malformed Query), Query.parse input = result ↔ Reads input result :=
  ⟨existsUnique_cutting, fun input _ => ⟨fun h => h ▸ reads_parse input, Reads.parse_eq⟩⟩

end WhereFilter.Query
