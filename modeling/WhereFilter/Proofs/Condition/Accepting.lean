/-
What conditions accept. A number is accepted where the operator relates it to the number of the literal, any other
value but null where its text is that of the literal (`accepts_iff`); so two literals with one number and one text
accept the same values (`accepts_congr`).
-/
import WhereFilter.Condition.Basic
import Mathlib.Data.Int.Order.Basic

namespace WhereFilter

open WhereFilter.Text

/-! ## Operators -/

/-- The relation of whole numbers that an operator stands for. -/
def Op.Relates : Op → Int → Int → Prop
  | eq, i, j => i = j
  | lt, i, j => i < j
  | gt, i, j => i > j

instance (op : Op) (i j : Int) : Decidable (op.Relates i j) :=
  match op with
  | .eq => inferInstanceAs (Decidable (i = j))
  | .lt => inferInstanceAs (Decidable (i < j))
  | .gt => inferInstanceAs (Decidable (i > j))

/-- No two operators relate the same numbers. -/
theorem Op.Relates.unique {op op' : Op} {i j : Int} (h : op.Relates i j) (h' : op'.Relates i j) : op = op' := by
  cases op <;> cases op' <;> simp only [Relates] at h h' <;> first | rfl | omega

theorem Op.exists_relates (i j : Int) : ∃ op : Op, op.Relates i j := by
  rcases lt_trichotomy i j with h | h | h
  exacts [⟨lt, h⟩, ⟨eq, h⟩, ⟨gt, h⟩]

theorem Op.holds_compare {op : Op} {i j : Int} : op.holds (some (compare i j)) = true ↔ op.Relates i j := by
  rcases lt_trichotomy i j with h | h | h
  · rw [compare_lt_iff_lt.2 h]
    cases op <;> simp [holds, Relates] <;> omega
  · rw [compare_eq_iff_eq.2 h]
    cases op <;> simp [holds, Relates] <;> omega
  · rw [compare_gt_iff_gt.2 h]
    cases op <;> simp [holds, Relates] <;> omega

namespace Double

theorem key?_eq_none_iff {d : Double} : d.key? = none ↔ d = .nan := by
  rcases d with _ | ⟨_ | _, m⟩ <;> simp [key?]

/-- Doubles are related as their keys are; what is no number has none and is related to nothing. -/
theorem holds_compare?_iff {op : Op} {d e : Double} :
    op.holds (d.compare? e) = true ↔ ∃ i j, d.key? = some i ∧ e.key? = some j ∧ op.Relates i j := by
  unfold compare?
  cases hd : d.key? with
  | none => cases op <;> simp [Op.holds]
  | some i =>
    cases he : e.key? with
    | none => cases op <;> simp [Op.holds]
    | some j => simp [Op.holds_compare]

end Double

/-! ## Values -/

/-- The value is compared as a text, and this is the text: of whatever is neither number, string nor null the compact
JSON. -/
inductive FieldValue.ComparedAs : FieldValue → String → Prop
  | text (s : String) : ComparedAs (.text s) s
  | other (json : Json) : ComparedAs (.other json) json.compactText

namespace Condition

theorem acceptsNumber_iff {op : Op} {l : Literal} {n : Double} :
    acceptsNumber op l n = true ↔ ∃ d, l.toDouble? = some d ∧ op.holds (n.compare? d) = true := by
  unfold acceptsNumber
  cases l.toDouble? <;> simp

theorem acceptsText_iff {op : Op} {l : Literal} {s : String} :
    acceptsText op l s = true ↔ op = .eq ∧ sameIgnoringCase (trim s.toList) (trim l.toText.toList) = true := by
  unfold acceptsText
  cases op <;> simp

/-- Numbers are accepted as they compare with the number of the literal, texts if they are the text of the literal. -/
theorem accepts_iff {c : Condition} {v : FieldValue} :
    c.accepts v = true ↔
      (∃ n d, v = .number n ∧ c.literal.toDouble? = some d ∧ c.op.holds (n.compare? d) = true) ∨
      (c.op = .eq ∧ ∃ s, v.ComparedAs s ∧ sameIgnoringCase (trim s.toList) (trim c.literal.toText.toList) = true) := by
  constructor
  · intro h
    cases v with
    | null => cases h
    | number n =>
      obtain ⟨d, hd, hop⟩ := acceptsNumber_iff.1 h
      exact .inl ⟨n, d, rfl, hd, hop⟩
    | text s =>
      obtain ⟨hop, hs⟩ := acceptsText_iff.1 h
      exact .inr ⟨hop, s, .text s, hs⟩
    | other json =>
      obtain ⟨hop, hs⟩ := acceptsText_iff.1 h
      exact .inr ⟨hop, _, .other json, hs⟩
  · rintro (⟨n, d, rfl, h⟩ | ⟨hop, s, hs, h⟩)
    · exact acceptsNumber_iff.2 ⟨d, h⟩
    · cases hs with
      | text => exact acceptsText_iff.2 ⟨hop, h⟩
      | other => exact acceptsText_iff.2 ⟨hop, h⟩

/-- Literals with the same number, and the same text but for case and outer blanks, accept the same values. -/
theorem accepts_congr {l l' : Literal} (hnumber : l.toDouble? = l'.toDouble?)
    (htext : sameIgnoringCase (trim l.toText.toList) (trim l'.toText.toList) = true) (name : String) (op : Op)
    (v : FieldValue) : accepts ⟨name, op, l⟩ v = accepts ⟨name, op, l'⟩ v := by
  rw [sameIgnoringCase, beq_iff_eq] at htext
  rw [Bool.eq_iff_iff, accepts_iff, accepts_iff]
  simp only [sameIgnoringCase, hnumber, htext]

end Condition

end WhereFilter
