/-
Spellings of literals. Conditions ask a literal for its number and its text only, so literals are alike on all values
if these are (`alikeOn_of`). Between quotes a literal keeps its number, and its text unless it was written otherwise
than the number is printed (`parse_alikeOn_quoted`). Case and outer blanks make no difference, in literals as well as in
values (`accepts_respelled`).
-/
import WhereFilter.Proofs.Condition.Accepting
import WhereFilter.Proofs.Condition.Writable
import WhereFilter.Proofs.Double.Spelling

namespace WhereFilter

open WhereFilter.Text

namespace Literal

/-! ## Literals that are alike -/

/-- Conditions with one literal and with the other give the same answer on the value, whatever the operator. -/
def AlikeOn (l l' : Literal) (v : FieldValue) : Prop :=
  ∀ name op, Condition.accepts ⟨name, op, l⟩ v = Condition.accepts ⟨name, op, l'⟩ v

variable {l l' : Literal}

theorem alikeOn_null : l.AlikeOn l' .null := fun _ _ => rfl

theorem alikeOn_number (h : l.toDouble? = l'.toDouble?) (n : Double) : l.AlikeOn l' (.number n) := by
  intro name op
  simp only [Condition.accepts, Condition.acceptsNumber, h]

theorem alikeOn_of (hnumber : l.toDouble? = l'.toDouble?)
    (htext : sameIgnoringCase (trim l.toText.toList) (trim l'.toText.toList) = true) (v : FieldValue) :
    l.AlikeOn l' v :=
  fun name op => Condition.accepts_congr hnumber htext name op v

/-- A literal is told from another by its own text as a value. -/
theorem sameText_of_alikeOn (h : ∀ s, l.AlikeOn l' (.text s)) :
    sameIgnoringCase (trim l.toText.toList) (trim l'.toText.toList) = true := by
  have hown : Condition.acceptsText .eq l l.toText = true := Condition.acceptsText_iff.2 ⟨rfl, beq_self_eq_true _⟩
  have hother : Condition.acceptsText .eq l' l.toText = true := (h l.toText "" .eq).symm.trans hown
  exact (Condition.acceptsText_iff.1 hother).2

/-! ## Quotes -/

section Quotes

variable {t : String}

theorem parse_quoted (t : String) : parse ("'" ++ t ++ "'") = .text t := parse_print (.text t)

/-- A text that reads as a number has no quotes around it. -/
theorem parse_of_read? {d : Double} (h : Double.read? t.toList = some d) : parse t = .number d := by
  have hquote : '\'' ∉ t.toList := fun hm => (Double.plain_of_read? h _ hm).2.2 rfl
  rw [parse, unquote?_eq_none hquote, h]

theorem parse_of_not_quoted (h : ¬ ∃ inner, t.toList = '\'' :: (inner ++ ['\'']))
    (hread : Double.read? t.toList = none) : parse t = .text t := by
  have hquote : unquote? t.toList = none :=
    Option.eq_none_iff_forall_ne_some.2 fun inner hinner => h ⟨inner, unquote?_eq_some_iff.1 hinner⟩
  rw [parse, hquote, hread]

/-- A text that is read as a number is the same number between quotes. -/
theorem toDouble?_text_of_read? {d : Double} (hd : Double.read? t.toList = some d) :
    (Literal.text t).toDouble? = some d := by
  rw [toDouble?, trim_of_trimmed (Double.trimmed_of_read? hd), hd]

theorem trim_text_number (d : Double) : trim (Literal.number d).toText.toList = d.text := by
  rw [toText, String.toList_ofList, trim_of_trimmed d.trimmed_text]

/-- A text that stands in no quotes is as good with them, unless it is read as a number and written otherwise than this
number is printed; then it still compares with all numbers as before, but no longer with all texts. -/
theorem parse_alikeOn_quoted (h : ¬ ∃ inner, t.toList = '\'' :: (inner ++ ['\''])) :
    (∀ n, (parse t).AlikeOn (parse ("'" ++ t ++ "'")) (.number n)) ∧
      (parse t).AlikeOn (parse ("'" ++ t ++ "'")) .null ∧
      (Double.read? t.toList = none → ∀ v, (parse t).AlikeOn (parse ("'" ++ t ++ "'")) v) ∧
      ∀ d, Double.read? t.toList = some d →
        (((∀ s, (parse t).AlikeOn (parse ("'" ++ t ++ "'")) (.text s)) ∧
          ∀ json, (parse t).AlikeOn (parse ("'" ++ t ++ "'")) (.other json)) ↔
            sameIgnoringCase d.text t.toList = true) := by
  rw [parse_quoted]
  cases hread : Double.read? t.toList with
  | none =>
    rw [parse_of_not_quoted h hread]
    exact ⟨fun _ _ _ => rfl, fun _ _ => rfl, fun _ _ _ _ => rfl, nofun⟩
  | some d =>
    rw [parse_of_read? hread]
    have hnumber : (Literal.number d).toDouble? = (Literal.text t).toDouble? := (toDouble?_text_of_read? hread).symm
    have htrim : trim (Literal.text t).toText.toList = t.toList := trim_of_trimmed (Double.trimmed_of_read? hread)
    refine ⟨alikeOn_number hnumber, alikeOn_null, nofun, fun d' hd' => ?_⟩
    cases hd'
    rw [← trim_text_number d, ← htrim]
    constructor
    · exact fun halike => sameText_of_alikeOn halike.1
    · intro hsame
      exact ⟨fun s => alikeOn_of hnumber hsame (.text s), fun json => alikeOn_of hnumber hsame (.other json)⟩

/-- Quotes around `5` make no difference, and around `1e3` they make one. -/
theorem parse_alikeOn_quoted_of_digits :
    (∀ v, (parse "5").AlikeOn (parse ("'" ++ "5" ++ "'")) v) ∧
      ¬ ∀ v, (parse "1e3").AlikeOn (parse ("'" ++ "1e3" ++ "'")) v := by
  constructor
  · obtain ⟨hnumber, hnull, -, hread⟩ := parse_alikeOn_quoted (t := "5") (by simp)
    obtain ⟨htext, hother⟩ := (hread (.signed false (.ofDecimal ⟨5, 0⟩)) (by decide +kernel)).2 (by decide +kernel)
    intro v
    cases v with
    | number n => exact hnumber n
    | text s => exact htext s
    | null => exact hnull
    | other json => exact hother json
  · obtain ⟨-, -, -, hread⟩ := parse_alikeOn_quoted (t := "1e3") (by simp)
    intro hall
    have hsame := (hread (.signed false (.ofDecimal ⟨1, 3⟩)) (by decide +kernel)).1
      ⟨fun s => hall (.text s), fun json => hall (.other json)⟩
    exact absurd hsame (by decide +kernel)

end Quotes

end Literal

/-! ## Case and outer blanks -/

namespace Condition

theorem toDouble?_respelled {s t : String} (h : Respelled s.toList t.toList) :
    (Literal.text s).toDouble? = (Literal.text t).toDouble? :=
  Double.read?_eq_of_map_toLower h.trim_eq

/-- Whether a text is compared or compared with, its case and outer blanks make no difference. -/
theorem accepts_respelled {s t : String} (h : Respelled s.toList t.toList) :
    (∀ v, (Literal.text s).AlikeOn (.text t) v) ∧ ∀ c : Condition, c.accepts (.text s) = c.accepts (.text t) := by
  refine ⟨Literal.alikeOn_of (toDouble?_respelled h) h.sameIgnoringCase_trim, fun c => ?_⟩
  have hsame := h.sameIgnoringCase_trim
  rw [sameIgnoringCase, beq_iff_eq] at hsame
  simp only [accepts, acceptsText, sameIgnoringCase, hsame]

/-- A number with an exponent and a word, in other cases and with blanks before and behind. -/
theorem accepts_respelled_of_exponent :
    Respelled "1e3".toList "\t1E3 ".toList ∧ Respelled "İstanbul".toList "\u3000İSTANBUL".toList ∧
      accepts ⟨"f", .lt, .text "\t1E3 "⟩ (.number (.ofInt 999)) = true ∧
      accepts ⟨"f", .eq, .text "İstanbul"⟩ (.text "\u3000İSTANBUL") = true := by
  have hexponent : Respelled "1e3".toList "\t1E3 ".toList := respelled_iff.2 (by decide +kernel)
  have hword : Respelled "İstanbul".toList "\u3000İSTANBUL".toList := respelled_iff.2 (by decide +kernel)
  have hless : accepts ⟨"f", .lt, .text "1e3"⟩ (.number (.ofInt 999)) = true := by decide +kernel
  have hsame : accepts ⟨"f", .eq, .text "İstanbul"⟩ (.text "İstanbul") = true := by decide +kernel
  exact ⟨hexponent, hword, ((accepts_respelled hexponent).1 _ "f" .lt).symm.trans hless,
    ((accepts_respelled hword).2 _).symm.trans hsame⟩

end Condition

end WhereFilter
