/-
Stored values are found by their own texts: put between quotes, the text of a value makes a condition
that the value satisfies, whatever its kind (`accepts_quoted`); so the query with that condition finds
the record, as long as the keyword `AND` does not stand in the text (`parse_quoted_holdsOf`).
-/
import WhereFilter.Proofs.Condition.Spelling
import WhereFilter.Proofs.Query.Canonical

namespace WhereFilter

open WhereFilter.Text WhereFilter.Query

/-! ## Numbers -/

theorem Json.Number.toDouble_ne_nan (n : Json.Number) : n.toDouble ≠ .nan := by
  cases n with
  | integer i _ => exact Double.noConfusion
  | float d finite => intro h; rw [show d = .nan from h] at finite; cases finite

namespace Condition

/-- The quoted text of a number reads as that number. -/
theorem acceptsNumber_text {d : Double} (h : d ≠ .nan) : acceptsNumber .eq (.text (String.ofList d.text)) d = true := by
  have hd : (Literal.text (String.ofList d.text)).toDouble? = some d :=
    Literal.toDouble?_text_of_read? (by rw [String.toList_ofList, d.read?_text])
  have hcompare : d.compare? d = some .eq := by simpa [Double.sameNumber] using Double.sameNumber_self h
  simp only [acceptsNumber, hd, hcompare, Op.holds]

theorem acceptsText_self (s : String) : acceptsText .eq (.text s) s = true := by
  simp [acceptsText, Literal.toText, sameIgnoringCase]

/-- A value other than null equals its own text. -/
theorem accepts_quoted {v : Json} {s : String} (name : String) (hs : (FieldValue.ofJson v).toText? = some s) :
    Condition.accepts ⟨name, .eq, .text s⟩ (.ofJson v) = true := by
  cases v with
  | null => cases hs
  | number n => cases hs; exact acceptsNumber_text n.toDouble_ne_nan
  | string t => cases hs; exact acceptsText_self _
  | bool b => cases hs; exact acceptsText_self _
  | array items => cases hs; exact acceptsText_self _
  | object members => cases hs; exact acceptsText_self _

end Condition

theorem FieldValue.exists_text {v : Json} (h : v ≠ .null) : ∃ s, (FieldValue.ofJson v).toText? = some s := by
  cases v with
  | null => exact absurd rfl h
  | _ => exact ⟨_, rfl⟩

namespace Query

theorem print_quoted (name s : String) :
    print ⟨[⟨name, .eq, .text s⟩]⟩ = "WHERE " ++ name ++ " = '" ++ s ++ "'" := by
  simp [print, Condition.print, Literal.print, Op.text, Op.symbol, ← String.toList_inj]

/-- Every value of a record other than null has a text. If the field is a word other than the keyword
`AND` and the text does not have the keyword in it, the query that compares the field with the text
between quotes reads as just that condition, and it finds the record. -/
theorem parse_quoted_holdsOf {r : Record} {name : String} {v : Json} (h0 : name.toList ≠ [])
    (hword : ∀ c ∈ name.toList, isWord c = true) (hand : name.toList.map Char.toLower ≠ ['a', 'n', 'd'])
    (hv : r.get? name = some v) (hnull : v ≠ .null) :
    ∃ s, (FieldValue.ofJson v).toText? = some s ∧
      (¬ HoldsAnd s.toList → ∃ q, Query.parse ("WHERE " ++ name ++ " = '" ++ s ++ "'") = .ok q ∧
        q.conditions = [⟨name, .eq, .text s⟩] ∧ q.holdsOf r = true) := by
  obtain ⟨s, hs⟩ := FieldValue.exists_text hnull
  refine ⟨s, hs, fun hs' => ⟨⟨[⟨name, .eq, .text s⟩]⟩, ?_, rfl, ?_⟩⟩
  · have hwritable : Writable ⟨[⟨name, .eq, .text s⟩]⟩ := by
      refine List.forall_mem_singleton.2 ⟨h0, hword, hand, fun t ht => ?_⟩
      cases ht; exact hs'
    rw [← print_quoted]
    exact hwritable.reads_print.parse_eq
  · have hfield : field? r name = some (.ofJson v) := by
      show (r.get? name).map FieldValue.ofJson = _
      rw [hv]; rfl
    simp [holdsOf, Condition.holdsOf, hfield, Condition.accepts_quoted name hs]

/-- A list with quotes, an operator and an escaped line break in its text. -/
theorem parse_quoted_list_holdsOf :
    let r : Record := ⟨[("n", .null), ("tags_1", .array [.string "it's = '\n", .number (.integer (-3) (by decide))])]⟩
    "tags_1".toList.map Char.toLower ≠ ['a', 'n', 'd'] ∧
      ∃ q, Query.parse "WHERE tags_1 = '[\"it's = '\\n\",-3]'" = .ok q ∧ q.holdsOf r = true := by
  intro r
  have hand : "tags_1".toList.map Char.toLower ≠ ['a', 'n', 'd'] := by decide
  have htags : r.get? "tags_1" = some (.array [.string "it's = '\n", .number (.integer (-3) (by decide))]) := rfl
  obtain ⟨s, hs, h⟩ := parse_quoted_holdsOf (by decide) (List.all_iff_forall_prop.1 (by decide)) hand htags (by simp)
  obtain rfl : "[\"it's = '\\n\",-3]" = s := by
    rw [← Option.some.injEq, ← hs]; decide +kernel
  obtain ⟨q, hq, -, hr⟩ := h (not_holdsAnd_of_no_d (List.all_iff_forall_prop.1 (by decide)))
  exact ⟨hand, q, hq, hr⟩

end Query

end WhereFilter
