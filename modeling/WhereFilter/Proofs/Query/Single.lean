/-
One field. A query that compares it with a bare number reads as that one condition (`Query.parse_written`), and holds
of a record with a number as the two compare (`Query.holdsOf_compare`). An object that has the field alone, with a
number for its value, reads as one record (`Source.parse_object`).
-/
import WhereFilter.Proofs.Condition.Spelling
import WhereFilter.Proofs.Json.Number
import WhereFilter.Proofs.Query.Canonical
import WhereFilter.Proofs.Source.Reload

namespace WhereFilter

open WhereFilter.Text WhereFilter.Json

/-! ## Bare literals -/

/-- A number may stand bare behind the operator, if the field is a word other than the keyword `AND`. -/
theorem Query.parse_written {field raw : List Char} {d : Double} (op : Op) (h0 : field ≠ [])
    (hword : ∀ c ∈ field, isWord c = true) (hand : field.map Char.toLower ≠ ['a', 'n', 'd'])
    (h : Double.read? raw = some d) :
    Query.parse ("WHERE " ++ String.ofList (Condition.written field op raw)) =
      .ok ⟨[⟨String.ofList field, op, .number d⟩]⟩ := by
  have ht : Trimmed raw := Double.trimmed_of_read? h
  have hraw : raw ≠ [] := by rintro rfl; cases h
  have hliteral : ¬ HoldsAnd raw := not_holdsAnd_of_no_d fun c hc => (Double.plain_of_read? h c hc).2.1
  have hparse : Condition.parse (String.ofList (Condition.written field op raw)) =
      .ok ⟨String.ofList field, op, .number d⟩ := by
    rw [Condition.parse_written op h0 hword ht hraw, Literal.parse_of_read? (by rwa [String.toList_ofList])]
  exact (reads_separated (by simp)
    (List.forall_mem_singleton.2 (Condition.trimmed_written op h0 hword ht hraw))
    (List.forall_mem_singleton.2 (List.append_ne_nil_of_left_ne_nil h0 _))
    (List.forall_mem_singleton.2 (Condition.not_holdsAnd_written op hword hand hliteral)) (.cons hparse .nil)).parse_eq

/-- A number in a record satisfies the comparison with another if the operator holds of how the two compare. -/
theorem Query.holdsOf_compare {r : Record} {field : String} {n : Number} (hr : r.get? field = some (.number n))
    (op : Op) (d : Double) : Query.holdsOf ⟨[⟨field, op, .number d⟩]⟩ r = op.holds (n.toDouble.compare? d) := by
  have hfield : field? r field = some (.number n.toDouble) := by
    show (r.get? field).map FieldValue.ofJson = _
    rw [hr]
    rfl
  rw [holdsOf, List.all_cons, List.all_nil, Bool.and_true, Condition.holdsOf, hfield]
  rfl

/-! ## Objects with one number -/

/-- Nothing is escaped in a word. -/
theorem escapedChar_of_isWord {c : Char} (hc : isWord c = true) : escapedChar c = [c] := by
  unfold escapedChar
  split
  case h_8 =>
    have hcontrol : ∀ n < 0x20, isWord (Char.ofNat n) = false := by decide +kernel
    rw [if_neg]
    intro hlt
    have := hcontrol c.toNat hlt
    rw [Char.ofNat_toNat, hc] at this
    cases this
  all_goals exact absurd hc (by decide)

theorem flatMap_escapedChar {name : List Char} (hword : ∀ c ∈ name, isWord c = true) :
    name.flatMap escapedChar = name := by
  induction name with
  | nil => rfl
  | cons c name ih =>
    obtain ⟨hc, hname⟩ := List.forall_mem_cons.1 hword
    rw [List.flatMap_cons, escapedChar_of_isWord hc, ih hname]
    rfl

section Object

variable {text : List Char} {n : Number} (h : scalar text = .ok (.number n, []))

include h

theorem membersOf_number {width nesting : Nat} (name : String) (rest : List Char) :
    membersOf (width + 1) (nesting + 1) ('\x7b' :: '"' :: memberBody name (text ++ '\x7d' :: rest)) =
      .ok ([(name, .number n)], rest) := by
  have hvalue : value (width + 1) nesting (' ' :: (text ++ '\x7d' :: rest)) = .ok (.number n, '\x7d' :: rest) :=
    (value_gap (by decide) _).trans (value_of_scalar (scalar_append h (endsNumber_cons (.inr (.inr (.inr rfl))) rest)))
  have hmembers : membersFrom (value (width + 1) nesting) (width + 1) (memberBody name (text ++ '\x7d' :: rest)) [] =
      .ok ([(name, .number n)], rest) :=
    membersFrom_last hvalue List.not_mem_nil (skipGap_cons (by decide) rest)
  unfold membersOf tableOf
  simp only [skipGap_cons (show isGap '\x7b' = false by decide), tableBody,
    skipGap_cons (show isGap '"' = false by decide)]
  exact hmembers

theorem listOf_number {width nesting : Nat} (name : String) :
    listOf (membersOf (width + 1)) (width + 1) (nesting + 2)
      ('[' :: '\x7b' :: '"' :: memberBody name (text ++ ['\x7d', ']'])) = .ok ([[(name, .number n)]], []) := by
  have hitems : itemsFrom (membersOf (width + 1) (nesting + 1)) (width + 1)
      ('\x7b' :: '"' :: memberBody name (text ++ ['\x7d', ']'])) [] = .ok ([[(name, .number n)]], []) := by
    rw [itemsFrom, membersOf_number h name [']']]
    rfl
  unfold listOf
  simp only [skipGap_cons (show isGap '[' = false by decide), arrayBody,
    skipGap_cons (show isGap '\x7b' = false by decide)]
  exact hitems

/-- A record whose only field is a number is read from the text of the number. -/
theorem Source.parse_object {name : String} (hword : ∀ c ∈ name.toList, isWord c = true) :
    Source.parse (String.ofList
        ('[' :: '\x7b' :: '"' :: (name.toList ++ '"' :: ':' :: ' ' :: (text ++ ['\x7d', ']'])))) =
      .ok [⟨[(name, .number n)]⟩] := by
  have hbody : name.toList ++ '"' :: ':' :: ' ' :: (text ++ ['\x7d', ']']) =
      memberBody name (text ++ ['\x7d', ']']) := by
    rw [memberBody, flatMap_escapedChar hword]
  rw [hbody]
  exact parse_of_listOf (listOf_number h name)

end Object

end WhereFilter
