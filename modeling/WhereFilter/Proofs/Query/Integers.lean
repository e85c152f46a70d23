/-
Whole numbers. One that is stored and one that is written in a query are rounded in two ways, but each to a double that
has the key of the whole number (`StoresInteger.exists_number`, `WritesInteger.exists_read`). So no comparison goes the
wrong way, and as far as `2 ^ 53` each is exact (`integer_comparisons`).
-/
import WhereFilter.Proofs.Condition.Accepting
import WhereFilter.Proofs.Double.Order
import WhereFilter.Proofs.Json.NumberText
import WhereFilter.Proofs.Query.Single

namespace WhereFilter

open WhereFilter.Text

/-! ## Keys of whole numbers -/

/-- As far as `2 ^ 53` whole numbers are related as their keys are. -/
theorem Op.relates_wholeKey_iff {i j : Int} (hi : i.natAbs ≤ twoTo 53) (hj : j.natAbs ≤ twoTo 53) (op : Op) :
    op.Relates (Double.wholeKey i) (Double.wholeKey j) ↔ op.Relates i j := by
  cases op with
  | eq => exact ⟨Double.wholeKey_injective hi hj, congrArg Double.wholeKey⟩
  | lt => exact Double.wholeKey_lt_iff hi hj
  | gt => exact Double.wholeKey_lt_iff hj hi

/-! ## Stored numbers -/

/-- The text stores the whole number: it is made of its digits, or it is zero with a minus sign. -/
def Json.StoresInteger (text : List Char) (a : Int) : Prop := text = intText a ∨ a = 0 ∧ text = ['-', '0']

theorem Json.StoresInteger.exists_number {text : List Char} {a : Int} (h : StoresInteger text a)
    (ha : leastInteger ≤ a ∧ a ≤ greatestInteger) :
    ∃ n : Number, scalar text = .ok (.number n, []) ∧ n.toDouble.key? = some (Double.wholeKey a) := by
  rcases h with rfl | ⟨rfl, rfl⟩
  · have hread := scalar_integer ha EndsNumber.nil
    rw [List.append_nil] at hread
    exact ⟨.integer a ha, hread, Double.key?_ofInt a⟩
  · -- there is no integer for it, but a double
    exact ⟨.float (.signed true .zero) (by decide), rfl, by rw [← Double.key?_ofInt]; decide +kernel⟩

/-! ## Written numbers -/

/-- The text writes the whole number in decimal: digits with whatever zeros in front, behind a sign or none. -/
inductive WritesInteger : List Char → Int → Prop
  | unsigned {digits : List Char} (h0 : digits ≠ []) (hd : ∀ c ∈ digits, c.isDigit = true) :
    WritesInteger digits (digitsValue digits)
  | plus {digits : List Char} (h0 : digits ≠ []) (hd : ∀ c ∈ digits, c.isDigit = true) :
    WritesInteger ('+' :: digits) (digitsValue digits)
  | minus {digits : List Char} (h0 : digits ≠ []) (hd : ∀ c ∈ digits, c.isDigit = true) :
    WritesInteger ('-' :: digits) (-digitsValue digits)

/-- Digits behind a sign or none are the double nearest to the whole number. -/
theorem Double.read?_digits {text digits : List Char} {negative : Bool} (hsign : spanSign text = (negative, digits))
    (h0 : digits ≠ []) (hd : ∀ c ∈ digits, c.isDigit = true) :
    read? text = some (signed negative (.ofNat (digitsValue digits))) := by
  simp only [read?, hsign, readUnsigned?, Decimal.read?_whole hd h0, Magnitude.ofDecimal_whole]
  cases negative <;> rfl

theorem WritesInteger.exists_read {text : List Char} {b : Int} (h : WritesInteger text b) :
    ∃ d, Double.read? text = some d ∧ d.key? = some (Double.wholeKey b) := by
  cases h with
  | unsigned h0 hd =>
    obtain ⟨c, digits, rfl⟩ := List.exists_cons_of_ne_nil h0
    have hsign := Double.spanSign_of_isDigit (hd c (List.mem_cons_self ..)) digits
    exact ⟨_, Double.read?_digits hsign h0 hd, Double.key?_signed_ofNat false _⟩
  | plus h0 hd => exact ⟨_, Double.read?_digits rfl h0 hd, Double.key?_signed_ofNat false _⟩
  | minus h0 hd => exact ⟨_, Double.read?_digits rfl h0 hd, Double.key?_signed_ofNat true _⟩

/-! ## Comparisons -/

/-- A number in a record satisfies the comparison with another as their keys are related. -/
theorem Query.holdsOf_iff_relates {r : Record} {field : String} {n : Json.Number} {d : Double} {i j : Int}
    (hr : r.get? field = some (.number n)) (hn : n.toDouble.key? = some i) (hd : d.key? = some j) (op : Op) :
    Query.holdsOf ⟨[⟨field, op, .number d⟩]⟩ r = true ↔ op.Relates i j := by
  rw [holdsOf_compare hr, Double.holds_compare?_iff]
  simp only [hn, hd, Option.some.injEq]
  constructor
  · rintro ⟨_, _, rfl, rfl, h⟩; exact h
  · intro h; exact ⟨i, j, rfl, rfl, h⟩

/-- A whole number of 64 bits is stored by its digits, and a field that has it is compared with a whole number of any
size by its digits. Then less is less, greater is greater, and the same numbers are equal; as far as `2 ^ 53` every
comparison says what is so. -/
theorem integer_comparisons {field s t : String} {a b : Int} (h0 : field.toList ≠ [])
    (hword : ∀ c ∈ field.toList, isWord c = true) (hand : field.toList.map Char.toLower ≠ ['a', 'n', 'd'])
    (ha : Json.leastInteger ≤ a ∧ a ≤ Json.greatestInteger) (hs : Json.StoresInteger s.toList a)
    (ht : WritesInteger t.toList b) :
    ∃ (n : Json.Number) (q : Op → Query),
      Source.parse ("[\x7b\"" ++ field ++ "\": " ++ s ++ "\x7d]") = .ok [⟨[(field, .number n)]⟩] ∧
      (∀ op, Query.parse ("WHERE " ++ field ++ " " ++ op.text ++ " " ++ t) = .ok (q op)) ∧
      ∀ r : Record, r.get? field = some (.number n) →
        ((q .lt).holdsOf r = true → a < b) ∧ ((q .gt).holdsOf r = true → a > b) ∧ (a = b → (q .eq).holdsOf r = true) ∧
        (a.natAbs ≤ twoTo 53 → b.natAbs ≤ twoTo 53 → ∀ op, (q op).holdsOf r = true ↔ op.Relates a b) := by
  obtain ⟨n, hstored, hn⟩ := hs.exists_number ha
  obtain ⟨d, hread, hd⟩ := ht.exists_read
  have hobject : "[\x7b\"" ++ field ++ "\": " ++ s ++ "\x7d]" = String.ofList ('[' :: '\x7b' :: '"' ::
      (field.toList ++ '"' :: ':' :: ' ' :: (s.toList ++ ['\x7d', ']']))) := by
    rw [← String.toList_inj]
    simp
  have hwritten (op : Op) : "WHERE " ++ field ++ " " ++ op.text ++ " " ++ t =
      "WHERE " ++ String.ofList (Condition.written field.toList op t.toList) := by
    rw [← String.toList_inj]
    simp [Condition.written, Op.text]
  refine ⟨n, fun op => ⟨[⟨field, op, .number d⟩]⟩, ?_, fun op => ?_, fun r hr => ?_⟩
  · rw [hobject]
    exact Source.parse_object hstored hword
  · rw [hwritten, Query.parse_written op h0 hword hand hread, String.ofList_toList]
  · have hholds := Query.holdsOf_iff_relates hr hn hd
    refine ⟨fun h => Double.lt_of_wholeKey_lt ((hholds .lt).1 h), fun h => Double.lt_of_wholeKey_lt ((hholds .gt).1 h),
      fun hab => ?_, fun ha' hb' op => (hholds op).trans (Op.relates_wholeKey_iff ha' hb' op)⟩
    exact (hholds .eq).2 (congrArg Double.wholeKey hab)

/-- The least number of 64 bits is found by its digits with zeros in front, and zero with a minus sign is less than
`2 ^ 53`. -/
theorem integer_comparisons_of_limits :
    (∃ (n : Json.Number) (q : Query), Source.parse ("[\x7b\"" ++ "id" ++ "\": " ++ "-9223372036854775808" ++ "\x7d]") =
        .ok [⟨[("id", .number n)]⟩] ∧
      Query.parse ("WHERE " ++ "id" ++ " " ++ Op.text .eq ++ " " ++ "-009223372036854775808") = .ok q ∧
      q.holdsOf (⟨[("id", .number n)]⟩ : Record) = true) ∧
    ∃ (n : Json.Number) (q : Query), Source.parse ("[\x7b\"" ++ "id" ++ "\": " ++ "-0" ++ "\x7d]") =
        .ok [⟨[("id", .number n)]⟩] ∧
      Query.parse ("WHERE " ++ "id" ++ " " ++ Op.text .lt ++ " " ++ "+9007199254740992") = .ok q ∧
      q.holdsOf (⟨[("id", .number n)]⟩ : Record) = true := by
  have hword : ∀ c ∈ "id".toList, isWord c = true := List.all_iff_forall_prop.1 (by decide)
  have hfield (n : Json.Number) : (⟨[("id", .number n)]⟩ : Record).get? "id" = some (.number n) := rfl
  constructor
  · have ht : WritesInteger "-009223372036854775808".toList (-9223372036854775808) :=
      @WritesInteger.minus "009223372036854775808".toList (by decide) (List.all_iff_forall_prop.1 (by decide))
    obtain ⟨n, q, hparse, hquery, hall⟩ := integer_comparisons (s := "-9223372036854775808")
      (a := -9223372036854775808) (by decide) hword (by decide) (by decide) (.inl (by decide +kernel)) ht
    exact ⟨n, q .eq, hparse, hquery .eq, (hall _ (hfield n)).2.2.1 rfl⟩
  · have ht : WritesInteger "+9007199254740992".toList 9007199254740992 :=
      @WritesInteger.plus "9007199254740992".toList (by decide) (List.all_iff_forall_prop.1 (by decide))
    obtain ⟨n, q, hparse, hquery, hall⟩ := integer_comparisons (s := "-0") (a := 0) (by decide) hword (by decide)
      (by decide) (.inr ⟨rfl, by decide⟩) ht
    exact ⟨n, q .lt, hparse, hquery .lt, ((hall _ (hfield n)).2.2.2 (by decide) (by decide) .lt).2 (by decide)⟩

end WhereFilter
