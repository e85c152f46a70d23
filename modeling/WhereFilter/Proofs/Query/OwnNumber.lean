/-
Numbers and their own digits. The digits of a number in a record, written as a literal, are read with a
rounding of their own: the literal is the nearest double, the number in the record a significand that was
scaled. The query finds the record exactly if the two are equal (`filter_own_number`). They are wherever
scaling loses nothing, and never more than six doubles apart, unless the literal stops in the middle of a
long exponent (`not_filter_own_number_of_long_exponent`).
-/
import WhereFilter.Proofs.Double.Order
import WhereFilter.Proofs.Query.Single
import WhereFilter.Query.Selection

namespace WhereFilter

open WhereFilter.Text WhereFilter.Json

/-! ## Bare literals -/

namespace Query

/-- The text of a condition that compares the field `x` with a bare literal. -/
def equalsText (raw : List Char) : List Char := ['x'] ++ ([' '] ++ '=' :: ([' '] ++ raw))

/-- A number is read from its bare text. -/
theorem parse_numeral {text : String} {negative : Bool} {t : Numeral} (htext : text.toList = minus negative ++ t.text) :
    Query.parse ("WHERE x = " ++ text) = .ok ⟨[⟨"x", .eq, .number (.signed negative (.ofDecimal t.taken))⟩]⟩ := by
  have hinput : "WHERE x = " ++ text = "WHERE " ++ String.ofList (equalsText (minus negative ++ t.text)) := by
    rw [← String.toList_inj, ← htext]
    simp [equalsText]
  have hword : ∀ c ∈ ['x'], isWord c = true := List.forall_mem_singleton.2 (by decide)
  rw [hinput]
  exact parse_written .eq (List.cons_ne_nil _ _) hword (by decide) (Double.read?_numeral negative t)

theorem sameNumber_signed_iff {negative : Bool} {m m' : Magnitude} :
    (Double.signed negative m).sameNumber (.signed negative m') = true ↔ m = m' := by
  have hrank : m.rank = m'.rank ↔ m = m' := by cases m; cases m'; simp
  cases negative <;> simp [Double.sameNumber, Double.compare?, Double.key?, hrank]

/-- A number satisfies the comparison for equality with another exactly if they are the same number. -/
theorem holdsOf_number (n : Number) (d : Double) :
    Query.holdsOf ⟨[⟨"x", .eq, .number d⟩]⟩ (⟨[("x", .number n)]⟩ : Record) = n.toDouble.sameNumber d := by
  rw [holdsOf_compare rfl, Double.sameNumber]
  cases n.toDouble.compare? d with
  | none => rfl
  | some order => cases order <;> rfl

end Query

/-! ## Records with one number -/

section Record

variable {text : String} {n : Number} (h : scalar text.toList = .ok (.number n, []))

include h

/-- A record whose only field `x` is a number is read from the text of the number. -/
theorem Source.parse_number : Source.parse ("[\x7b\"x\": " ++ text ++ "\x7d]") = .ok [⟨[("x", .number n)]⟩] := by
  have hword : ∀ c ∈ "x".toList, isWord c = true := List.all_iff_forall_prop.1 (by decide)
  have hobject : "[\x7b\"x\": " ++ text ++ "\x7d]" = String.ofList ('[' :: '\x7b' :: '"' ::
      ("x".toList ++ '"' :: ':' :: ' ' :: (text.toList ++ ['\x7d', ']']))) := by
    rw [← String.toList_inj]
    simp
  rw [hobject]
  exact Source.parse_object h hword

/-- The text of a number is a numeral with or without a minus sign. In a record it is a significand that was scaled,
in a query it is the double nearest to the decimal taken from it, with the same sign, and the query for the number
finds the record exactly if the two are equal. Taken is what the numeral writes, unless it has an exponent of 655360
or more in a text of more than 65000 characters. The number in the record is at most six doubles apart from what the
numeral writes, and is just that if the decimal loses nothing when it is scaled. -/
theorem filter_own_number : ∃ (negative : Bool) (t : Numeral) (m : Magnitude),
    text.toList = minus negative ++ t.text ∧
      Source.parse ("[\x7b\"x\": " ++ text ++ "\x7d]") = .ok [⟨[("x", .number n)]⟩] ∧
      n.toDouble = .signed negative m ∧
      Query.parse ("WHERE x = " ++ text) = .ok ⟨[⟨"x", .eq, .number (.signed negative (.ofDecimal t.taken))⟩]⟩ ∧
      (Query.filter ⟨[⟨"x", .eq, .number (.signed negative (.ofDecimal t.taken))⟩]⟩ [(⟨[("x", .number n)]⟩ : Record)] =
        [⟨[("x", .number n)]⟩] ↔ m = .ofDecimal t.taken) ∧
      (t.TakenWhole → t.taken = t.decimal) ∧
      (text.length ≤ 65000 → Magnitude.ofDecimal t.taken = .ofDecimal t.decimal) ∧
      (text.length ≤ 2000000000 →
        m.Near 6 (.ofDecimal t.decimal) ∧ (ReadsExactly t.decimal → m = .ofDecimal t.decimal)) := by
  obtain ⟨negative, t, htext, hread⟩ := exists_of_scalar h
  obtain ⟨m, hm, hn⟩ := exists_magnitude hread
  have hlength : t.whole.length + t.fraction.length ≤ text.length := by
    have hfraction : t.fraction.length ≤ (fractionText t.fraction).length := by cases t.fraction <;> simp [fractionText]
    rw [← String.length_toList, htext, Numeral.text]
    simp only [List.length_append]
    omega
  refine ⟨negative, t, m, htext, Source.parse_number h, hn, Query.parse_numeral htext, ?_, Numeral.taken_eq_decimal,
    fun hlen => Numeral.ofDecimal_taken (by omega) (by omega), fun hlen => ⟨?_, fun hexact => ?_⟩⟩
  · rw [Query.filter, List.filter_eq_self, List.forall_mem_singleton, Query.holdsOf_number, hn,
      Query.sameNumber_signed_iff]
  · exact t.near_magnitude? hm (by omega)
  · rw [t.magnitude?_eq_ofDecimal hexact (by omega)] at hm
    exact (Option.some.inj hm).symm

end Record

/-- A number with a sign, a point and an exponent. -/
theorem filter_own_number_of_point : ∃ n : Number, scalar "-0.00125E+3".toList = .ok (.number n, []) ∧
    ∃ q, Query.parse ("WHERE x = " ++ "-0.00125E+3") = .ok q ∧
      Source.parse ("[\x7b\"x\": " ++ "-0.00125E+3" ++ "\x7d]") = .ok [⟨[("x", .number n)]⟩] ∧
      q.filter [(⟨[("x", .number n)]⟩ : Record)] = [⟨[("x", .number n)]⟩] := by
  have hfinite : (Double.signed true (.ofDecimal ⟨125, -2⟩)).isFinite = true :=
    Magnitude.isFinite_ofDecimal (by decide) (by decide)
  obtain ⟨hread, hdecimal⟩ : (unsignedNumber true "0.00125E+3".toList).toOption = some (.float _ hfinite, []) ∧
      Decimal.read? (spanSign "-0.00125E+3".toList).2 = some ⟨125, -2⟩ := by decide +kernel +revert
  rw [toOption_eq_some] at hread
  have h : scalar "-0.00125E+3".toList = .ok (.number (.float _ hfinite), []) := by
    show scalar ('-' :: "0.00125E+3".toList) = _
    rw [scalar_minus, hread]; rfl
  obtain ⟨negative, t, m, htext, hload, hdouble, hquery, hfilter, -⟩ := filter_own_number h
  rw [htext, spanSign_minus, Decimal.read?_numeral] at hdecimal
  have hm : Magnitude.ofDecimal ⟨125, -2⟩ = m := (Double.signed.inj hdouble).2
  exact ⟨_, h, _, hquery, hload, hfilter.2 (by rw [Option.some.inj hdecimal, hm])⟩

/-- A significand of more than 53 bits is rounded before it is divided: the record holds another double than the
literal. -/
theorem not_filter_own_number : ¬ ∀ (text : String) (n : Number), scalar text.toList = .ok (.number n, []) →
    ∃ q, Query.parse ("WHERE x = " ++ text) = .ok q ∧
      Source.parse ("[\x7b\"x\": " ++ text ++ "\x7d]") = .ok [⟨[("x", .number n)]⟩] ∧
      q.filter [(⟨[("x", .number n)]⟩ : Record)] = [⟨[("x", .number n)]⟩] := by
  intro hall
  have hfinite : (Double.signed false (.ofNat 9007199254740994)).isFinite = true :=
    Magnitude.isFinite_ofNat ((by decide : 9007199254740994 ≤ tenTo 16).trans (Magnitude.tenTo_le (by decide)))
  obtain ⟨hread, hliteral, hother⟩ :
      (unsignedNumber false "9007199254740993.0".toList).toOption = some (.float _ hfinite, []) ∧
        Query.parse ("WHERE x = " ++ "9007199254740993.0") =
          .ok ⟨[⟨"x", .eq, .number (.signed false (.ofNat 9007199254740992))⟩]⟩ ∧
        (Double.signed false (.ofNat 9007199254740994)).sameNumber (.signed false (.ofNat 9007199254740992)) =
          false := by
    decide +kernel +revert
  rw [toOption_eq_some] at hread
  have h : scalar "9007199254740993.0".toList = .ok (.number (.float _ hfinite), []) := by
    show scalar ('9' :: "007199254740993.0".toList) = _
    rw [scalar_digit (by decide)]
    show (unsignedNumber false "9007199254740993.0".toList).map _ = _
    rw [hread]; rfl
  obtain ⟨q, hq, -, hfilter⟩ := hall _ _ h
  rw [hq] at hliteral
  cases hliteral
  rw [Query.filter, List.filter_eq_self, List.forall_mem_singleton, Query.holdsOf_number] at hfilter
  exact absurd (hother.symm.trans hfilter) (by decide)

/-! ## Long exponents -/

section Long

variable {k : Nat}

/-- An exponent of which a literal takes in less than a record. -/
def longExponent : Exponent where
  mark := 'e'
  sign := ['-']
  digits := ['6', '5', '5', '3', '6', '0']
  isMark := .inl rfl
  isSign := .inr (.inr rfl)
  digits_ne_nil := List.cons_ne_nil _ _
  isDigit_digits := List.all_iff_forall_prop.1 (by decide)

theorem isDigit_nothing : ∀ c ∈ ([] : List Char), c.isDigit = true := List.forall_mem_nil _

theorem isDigit_one_zeros (k : Nat) : ∀ c ∈ '1' :: List.replicate k '0', c.isDigit = true :=
  List.forall_mem_cons.2 ⟨rfl, isDigit_replicate_zero⟩

/-- A one and zeros with this exponent. -/
def longNumeral (k : Nat) : Numeral where
  whole := '1' :: List.replicate k '0'
  fraction := []
  exponent? := some longExponent
  whole_ne_nil := List.cons_ne_nil _ _
  isDigit_whole := isDigit_one_zeros k
  isDigit_fraction := isDigit_nothing
  leading_zero h := absurd (Option.some.inj h) (by decide)

theorem coefficient_longNumeral (k : Nat) : (longNumeral k).coefficient = tenTo k := by
  rw [Numeral.coefficient, show (longNumeral k).fraction = [] from rfl, List.append_nil]
  exact (digitsValue_append_zeros ['1'] k).trans (Nat.mul_one _)

/-- The literal is a whole number, and not zero. -/
theorem ofDecimal_taken_longNumeral (hk : 65536 ≤ k) :
    Magnitude.ofDecimal (longNumeral k).taken = .ofNat (tenTo (k - 65536)) := by
  have hexponent : (longNumeral k).taken.exponent = -65536 := by
    show Exponent.taken _ - ((0 : ℕ) : Int) = -65536
    decide
  have hvalue : (longNumeral k).taken.value = (⟨tenTo (k - 65536), 0⟩ : Decimal).value := by
    rw [Decimal.value, Decimal.value, hexponent]
    show ((longNumeral k).coefficient : ℚ) * _ = _
    rw [coefficient_longNumeral, cast_tenTo, cast_tenTo, ← zpow_natCast, ← zpow_natCast,
      ← zpow_add₀ (by norm_num), zpow_zero, mul_one]
    congr 1
    omega
  rw [Magnitude.ofDecimal_congr hvalue, Magnitude.ofDecimal_whole]

/-- What the numeral writes is nearest to zero. -/
theorem ofDecimal_longNumeral (hk : k ≤ 655000) : Magnitude.ofDecimal (longNumeral k).decimal = .zero := by
  refine ofDecimal_eq_zero_of_lt (longNumeral k).coefficient_lt ?_
  have hexponent : (longNumeral k).decimal.exponent = -655360 := by
    show Exponent.value _ - ((0 : ℕ) : Int) = -655360
    decide
  have hlength : ((longNumeral k).whole ++ (longNumeral k).fraction).length = k + 1 := by simp [longNumeral]
  rw [hexponent, hlength]
  omega

/-- The bound on the characters is not much too low. From 65545 characters on there are numbers that the record
holds as zero and the literal as one or more. -/
theorem not_filter_own_number_of_long_exponent (hk : 65536 ≤ k) (hk' : k ≤ 655000) :
    ∃ (text : String) (n : Number), text.length = k + 9 ∧ scalar text.toList = .ok (.number n, []) ∧
      ∃ q, Query.parse ("WHERE x = " ++ text) = .ok q ∧ q.filter [(⟨[("x", .number n)]⟩ : Record)] = [] := by
  have hzero := ofDecimal_longNumeral hk'
  have hplain : ¬ (longNumeral k).IsPlain := fun h => by cases h.2.1
  obtain ⟨m, hm, hfinite⟩ : ∃ m, (longNumeral k).magnitude? = some m ∧ m.isFinite = true := by
    refine exists_finite_magnitude? (by rw [hzero]; decide) ?_
    rintro e he hup
    cases he
    cases hup
  have hread : unsignedNumber false (longNumeral k).text = .ok (.float (.signed false m) hfinite, []) := by
    rw [← List.append_nil (longNumeral k).text, ← toOption_eq_some,
      Numeral.toOption_unsignedNumber hplain EndsNumber.nil, hm, toOption_eq_some]
    exact dif_pos hfinite
  have hscalar : scalar (longNumeral k).text = .ok (.number (.float (.signed false m) hfinite), []) := by
    rw [← List.append_nil (longNumeral k).text] at hread ⊢
    exact scalar_minus_append hread
  have hnear : m.Near 6 .zero := hzero ▸ (longNumeral k).near_magnitude? hm (by simp [longNumeral]; omega)
  have hone : 6 < (Magnitude.ofNat (tenTo (k - 65536))).rank :=
    lt_of_lt_of_le (by decide +kernel : 6 < (Magnitude.ofNat 1).rank) (Magnitude.rank_ofNat_mono (tenTo_pos _))
  have hother : Double.sameNumber (.signed false m) (.signed false (.ofNat (tenTo (k - 65536)))) = false := by
    rw [Bool.eq_false_iff, ne_eq, Query.sameNumber_signed_iff]
    rintro rfl
    have := hnear.1
    rw [show Magnitude.zero.rank = 0 from rfl] at this
    omega
  have hquery : Query.parse ("WHERE x = " ++ String.ofList (longNumeral k).text) =
      .ok ⟨[⟨"x", .eq, .number (.signed false (.ofDecimal (longNumeral k).taken))⟩]⟩ :=
    Query.parse_numeral (by rw [String.toList_ofList]; rfl)
  rw [ofDecimal_taken_longNumeral hk] at hquery
  refine ⟨String.ofList (longNumeral k).text, .float (.signed false m) hfinite, ?_, ?_, _, hquery, ?_⟩
  · rw [String.length_ofList, Numeral.text]
    simp [longNumeral, longExponent, fractionText, exponentText, Exponent.text]
  · rw [String.toList_ofList]
    exact hscalar
  · rw [Query.filter, List.filter_eq_nil_iff, List.forall_mem_singleton, Query.holdsOf_number]
    exact fun h => absurd (hother.symm.trans h) (by decide)

end Long

end WhereFilter
