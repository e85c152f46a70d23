/-
Written numbers are read back. A whole number is read as itself (`scalar_integer`). A double is written
as a numeral that denotes it (`exists_numeral_decimalText`), and the reader always makes a finite double
of that numeral (`exists_unsignedNumber_float`): its errors reach infinity only from the six greatest
doubles, and these are read one by one.
-/
import WhereFilter.Proofs.Double.Shortest
import WhereFilter.Proofs.Json.Number

namespace WhereFilter

open WhereFilter.Text

/-! ## Leading digits -/

theorem head_toDigits {n : Nat} (h : 0 < n) : (Nat.toDigits 10 n).head? ≠ some '0' := by
  induction n using Nat.strongRecOn with
  | ind n ih =>
    rw [Nat.toDigits_eq_if (by decide)]
    split_ifs with hlt
    · have hdigit : ∀ n < 10, 0 < n → n.digitChar ≠ '0' := by decide
      simpa using hdigit n hlt h
    · have := ih (n / 10) (by omega) (by omega)
      rw [List.head?_append_of_ne_nil _ Nat.toDigits_ne_nil]
      exact this

/-- Digits that start with no zero have the value of their first place at least. -/
theorem le_digitsValue_mul {digits : List Char} (h0 : digits ≠ []) (hd : ∀ c ∈ digits, c.isDigit = true)
    (hhead : digits.head? ≠ some '0') (n : Nat) :
    (10 : ℚ) ^ n ≤ digitsValue digits * (10 : ℚ) ^ ((n : Int) + 1 - digits.length) := by
  obtain ⟨c, digits, rfl⟩ := List.exists_cons_of_ne_nil h0
  have hc : 1 ≤ c.toNat - '0'.toNat := by
    have hdigit := hd c (List.mem_cons_self ..)
    simp only [Char.isDigit, ge_iff_le, Bool.and_eq_true, decide_eq_true_eq] at hdigit
    have hle : '0'.toNat ≤ c.toNat := UInt32.le_iff_toNat_le.1 hdigit.1
    have hne : c.toNat ≠ '0'.toNat := fun h => hhead (by rw [List.head?_cons, Char.toNat_inj.1 h])
    omega
  have hle : tenTo digits.length ≤ digitsValue (c :: digits) := by
    rw [digitsValue_cons]
    exact (Nat.le_mul_of_pos_right _ hc).trans (Nat.le_add_right _ _)
  have hle' : (10 : ℚ) ^ digits.length ≤ digitsValue (c :: digits) := by rw [← cast_tenTo]; exact_mod_cast hle
  calc (10 : ℚ) ^ n = 10 ^ digits.length * (10 : ℚ) ^ ((n : Int) + 1 - (c :: digits).length) := by
        rw [← zpow_natCast, ← zpow_natCast, ← zpow_add₀ (by norm_num), List.length_cons]
        congr 1; omega
    _ ≤ _ := mul_le_mul_of_nonneg_right hle' (by positivity)

namespace Layout

open Json

/-- Significant digits start with a zero only where they write zero. -/
theorem digitsOf_of_head {d : Decimal} (h : (digitsOf d).1.head? = some '0') : digitsOf d = (['0'], 0) := by
  obtain ⟨n, hn⟩ := exists_zeros (Nat.toDigits 10 d.coefficient)
  unfold digitsOf at h ⊢
  simp only at h ⊢
  split_ifs at h ⊢ with hk
  · rfl
  · exfalso
    have hne : (Nat.toDigits 10 d.coefficient).head? ≠ some '0' := by
      refine head_toDigits (Nat.pos_of_ne_zero fun h0 => hk ?_)
      rw [h0]; decide
    rw [hn, List.head?_append_of_ne_nil _ (by simpa using hk)] at hne
    exact hne h

section Places

variable {digits : List Char} {power : Int} (h0 : digits ≠ []) (hd : ∀ c ∈ digits, c.isDigit = true)
  (hzero : digits.head? = some '0' → digits = ['0'] ∧ power = 0)

include h0 hd

/-- Below one the digits stand behind one zero, and perhaps behind more of them after the point. -/
theorem exists_numeral_placePoint_of_neg (hp : power < 0) :
    ∃ t : Numeral, placePoint ['.', '0'] digits power = t.text ∧ t.exponent? = none ∧ t.fraction ≠ [] ∧
      t.decimal.value = digitsValue digits * (10 : ℚ) ^ (power + 1 - digits.length) ∧
      t.coefficient ≤ max (digitsValue digits) (tenTo (power.toNat + 2)) := by
  have hlen := List.length_pos_iff.2 h0
  have hf : ∀ c ∈ List.replicate (power.natAbs - 1) '0' ++ digits, c.isDigit = true := fun c hc =>
    (List.mem_append.1 hc).elim (isDigit_replicate_zero c) (hd c)
  have hv : digitsValue (['0'] ++ (List.replicate (power.natAbs - 1) '0' ++ digits)) = digitsValue digits := by
    rw [← List.append_assoc]
    exact digitsValue_zeros_append (power.natAbs - 1 + 1) digits
  refine ⟨⟨['0'], List.replicate (power.natAbs - 1) '0' ++ digits, none, by simp,
    List.forall_mem_singleton.2 (by decide), hf, fun _ => rfl⟩, ?_, rfl, by simp [h0], ?_,
    hv.le.trans (le_max_left _ _)⟩
  · simp only [placePoint, hp, if_true, Numeral.text, exponentText]
    rw [fractionText_of_ne_nil (by simp [h0]), List.append_nil, List.append_assoc]; rfl
  · have he : 0 - ((List.replicate (power.natAbs - 1) '0' ++ digits).length : Int) = power + 1 - digits.length := by
      rw [List.length_append, List.length_replicate]; omega
    rw [Numeral.decimal_eq, Decimal.value, Numeral.coefficient, hv, Option.elim_none, he]

include hzero

/-- The digits of a whole number stand before the point, and a zero behind it. -/
theorem exists_numeral_placePoint_of_whole (hp : ¬ power < 0) (hl : digits.length ≤ power.toNat + 1) :
    ∃ t : Numeral, placePoint ['.', '0'] digits power = t.text ∧ t.exponent? = none ∧ t.fraction ≠ [] ∧
      t.decimal.value = digitsValue digits * (10 : ℚ) ^ (power + 1 - digits.length) ∧
      t.coefficient ≤ max (digitsValue digits) (tenTo (power.toNat + 2)) := by
  have hw : ∀ c ∈ digits ++ List.replicate (power.toNat + 1 - digits.length) '0', c.isDigit = true := fun c hc =>
    (List.mem_append.1 hc).elim (hd c) (isDigit_replicate_zero c)
  refine ⟨⟨digits ++ List.replicate (power.toNat + 1 - digits.length) '0', ['0'], none, by simp [h0], hw,
    List.forall_mem_singleton.2 (by decide), fun hhead => ?_⟩, ?_, rfl, by simp, ?_, ?_⟩
  · rw [List.head?_append_of_ne_nil _ h0] at hhead
    obtain ⟨rfl, rfl⟩ := hzero hhead
    rfl
  · simp only [placePoint, hp, if_false, hl, if_true]; rfl
  · have hv : digitsValue (digits ++ List.replicate (power.toNat + 1 - digits.length) '0' ++ ['0']) =
        tenTo (power.toNat + 1 - digits.length + 1) * digitsValue digits := by
      rw [List.append_assoc, ← List.replicate_succ', digitsValue_append_zeros]
    have he : (10 : ℚ) ^ (power.toNat + 1 - digits.length + 1) * 10 ^ (0 - (['0'].length : Int)) =
        10 ^ (power + 1 - digits.length) := by
      rw [← zpow_natCast, ← zpow_add₀ (by norm_num), List.length_singleton]
      congr 1; omega
    rw [Numeral.decimal_eq, Decimal.value, Numeral.coefficient, hv, Nat.cast_mul, cast_tenTo, mul_right_comm,
      Option.elim_none, he, mul_comm]
  · have hlast : ∀ c ∈ ['0'], c.isDigit = true := List.forall_mem_singleton.2 (by decide)
    have hall : ∀ c ∈ digits ++ List.replicate (power.toNat + 1 - digits.length) '0' ++ ['0'], c.isDigit = true :=
      fun c hc => (List.mem_append.1 hc).elim (hw c) (hlast c)
    have hlt := digitsValue_lt hall
    have hlength : (digits ++ List.replicate (power.toNat + 1 - digits.length) '0' ++ ['0']).length =
        power.toNat + 2 := by
      rw [List.length_append, List.length_append, List.length_replicate, List.length_singleton]
      omega
    rw [hlength] at hlt
    exact hlt.le.trans (le_max_right _ _)

/-- Digits with the point after the one of power zero are a numeral with a fraction. -/
theorem exists_numeral_placePoint :
    ∃ t : Numeral, placePoint ['.', '0'] digits power = t.text ∧ t.exponent? = none ∧ t.fraction ≠ [] ∧
      t.decimal.value = digitsValue digits * (10 : ℚ) ^ (power + 1 - digits.length) ∧
      t.coefficient ≤ max (digitsValue digits) (tenTo (power.toNat + 2)) := by
  by_cases hp : power < 0
  · exact exists_numeral_placePoint_of_neg h0 hd hp
  by_cases hl : digits.length ≤ power.toNat + 1
  · exact exists_numeral_placePoint_of_whole h0 hd hzero hp hl
  -- the point stands among the digits
  have ht : ∀ c ∈ digits.take (power.toNat + 1), c.isDigit = true := fun c hc => hd c (List.mem_of_mem_take hc)
  have hr : ∀ c ∈ digits.drop (power.toNat + 1), c.isDigit = true := fun c hc => hd c (List.mem_of_mem_drop hc)
  have hdrop : digits.drop (power.toNat + 1) ≠ [] := by simp; omega
  refine ⟨⟨digits.take (power.toNat + 1), digits.drop (power.toNat + 1), none, by simp [h0], ht, hr, fun hhead => ?_⟩,
    ?_, rfl, hdrop, ?_, ?_⟩
  · rw [List.head?_take, if_neg (by omega)] at hhead
    obtain ⟨rfl, rfl⟩ := hzero hhead
    simp at hl
  · simp only [placePoint, hp, if_false, hl, Numeral.text, exponentText]
    rw [fractionText_of_ne_nil hdrop, List.append_nil, List.append_assoc]; rfl
  · have he : 0 - ((digits.drop (power.toNat + 1)).length : Int) = power + 1 - digits.length := by
      rw [List.length_drop]; omega
    rw [Numeral.decimal_eq, Decimal.value, Numeral.coefficient, List.take_append_drop, Option.elim_none, he]
  · rw [Numeral.coefficient, List.take_append_drop]
    exact le_max_left _ _

/-- One digit before the point and the power of ten behind it are a numeral with an exponent. -/
theorem exists_numeral_placeExponent :
    ∃ (t : Numeral) (e : Exponent), placeExponent ['+'] digits power = t.text ∧ t.exponent? = some e ∧
      e.value = power ∧ t.decimal.value = digitsValue digits * (10 : ℚ) ^ (power + 1 - digits.length) ∧
      t.coefficient = digitsValue digits := by
  obtain ⟨c, digits, rfl⟩ := List.exists_cons_of_ne_nil h0
  obtain ⟨hc, hd⟩ := List.forall_mem_cons.1 hd
  have hsign : (if power < 0 then ['-'] else ['+']) = ([] : List Char) ∨ (if power < 0 then ['-'] else ['+']) = ['+'] ∨
      (if power < 0 then ['-'] else ['+']) = ['-'] := by split_ifs <;> simp
  let e : Exponent := ⟨'e', if power < 0 then ['-'] else ['+'], Nat.toDigits 10 power.natAbs, .inl rfl, hsign,
    Nat.toDigits_ne_nil, fun c hc => Nat.isDigit_of_mem_toDigits (by decide) (by decide) hc⟩
  have hvalue : e.value = power := by
    have hdigits : digitsValue (Nat.toDigits 10 power.natAbs) = power.natAbs := Nat.ofDigitChars_ten_toDigits
    unfold Exponent.value Exponent.down
    simp only [e, hdigits]
    by_cases hp : power < 0
    · simp only [hp, if_true, beq_self_eq_true]; omega
    · simp only [hp, if_false]
      rw [if_neg (by decide)]; omega
  refine ⟨⟨[c], digits, some e, by simp, List.forall_mem_singleton.2 hc, hd, fun hhead => ?_⟩, e, ?_, rfl, hvalue, ?_,
    rfl⟩
  · obtain rfl : c = '0' := by simpa using hhead
    rfl
  · cases digits <;> simp [placeExponent, Numeral.text, fractionText, exponentText, Exponent.text, e]
  · have he : e.value - digits.length = power + 1 - ((c :: digits).length : Int) := by
      rw [hvalue, List.length_cons]; omega
    rw [Numeral.decimal_eq, Decimal.value, Numeral.coefficient, Option.elim_some, he]; rfl

end Places

theorem digitsValue_digitsOf_le (d : Decimal) : digitsValue (digitsOf d).1 ≤ d.coefficient := by
  obtain ⟨n, hn⟩ := exists_zeros (Nat.toDigits 10 d.coefficient)
  have hval : digitsValue (Nat.toDigits 10 d.coefficient) = d.coefficient := Nat.ofDigitChars_ten_toDigits
  unfold digitsOf
  simp only
  generalize Nat.toDigits 10 d.coefficient = all at hn hval ⊢
  generalize (all.reverse.dropWhile (· == '0')).reverse = kept at hn ⊢
  subst hn
  rw [digitsValue_append_zeros] at hval
  split_ifs
  · exact Nat.zero_le _
  · rw [← hval]
    exact Nat.le_mul_of_pos_left _ (tenTo_pos _)

/-- A decimal in JSON layout is a numeral of its value, with few more digits at most. It has a point or an
exponent, and a positive exponent is one that the value reaches. -/
theorem exists_numeral_decimalText (d : Decimal) :
    ∃ t : Numeral, json.decimalText d = t.text ∧ t.decimal.value = d.value ∧ ¬ t.IsPlain ∧
      (∀ e, t.exponent? = some e → e.down = false → (10 : ℚ) ^ digitsValue e.digits ≤ d.value) ∧
      t.coefficient ≤ max d.coefficient (tenTo 17) ∧ ∀ e, t.exponent? = some e → e.value = (digitsOf d).2 := by
  obtain ⟨h0, hd, hv⟩ := digitsOf_spec d
  have hle := digitsValue_digitsOf_le d
  have hzero : (digitsOf d).1.head? = some '0' → (digitsOf d).1 = ['0'] ∧ (digitsOf d).2 = 0 := fun h => by
    rw [digitsOf_of_head h]; exact ⟨rfl, rfl⟩
  unfold decimalText
  generalize digitsOf d = found at h0 hd hv hle hzero ⊢
  obtain ⟨digits, power⟩ := found
  simp only at h0 hd hv hle hzero ⊢
  split_ifs with hpos
  · obtain ⟨t, ht, hexponent, hfraction, hvalue, hcoefficient⟩ := exists_numeral_placePoint h0 hd hzero
    have hnone {e : Exponent} (he : t.exponent? = some e) : False := by rw [hexponent] at he; cases he
    refine ⟨t, ht, hvalue.trans hv, fun hplain => hfraction hplain.1, fun e he => (hnone he).elim, ?_,
      fun e he => (hnone he).elim⟩
    have hpower : power ≤ 15 := by
      simp only [json, Bool.and_eq_true, decide_eq_true_eq] at hpos
      exact hpos.2
    exact hcoefficient.trans (max_le_max hle (Nat.pow_le_pow_right (by decide) (by omega)))
  · obtain ⟨t, e, ht, hexponent, he, hvalue, hcoefficient⟩ := exists_numeral_placeExponent h0 hd hzero
    have honly {e' : Exponent} (he' : t.exponent? = some e') : e = e' := by
      rw [hexponent] at he'; exact Option.some.inj he'
    refine ⟨t, ht, hvalue.trans hv, fun hplain => absurd (hexponent.symm.trans hplain.2.1) (by simp), ?_,
      (hcoefficient.trans_le hle).trans (le_max_left _ _), fun e' he' => honly he' ▸ he⟩
    intro e' he' hdown
    obtain rfl := honly he'
    have hpower : power = digitsValue e.digits := by rw [← he, Exponent.value, hdown]; rfl
    -- the first digit is no zero, or there would be no exponent
    have hhead : digits.head? ≠ some '0' := fun hhead => by
      obtain ⟨-, rfl⟩ := hzero hhead
      exact hpos (by decide)
    rw [← hv, hpower]
    exact le_digitsValue_mul h0 hd hhead _

end Layout

-- the number of units in one is too large to be computed wherever it occurs
attribute [local irreducible] Magnitude.unitsPerOne Magnitude.places

namespace Json

variable {t : Numeral} {m : Magnitude}

/-! ## Doubles -/

theorem exists_of_near {m? : Option Magnitude} (h : Magnitude.Near 6 (m?.getD .infinity) m)
    (hm : m.rank + 6 < infinityRank) : ∃ m', m? = some m' ∧ m'.isFinite = true := by
  cases m? with
  | none =>
    have : infinityRank ≤ m.rank + 6 := h.1
    omega
  | some m' => exact ⟨m', rfl, decide_eq_true (Nat.lt_of_le_of_lt h.1 hm)⟩

/-- A numeral that denotes a magnitude well below infinity is read as a finite one. -/
theorem exists_finite_magnitude? (hm : (Magnitude.ofDecimal t.decimal).rank + 6 < infinityRank)
    (hexponent : ∀ e, t.exponent? = some e → e.down = false → (10 : ℚ) ^ digitsValue e.digits ≤ t.decimal.value) :
    ∃ m, t.magnitude? = some m ∧ m.isFinite = true := by
  rw [Numeral.decimal_eq] at hm
  unfold Numeral.magnitude?
  cases he : t.exponent? with
  | none =>
    rw [he, Option.elim_none] at hm
    have hnear := t.near_scale?_significand 0
    rw [add_zero] at hnear
    exact exists_of_near hnear hm
  | some e =>
    rw [he, Option.elim_some] at hm
    rw [scaleBy?]
    split_ifs with hfit hzero
    · exact exists_of_near (t.near_scale?_significand e.value) hm
    · exact ⟨.zero, rfl, by decide⟩
    · -- an exponent that could not be read in full would have made the magnitude infinite
      exfalso
      obtain ⟨-, hdown⟩ : t.significand ≠ 0 ∧ e.down = false := by simpa using hzero
      have hbig : (10 : ℚ) ^ (maxPower + 1) ≤ 10 ^ digitsValue e.digits := by
        have h1 := maxPower_le
        have h2 : maxExponent = 2147483647 := by decide
        exact pow_le_pow_right₀ (by norm_num) (by omega)
      have hvalue := (hbig.trans (hexponent e he hdown)).trans
        (le_mul_of_one_le_right (by unfold Decimal.value; positivity) one_le_truncation)
      have hnear : infinityRank ≤ _ := (near_infinity hvalue).1
      rw [Numeral.decimal_eq, he, Option.elim_some] at hnear
      omega

/-- The numerals of the six greatest doubles are read as finite ones. -/
theorem isSome_unsignedNumber_belowInfinity : ∀ i < 6,
    (unsignedNumber false
      (Layout.json.decimalText ((Magnitude.belowInfinity i).shortest .toEven))).toOption.isSome = true := by
  intro i hi
  rw [Magnitude.shortest_belowInfinity hi]
  revert i
  decide +kernel

theorem isSome_unsignedNumber_of_great (h : m.rank < infinityRank) (hgreat : infinityRank ≤ m.rank + 6) :
    (unsignedNumber false (Layout.json.decimalText (m.shortest .toEven))).toOption.isSome = true := by
  obtain ⟨rank, hle⟩ := m
  obtain ⟨i, hi, rfl⟩ : ∃ i < 6, rank = infinityRank - 1 - i := by
    simp only at h hgreat
    exact ⟨infinityRank - 1 - rank, by omega, by omega⟩
  exact isSome_unsignedNumber_belowInfinity i hi

theorem exists_of_isSome_floatNumber {negative : Bool} {m? : Option Magnitude} {rest : List Char}
    (h : (floatNumber negative m? rest).toOption.isSome = true) : ∃ m, m? = some m ∧ m.isFinite = true := by
  unfold floatNumber at h
  split at h
  · cases h
  · rename_i m
    split at h
    · rename_i hfinite; exact ⟨m, rfl, hfinite⟩
    · cases h

/-- The text of a finite double is read as a finite double with its sign. -/
theorem exists_unsignedNumber_float (negative : Bool) (h : m.isFinite = true) :
    ∃ (m' : Magnitude) (finite : (Double.signed negative m').isFinite = true), ∀ rest, EndsNumber rest →
      unsignedNumber negative (Layout.json.decimalText (m.shortest .toEven) ++ rest) =
        .ok (.float (.signed negative m') finite, rest) := by
  obtain ⟨t, ht, hvalue, hplain, hexponent, -⟩ := Layout.exists_numeral_decimalText (m.shortest .toEven)
  have hm : Magnitude.ofDecimal t.decimal = m := by
    rw [Magnitude.ofDecimal_congr hvalue, Magnitude.ofDecimal_shortest .toEven h]
  have hread : ∃ m', t.magnitude? = some m' ∧ m'.isFinite = true := by
    by_cases hbelow : m.rank + 6 < infinityRank
    · exact exists_finite_magnitude? (hm ▸ hbelow) (hvalue ▸ hexponent)
    · have hlt : m.rank < infinityRank := of_decide_eq_true h
      have hsome := isSome_unsignedNumber_of_great hlt (by omega)
      rw [ht, ← List.append_nil t.text, Numeral.toOption_unsignedNumber hplain EndsNumber.nil] at hsome
      exact exists_of_isSome_floatNumber hsome
  obtain ⟨m', hm', hfinite⟩ := hread
  refine ⟨m', hfinite, fun rest hr => ?_⟩
  rw [ht, ← toOption_eq_some, Numeral.toOption_unsignedNumber hplain hr, hm', toOption_eq_some]
  exact dif_pos hfinite

/-- The digits of a whole number, as a numeral. -/
def Numeral.ofNat (n : Nat) : Numeral where
  whole := Nat.toDigits 10 n
  fraction := []
  exponent? := none
  whole_ne_nil := Nat.toDigits_ne_nil
  isDigit_whole _ hc := Nat.isDigit_of_mem_toDigits (by decide) (by decide) hc
  isDigit_fraction := by simp
  leading_zero hhead := by
    rcases Nat.eq_zero_or_pos n with rfl | hn
    · rfl
    · exact absurd hhead (head_toDigits hn)

theorem Numeral.text_ofNat (n : Nat) : (Numeral.ofNat n).text = Nat.toDigits 10 n := List.append_nil _

theorem scalar_integer {i : Int} (h : leastInteger ≤ i ∧ i ≤ greatestInteger) {rest : List Char}
    (hr : EndsNumber rest) :
    scalar (intText i ++ rest) = .ok (.number (.integer i h), rest) := by
  have hdigits : digitsValue (Numeral.ofNat i.natAbs).whole = i.natAbs := Nat.ofDigitChars_ten_toDigits
  have hplain : (Numeral.ofNat i.natAbs).IsPlain := by
    refine ⟨rfl, rfl, ?_⟩
    have hmax : (maxSignificand : Int) = greatestInteger := by decide
    have hmin : -(maxSignificand : Int) ≤ leastInteger := by decide
    rw [hdigits]
    omega
  have hsign : withSign (decide (i < 0)) i.natAbs = i := by
    unfold withSign
    by_cases hi : i < 0 <;> simp only [hi, decide_true, decide_false, if_true, Bool.false_eq_true, if_false] <;> omega
  have hzero : (decide (i < 0) && i.natAbs == 0) = false := by
    by_cases hi : i < 0
    · simp; omega
    · simp [hi]
  have htext : intText i ++ rest = minus (decide (i < 0)) ++ ((Numeral.ofNat i.natAbs).text ++ rest) := by
    rw [Numeral.text_ofNat, intText, minus, List.append_assoc]
    simp only [decide_eq_true_eq]
  rw [htext]
  refine scalar_minus_append ?_
  have hrange : leastInteger ≤ withSign (decide (i < 0)) i.natAbs ∧
      withSign (decide (i < 0)) i.natAbs ≤ greatestInteger := by rwa [hsign]
  rw [Numeral.unsignedNumber_eq_wholeNumber hplain hr, hdigits, wholeNumber_eq_integer hrange hzero]
  simp only [hsign]

theorem text_float (negative : Bool) {m : Magnitude} (h : (Double.signed negative m).isFinite = true) :
    (Number.float (.signed negative m) h).text = minus negative ++ Layout.json.decimalText (m.shortest .toEven) :=
  if_pos h

/-- The text of a number is read as a number whatever ends it: a whole number as itself, and a double as
some double. -/
theorem exists_scalar_text (n : Number) : ∃ n' : Number,
    (∀ rest, EndsNumber rest → scalar (n.text ++ rest) = .ok (.number n', rest)) ∧
      ((∃ i h, n = .integer i h ∧ n' = n) ∨ ∃ d h d' h', n = .float d h ∧ n' = .float d' h') := by
  cases n with
  | integer i h => exact ⟨.integer i h, fun rest hr => scalar_integer h hr, .inl ⟨i, h, rfl, rfl⟩⟩
  | float d h =>
    cases d with
    | nan => cases h
    | signed negative m =>
      obtain ⟨m', hfinite, hread⟩ := exists_unsignedNumber_float negative (m := m) h
      refine ⟨.float (.signed negative m') hfinite, fun rest hr => ?_, .inr ⟨_, h, _, hfinite, rfl, rfl⟩⟩
      obtain ⟨t, ht, -⟩ := Layout.exists_numeral_decimalText (m.shortest .toEven)
      have hread := hread rest hr
      rw [ht] at hread
      rw [text_float, ht, List.append_assoc]
      exact scalar_minus_append hread

/-- What the text of a number is read as. -/
def Number.reread (n : Number) : Number :=
  match scalar n.text with
  | .ok (.number m, _) => m
  | _ => n

theorem scalar_text (n : Number) {rest : List Char} (hr : EndsNumber rest) :
    scalar (n.text ++ rest) = .ok (.number n.reread, rest) := by
  obtain ⟨n', hread, -⟩ := exists_scalar_text n
  have hself := hread [] EndsNumber.nil
  rw [List.append_nil] at hself
  have hreread : n.reread = n' := by rw [Number.reread, hself]
  rw [hreread]
  exact hread rest hr

theorem reread_integer {i : Int} (h : leastInteger ≤ i ∧ i ≤ greatestInteger) :
    (Number.integer i h).reread = .integer i h := by
  have hself := scalar_integer h EndsNumber.nil
  rw [List.append_nil] at hself
  rw [Number.reread, show (Number.integer i h).text = intText i from rfl, hself]

theorem reread_float {d : Double} (h : d.isFinite = true) : ∃ d' h', (Number.float d h).reread = .float d' h' := by
  obtain ⟨n', hread, hn'⟩ := exists_scalar_text (.float d h)
  have hself := hread [] EndsNumber.nil
  rw [List.append_nil] at hself
  have hreread : (Number.float d h).reread = n' := by rw [Number.reread, hself]
  rcases hn' with ⟨i, hi, h1, -⟩ | ⟨-, -, d', h', -, rfl⟩
  · cases h1
  · exact ⟨d', h', hreread⟩

end Json

end WhereFilter
