/-
What numerals are read as. The magnitude that the reader makes of a numeral lies within six ranks of
the one that the numeral denotes (`near_magnitude?`), and it is just that one where the digits and the
power of ten are doubles of their own (`magnitude?_eq_ofDecimal`).
-/
import WhereFilter.Proofs.Json.Numeral
import WhereFilter.Proofs.Json.Scaling

namespace WhereFilter.Json

-- the number of units in one and the greatest power of ten are too large to be computed
attribute [local irreducible] Magnitude.unitsPerOne Magnitude.places maxPower

variable {s : Nat} {p : Int}

/-! ## Digits that are cut off -/

/-- Numbers that lie one step of a full significand apart, or closer. -/
theorem within_of_between {u : Nat} {a b y : ℚ} (hu : 2 ^ 60 ≤ u) (hy : 0 < y) (ha : u ≤ a ∧ a ≤ u + 1)
    (hb : u ≤ b ∧ b ≤ u + 1) : Within truncation (a * y) (b * y) := by
  have hu' : (2 ^ 60 : ℚ) ≤ u := by exact_mod_cast hu
  have hstep : (u : ℚ) + 1 ≤ u * truncation := by rw [truncation]; linarith
  have hle {a b : ℚ} (ha : u ≤ a) (hb : b ≤ u + 1) : b * y ≤ a * y * truncation := by
    calc b * y ≤ u * truncation * y := mul_le_mul_of_nonneg_right (hb.trans hstep) hy.le
      _ ≤ a * truncation * y :=
        mul_le_mul_of_nonneg_right (mul_le_mul_of_nonneg_right ha truncation_nonneg) hy.le
      _ = a * y * truncation := by ring
  exact ⟨hle hb.1 ha.2, hle ha.1 hb.2⟩

/-- More digits move a number up by less than one of its last place. -/
theorem digitsValue_between {digits : List Char} (hd : ∀ c ∈ digits, c.isDigit = true) (n : Nat) :
    (n : ℚ) ≤ (n * tenTo digits.length + digitsValue digits : ℕ) * (10 : ℚ) ^ (-digits.length : Int) ∧
      (n * tenTo digits.length + digitsValue digits : ℕ) * (10 : ℚ) ^ (-digits.length : Int) ≤ n + 1 := by
  have hlt := digitsValue_lt hd
  have hpos : (0 : ℚ) < 10 ^ digits.length := by positivity
  rw [zpow_neg, zpow_natCast, ← div_eq_mul_inv, le_div_iff₀ hpos, div_le_iff₀ hpos, ← cast_tenTo]
  constructor
  · exact_mod_cast Nat.le_add_right _ _
  · have : n * tenTo digits.length + digitsValue digits ≤ (n + 1) * tenTo digits.length := by
      rw [Nat.add_mul, Nat.one_mul]; omega
    exact_mod_cast this

/-- A significand to which another digit cannot be added is a full one. -/
theorem le_of_next {digits : List Char} (hd : ∀ c ∈ digits, c.isDigit = true) (h0 : digits ≠ [])
    (hs : ∀ c ∈ digits.head?, maxSignificand < 10 * s + (c.toNat - '0'.toNat)) : 2 ^ 60 ≤ s := by
  obtain ⟨c, digits, rfl⟩ := List.exists_cons_of_ne_nil h0
  have h1 := hs c rfl
  have h2 := digit_lt (hd c (List.mem_cons_self ..))
  have h3 : maxSignificand = 2 ^ 64 - 1 := rfl
  omega

/-- A whole number that the significand holds is rounded but once. -/
theorem scale?_zero_power (hs : s ≤ maxSignificand) : scale? s 0 = some (.ofNat s) := by
  have h308 := hs.trans maxSignificand_le
  simp only [scale?, le_refl, if_true, Int.toNat_zero, Magnitude.ofNat_times_one h308, Magnitude.isFinite_ofNat h308,
    Nat.cast_nonneg]

/-- The reader loses nothing of a coefficient of 64 bits at the power zero, nor of one of 53 bits at a
power of ten that is a double of its own. -/
def ReadsExactly (d : Decimal) : Prop :=
  d.coefficient ≤ maxSignificand ∧ d.exponent = 0 ∨ d.coefficient ≤ twoTo 53 ∧ d.exponent.natAbs ≤ 22

/-- Scaling with one rounding is rounding the decimal. -/
theorem scale?_of_readsExactly {d : Decimal} (h : ReadsExactly d) :
    scale? d.coefficient d.exponent = some (.ofDecimal d) := by
  obtain ⟨c, e⟩ := d
  rcases h with ⟨hc, he⟩ | ⟨hc, he⟩
  · simp only at hc he ⊢
    subst he
    rw [scale?_zero_power hc, Magnitude.ofDecimal_eq]
    show some (Magnitude.ofRatio c 1) = some (Magnitude.ofRatio (c * 1) 1)
    rw [Nat.mul_one]
  · exact scale?_eq_ofDecimal hc he

/-! ## Decimals out of range -/

variable {d : Decimal}

/-- A decimal is rounded to nothing if its exponent is far lower than its digits are many. -/
theorem ofDecimal_eq_zero_of_lt {n : Nat} (hc : d.coefficient < tenTo n) (hn : n + d.exponent ≤ -328) :
    Magnitude.ofDecimal d = .zero := by
  refine Magnitude.ofDecimal_eq_zero ?_
  obtain ⟨-, -, hup⟩ := maxPower_bounds
  have h308 := maxPower_le
  have hvalue : d.value ≤ 10 ^ (-(maxPower + 20 : ℕ) : Int) := by
    have hlt : (d.coefficient : ℚ) ≤ 10 ^ (n : Int) := by
      rw [zpow_natCast, ← cast_tenTo]
      exact_mod_cast hc.le
    calc d.value ≤ 10 ^ (n : Int) * 10 ^ d.exponent := mul_le_mul_of_nonneg_right hlt (by positivity)
      _ = 10 ^ (n + d.exponent) := (zpow_add₀ (by norm_num) _ _).symm
      _ ≤ 10 ^ (-(maxPower + 20 : ℕ) : Int) := zpow_le_zpow_right₀ (by norm_num) (by push_cast; omega)
  rw [zpow_neg, zpow_natCast, pow_add] at hvalue
  have hT : (0 : ℚ) < 10 ^ maxPower := by positivity
  generalize (10 : ℚ) ^ maxPower = T at hvalue hup hT
  calc 2 * (d.value * Magnitude.unitsPerOne) ≤ 2 * ((T * 10 ^ 20)⁻¹ * (2 ^ 51 * T)) := by
        have := mul_le_mul hvalue hup Magnitude.cast_unitsPerOne_pos.le (by positivity)
        linarith
    _ = 2 ^ 52 / 10 ^ 20 := by field_simp
    _ < 1 := by norm_num

theorem ofDecimal_eq_infinity (h0 : d.coefficient ≠ 0) (he : 400 ≤ d.exponent) : Magnitude.ofDecimal d = .infinity := by
  rw [Magnitude.ofDecimal, if_neg h0, if_pos (by omega), if_pos he]

namespace Numeral

variable (t : Numeral)

/-- All digits as one number. -/
def coefficient : Nat := digitsValue (t.whole ++ t.fraction)

theorem coefficient_lt : t.coefficient < tenTo (t.whole ++ t.fraction).length :=
  digitsValue_lt fun c hc => (List.mem_append.1 hc).elim (t.isDigit_whole c) (t.isDigit_fraction c)

theorem significand_le : t.significand ≤ maxSignificand := by
  obtain ⟨-, -, -, hle, -⟩ := collect_spec maxSignificand 0 t.whole (Nat.zero_le _)
  obtain ⟨-, -, -, hle, -⟩ := collect_spec maxSignificand _ t.fraction hle
  exact hle

/-- The significand at its power is the number that the digits write, but for digits that are cut off. -/
theorem within_significand :
    Within truncation (t.significand * (10 : ℚ) ^ t.power) (t.coefficient * (10 : ℚ) ^ (-t.fraction.length : Int)) := by
  have hw := t.isDigit_whole
  have hf := t.isDigit_fraction
  unfold significand power coefficient
  generalize t.whole = whole at hw ⊢
  generalize t.fraction = fraction at hf ⊢
  obtain ⟨taken, hwhole, hvalue, hle, hnext⟩ := collect_spec maxSignificand 0 whole (Nat.zero_le _)
  generalize collect maxSignificand 0 whole = collected at hwhole hvalue hle hnext ⊢
  obtain ⟨u, extra⟩ := collected
  obtain ⟨taken', hfraction, hvalue', hle', hnext'⟩ := collect_spec maxSignificand u fraction hle
  generalize collect maxSignificand u fraction = collected at hfraction hvalue' hle' hnext' ⊢
  obtain ⟨s, extra'⟩ := collected
  simp only at hwhole hvalue hnext hfraction hvalue' hnext' ⊢
  rw [Nat.zero_mul, Nat.zero_add] at hvalue
  have hlen : fraction.length - extra'.length = taken'.length := by rw [hfraction, List.length_append]; omega
  rw [hlen]
  by_cases hextra : extra = []
  · subst hextra
    rw [List.append_nil] at hwhole
    have hs : digitsValue (whole ++ fraction) = s * tenTo extra'.length + digitsValue extra' := by
      rw [hfraction, ← List.append_assoc, digitsValue_append, digitsValue_append, hwhole, ← hvalue, ← hvalue']
    rw [hs, List.length_nil, Nat.cast_zero, zero_sub]
    have hsplit : (10 : ℚ) ^ (-fraction.length : Int) = 10 ^ (-extra'.length : Int) * 10 ^ (-taken'.length : Int) := by
      rw [← zpow_add₀ (by norm_num), hfraction, List.length_append]
      congr 1; omega
    rw [hsplit, ← mul_assoc]
    by_cases hextra' : extra' = []
    · subst hextra'
      rw [List.length_nil, show s * tenTo 0 + digitsValue [] = s from Nat.mul_one s, Nat.cast_zero, neg_zero, zpow_zero,
        mul_one]
      exact Within.self (by positivity) one_le_truncation
    · have hd' : ∀ c ∈ extra', c.isDigit = true := fun c hc => hf c (hfraction ▸ List.mem_append_right _ hc)
      exact within_of_between (le_of_next hd' hextra' hnext') (by positivity) ⟨le_refl _, by linarith⟩
        (digitsValue_between hd' s)
  · have hd : ∀ c ∈ extra, c.isDigit = true := fun c hc => hw c (hwhole ▸ List.mem_append_right _ hc)
    have hdf : ∀ c ∈ extra ++ fraction, c.isDigit = true := fun c hc => (List.mem_append.1 hc).elim (hd c) (hf c)
    have hdt : ∀ c ∈ taken', c.isDigit = true := fun c hc => hf c (hfraction ▸ List.mem_append_left _ hc)
    have hall : digitsValue (whole ++ fraction) =
        u * tenTo (extra ++ fraction).length + digitsValue (extra ++ fraction) := by
      rw [hwhole, List.append_assoc, digitsValue_append, hvalue]
    have hsplit : (10 : ℚ) ^ (-fraction.length : Int) =
        10 ^ (-(extra ++ fraction).length : Int) * 10 ^ (extra.length : Int) := by
      rw [← zpow_add₀ (by norm_num), List.length_append]
      congr 1; omega
    rw [hall, hsplit, ← mul_assoc, hvalue', sub_eq_neg_add, zpow_add₀ (by norm_num), ← mul_assoc]
    exact within_of_between (le_of_next hd hextra hnext) (by positivity) (digitsValue_between hdt u)
      (digitsValue_between hdf u)

theorem significand_eq_zero_iff : t.significand = 0 ↔ t.coefficient = 0 := by
  have hw := t.within_significand
  constructor
  · intro h
    have := hw.2
    rw [h, Nat.cast_zero, zero_mul, zero_mul] at this
    by_contra h0
    have : (0 : ℚ) < t.coefficient := by exact_mod_cast Nat.pos_of_ne_zero h0
    have : (0 : ℚ) < t.coefficient * 10 ^ (-t.fraction.length : Int) := by positivity
    linarith
  · intro h
    have := hw.1
    rw [h, Nat.cast_zero, zero_mul, zero_mul] at this
    by_contra h0
    have : (0 : ℚ) < t.significand := by exact_mod_cast Nat.pos_of_ne_zero h0
    have : (0 : ℚ) < t.significand * 10 ^ t.power := by positivity
    linarith

/-- A coefficient that fits is the significand. -/
theorem significand_of_le (h : t.coefficient ≤ maxSignificand) :
    t.significand = t.coefficient ∧ t.power = -t.fraction.length := by
  have happend := digitsValue_append t.whole t.fraction
  have hle : digitsValue t.whole ≤ maxSignificand := by
    refine le_trans ?_ h
    rw [coefficient, happend]
    exact (Nat.le_mul_of_pos_right _ (tenTo_pos _)).trans (Nat.le_add_right _ _)
  have hwhole := collect_zero_of_le hle
  rw [coefficient, happend] at h
  have hfraction := collect_eq_of_le h
  rw [← happend] at hfraction
  simp [significand, power, coefficient, hwhole, hfraction]

/-- Scaling the significand of a numeral with an exponent comes near to the decimal. -/
theorem near_scale?_significand (e : Int) :
    Magnitude.Near 6 ((scale? t.significand (t.power + e)).getD .infinity)
      (.ofDecimal ⟨t.coefficient, e - t.fraction.length⟩) := by
  by_cases h0 : t.significand = 0
  · rw [h0, scale?_zero, t.significand_eq_zero_iff.1 h0]
    exact (Magnitude.Near.refl _).mono (by decide)
  · refine near_scale? (Nat.pos_of_ne_zero h0) t.significand_le ?_
    have h := t.within_significand.mul (by positivity) (by positivity) (by positivity) (by positivity)
      (Within.refl ((10 : ℚ) ^ e))
    rw [mul_one, mul_assoc, mul_assoc, ← zpow_add₀ (by norm_num), ← zpow_add₀ (by norm_num), neg_add_eq_sub] at h
    exact h

theorem decimal_eq (t : Numeral) :
    t.decimal = ⟨t.coefficient, t.exponent?.elim 0 Exponent.value - t.fraction.length⟩ := rfl

/-- A decimal with an exponent too low to be read in full is rounded to nothing, as long as its digits
are not as many as the exponent says. -/
theorem ofDecimal_eq_zero_of_overlong {e : Exponent} (he : t.exponent? = some e) (hdown : e.down = true)
    (hlong : maxExponent < digitsValue e.digits) (hlen : t.whole.length ≤ 2000000000) :
    Magnitude.ofDecimal t.decimal = .zero := by
  have hmax : maxExponent = 2147483647 := by decide
  refine ofDecimal_eq_zero_of_lt t.coefficient_lt ?_
  rw [decimal_eq, he, Option.elim_some, Exponent.value, if_pos hdown, List.length_append]
  push_cast
  omega

/-- What is read as the magnitude of a numeral lies near to the magnitude that it denotes. -/
theorem near_magnitude? {m : Magnitude} (h : t.magnitude? = some m) (hlen : t.whole.length ≤ 2000000000) :
    Magnitude.Near 6 m (.ofDecimal t.decimal) := by
  unfold magnitude? at h
  cases he : t.exponent? with
  | none =>
    have hnear := t.near_scale?_significand 0
    rw [he, scaleBy?] at h
    rw [add_zero, h, Option.getD_some] at hnear
    rwa [decimal_eq, he]
  | some e =>
    rw [he, scaleBy?] at h
    split_ifs at h with hfit hzero
    · have hnear := t.near_scale?_significand e.value
      rw [h, Option.getD_some] at hnear
      rwa [decimal_eq, he]
    · obtain rfl : .zero = m := by simpa using h
      have hdecimal : Magnitude.ofDecimal t.decimal = .zero := by
        rcases Bool.or_eq_true_iff.1 hzero with h0 | hdown
        · rw [decimal_eq, t.significand_eq_zero_iff.1 (by simpa using h0)]; rfl
        · exact t.ofDecimal_eq_zero_of_overlong he hdown (Nat.lt_of_not_le hfit) hlen
      rw [hdecimal]
      exact (Magnitude.Near.refl _).mono (by decide)

/-- Where nothing is too large, the digits are scaled by their power of ten. -/
theorem magnitude?_eq_scale? (h : t.coefficient ≤ maxSignificand)
    (he : ∀ e, t.exponent? = some e → digitsValue e.digits ≤ maxExponent) :
    t.magnitude? = scale? t.decimal.coefficient t.decimal.exponent := by
  obtain ⟨hsignificand, hpower⟩ := t.significand_of_le h
  rw [magnitude?, hsignificand, hpower, decimal_eq]
  cases hexponent : t.exponent? with
  | none => rw [scaleBy?, Option.elim_none, zero_sub]
  | some e => rw [scaleBy?, if_pos (he e hexponent), neg_add_eq_sub, Option.elim_some]

/-- A numeral whose decimal loses nothing is read as what it denotes. -/
theorem magnitude?_eq_ofDecimal (h : ReadsExactly t.decimal) (hlen : t.fraction.length ≤ 2000000000) :
    t.magnitude? = some (.ofDecimal t.decimal) := by
  have hcoefficient : t.coefficient ≤ maxSignificand := h.elim And.left fun h => h.1.trans (by decide)
  have hexponent : t.decimal.exponent.natAbs ≤ 22 := h.elim (fun h => by rw [h.2]; decide) And.right
  rw [← scale?_of_readsExactly h]
  refine t.magnitude?_eq_scale? hcoefficient fun e he => ?_
  rw [decimal_eq, he, Option.elim_some] at hexponent
  have hmax : maxExponent = 2147483647 := by decide
  have hvalue := e.natAbs_value
  simp only at hexponent
  omega

theorem IsPlain.magnitude?_eq {t : Numeral} (ht : t.IsPlain) : t.magnitude? = some (.ofNat (digitsValue t.whole)) := by
  obtain ⟨hf, he, hfit⟩ := ht
  have hcoefficient : t.coefficient = digitsValue t.whole := by rw [coefficient, hf, List.append_nil]
  obtain ⟨hs, hp⟩ := t.significand_of_le (hcoefficient.trans_le hfit)
  rw [magnitude?, hs, hp, he, hf, scaleBy?, List.length_nil, Nat.cast_zero, neg_zero, hcoefficient,
    scale?_zero_power hfit]

end Numeral

end WhereFilter.Json
