/-
How well scaling works. A significand is rounded, the power of ten is rounded, and so is what comes of
them, up to four times in all; the outcome lies at most six ranks from the magnitude of the decimal
that was meant (`near_scale?`). Where significand and power are doubles themselves nothing is lost
(`scale?_eq_ofDecimal`).
-/
import WhereFilter.Json.Numeral
import WhereFilter.Proofs.Double.RoundTrip
import WhereFilter.Proofs.Double.Scaling

namespace WhereFilter

-- the number of units in one is too large to be computed wherever it occurs
attribute [local irreducible] Magnitude.unitsPerOne Magnitude.places

namespace Json

open Magnitude

variable {s : Nat} {d : Decimal}

/-- Digits that are cut off behind a full significand, as a factor. -/
def truncation : ℚ := 1 + 1 / 2 ^ 60

theorem truncation_nonneg : 0 ≤ truncation := by unfold truncation; positivity

theorem one_le_truncation : 1 ≤ truncation := by unfold truncation; norm_num

theorem maxSignificand_le : maxSignificand ≤ tenTo 308 :=
  (by decide : maxSignificand ≤ tenTo 20).trans (tenTo_le (by decide))

theorem le_maxPower : 22 ≤ maxPower := by decide

theorem maxPower_le : maxPower ≤ 308 := by decide

theorem maxPower_pos : 0 < maxPower := by decide

/-- The error of a quotient of at least the units that the first full division leaves, as a factor. -/
def fineRounding : ℚ := 1 + 1 / (3 * 2 ^ 50)

-- neither are the powers of ten to be computed
attribute [local irreducible] maxPower

/-- The sizes of the greatest power of ten and of the number of units in one. -/
theorem maxPower_bounds : 2 ^ 120 ≤ (10 : ℚ) ^ maxPower ∧ 7 * 2 ^ 48 * (10 : ℚ) ^ maxPower ≤ unitsPerOne ∧
    (unitsPerOne : ℚ) ≤ 2 ^ 51 * 10 ^ maxPower := by
  obtain ⟨h1, h2, h3⟩ : 2 ^ 120 ≤ tenTo maxPower ∧ 7 * 2 ^ 48 * tenTo maxPower ≤ unitsPerOne ∧
      unitsPerOne ≤ 2 ^ 51 * tenTo maxPower := by decide +kernel
  rw [← cast_tenTo]
  exact ⟨by exact_mod_cast h1, by exact_mod_cast h2, by exact_mod_cast h3⟩

theorem cast_le_of_le_maxSignificand (hs : s ≤ maxSignificand) : (s : ℚ) ≤ 2 ^ 64 := by
  rw [← cast_twoTo]; exact_mod_cast hs.trans (Nat.sub_le _ _)

/-- What the first full division makes of a significand. -/
theorem within_dividedBy_maxPower (h0 : 0 < s) (hs : s ≤ maxSignificand) :
    Within (fineRounding * (rounding * rounding)) ((ofNat s).dividedBy (ofNat (tenTo maxPower))).units
      (s / 10 ^ maxPower * unitsPerOne) := by
  have hw := within_dividedBy maxPower_le (Nat.cast_nonneg s) (within_ofNat h0 (hs.trans maxSignificand_le))
  have hden := units_tenTo_pos maxPower_le
  have hden' : (0 : ℚ) < (ofNat (tenTo maxPower)).units := by exact_mod_cast hden
  have hs1 : (1 : ℚ) ≤ s := by exact_mod_cast h0
  have hs2 := cast_le_of_le_maxSignificand hs
  obtain ⟨hT, hlow, hup⟩ := maxPower_bounds
  have hT0 : (0 : ℚ) < 10 ^ maxPower := by positivity
  unfold dividedBy
  generalize (ofNat s).units * unitsPerOne = num at hw ⊢
  generalize (ofNat (tenTo maxPower)).units = den at hw hden hden' ⊢
  generalize (10 : ℚ) ^ maxPower = T at hw hT hlow hup hT0 ⊢
  have hr : 0 < rounding * rounding := by unfold rounding; positivity
  have hlow : 3 * 2 ^ 49 * den ≤ num := by
    have h1 : 3 * 2 ^ 49 * (rounding * rounding) ≤ s / T * unitsPerOne := by
      calc 3 * 2 ^ 49 * (rounding * rounding) ≤ 7 * 2 ^ 48 := by rw [rounding]; norm_num
        _ ≤ unitsPerOne / T := (le_div_iff₀ hT0).2 hlow
        _ ≤ s * (unitsPerOne / T) := le_mul_of_one_le_left (by positivity) hs1
        _ = s / T * unitsPerOne := by ring
    have h2 := le_of_mul_le_mul_right (h1.trans hw.2) hr
    rw [le_div_iff₀ hden'] at h2
    exact_mod_cast h2
  have hfin : (ofUnits num den).isFinite = true := by
    refine isFinite_of_le hden (hw.1.trans ?_)
    have hone : s * (rounding * rounding) / T ≤ 1 := by
      rw [div_le_one hT0]
      calc s * (rounding * rounding) ≤ 2 ^ 64 * (rounding * rounding) := mul_le_mul_of_nonneg_right hs2 hr.le
        _ ≤ 2 ^ 120 := by rw [rounding]; norm_num
        _ ≤ T := hT
    calc s / T * unitsPerOne * (rounding * rounding) = s * (rounding * rounding) / T * unitsPerOne := by ring
      _ ≤ 1 * unitsPerOne := mul_le_mul_of_nonneg_right hone cast_unitsPerOne_pos.le
      _ ≤ tenTo 308 * unitsPerOne :=
        mul_le_mul_of_nonneg_right (by exact_mod_cast tenTo_pos 308) cast_unitsPerOne_pos.le
  have hfine : Within (1 + 1 / (2 * (3 * 2 ^ 49 : ℕ))) (ofUnits num den).units (num / den) :=
    within_units hden (by decide) (by decide) hlow hfin
  have hfactor : fineRounding = 1 + 1 / (2 * (3 * 2 ^ 49 : ℕ)) := by unfold fineRounding; norm_num
  rw [← hfactor] at hfine
  exact hfine.trans (by unfold fineRounding; positivity) hr.le hw

/-- Two full divisions leave nothing of a significand. -/
theorem dividedBy_maxPower_twice (h0 : 0 < s) (hs : s ≤ maxSignificand) :
    ((ofNat s).dividedBy (ofNat (tenTo maxPower))).dividedBy (ofNat (tenTo maxPower)) = zero := by
  have hw := within_dividedBy maxPower_le (by positivity) (within_dividedBy_maxPower h0 hs)
  have hden := units_tenTo_pos maxPower_le
  have hden' : (0 : ℚ) < (ofNat (tenTo maxPower)).units := by exact_mod_cast hden
  have hs2 := cast_le_of_le_maxSignificand hs
  obtain ⟨hT, -, hup⟩ := maxPower_bounds
  have hT0 : (0 : ℚ) < 10 ^ maxPower := by positivity
  refine ofUnits_eq_zero ?_
  generalize ((ofNat s).dividedBy (ofNat (tenTo maxPower))).units * unitsPerOne = num at hw ⊢
  generalize (ofNat (tenTo maxPower)).units = den at hw hden' ⊢
  generalize (10 : ℚ) ^ maxPower = T at hw hT hup hT0
  have hF : 0 ≤ fineRounding * (rounding * rounding) * rounding := by unfold fineRounding rounding; positivity
  have hsU : s * unitsPerOne ≤ 2 ^ 64 * (2 ^ 51 * T) :=
    mul_le_mul hs2 hup cast_unitsPerOne_pos.le (by positivity)
  have hsmall : 2 * ((num : ℚ) / den) < 1 := by
    calc 2 * ((num : ℚ) / den)
        ≤ 2 * (s / T / T * unitsPerOne * (fineRounding * (rounding * rounding) * rounding)) := by linarith [hw.1]
      _ = s * unitsPerOne * (2 * (fineRounding * (rounding * rounding) * rounding)) / (T * T) := by field_simp
      _ ≤ 2 ^ 64 * (2 ^ 51 * T) * (2 * (fineRounding * (rounding * rounding) * rounding)) / (T * T) :=
        div_le_div_of_nonneg_right (mul_le_mul_of_nonneg_right hsU (by linarith)) (by positivity)
      _ = 2 ^ 116 * (fineRounding * (rounding * rounding) * rounding) / T := by field_simp
      _ < 1 := by
        rw [div_lt_one hT0]
        refine lt_of_lt_of_le ?_ hT
        unfold fineRounding rounding; norm_num
  rw [← mul_div_assoc, div_lt_one hden'] at hsmall
  exact_mod_cast hsmall

theorem getD_isFinite (m : Magnitude) : (if m.isFinite then some m else none).getD .infinity = m := by
  split_ifs with h
  · rfl
  · exact (Double.eq_infinity (by simpa using h)).symm

/-- A decimal beyond the greatest power of ten is as good as infinite. -/
theorem near_infinity (h : (10 : ℚ) ^ (maxPower + 1) ≤ d.value * truncation) : Near 1 .infinity (ofDecimal d) := by
  obtain ⟨num, den, hden, hv, hr⟩ := exists_ofDecimal d
  have hgreat : infinityRank ≤ nearestRank (tenTo (maxPower + 1) * unitsPerOne) 1 := by decide +kernel
  have hfar : nearestRank (tenTo (maxPower + 1) * unitsPerOne) 1 ≤ nearestRank num den + 1 :=
    nearestRank_le_add hden Nat.one_pos Nat.one_pos (by
      rw [hv, Nat.cast_mul, cast_tenTo, Nat.cast_one, div_one, mul_right_comm]
      refine mul_le_mul_of_nonneg_right (h.trans ?_) cast_unitsPerOne_pos.le
      refine mul_le_mul_of_nonneg_left ?_ (by unfold Decimal.value; positivity)
      unfold truncation; norm_num)
  rw [hr]
  simp only [Near, rank_ofUnits, infinity]
  omega

theorem shrinkFully_zero (times : Nat) : shrinkFully times zero = zero := by
  cases times <;> simp [shrinkFully, zero]

theorem shrinkFully_of_two_le (h0 : 0 < s) (hs : s ≤ maxSignificand) (times : Nat) :
    shrinkFully (times + 2) (ofNat s) = zero := by
  rw [shrinkFully, shrinkFully, dividedBy_maxPower_twice h0 hs, shrinkFully_zero]
  split_ifs with h1 h2
  · exact eq_zero h1
  · exact eq_zero h2
  · rfl

/-- A decimal far below the least magnitude is rounded to nothing. -/
theorem ofDecimal_eq_zero_of_shrink {j : Nat} (hs : s ≤ maxSignificand) (hj : 2 * maxPower ≤ j)
    (hd : Within truncation (s / (10 : ℚ) ^ j) d.value) : ofDecimal d = zero := by
  have hs2 := cast_le_of_le_maxSignificand hs
  obtain ⟨hT, -, hup⟩ := maxPower_bounds
  have hT0 : (0 : ℚ) < 10 ^ maxPower := by positivity
  have hj : (10 : ℚ) ^ maxPower * 10 ^ maxPower ≤ 10 ^ j := by
    rw [← pow_add, ← Nat.two_mul]
    exact pow_le_pow_right₀ (by norm_num) hj
  generalize (10 : ℚ) ^ maxPower = T at hT hup hT0 hj
  have hd' : d.value ≤ 2 ^ 64 / (T * T) * 2 := by
    refine hd.2.trans
      (mul_le_mul (div_le_div₀ (by positivity) hs2 (by positivity) hj) ?_ truncation_nonneg (by positivity))
    unfold truncation; norm_num
  refine ofDecimal_eq_zero ?_
  calc 2 * (d.value * unitsPerOne) ≤ 2 * (2 ^ 64 / (T * T) * 2 * (2 ^ 51 * T)) := by
        have := mul_le_mul hd' hup cast_unitsPerOne_pos.le (by positivity)
        linarith
    _ = 2 ^ 117 / T := by field_simp
    _ < 1 := by
      rw [div_lt_one hT0]
      exact lt_of_lt_of_le (by norm_num) hT

/-- Shrinking a significand stays within six ranks of the decimal that is meant. -/
theorem near_shrink {j : Nat} (h0 : 0 < s) (hs : s ≤ maxSignificand) (hj : 0 < j)
    (hd : Within truncation (s / (10 : ℚ) ^ j) d.value) : Near 6 (shrink (ofNat s) j) (ofDecimal d) := by
  have hs0 : (0 : ℚ) < s := by exact_mod_cast h0
  have hw := within_ofNat h0 (hs.trans maxSignificand_le)
  unfold shrink
  simp only
  have hm := Nat.div_add_mod (j - 1) maxPower
  have hlt := Nat.mod_lt (j - 1) maxPower_pos
  have h308 := maxPower_le
  generalize (j - 1) / maxPower = t at hm ⊢
  match t with
  | 0 =>
    rw [shrinkFully, Nat.zero_mul, Nat.sub_zero]
    refine (near_dividedBy (by omega) hs0 hw rounding_nonneg truncation_nonneg hd (n := 3) (by decide) ?_).mono
      (by decide)
    unfold rounding truncation; norm_num
  | 1 =>
    have hrank : (ofNat s).rank ≠ 0 := fun h => by
      have := units_ofNat_pos h0 (hs.trans maxSignificand_le)
      rw [units_eq, h] at this
      exact absurd this (by decide)
    rw [shrinkFully, if_neg hrank, shrinkFully, Nat.one_mul]
    rw [show j = maxPower + (j - maxPower) by omega, pow_add, ← div_div] at hd
    refine near_dividedBy (by omega) (by positivity) (within_dividedBy_maxPower h0 hs) ?_ truncation_nonneg hd
      (by decide) ?_
    · unfold fineRounding rounding; positivity
    · unfold fineRounding rounding truncation; norm_num
  | t + 2 =>
    have h2 := Nat.mul_le_mul_left maxPower (Nat.le_add_left 2 t)
    have hsum : (t + 2) * maxPower = maxPower * (t + 2) := Nat.mul_comm _ _
    rw [ofDecimal_eq_zero_of_shrink hs (by omega) hd, shrinkFully_of_two_le h0 hs,
      zero_dividedBy (units_tenTo_pos (by omega))]
    exact (Near.refl _).mono (by decide)

/-- Scaling stays within six ranks of the decimal that is meant; what it finds too great counts as
infinity. -/
theorem near_scale? {p : Int} (h0 : 0 < s) (hs : s ≤ maxSignificand)
    (hd : Within truncation (s * (10 : ℚ) ^ p) d.value) :
    Near 6 ((scale? s p).getD .infinity) (ofDecimal d) := by
  have hs0 : (0 : ℚ) < s := by exact_mod_cast h0
  unfold scale?
  simp only
  by_cases hp : 0 ≤ p
  · obtain ⟨k, rfl⟩ := Int.eq_ofNat_of_zero_le hp
    rw [if_pos hp]
    by_cases hle : (k : Int) ≤ maxPower
    · have hk : k ≤ 308 := (Int.ofNat_le.1 hle).trans maxPower_le
      rw [if_pos hle, getD_isFinite, Int.toNat_natCast]
      rw [zpow_natCast] at hd
      refine (near_times hk hs0 (within_ofNat h0 (hs.trans maxSignificand_le)) rounding_nonneg truncation_nonneg hd
        (n := 3) (by decide) ?_).mono (by decide)
      unfold rounding truncation; norm_num
    · rw [if_neg hle, if_neg h0.ne']
      have hpow : (10 : ℚ) ^ (maxPower + 1) ≤ s * 10 ^ (k : Int) := by
        have h1 : (1 : ℚ) ≤ s := by exact_mod_cast h0
        rw [zpow_natCast]
        exact (pow_le_pow_right₀ (by norm_num) (by omega)).trans (le_mul_of_one_le_left (by positivity) h1)
      exact (near_infinity (hpow.trans hd.1)).mono (by decide)
  · rw [if_neg hp, Option.getD_some]
    refine near_shrink h0 hs (by omega) ?_
    rw [← zpow_natCast, div_eq_mul_inv, ← zpow_neg, show -(p.natAbs : Int) = p by omega]
    exact hd

/-! ## Scaling without loss -/

theorem scale?_zero (p : Int) : scale? 0 p = some zero := by
  have htimes (m : Magnitude) : zero.times m = zero := by
    refine ofUnits_eq_zero ?_
    rw [show zero.units = 0 by decide, Nat.zero_mul]
    exact unitsPerOne_pos
  simp only [scale?, ofNat_zero, htimes, shrink, shrinkFully_zero]
  split_ifs with hp hle hfin
  · rfl
  · exact absurd (by decide) hfin
  · rfl
  · have hm := Nat.div_add_mod (p.natAbs - 1) maxPower
    have hlt := Nat.mod_lt (p.natAbs - 1) maxPower_pos
    have h308 := maxPower_le
    rw [Nat.mul_comm] at hm
    rw [zero_dividedBy (units_tenTo_pos (by omega))]

/-- A significand and a power of ten that are doubles of their own are scaled with one rounding. -/
theorem scale?_eq_ofDecimal {p : Int} (hs : s ≤ twoTo 53) (hp : p.natAbs ≤ 22) :
    scale? s p = some (ofDecimal ⟨s, p⟩) := by
  have hunits : (ofNat s).units = s * unitsPerOne :=
    units_ofNat (e := 0) (Nat.mul_one s).symm hs
      (hs.trans ((by decide : twoTo 53 ≤ tenTo 16).trans (tenTo_le (by decide))))
  have hmax := le_maxPower
  have hfinite := isFinite_ofDecimal hs (show p ≤ 22 by omega)
  unfold scale?
  simp only
  by_cases hp0 : 0 ≤ p
  · obtain ⟨k, rfl⟩ := Int.eq_ofNat_of_zero_le hp0
    rw [if_pos hp0, if_pos (by omega), Int.toNat_natCast, times_tenTo hunits (by omega), if_pos hfinite]
  · obtain ⟨k, rfl⟩ : ∃ k : Nat, p = -k := ⟨p.natAbs, by omega⟩
    rw [if_neg hp0, Int.natAbs_neg, Int.natAbs_natCast]
    unfold shrink
    simp only
    rw [Nat.div_eq_of_lt (by omega), shrinkFully, Nat.zero_mul, Nat.sub_zero, dividedBy_tenTo hunits (by omega)]

end Json

end WhereFilter
