/-
Laws of rounding: the result depends on the value of a quotient alone, every finite magnitude is
rounded to itself, and the answers for exponents beyond the range are the rounded ones. So what a
decimal denotes depends on its value alone, however it is written.
-/
import WhereFilter.Double.Shortest
import Mathlib.Algebra.Order.Field.Power
import Mathlib.Data.Rat.Cast.Order
import Mathlib.Tactic.FieldSimp
import Mathlib.Tactic.Linarith
import Mathlib.Tactic.NormNum
import Mathlib.Tactic.Positivity
import Mathlib.Tactic.Ring

namespace WhereFilter

/-! ## Powers -/

theorem twoTo_pos (n : Nat) : 0 < twoTo n := Nat.pow_pos (by decide)

theorem tenTo_pos (n : Nat) : 0 < tenTo n := Nat.pow_pos (by decide)

theorem twoTo_add (m n : Nat) : twoTo (m + n) = twoTo m * twoTo n := Nat.pow_add 2 m n

theorem tenTo_add (m n : Nat) : tenTo (m + n) = tenTo m * tenTo n := Nat.pow_add 10 m n

theorem tenTo_succ (n : Nat) : tenTo (n + 1) = 10 * tenTo n := Nat.pow_succ'

theorem twoTo_le {m n : Nat} (h : m ≤ n) : twoTo m ≤ twoTo n := Nat.pow_le_pow_right (by decide) h

theorem twoTo_le_tenTo (n : Nat) : twoTo (3 * n) ≤ tenTo n := by
  show 2 ^ (3 * n) ≤ 10 ^ n
  rw [Nat.pow_mul]
  exact Nat.pow_le_pow_left (by decide) n

theorem tenTo_eq_mul (n : Nat) : tenTo n = Nat.pow 5 n * twoTo n := Nat.mul_pow 5 2 n

/-! ## Quotients -/

/-- A whole quotient is rounded to itself. -/
theorem roundHalfEven_mul_self (q den : Nat) (hd : 0 < den) : roundHalfEven (q * den) den = q := by
  simp [roundHalfEven, Nat.mul_div_cancel _ hd, hd]

theorem roundHalfEven_mul (k num den : Nat) (hk : 0 < k) :
    roundHalfEven (k * num) (k * den) = roundHalfEven num den := by
  have hlt (a b : Nat) : 2 * (k * a) < k * b ↔ 2 * a < b := by
    rw [show 2 * (k * a) = k * (2 * a) by ring]; exact Nat.mul_lt_mul_left hk
  have hgt (a b : Nat) : k * b < 2 * (k * a) ↔ b < 2 * a := by
    rw [show 2 * (k * a) = k * (2 * a) by ring]; exact Nat.mul_lt_mul_left hk
  simp only [roundHalfEven, Nat.mul_div_mul_left _ _ hk, Nat.mul_mod_mul_left, hlt, hgt]

namespace Magnitude

theorem ofUnits_mul (k num den : Nat) (hk : 0 < k) : ofUnits (k * num) (k * den) = ofUnits num den := by
  simp only [ofUnits, Nat.mul_div_mul_left _ _ hk, Nat.mul_assoc, roundHalfEven_mul k _ _ hk]

/-- Equal quotients are rounded to the same magnitude. -/
theorem ofUnits_congr {num den num' den' : Nat} (hd : 0 < den) (hd' : 0 < den') (h : num * den' = num' * den) :
    ofUnits num den = ofUnits num' den' := by
  rw [← ofUnits_mul den' num den hd', Nat.mul_comm den' num, h, Nat.mul_comm num', Nat.mul_comm den',
    ofUnits_mul den _ _ hd]

theorem ofRatio_congr {num den num' den' : Nat} (hd : 0 < den) (hd' : 0 < den') (h : num * den' = num' * den) :
    ofRatio num den = ofRatio num' den' := by
  unfold ofRatio
  generalize unitsPerOne = u
  exact ofUnits_congr hd hd' (by rw [Nat.mul_right_comm, h, Nat.mul_right_comm])

/-! ## Finite magnitudes -/

/-- Every finite magnitude is rounded to itself. -/
theorem ofUnits_units {m : Magnitude} (h : m.isFinite = true) : ofUnits m.units 1 = m := by
  obtain ⟨rank, hle⟩ := m
  have hlt : rank < infinityRank := by simpa [isFinite] using h
  suffices (units ⟨rank, hle⟩ / 1).log2 - 52 = rank / twoTo 52 - 1 ∧
      roundHalfEven (units ⟨rank, hle⟩) (1 * twoTo (rank / twoTo 52 - 1)) =
        rank - (rank / twoTo 52 - 1) * twoTo 52 by
    have hr : (rank / twoTo 52 - 1) * twoTo 52 ≤ rank :=
      (Nat.mul_le_mul_right _ (Nat.sub_le _ _)).trans (Nat.div_mul_le_self _ _)
    simp only [ofUnits, this.1, this.2, Magnitude.mk.injEq]
    omega
  rw [Nat.div_one, Nat.one_mul]
  by_cases hs : rank < twoTo 52
  · -- the finest magnitudes are their own units
    have hu : units ⟨rank, hle⟩ = rank := if_pos hs
    have hq : rank / twoTo 52 = 0 := Nat.div_eq_of_lt hs
    rw [hu, hq]
    refine ⟨?_, by simpa using roundHalfEven_mul_self rank 1 (by decide)⟩
    by_cases h0 : rank = 0
    · subst h0; decide
    · have := (Nat.log2_lt h0).2 hs
      omega
  · have hu : units ⟨rank, hle⟩ = (twoTo 52 + rank % twoTo 52) * twoTo (rank / twoTo 52 - 1) := if_neg hs
    have he : 1 ≤ rank / twoTo 52 := (Nat.le_div_iff_mul_le (twoTo_pos 52)).2 (by omega)
    have hm := Nat.div_add_mod rank (twoTo 52)
    have hmod := Nat.mod_lt rank (twoTo_pos 52)
    rw [hu]
    generalize rank / twoTo 52 = e at he hm ⊢
    generalize rank % twoTo 52 = f at hm hmod ⊢
    obtain ⟨e, rfl⟩ : ∃ k, e = k + 1 := ⟨e - 1, by omega⟩
    rw [Nat.add_sub_cancel]
    constructor
    · have hpos : (twoTo 52 + f) * twoTo e ≠ 0 :=
        Nat.mul_ne_zero (by have := twoTo_pos 52; omega) (twoTo_pos e).ne'
      have : ((twoTo 52 + f) * twoTo e).log2 = 52 + e := by
        rw [Nat.log2_eq_iff hpos]
        constructor
        · rw [Nat.pow_add]; exact Nat.mul_le_mul_right _ (Nat.le_add_right _ _)
        · rw [show 52 + e + 1 = 53 + e by omega, Nat.pow_add]
          refine Nat.mul_lt_mul_of_pos_right ?_ (twoTo_pos e)
          have : twoTo 53 = 2 * twoTo 52 := rfl
          show twoTo 52 + f < twoTo 53
          omega
      omega
    · rw [roundHalfEven_mul_self _ _ (twoTo_pos e)]
      rw [Nat.mul_comm, Nat.add_mul, Nat.one_mul] at hm
      omega

/-! ## Beyond the range -/

theorem ofUnits_eq_zero {num den : Nat} (h : 2 * num < den) : ofUnits num den = zero := by
  have hq : num / den = 0 := Nat.div_eq_of_lt (by omega)
  have hs : (num / den).log2 - 52 = 0 := by rw [hq]; decide
  have h1 : roundHalfEven num (den * twoTo 0) = 0 := by
    rw [show den * twoTo 0 = den from Nat.mul_one den]
    simp [roundHalfEven, hq, Nat.mod_eq_of_lt (show num < den by omega), h]
  simp only [ofUnits, hs, h1, Nat.zero_mul, Nat.add_zero, Nat.min_zero, zero]

theorem ofUnits_eq_infinity {num den k : Nat} (hd : 0 < den) (hk : 2099 ≤ k) (h : den * twoTo k ≤ num) :
    ofUnits num den = infinity := by
  have hq : twoTo k ≤ num / den := (Nat.le_div_iff_mul_le hd).2 (by rwa [Nat.mul_comm])
  have hlog : k ≤ (num / den).log2 := (Nat.le_log2 (by have := twoTo_pos k; omega)).2 hq
  have hrank : infinityRank ≤ ((num / den).log2 - 52) * twoTo 52 :=
    Nat.mul_le_mul_right _ (by omega)
  simp only [ofUnits, infinity, Magnitude.mk.injEq]
  exact Nat.min_eq_left (hrank.trans (Nat.le_add_right _ _))

end Magnitude

/-! ## Decimals -/

theorem cast_tenTo (n : Nat) : ((tenTo n : ℕ) : ℚ) = (10 : ℚ) ^ n := Nat.cast_pow 10 n

/-- The number that a decimal is. -/
def Decimal.value (d : Decimal) : ℚ := d.coefficient * (10 : ℚ) ^ d.exponent

namespace Magnitude

theorem unitsPerOne_eq : unitsPerOne = twoTo places := by unfold unitsPerOne places; rfl

/-- Every decimal is rounded as the quotient that it is, whatever its exponent. -/
theorem ofDecimal_eq (d : Decimal) :
    ofDecimal d = ofRatio (d.coefficient * tenTo d.exponent.toNat) (tenTo (-d.exponent).toNat) := by
  obtain ⟨c, e⟩ := d
  have hone : c * tenTo 0 = c := Nat.mul_one c
  simp only [ofDecimal, ofRatio, unitsPerOne_eq]
  -- the power of two stays a name, as it is too large to be computed
  generalize hp : places = p
  have hp' : p = 1074 := hp.symm
  split_ifs with hc he hbig hsmall
  · rw [hc, Nat.zero_mul, Nat.zero_mul]
    exact (ofUnits_eq_zero (tenTo_pos _)).symm
  · have hlarge : twoTo (3 * e.toNat) ≤ c * tenTo e.toNat :=
      (twoTo_le_tenTo _).trans (Nat.le_mul_of_pos_left _ (Nat.pos_of_ne_zero hc))
    rw [show (-e).toNat = 0 by omega]
    refine (ofUnits_eq_infinity (k := 3 * e.toNat + p) Nat.one_pos (by omega) ?_).symm
    rw [twoTo_add]
    exact (Nat.one_mul _).trans_le (Nat.mul_le_mul_right _ hlarge)
  · rw [show (-e).toNat = 0 by omega]
  · rw [show e.toNat = 0 by omega, hone, show (-e).toNat = e.natAbs by omega]
    refine (ofUnits_eq_zero ?_).symm
    have hlt : c < twoTo (c.log2 + 1) := Nat.lt_log2_self
    calc 2 * (c * twoTo p) < 2 * (twoTo (c.log2 + 1) * twoTo p) :=
          Nat.mul_lt_mul_of_pos_left (Nat.mul_lt_mul_of_pos_right hlt (twoTo_pos _)) (by decide)
      _ = twoTo (1 + (c.log2 + 1 + p)) := by rw [twoTo_add 1, twoTo_add _ p]
      _ ≤ twoTo (3 * e.natAbs) := twoTo_le (by omega)
      _ ≤ tenTo e.natAbs := twoTo_le_tenTo _
  · rw [show e.toNat = 0 by omega, hone, show (-e).toNat = e.natAbs by omega]

/-- Decimals of one value denote the same magnitude. -/
theorem ofDecimal_congr {d d' : Decimal} (h : d.value = d'.value) : ofDecimal d = ofDecimal d' := by
  have hv (d : Decimal) : ((d.coefficient * tenTo d.exponent.toNat : ℕ) : ℚ) =
      d.value * (tenTo (-d.exponent).toNat : ℕ) := by
    have h10 : (10 : ℚ) ^ d.exponent * (10 : ℚ) ^ (-d.exponent).toNat = (10 : ℚ) ^ d.exponent.toNat := by
      rw [← zpow_natCast, ← zpow_natCast, ← zpow_add₀ (by norm_num)]
      congr 1; omega
    rw [Nat.cast_mul, cast_tenTo, cast_tenTo, Decimal.value, mul_assoc, h10]
  rw [ofDecimal_eq, ofDecimal_eq]
  refine ofRatio_congr (tenTo_pos _) (tenTo_pos _) ?_
  have : (((d.coefficient * tenTo d.exponent.toNat) * tenTo (-d'.exponent).toNat : ℕ) : ℚ) =
      ((d'.coefficient * tenTo d'.exponent.toNat) * tenTo (-d.exponent).toNat : ℕ) := by
    rw [Nat.cast_mul, hv d, Nat.cast_mul _ (tenTo (-d.exponent).toNat), hv d', h]
    ring
  exact_mod_cast this

/-! ## The shortest decimal -/

/-- The decimal with all digits of a finite magnitude denotes it. -/
theorem ofDecimal_exactDecimal {m : Magnitude} (h : m.isFinite = true) : ofDecimal m.exactDecimal = m := by
  have e (p : Nat) : m.units * Nat.pow 5 p * twoTo p = tenTo p * m.units := by
    rw [tenTo_eq_mul]; ring
  rw [ofDecimal_eq, ofRatio, unitsPerOne_eq, exactDecimal, scaled]
  generalize places = p
  simp only [show (-(p : Int)).toNat = 0 by omega, show (- -(p : Int)).toNat = p by omega]
  rw [show tenTo 0 = 1 from rfl, Nat.mul_one, e, ← Nat.mul_one (tenTo p), Nat.mul_assoc, Nat.one_mul,
    ofUnits_mul _ _ _ (tenTo_pos _), ofUnits_units h]

theorem ofDecimal_of_decimalDropping {tie : Tie} {m : Magnitude} {dropped : Nat} {d : Decimal}
    (h : m.decimalDropping? tie dropped = some d) : ofDecimal d = m := by
  simp only [decimalDropping?] at h
  split_ifs at h <;> cases h <;> assumption

/-- The shortest decimal of a finite magnitude denotes it. -/
theorem ofDecimal_shortest (tie : Tie) {m : Magnitude} (h : m.isFinite = true) :
    ofDecimal (m.shortest tie) = m := by
  unfold shortest
  simp only
  generalize hs : (List.range 18).findSome? _ = found
  cases found with
  | none => exact ofDecimal_exactDecimal h
  | some d =>
    obtain ⟨i, -, hi⟩ := List.exists_of_findSome?_eq_some hs
    exact ofDecimal_of_decimalDropping hi

end Magnitude

end WhereFilter
