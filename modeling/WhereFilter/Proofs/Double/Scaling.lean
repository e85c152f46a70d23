/-
Rounding whole numbers, powers of ten, and products and quotients of them. Every rounding brings in a
small factor (`within_times`, `within_dividedBy`), so the outcome lies few ranks from the magnitude of
the decimal that was meant (`near_times`, `near_dividedBy`); numbers of few binary digits are not
changed at all (`times_tenTo`, `dividedBy_tenTo`).
-/
import WhereFilter.Proofs.Double.Nearness
import WhereFilter.Proofs.Double.Rounding

namespace WhereFilter

-- the number of units in one is too large to be computed wherever it occurs
attribute [local irreducible] Magnitude.unitsPerOne Magnitude.places

namespace Magnitude

/-! ## Decimals in units -/

theorem unitsPerOne_pos : 0 < unitsPerOne := by rw [unitsPerOne_eq]; exact twoTo_pos _

theorem cast_unitsPerOne_pos : (0 : ℚ) < unitsPerOne := by exact_mod_cast unitsPerOne_pos

/-- A decimal is rounded as its value in units. -/
theorem exists_ofDecimal (d : Decimal) :
    ∃ num den : Nat, 0 < den ∧ (num : ℚ) / den = d.value * unitsPerOne ∧ ofDecimal d = ofUnits num den := by
  refine ⟨d.coefficient * tenTo d.exponent.toNat * unitsPerOne, tenTo (-d.exponent).toNat, tenTo_pos _, ?_,
    ofDecimal_eq d⟩
  have h10 : (10 : ℚ) ^ d.exponent = 10 ^ d.exponent.toNat / 10 ^ (-d.exponent).toNat := by
    rw [eq_div_iff (by positivity), ← zpow_natCast, ← zpow_natCast, ← zpow_add₀ (by norm_num)]
    congr 1; omega
  rw [Decimal.value, h10, Nat.cast_mul, Nat.cast_mul, cast_tenTo, cast_tenTo]
  ring

theorem near_ofDecimal {num den k : Nat} {d : Decimal} {f : ℚ} (hd : 0 < den) (hk : 0 < k)
    (h : Within f (num / den) (d.value * unitsPerOne)) (hf : f ≤ 1 + k / 2 ^ 53) :
    Near k (ofUnits num den) (ofDecimal d) := by
  obtain ⟨num', den', hd', hv, hr⟩ := exists_ofDecimal d
  rw [hr]
  exact near_of_within hd hd' hk (hv ▸ h) hf

theorem ofDecimal_eq_zero {d : Decimal} (h : 2 * (d.value * unitsPerOne) < 1) : ofDecimal d = zero := by
  obtain ⟨num, den, hd, hv, hr⟩ := exists_ofDecimal d
  have hd0 : (0 : ℚ) < den := by exact_mod_cast hd
  rw [hr]
  refine ofUnits_eq_zero ?_
  rw [← hv, ← mul_div_assoc, div_lt_one hd0] at h
  exact_mod_cast h

/-! ## Whole numbers -/

theorem isFinite_of_le {num den : Nat} (hd : 0 < den) (h : (num : ℚ) / den ≤ tenTo 308 * unitsPerOne) :
    (ofUnits num den).isFinite = true := by
  rw [isFinite_ofUnits]
  have hgreat : nearestRank (tenTo 308 * unitsPerOne) 1 + 1 < infinityRank := by decide +kernel
  refine Nat.lt_of_le_of_lt (nearestRank_le_add Nat.one_pos hd Nat.one_pos ?_) hgreat
  rw [Nat.cast_mul, Nat.cast_one, div_one]
  refine h.trans (le_mul_of_one_le_right (mul_nonneg (by positivity) cast_unitsPerOne_pos.le) ?_)
  norm_num

theorem ofNat_eq (n : Nat) : ofNat n = ofUnits (n * unitsPerOne) 1 := rfl

theorem ofNat_zero : ofNat 0 = zero := by
  rw [ofNat_eq, Nat.zero_mul]
  exact ofUnits_eq_zero (by decide)

theorem isFinite_ofNat {n : Nat} (h : n ≤ tenTo 308) : (ofNat n).isFinite = true := by
  rw [ofNat_eq]
  refine isFinite_of_le Nat.one_pos ?_
  rw [Nat.cast_one, div_one, Nat.cast_mul]
  exact mul_le_mul_of_nonneg_right (by exact_mod_cast h) cast_unitsPerOne_pos.le

/-- The largest error of one rounding, as a factor. -/
def rounding : ℚ := 1 + 1 / 2 ^ 53

theorem rounding_nonneg : 0 ≤ rounding := by unfold rounding; positivity

theorem within_units_of_large {num den : Nat} (hd : 0 < den) (h : twoTo 52 * den ≤ num)
    (hfin : (ofUnits num den).isFinite = true) : Within rounding (ofUnits num den).units (num / den) := by
  have h2 : rounding = 1 + 1 / (2 * (twoTo 52 : ℕ)) := by rw [rounding, cast_twoTo]; norm_num
  rw [h2]
  exact within_units hd (twoTo_pos 52) (Nat.le_refl _) h hfin

theorem within_ofNat {n : Nat} (h0 : 0 < n) (h : n ≤ tenTo 308) :
    Within rounding (ofNat n).units (n * unitsPerOne) := by
  have hlarge : twoTo 52 * 1 ≤ n * unitsPerOne := by
    rw [Nat.mul_comm n]
    exact Nat.mul_le_mul (unitsPerOne_eq ▸ twoTo_le (by rw [places]; decide)) h0
  have := within_units_of_large Nat.one_pos hlarge (isFinite_ofNat h)
  rwa [Nat.cast_one, div_one, Nat.cast_mul] at this

theorem units_ofNat_pos {n : Nat} (h0 : 0 < n) (h : n ≤ tenTo 308) : 0 < (ofNat n).units := by
  refine Nat.pos_of_ne_zero fun hu => ?_
  have hw := (within_ofNat h0 h).2
  rw [hu, Nat.cast_zero, zero_mul] at hw
  have hn : (0 : ℚ) < n := by exact_mod_cast h0
  exact absurd (mul_pos hn cast_unitsPerOne_pos) (not_lt.2 hw)

theorem tenTo_le {m n : Nat} (h : m ≤ n) : tenTo m ≤ tenTo n := Nat.pow_le_pow_right (by decide) h

variable {k : Nat} {x f : ℚ} {m : Magnitude}

theorem within_tenTo (hk : k ≤ 308) : Within rounding (ofNat (tenTo k)).units (10 ^ k * unitsPerOne) := by
  have := within_ofNat (tenTo_pos k) (tenTo_le hk)
  rwa [cast_tenTo] at this

theorem units_tenTo_pos (hk : k ≤ 308) : 0 < (ofNat (tenTo k)).units := units_ofNat_pos (tenTo_pos k) (tenTo_le hk)

/-- One more factor for a product with a power of ten, before it is rounded. -/
theorem within_times (hk : k ≤ 308) (hx : 0 ≤ x) (h : Within f m.units (x * unitsPerOne)) :
    Within (f * rounding) ((m.units * (ofNat (tenTo k)).units : ℕ) / unitsPerOne) (x * 10 ^ k * unitsPerOne) := by
  have hU := cast_unitsPerOne_pos
  have hmul := h.mul (Nat.cast_nonneg _) (by positivity) (Nat.cast_nonneg _) (by positivity) (within_tenTo hk)
  have := hmul.div (mul_nonneg (Nat.cast_nonneg _) (Nat.cast_nonneg _)) (by positivity) hU hU (Within.refl _)
  rw [mul_one] at this
  rw [Nat.cast_mul]
  convert this using 1
  field_simp

/-- One more factor for a quotient by a power of ten, before it is rounded. -/
theorem within_dividedBy (hk : k ≤ 308) (hx : 0 ≤ x) (h : Within f m.units (x * unitsPerOne)) :
    Within (f * rounding) ((m.units * unitsPerOne : ℕ) / (ofNat (tenTo k)).units) (x / 10 ^ k * unitsPerOne) := by
  have hU := cast_unitsPerOne_pos
  have hpos : (0 : ℚ) < (ofNat (tenTo k)).units := by exact_mod_cast units_tenTo_pos hk
  have hdiv := h.div (Nat.cast_nonneg _) (by positivity) hpos (by positivity) (within_tenTo hk)
  have := hdiv.mul (div_nonneg (Nat.cast_nonneg _) hpos.le) (by positivity) hU.le hU.le (Within.refl _)
  rw [mul_one] at this
  rw [Nat.cast_mul]
  convert this using 1
  · ring
  · field_simp

theorem eq_zero {m : Magnitude} (h : m.rank = 0) : m = zero := by
  obtain ⟨rank, hle⟩ := m
  obtain rfl : rank = 0 := h
  rfl

theorem zero_dividedBy {m : Magnitude} (hm : 0 < m.units) : zero.dividedBy m = zero := by
  refine ofUnits_eq_zero ?_
  rw [show zero.units = 0 by decide, Nat.zero_mul]
  exact hm

/-! ## One scaling -/

variable {n : Nat} {g : ℚ} {d : Decimal}

/-- A quotient that is a decimal in units, but for small factors, is rounded to a magnitude near the decimal's. -/
theorem near_of_value {num den : Nat} {y : ℚ} (hden : 0 < den) (hy : 0 ≤ y) (h : Within f (num / den) (y * unitsPerOne))
    (hf : 0 ≤ f) (hg : 0 ≤ g) (hd : Within g y d.value) (hn : 0 < n) (hfg : f * g ≤ 1 + n / 2 ^ 53) :
    Near n (ofUnits num den) (ofDecimal d) := by
  have hU := cast_unitsPerOne_pos
  have hv : 0 ≤ d.value := by unfold Decimal.value; positivity
  have hdU := hd.mul hy hv hU.le hU.le (Within.refl _)
  rw [mul_one] at hdU
  exact near_ofDecimal hden hn (h.trans hf hg hdU) hfg

theorem near_times (hk : k ≤ 308) (hx : 0 < x) (h : Within f m.units (x * unitsPerOne)) (hf : 0 ≤ f) (hg : 0 ≤ g)
    (hd : Within g (x * 10 ^ k) d.value) (hn : 0 < n) (hfg : f * rounding * g ≤ 1 + n / 2 ^ 53) :
    Near n (m.times (ofNat (tenTo k))) (ofDecimal d) :=
  near_of_value unitsPerOne_pos (by positivity) (within_times hk hx.le h) (mul_nonneg hf rounding_nonneg) hg hd hn hfg

theorem near_dividedBy (hk : k ≤ 308) (hx : 0 < x) (h : Within f m.units (x * unitsPerOne)) (hf : 0 ≤ f) (hg : 0 ≤ g)
    (hd : Within g (x / 10 ^ k) d.value) (hn : 0 < n) (hfg : f * rounding * g ≤ 1 + n / 2 ^ 53) :
    Near n (m.dividedBy (ofNat (tenTo k))) (ofDecimal d) :=
  near_of_value (units_tenTo_pos hk) (by positivity) (within_dividedBy hk hx.le h) (mul_nonneg hf rounding_nonneg) hg hd
    hn hfg

/-! ## Exact scaling -/

/-- Few binary digits with zeros behind them make a whole number that is a double of its own. -/
theorem units_ofNat {n a e : Nat} (hn : n = a * twoTo e) (ha : a ≤ twoTo 53) (h : n ≤ tenTo 308) :
    (ofNat n).units = n * unitsPerOne := by
  obtain ⟨rank, hrank⟩ : ∃ rank, rankUnits rank = n * unitsPerOne := by
    rw [hn, unitsPerOne_eq, Nat.mul_assoc, ← twoTo_add]
    exact exists_rankUnits _ ha
  have hlt : rank < infinityRank := by
    have hgreat : tenTo 308 * unitsPerOne < rankUnits infinityRank := by decide +kernel
    by_contra hle
    have := rankUnits_mono (Nat.le_of_not_lt hle)
    have := Nat.mul_le_mul_right unitsPerOne h
    omega
  have hm : ofUnits (rankUnits rank) 1 = ⟨rank, hlt.le⟩ := by
    have := ofUnits_units (m := ⟨rank, hlt.le⟩) (decide_eq_true hlt)
    rwa [units_eq] at this
  rw [ofNat_eq, ← hrank, hm, units_eq]

theorem units_ofNat_tenTo {k : Nat} (hk : k ≤ 22) : (ofNat (tenTo k)).units = tenTo k * unitsPerOne := by
  refine units_ofNat (tenTo_eq_mul k) ?_ (tenTo_le (by omega))
  exact (Nat.pow_le_pow_right (by decide) hk).trans (by decide)

variable {s : Nat}

theorem times_tenTo {k : Nat} (hs : (ofNat s).units = s * unitsPerOne) (hk : k ≤ 22) :
    (ofNat s).times (ofNat (tenTo k)) = ofDecimal ⟨s, k⟩ := by
  rw [ofDecimal_eq]
  show ofUnits ((ofNat s).units * (ofNat (tenTo k)).units) unitsPerOne = ofUnits _ _
  rw [hs, units_ofNat_tenTo hk, Int.toNat_natCast, show (-(k : Int)).toNat = 0 by omega,
    ← ofUnits_mul unitsPerOne _ (tenTo 0) unitsPerOne_pos, show tenTo 0 = 1 from rfl, Nat.mul_one,
    Nat.mul_comm unitsPerOne, Nat.mul_mul_mul_comm, ← Nat.mul_assoc]

theorem dividedBy_tenTo {k : Nat} (hs : (ofNat s).units = s * unitsPerOne) (hk : k ≤ 22) :
    (ofNat s).dividedBy (ofNat (tenTo k)) = ofDecimal ⟨s, -k⟩ := by
  rw [ofDecimal_eq]
  show ofUnits ((ofNat s).units * unitsPerOne) (ofNat (tenTo k)).units = ofUnits _ _
  rw [hs, units_ofNat_tenTo hk, show (-(k : Int)).toNat = 0 by omega, show (- -(k : Int)).toNat = k by omega,
    show tenTo 0 = 1 from rfl, Nat.mul_one, Nat.mul_comm (s * unitsPerOne), Nat.mul_comm (tenTo k),
    ofUnits_mul _ _ _ unitsPerOne_pos]

theorem isFinite_ofDecimal {p : Int} (hs : s ≤ twoTo 53) (hp : p ≤ 22) : (ofDecimal ⟨s, p⟩).isFinite = true := by
  obtain ⟨num, den, hden, hv, hr⟩ := exists_ofDecimal ⟨s, p⟩
  rw [hr]
  refine isFinite_of_le hden (hv.trans_le (mul_le_mul_of_nonneg_right ?_ cast_unitsPerOne_pos.le))
  have hgreat : twoTo 53 * tenTo 22 ≤ tenTo 308 := calc
    twoTo 53 * tenTo 22 ≤ tenTo 18 * tenTo 22 := Nat.mul_le_mul_right _ (by decide)
    _ = tenTo 40 := (tenTo_add 18 22).symm
    _ ≤ tenTo 308 := tenTo_le (by decide)
  calc (s : ℚ) * 10 ^ p ≤ twoTo 53 * 10 ^ (22 : Int) :=
        mul_le_mul (by exact_mod_cast hs) (zpow_le_zpow_right₀ (by norm_num) hp) (by positivity) (by positivity)
    _ = twoTo 53 * tenTo 22 := by rw [cast_tenTo]; rfl
    _ ≤ tenTo 308 := by exact_mod_cast hgreat

theorem ofNat_times_one (hs : s ≤ tenTo 308) : (ofNat s).times (ofNat (tenTo 0)) = ofNat s := by
  have hone := units_ofNat_tenTo (Nat.zero_le 22)
  rw [show tenTo 0 = 1 from rfl, Nat.one_mul] at hone
  show ofUnits ((ofNat s).units * (ofNat 1).units) unitsPerOne = ofNat s
  have h := ofUnits_mul unitsPerOne (ofNat s).units 1 unitsPerOne_pos
  rw [Nat.mul_one] at h
  rw [hone, Nat.mul_comm, h, ofUnits_units (isFinite_ofNat hs)]

end Magnitude

end WhereFilter
