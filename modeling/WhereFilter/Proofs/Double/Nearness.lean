/-
How rounding moves with the number that is rounded. Between two neighbouring ranks lies the number
half way, and on which side of it a quotient stands decides its rank (`nearestRank_le`,
`lt_nearestRank`): a quotient lies in the interval of its rank (`inInterval_nearestRank`). So
quotients that differ by a small factor are rounded to ranks that are few steps apart
(`nearestRank_le_add`), and what is not too small is rounded to units that differ from it by a small
factor (`within_units`).
-/
import WhereFilter.Proofs.Double.Rounding
import Mathlib.Order.Monotone.Basic

namespace WhereFilter

/-! ## Rounding quotients -/

theorem roundHalfEven_bounds (num : Nat) {den : Nat} (hd : 0 < den) :
    2 * num ≤ (2 * roundHalfEven num den + 1) * den ∧ 2 * roundHalfEven num den * den ≤ 2 * num + den := by
  have hm := Nat.div_add_mod num den
  have hr := Nat.mod_lt num hd
  simp only [roundHalfEven]
  generalize num / den = q at hm ⊢
  generalize num % den = r at hm hr ⊢
  have e1 : (2 * q + 1) * den = 2 * (den * q) + den := by ring
  have e2 : (2 * (q + 1) + 1) * den = 2 * (den * q) + 3 * den := by ring
  have e3 : 2 * q * den = 2 * (den * q) := by ring
  have e4 : 2 * (q + 1) * den = 2 * (den * q) + 2 * den := by ring
  split_ifs with hlow hup
  · omega
  · omega
  · rcases Nat.mod_two_eq_zero_or_one q with hq | hq <;> rw [hq]
    · simp only [Nat.add_zero]; omega
    · omega

theorem roundHalfEven_le {num den n : Nat} (hd : 0 < den) (h : num ≤ n * den) : roundHalfEven num den ≤ n := by
  by_contra hn
  have h1 := (roundHalfEven_bounds num hd).2
  have h2 : (n + 1) * den ≤ roundHalfEven num den * den := Nat.mul_le_mul_right _ (by omega)
  have e : (n + 1) * den = n * den + den := by ring
  have e' : 2 * roundHalfEven num den * den = 2 * (roundHalfEven num den * den) := by ring
  omega

theorem le_roundHalfEven {num den n : Nat} (hd : 0 < den) (h : n * den ≤ num) : n ≤ roundHalfEven num den := by
  by_contra hn
  have h1 := (roundHalfEven_bounds num hd).1
  have h2 : (roundHalfEven num den + 1) * den ≤ n * den := Nat.mul_le_mul_right _ (by omega)
  have e : (roundHalfEven num den + 1) * den = roundHalfEven num den * den + den := by ring
  have e' : (2 * roundHalfEven num den + 1) * den = 2 * (roundHalfEven num den * den) + den := by ring
  omega

namespace Magnitude

/-! ## Units of a rank -/

/-- The distance from the magnitude of a rank to the next one. -/
def step (rank : Nat) : Nat := twoTo (rank / twoTo 52 - 1)

/-- The units of the magnitude of a rank, as if there were no greatest one. -/
def rankUnits (rank : Nat) : Nat := (rank - (rank / twoTo 52 - 1) * twoTo 52) * step rank

theorem twoTo_53 : twoTo 53 = 2 * twoTo 52 := rfl

theorem units_eq (m : Magnitude) : m.units = rankUnits m.rank := by
  unfold units rankUnits step
  have hm := Nat.div_add_mod m.rank (twoTo 52)
  split_ifs with hs
  · simp [Nat.div_eq_of_lt hs]
  · have he : 1 ≤ m.rank / twoTo 52 := (Nat.le_div_iff_mul_le (twoTo_pos 52)).2 (by omega)
    congr 1
    generalize m.rank / twoTo 52 = e at he hm ⊢
    obtain ⟨e, rfl⟩ : ∃ k, e = k + 1 := ⟨e - 1, by omega⟩
    rw [Nat.mul_comm, Nat.add_mul, Nat.one_mul] at hm
    rw [Nat.add_sub_cancel]
    omega

/-- So many steps of a size: the number that starts the next size may be written either way. -/
theorem rankUnits_shift {e a : Nat} (ha : a ≤ twoTo 53) (h : e = 0 ∨ twoTo 52 ≤ a) :
    rankUnits (e * twoTo 52 + a) = a * twoTo e := by
  have hpos := twoTo_pos 52
  unfold rankUnits step
  rw [Nat.add_comm, Nat.add_mul_div_right _ _ hpos]
  rw [twoTo_53] at ha
  rcases Nat.lt_or_ge a (twoTo 52) with hlow | hlow
  · obtain rfl : e = 0 := by omega
    rw [Nat.div_eq_of_lt hlow]
    simp
  rcases Nat.lt_or_ge a (2 * twoTo 52) with hup | hup
  · rw [show a / twoTo 52 = 1 from Nat.div_eq_of_lt_le (by omega) (by omega), Nat.add_sub_cancel_left,
      Nat.add_sub_cancel_right]
  · obtain rfl : a = 2 * twoTo 52 := by omega
    rw [Nat.mul_div_cancel _ hpos, show 2 + e - 1 = e + 1 by omega, Nat.add_mul, twoTo_add]
    have : 2 * twoTo 52 + e * twoTo 52 - (e * twoTo 52 + 1 * twoTo 52) = twoTo 52 := by omega
    rw [this, show twoTo 1 = 2 from rfl]
    ring

/-- Every rank is so many steps of one size, fewer than the next size starts with. -/
theorem exists_shift (rank : Nat) :
    ∃ e a, rank = e * twoTo 52 + a ∧ a < twoTo 53 ∧ (e = 0 ∨ twoTo 52 ≤ a) ∧ step rank = twoTo e := by
  have hm := Nat.div_add_mod rank (twoTo 52)
  have hr := Nat.mod_lt rank (twoTo_pos 52)
  have h53 := twoTo_53
  obtain ⟨q, hq⟩ : ∃ q, rank / twoTo 52 = q := ⟨_, rfl⟩
  rw [hq, Nat.mul_comm] at hm
  unfold step
  rw [hq]
  cases q with
  | zero =>
    rw [Nat.zero_mul] at hm
    exact ⟨0, rank, by omega, by omega, .inl rfl, rfl⟩
  | succ e =>
    rw [Nat.add_mul, Nat.one_mul] at hm
    exact ⟨e, rank - e * twoTo 52, by omega, by omega, .inr (by omega), rfl⟩

theorem step_pos (rank : Nat) : 0 < step rank := twoTo_pos _

theorem step_mono {rank rank' : Nat} (h : rank ≤ rank') : step rank ≤ step rank' :=
  twoTo_le (Nat.sub_le_sub_right (Nat.div_le_div_right h) 1)

theorem rankUnits_succ (rank : Nat) : rankUnits (rank + 1) = rankUnits rank + step rank := by
  obtain ⟨e, a, hrank, ha, hea, hs⟩ := exists_shift rank
  have h1 : rankUnits rank = a * twoTo e := by rw [hrank, rankUnits_shift ha.le hea]
  have h2 : rankUnits (rank + 1) = (a + 1) * twoTo e := by
    rw [hrank, Nat.add_assoc]; exact rankUnits_shift ha (by omega)
  rw [h1, h2, hs]
  ring

theorem rankUnits_mono : Monotone rankUnits :=
  monotone_nat_of_le_succ fun rank => by rw [rankUnits_succ]; exact Nat.le_add_right _ _

theorem rankUnits_add (rank k : Nat) : rankUnits rank + k * step rank ≤ rankUnits (rank + k) := by
  induction k with
  | zero => simp
  | succ k ih =>
    have := step_mono (Nat.le_add_right rank k)
    rw [← Nat.add_assoc, rankUnits_succ, Nat.add_mul, Nat.one_mul]
    omega

theorem rankUnits_add_step_le (rank : Nat) : rankUnits rank + step rank ≤ twoTo 53 * step rank := by
  obtain ⟨e, a, hrank, ha, hea, hs⟩ := exists_shift rank
  have h1 : rankUnits rank = a * twoTo e := by rw [hrank, rankUnits_shift ha.le hea]
  rw [h1, hs]
  calc a * twoTo e + twoTo e = (a + 1) * twoTo e := by ring
    _ ≤ twoTo 53 * twoTo e := Nat.mul_le_mul_right _ ha

/-- A number of few binary digits with zeros behind them is the units of some rank. -/
theorem exists_rankUnits {a : Nat} (e : Nat) (ha : a ≤ twoTo 53) : ∃ rank, rankUnits rank = a * twoTo e := by
  induction e generalizing a with
  | zero => exact ⟨0 * twoTo 52 + a, rankUnits_shift ha (.inl rfl)⟩
  | succ e ih =>
    by_cases hlow : twoTo 52 ≤ a
    · exact ⟨(e + 1) * twoTo 52 + a, rankUnits_shift ha (.inr hlow)⟩
    · have h2 : 2 * a ≤ twoTo 53 := by rw [twoTo_53]; omega
      obtain ⟨rank, hr⟩ := ih h2
      refine ⟨rank, hr.trans ?_⟩
      rw [Nat.add_comm e 1, twoTo_add, ← Nat.mul_assoc, Nat.mul_comm 2 a]

/-! ## The nearest rank -/

/-- The rank that is nearest to `num / den` units, as if there were no greatest one. -/
def nearestRank (num den : Nat) : Nat :=
  ((num / den).log2 - 52) * twoTo 52 + roundHalfEven num (den * twoTo ((num / den).log2 - 52))

theorem rank_ofUnits (num den : Nat) : (ofUnits num den).rank = min infinityRank (nearestRank num den) := rfl

theorem isFinite_ofUnits {num den : Nat} : (ofUnits num den).isFinite = true ↔ nearestRank num den < infinityRank := by
  refine decide_eq_true_iff.trans ?_
  rw [rank_ofUnits]
  omega

/-- The nearest rank is a number of steps of one size, and at most half a step away. -/
theorem nearestRank_spec (num : Nat) {den : Nat} (hd : 0 < den) :
    ∃ e a, nearestRank num den = e * twoTo 52 + a ∧ a ≤ twoTo 53 ∧
      (e = 0 ∨ twoTo 52 ≤ a ∧ twoTo 52 * (den * twoTo e) ≤ num) ∧
      2 * num ≤ (2 * a + 1) * (den * twoTo e) ∧ 2 * a * (den * twoTo e) ≤ 2 * num + den * twoTo e := by
  have hpos (e : Nat) : 0 < den * twoTo e := Nat.mul_pos hd (twoTo_pos e)
  obtain ⟨e, he⟩ : ∃ e, (num / den).log2 - 52 = e := ⟨_, rfl⟩
  have hlow : e = 0 ∨ twoTo 52 * (den * twoTo e) ≤ num := by
    by_cases h0 : e = 0
    · exact .inl h0
    have hq : num / den ≠ 0 := by rintro hq; rw [hq] at he; simp at he; omega
    have : twoTo (52 + e) ≤ num / den := by
      rw [show 52 + e = (num / den).log2 by omega]; exact Nat.log2_self_le hq
    have := (Nat.le_div_iff_mul_le hd).1 this
    rw [twoTo_add] at this
    exact .inr (by linarith [this, Nat.mul_assoc (twoTo 52) (twoTo e) den, Nat.mul_comm den (twoTo e)])
  have hup : num ≤ twoTo 53 * (den * twoTo e) := by
    have h1 : num / den < twoTo (53 + e) := Nat.lt_of_lt_of_le Nat.lt_log2_self (twoTo_le (by omega))
    have h2 := (Nat.div_lt_iff_lt_mul hd).1 h1
    rw [twoTo_add] at h2
    linarith [Nat.mul_assoc (twoTo 53) (twoTo e) den, Nat.mul_comm den (twoTo e)]
  refine ⟨e, roundHalfEven num (den * twoTo e), ?_, roundHalfEven_le (hpos e) hup,
    hlow.imp id fun h => ⟨le_roundHalfEven (hpos e) h, h⟩, roundHalfEven_bounds num (hpos e)⟩
  rw [nearestRank, he]

/-- What lies below the middle between a rank and the next one is not rounded beyond the rank. -/
theorem nearestRank_le {num den rank : Nat} (hd : 0 < den)
    (h : 2 * num < (rankUnits rank + rankUnits (rank + 1)) * den) : nearestRank num den ≤ rank := by
  obtain ⟨e, a, hr, ha, hea, -, hlow⟩ := nearestRank_spec num hd
  by_contra hlt
  obtain ⟨n, hn⟩ : ∃ n, nearestRank num den = n + 1 := ⟨nearestRank num den - 1, by omega⟩
  have hmid : rankUnits rank + rankUnits (rank + 1) ≤ rankUnits n + rankUnits (n + 1) :=
    Nat.add_le_add (rankUnits_mono (by omega)) (rankUnits_mono (by omega))
  have hmul := Nat.mul_le_mul_right den hmid
  have hunits : rankUnits (n + 1) = a * twoTo e := by
    rw [← hn, hr]; exact rankUnits_shift ha (hea.imp id And.left)
  rw [hn] at hr
  have hassoc : (rankUnits n + a * twoTo e) * den = rankUnits n * den + a * (den * twoTo e) := by ring
  rw [hunits, hassoc] at hmul
  by_cases hstart : e ≠ 0 ∧ a = twoTo 52
  · -- the rank is the first of its size, and the quotient lies above it
    obtain ⟨he, rfl⟩ := hstart
    have hnum := (hea.resolve_left he).2
    have hle : rankUnits n * den ≤ twoTo 52 * (den * twoTo e) := by
      have := Nat.mul_le_mul_right den (rankUnits_mono (Nat.le_succ n))
      rw [Nat.succ_eq_add_one, hunits] at this
      linarith [Nat.mul_assoc (twoTo 52) (twoTo e) den, Nat.mul_comm den (twoTo e)]
    omega
  · obtain ⟨b, rfl⟩ : ∃ b, a = b + 1 := by
      refine ⟨a - 1, ?_⟩
      have := twoTo_pos 52
      rcases hea with rfl | hea <;> omega
    have hb : rankUnits n = b * twoTo e := by
      rw [show n = e * twoTo 52 + b by omega]
      exact rankUnits_shift (by omega) (by omega)
    have e1 : rankUnits n * den = b * (den * twoTo e) := by rw [hb]; ring
    have e2 : (b + 1) * (den * twoTo e) = b * (den * twoTo e) + den * twoTo e := by ring
    have e3 : 2 * (b + 1) * (den * twoTo e) = 2 * (b * (den * twoTo e)) + 2 * (den * twoTo e) := by ring
    omega

/-- What lies above the middle between a rank and the next one is rounded beyond the rank. -/
theorem lt_nearestRank {num den rank : Nat} (hd : 0 < den)
    (h : (rankUnits rank + rankUnits (rank + 1)) * den < 2 * num) : rank < nearestRank num den := by
  obtain ⟨e, a, hr, ha, hea, hup, -⟩ := nearestRank_spec num hd
  by_contra hle
  have hunits : rankUnits (nearestRank num den) = a * twoTo e := by
    rw [hr]; exact rankUnits_shift ha (hea.imp id And.left)
  have hstep : twoTo e ≤ step (nearestRank num den) := by
    rw [hr, step, Nat.add_comm, Nat.add_mul_div_right _ _ (twoTo_pos 52)]
    refine twoTo_le ?_
    rcases hea with rfl | ⟨hea, -⟩
    · omega
    · have : 1 ≤ a / twoTo 52 := (Nat.le_div_iff_mul_le (twoTo_pos 52)).2 (by rwa [Nat.one_mul])
      omega
  have hmid : 2 * (a * twoTo e) + twoTo e ≤ rankUnits rank + rankUnits (rank + 1) := by
    have h1 := rankUnits_mono (Nat.le_of_not_lt hle)
    have h2 := step_mono (Nat.le_of_not_lt hle)
    rw [rankUnits_succ]
    omega
  have hmul := Nat.mul_le_mul_right den hmid
  have e1 : (2 * (a * twoTo e) + twoTo e) * den = (2 * a + 1) * (den * twoTo e) := by ring
  omega

/-- A quotient lies between the middles from a rank to its two neighbours. -/
def InInterval (rank num den : Nat) : Prop :=
  (rankUnits (rank - 1) + rankUnits rank) * den ≤ 2 * num ∧ 2 * num ≤ (rankUnits rank + rankUnits (rank + 1)) * den

instance (rank num den : Nat) : Decidable (InInterval rank num den) := inferInstanceAs (Decidable (_ ∧ _))

/-- A quotient lies in the interval of the rank that it is rounded to. -/
theorem inInterval_nearestRank (num : Nat) {den : Nat} (hd : 0 < den) : InInterval (nearestRank num den) num den := by
  constructor
  · by_contra hlt
    obtain ⟨rank, hr⟩ : ∃ rank, nearestRank num den = rank + 1 := by
      refine ⟨nearestRank num den - 1, ?_⟩
      -- below the first rank there is nothing
      have : nearestRank num den ≠ 0 := fun h0 => by simp [h0, rankUnits] at hlt
      omega
    rw [hr, Nat.add_sub_cancel] at hlt
    have := nearestRank_le hd (Nat.lt_of_not_le hlt)
    omega
  · by_contra hlt
    exact absurd (lt_nearestRank hd (Nat.lt_of_not_le hlt)) (Nat.lt_irrefl _)

end Magnitude

/-! ## Small factors -/

/-- Each of two numbers is at most the other one times the factor. -/
def Within (factor a b : ℚ) : Prop := a ≤ b * factor ∧ b ≤ a * factor

namespace Within

variable {f g a b c d : ℚ}

theorem refl (a : ℚ) : Within 1 a a := ⟨by rw [mul_one], by rw [mul_one]⟩

theorem self (ha : 0 ≤ a) (hf : 1 ≤ f) : Within f a a := ⟨le_mul_of_one_le_right ha hf, le_mul_of_one_le_right ha hf⟩

theorem trans (hf : 0 ≤ f) (hg : 0 ≤ g) (h : Within f a b) (h' : Within g b c) : Within (f * g) a c := by
  constructor
  · calc a ≤ b * f := h.1
      _ ≤ c * g * f := mul_le_mul_of_nonneg_right h'.1 hf
      _ = c * (f * g) := by ring
  · calc c ≤ b * g := h'.2
      _ ≤ a * f * g := mul_le_mul_of_nonneg_right h.2 hg
      _ = a * (f * g) := by ring

theorem mul (ha : 0 ≤ a) (hb : 0 ≤ b) (hc : 0 ≤ c) (hd : 0 ≤ d) (h : Within f a b) (h' : Within g c d) :
    Within (f * g) (a * c) (b * d) := by
  constructor
  · calc a * c ≤ b * f * (d * g) := mul_le_mul h.1 h'.1 hc (ha.trans h.1)
      _ = b * d * (f * g) := by ring
  · calc b * d ≤ a * f * (c * g) := mul_le_mul h.2 h'.2 hd (hb.trans h.2)
      _ = a * c * (f * g) := by ring

theorem inv (ha : 0 < a) (hb : 0 < b) (h : Within f a b) : Within f a⁻¹ b⁻¹ := by
  constructor
  · rw [inv_le_iff_one_le_mul₀ ha, mul_assoc, ← mul_comm a, inv_mul_eq_div, one_le_div hb]
    exact h.2
  · rw [inv_le_iff_one_le_mul₀ hb, mul_assoc, ← mul_comm b, inv_mul_eq_div, one_le_div ha]
    exact h.1

theorem div (ha : 0 ≤ a) (hb : 0 ≤ b) (hc : 0 < c) (hd : 0 < d) (h : Within f a b) (h' : Within g c d) :
    Within (f * g) (a / c) (b / d) := by
  rw [div_eq_mul_inv, div_eq_mul_inv]
  exact h.mul ha hb (inv_nonneg.2 hc.le) (inv_nonneg.2 hd.le) (h'.inv hc hd)

end Within

theorem cast_twoTo (n : Nat) : ((twoTo n : ℕ) : ℚ) = (2 : ℚ) ^ n := Nat.cast_pow 2 n

namespace Magnitude

/-- Magnifying a quotient by a factor of `1 + k / 2 ^ 53` carries it at most `k` ranks further. -/
theorem nearestRank_le_add {num den num' den' k : Nat} (hd : 0 < den) (hd' : 0 < den') (hk : 0 < k)
    (h : (num' : ℚ) / den' ≤ num / den * (1 + k / 2 ^ 53)) :
    nearestRank num' den' ≤ nearestRank num den + k := by
  have hmid := (inInterval_nearestRank num hd).2
  generalize nearestRank num den = rank at hmid ⊢
  have hunits : rankUnits rank + step rank ≤ twoTo 53 * step rank := rankUnits_add_step_le rank
  have hfar : 2 * (rankUnits rank + k * step rank) + step rank ≤ rankUnits (rank + k) + rankUnits (rank + k + 1) := by
    have h1 := rankUnits_add rank k
    have h2 := step_mono (Nat.le_add_right rank k)
    rw [rankUnits_succ]
    omega
  have hs : (0 : ℚ) < step rank := by exact_mod_cast step_pos rank
  have hk' : (0 : ℚ) < k := by exact_mod_cast hk
  have hd0 : (0 : ℚ) < den := by exact_mod_cast hd
  have hd0' : (0 : ℚ) < den' := by exact_mod_cast hd'
  have hx : (num : ℚ) / den ≤ rankUnits rank + step rank / 2 := by
    rw [div_le_iff₀ hd0]
    have : (2 * num : ℚ) ≤ (2 * rankUnits rank + step rank) * den := by
      rw [rankUnits_succ] at hmid
      calc (2 * num : ℚ) ≤ (rankUnits rank + (rankUnits rank + step rank)) * den := by exact_mod_cast hmid
        _ = (2 * rankUnits rank + step rank) * den := by ring
    linarith
  have hgrow : (num : ℚ) / den * (k / 2 ^ 53) < k * step rank := by
    have hlt : (num : ℚ) / den < 2 ^ 53 * step rank := by
      have : (rankUnits rank + step rank : ℚ) ≤ 2 ^ 53 * step rank := by
        rw [← cast_twoTo]; exact_mod_cast hunits
      linarith
    calc (num : ℚ) / den * (k / 2 ^ 53) < 2 ^ 53 * step rank * (k / 2 ^ 53) :=
          mul_lt_mul_of_pos_right hlt (by positivity)
      _ = k * step rank := by ring
  refine nearestRank_le hd' ?_
  have hx' : (num' : ℚ) / den' < rankUnits rank + k * step rank + step rank / 2 := by
    rw [mul_add, mul_one] at h
    linarith
  rw [div_lt_iff₀ hd0'] at hx'
  have hfar' : ((2 * (rankUnits rank + k * step rank) + step rank) * den' : ℚ) ≤
      (rankUnits (rank + k) + rankUnits (rank + k + 1)) * den' :=
    mul_le_mul_of_nonneg_right (by exact_mod_cast hfar) hd0'.le
  have : (2 * num' : ℚ) < (rankUnits (rank + k) + rankUnits (rank + k + 1)) * den' := by linarith
  exact_mod_cast this

/-! ## Near magnitudes -/

/-- At most so many ranks lie from each magnitude to the other. -/
def Near (k : Nat) (m m' : Magnitude) : Prop := m.rank ≤ m'.rank + k ∧ m'.rank ≤ m.rank + k

theorem Near.mono {k k' : Nat} {m m' : Magnitude} (h : Near k m m') (hk : k ≤ k') : Near k' m m' :=
  ⟨h.1.trans (Nat.add_le_add_left hk _), h.2.trans (Nat.add_le_add_left hk _)⟩

theorem Near.refl (m : Magnitude) : Near 0 m m := ⟨Nat.le_refl _, Nat.le_refl _⟩

/-- Quotients within a small factor are rounded to near magnitudes. -/
theorem near_of_within {num den num' den' k : Nat} {f : ℚ} (hd : 0 < den) (hd' : 0 < den') (hk : 0 < k)
    (h : Within f (num / den) (num' / den')) (hf : f ≤ 1 + k / 2 ^ 53) :
    Near k (ofUnits num den) (ofUnits num' den') := by
  have hx : (0 : ℚ) ≤ (num : ℚ) / den := by positivity
  have hx' : (0 : ℚ) ≤ (num' : ℚ) / den' := by positivity
  have h1 := nearestRank_le_add hd' hd hk (h.1.trans (mul_le_mul_of_nonneg_left hf hx'))
  have h2 := nearestRank_le_add hd hd' hk (h.2.trans (mul_le_mul_of_nonneg_left hf hx))
  simp only [Near, rank_ofUnits]
  omega

/-- A quotient of at least `low` units is within half a unit in `low` of what it is rounded to. -/
theorem within_units {num den low : Nat} (hd : 0 < den) (h0 : 0 < low) (hlow : low ≤ twoTo 52)
    (h : low * den ≤ num) (hfin : (ofUnits num den).isFinite = true) :
    Within (1 + 1 / (2 * low)) (ofUnits num den).units (num / den) := by
  obtain ⟨e, a, hr, ha, hea, hup, hdown⟩ := nearestRank_spec num hd
  have hunits : (ofUnits num den).units = a * twoTo e := by
    rw [units_eq, rank_ofUnits, Nat.min_eq_right (isFinite_ofUnits.1 hfin).le, hr]
    exact rankUnits_shift ha (hea.imp id And.left)
  -- one step is at most one part in `low`, of the quotient and of what it is rounded to
  have hpart : low * (den * twoTo e) ≤ num ∧ low ≤ a := by
    rcases hea with rfl | ⟨ha, hnum⟩
    · rw [show den * twoTo 0 = den from Nat.mul_one den] at hup ⊢
      refine ⟨h, ?_⟩
      by_contra hlt
      have : (2 * a + 1) * den < 2 * low * den := Nat.mul_lt_mul_of_pos_right (by omega) hd
      rw [Nat.mul_assoc] at this
      omega
    · exact ⟨(Nat.mul_le_mul_right _ hlow).trans hnum, hlow.trans ha⟩
  obtain ⟨hnum, hlow⟩ := hpart
  have hd0 : (0 : ℚ) < den := by exact_mod_cast hd
  have hl0 : (0 : ℚ) < low := by exact_mod_cast h0
  have hw0 : (0 : ℚ) < twoTo e := by exact_mod_cast twoTo_pos e
  have hx : (low * twoTo e : ℚ) ≤ num / den := by
    rw [le_div_iff₀ hd0]
    calc (low * twoTo e * den : ℚ) = low * (den * twoTo e) := by ring
      _ ≤ num := by exact_mod_cast hnum
  have hu : (low * twoTo e : ℚ) ≤ a * twoTo e :=
    mul_le_mul_of_nonneg_right (by exact_mod_cast hlow) hw0.le
  have hxu : (num : ℚ) / den ≤ a * twoTo e + twoTo e / 2 := by
    rw [div_le_iff₀ hd0]
    have : (2 * num : ℚ) ≤ (2 * a + 1) * (den * twoTo e) := by exact_mod_cast hup
    linarith
  have hux : (a * twoTo e : ℚ) ≤ num / den + twoTo e / 2 := by
    rw [← sub_le_iff_le_add, le_div_iff₀ hd0]
    have : (2 * a * (den * twoTo e) : ℚ) ≤ 2 * num + den * twoTo e := by exact_mod_cast hdown
    linarith
  have hpart (y : ℚ) (hy : low * twoTo e ≤ y) : y + twoTo e / 2 ≤ y * (1 + 1 / (2 * low)) := by
    have : (twoTo e : ℚ) / 2 ≤ y * (1 / (2 * low)) := by
      rw [mul_one_div, div_le_div_iff₀ two_pos (by positivity)]
      linarith
    linarith
  rw [hunits, Nat.cast_mul]
  exact ⟨hux.trans (hpart _ hx), hxu.trans (hpart _ hu)⟩

end Magnitude

end WhereFilter
