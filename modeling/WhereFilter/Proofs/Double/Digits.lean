/-
How long the shortest decimal is. The bound on the number of digits is one digit off at most
(`digitBound_spec`), so the last grid that is searched is finer than the steps between magnitudes, and a
point of it next to the value rounds to the magnitude (`exists_decimalDropping?`). The search therefore
always ends on a grid, with a coefficient of few digits (`shortest_bounds`).
-/
import WhereFilter.Proofs.Double.Shortest

namespace WhereFilter.Magnitude

variable {m : Magnitude} {c dropped : Nat} {tie : Tie}

/-! ## Bounds on digits -/

theorem digitBound_spec {n : Nat} (h0 : n ≠ 0) (hlog : n.log2 < 4608) :
    tenTo (digitBound n - 2) ≤ n ∧ n < tenTo (digitBound n) ∧ digitBound n ≤ 1390 := by
  -- the quotient of logarithms is not exact, so every power of two is looked at
  have hpowers : ∀ a < 72, ∀ b < 64, tenTo ((64 * a + b) * 30103 / 100000) ≤ twoTo (64 * a + b) ∧
      twoTo (64 * a + b + 1) ≤ tenTo ((64 * a + b) * 30103 / 100000 + 2) := by
    decide +kernel
  obtain ⟨hlow, hup⟩ := hpowers (n.log2 / 64) (by omega) (n.log2 % 64) (by omega)
  rw [Nat.div_add_mod] at hlow hup
  refine ⟨?_, ?_, ?_⟩
  · exact hlow.trans (Nat.log2_self_le h0)
  · exact Nat.lt_of_lt_of_le Nat.lt_log2_self hup
  · unfold digitBound
    omega

theorem log2_mul_lt {a b i j : Nat} (h0 : a * b ≠ 0) (ha : a < twoTo i) (hb : b < twoTo j) : (a * b).log2 < i + j := by
  rw [Nat.log2_lt h0, Nat.pow_add]
  exact Nat.mul_lt_mul'' ha hb

theorem units_lt (hm : m.isFinite = true) : m.units < twoTo (53 + 2045) := by
  have hrank : m.rank < 2047 * twoTo 52 := of_decide_eq_true hm
  have hpos := twoTo_pos 52
  unfold units
  split_ifs with hlow
  · exact hlow.trans_le (twoTo_le (by decide))
  · have hmod := Nat.mod_lt m.rank hpos
    have hdiv : m.rank / twoTo 52 < 2047 := (Nat.div_lt_iff_lt_mul hpos).2 hrank
    rw [twoTo_add]
    exact Nat.mul_lt_mul_of_lt_of_le (by rw [twoTo_53]; omega) (twoTo_le (by omega)) (twoTo_pos _)

theorem log2_scaled_lt (hm : m.isFinite = true) (h0 : m.scaled ≠ 0) : m.scaled.log2 < 4608 := by
  have hfive : Nat.pow 5 places < twoTo 2500 := by decide +kernel
  have hlog : m.scaled.log2 < 53 + 2045 + 2500 := log2_mul_lt h0 (units_lt hm) hfive
  omega

/-! ## The last grid -/

-- the number of units in one is too large to be computed wherever it occurs
attribute [local irreducible] unitsPerOne places

theorem eq_of_rank_eq {m m' : Magnitude} (h : m.rank = m'.rank) : m = m' := by
  cases m; cases m'; cases h; rfl

theorem nearestRank_eq {num den rank : Nat} (hd : 0 < den)
    (hup : 2 * num < (rankUnits rank + rankUnits (rank + 1)) * den)
    (hlow : rank = 0 ∨ (rankUnits (rank - 1) + rankUnits rank) * den < 2 * num) : nearestRank num den = rank := by
  refine Nat.le_antisymm (nearestRank_le hd hup) ?_
  rcases hlow with rfl | hlow
  · exact Nat.zero_le _
  · cases rank with
    | zero => exact Nat.zero_le _
    | succ rank => exact lt_nearestRank hd hlow

/-- A point of a grid finer than the steps denotes the magnitude that it is nearest to. -/
theorem ofDecimal_of_close (hm : m.isFinite = true) (hfine : twoTo 53 * tenTo dropped < m.scaled)
    (hup : 2 * (c * tenTo dropped) ≤ 2 * m.scaled + tenTo dropped)
    (hlow : 2 * m.scaled ≤ 2 * (c * tenTo dropped) + tenTo dropped) : ofDecimal ⟨c, (dropped : Int) - places⟩ = m := by
  have hd : 0 < Nat.pow 5 places := Nat.pow_pos (by decide)
  have hscaled : m.scaled = rankUnits m.rank * Nat.pow 5 places := by rw [scaled, units_eq]
  rw [ofDecimal_dropping]
  rw [hscaled] at hfine hup hlow
  generalize Nat.pow 5 places = den at hd hfine hup hlow ⊢
  generalize tenTo dropped = t at hfine hup hlow ⊢
  obtain ⟨rank, hr⟩ : ∃ rank, m.rank = rank + 1 := by
    refine ⟨m.rank - 1, ?_⟩
    have : m.rank ≠ 0 := fun h0 => by rw [h0] at hfine; simp [rankUnits] at hfine
    omega
  rw [hr] at hfine hup hlow
  have hsucc := rankUnits_succ rank
  -- the smaller of the two steps beside the magnitude is larger than the grid
  have hstep : t < step rank * den := by
    have hle := Nat.mul_le_mul_right den (rankUnits_add_step_le rank)
    rw [← hsucc, Nat.mul_assoc] at hle
    exact Nat.lt_of_mul_lt_mul_left (hfine.trans_le hle)
  have hnext : step rank * den ≤ step (rank + 1) * den := Nat.mul_le_mul_right den (step_mono (Nat.le_succ rank))
  have hsucc' := rankUnits_succ (rank + 1)
  have hrank : nearestRank (c * t) den = rank + 1 := by
    refine nearestRank_eq hd ?_ (.inr ?_)
    · rw [hsucc', ← Nat.add_assoc, Nat.add_mul, Nat.add_mul]
      omega
    · rw [Nat.add_sub_cancel, Nat.add_mul]
      rw [hsucc, Nat.add_mul] at hlow ⊢
      omega
  have hfinite : m.rank < infinityRank := of_decide_eq_true hm
  refine eq_of_rank_eq ?_
  rw [rank_ofUnits, hrank, ← hr]
  exact Nat.min_eq_right hfinite.le

/-- On such a grid the point next to the value is found. -/
theorem isSome_decimalDropping?_of_fine (tie : Tie) (hm : m.isFinite = true)
    (hfine : twoTo 53 * tenTo dropped < m.scaled) :
    (m.decimalDropping? tie dropped).isSome = true := by
  have hdiv := Nat.div_add_mod m.scaled (tenTo dropped)
  have hmod := Nat.mod_lt m.scaled (tenTo_pos dropped)
  rw [Nat.mul_comm] at hdiv
  have hpoint (up : Bool) (h : if up then tenTo dropped ≤ 2 * (m.scaled % tenTo dropped)
      else 2 * (m.scaled % tenTo dropped) ≤ tenTo dropped) :
      ofDecimal ⟨if up then m.scaled / tenTo dropped + 1 else m.scaled / tenTo dropped, dropped - places⟩ = m := by
    cases up with
    | true =>
      simp only [if_true] at h ⊢
      refine ofDecimal_of_close hm hfine ?_ ?_
      · rw [Nat.add_mul, Nat.one_mul]; omega
      · rw [Nat.add_mul, Nat.one_mul]; omega
    | false =>
      simp only [Bool.false_eq_true, if_false] at h ⊢
      exact ofDecimal_of_close hm hfine (by omega) (by omega)
  unfold decimalDropping?
  simp only
  rw [if_pos]
  · rfl
  · refine hpoint _ ?_
    cases tie with
    | toEven =>
      simp only [Bool.or_eq_true, Bool.and_eq_true, beq_iff_eq, decide_eq_true_eq]
      split_ifs <;> omega
    | away =>
      simp only [decide_eq_true_eq]
      split_ifs <;> omega

/-- With no digit dropped the point is the value itself. -/
theorem isSome_decimalDropping?_zero (tie : Tie) (hm : m.isFinite = true) :
    (m.decimalDropping? tie 0).isSome = true := by
  have hself : ofDecimal ⟨m.scaled, -(places : Int)⟩ = m := ofDecimal_exactDecimal hm
  unfold decimalDropping?
  cases tie <;> simp [Nat.mod_one, hself]

/-! ## The end of the search -/

/-- Seventeen digits always suffice, so the search ends on one of its grids. -/
theorem exists_decimalDropping? (tie : Tie) (hm : m.isFinite = true) :
    ∃ i < 18, m.decimalDropping? tie (digitBound m.scaled - (i + 1)) = some (m.shortest tie) := by
  have hlast : (m.decimalDropping? tie (digitBound m.scaled - (17 + 1))).isSome = true := by
    by_cases hfew : digitBound m.scaled ≤ 18
    · rw [Nat.sub_eq_zero_of_le hfew]
      exact isSome_decimalDropping?_zero tie hm
    · have h0 : m.scaled ≠ 0 := fun h0 => hfew (by rw [h0]; decide)
      obtain ⟨hlow, -⟩ := digitBound_spec h0 (log2_scaled_lt hm h0)
      refine isSome_decimalDropping?_of_fine tie hm ?_
      calc twoTo 53 * tenTo (digitBound m.scaled - 18)
          < tenTo 16 * tenTo (digitBound m.scaled - 18) := Nat.mul_lt_mul_of_pos_right (by decide) (tenTo_pos _)
        _ = tenTo (digitBound m.scaled - 2) := by
          rw [← tenTo_add]
          congr 1; omega
        _ ≤ m.scaled := hlow
  have hfound : ((List.range 18).findSome? fun i =>
      m.decimalDropping? tie (digitBound m.scaled - (i + 1))).isSome = true := by
    rw [List.findSome?_isSome_iff]
    exact ⟨17, by simp, hlast⟩
  obtain ⟨d, hd⟩ := Option.isSome_iff_exists.1 hfound
  obtain ⟨i, hi, hdropping⟩ := List.exists_of_findSome?_eq_some hd
  refine ⟨i, List.mem_range.1 hi, ?_⟩
  rw [hdropping, shortest, hd, Option.getD_some]

theorem eq_of_decimalDropping? {d : Decimal} (h : m.decimalDropping? tie dropped = some d) :
    d.coefficient ≤ m.scaled / tenTo dropped + 1 ∧ d.exponent = (dropped : Int) - places := by
  simp only [decimalDropping?] at h
  split_ifs at h <;> cases h <;> exact ⟨by dsimp only; omega, rfl⟩

/-- The shortest decimal has few digits, and its power of ten is no further from zero than that of the finest
magnitude. -/
theorem shortest_bounds (tie : Tie) (hm : m.isFinite = true) :
    (m.shortest tie).coefficient ≤ tenTo 18 ∧ (m.shortest tie).exponent.natAbs ≤ 1074 := by
  obtain ⟨i, hi, hdropping⟩ := exists_decimalDropping? tie hm
  obtain ⟨hcoefficient, hexponent⟩ := eq_of_decimalDropping? hdropping
  have hplaces : places = 1074 := by unfold places; rfl
  rw [hexponent, hplaces]
  by_cases h0 : m.scaled = 0
  · rw [h0, Nat.zero_div] at hcoefficient
    have hbound : digitBound m.scaled = 2 := by rw [h0]; decide
    exact ⟨hcoefficient.trans (by decide), by omega⟩
  · obtain ⟨-, hup, hbound⟩ := digitBound_spec h0 (log2_scaled_lt hm h0)
    refine ⟨hcoefficient.trans ?_, by omega⟩
    refine (Nat.div_lt_iff_lt_mul (tenTo_pos _)).2 (hup.trans_le ?_)
    rw [← tenTo_add]
    exact Nat.pow_le_pow_right (by decide) (by omega)

end WhereFilter.Magnitude
