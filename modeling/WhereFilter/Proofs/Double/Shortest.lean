/-
What the search for the shortest decimal passes over. A decimal denotes a magnitude only if it lies in
the interval that is rounded to it (`inInterval_of_ofDecimal`), so a number of digits is skipped where
neither neighbour of the value lies there (`decimalDropping?_eq_none`), and the search may as well start
behind what is skipped (`shortest_eq_of_skipped`).
-/
import WhereFilter.Proofs.Double.Nearness

namespace WhereFilter.Magnitude

variable {m : Magnitude} {c dropped : Nat} {tie : Tie}

-- the number of units in one is too large to be computed wherever it occurs
attribute [local irreducible] unitsPerOne places

theorem ofDecimal_dropping (c dropped : Nat) :
    ofDecimal ⟨c, (dropped : Int) - places⟩ = ofUnits (c * tenTo dropped) (Nat.pow 5 places) := by
  rw [ofDecimal_eq, ofRatio, unitsPerOne_eq]
  generalize places = p
  refine ofUnits_congr (tenTo_pos _) (Nat.pow_pos (by decide)) ?_
  have hten : tenTo ((dropped : Int) - p).toNat * tenTo p = tenTo dropped * tenTo (-((dropped : Int) - p)).toNat := by
    rw [← tenTo_add, ← tenTo_add]
    congr 1; omega
  calc c * tenTo ((dropped : Int) - p).toNat * twoTo p * Nat.pow 5 p
      = c * (tenTo ((dropped : Int) - p).toNat * (Nat.pow 5 p * twoTo p)) := by ring
    _ = c * tenTo dropped * tenTo (-((dropped : Int) - p)).toNat := by rw [← tenTo_eq_mul, hten, Nat.mul_assoc]

/-- A decimal that denotes a finite magnitude lies in its interval. -/
theorem inInterval_of_ofDecimal (hm : m.isFinite = true) (h : ofDecimal ⟨c, (dropped : Int) - places⟩ = m) :
    InInterval m.rank (c * tenTo dropped) (Nat.pow 5 places) := by
  rw [ofDecimal_dropping] at h
  have hrank : m.rank = nearestRank (c * tenTo dropped) (Nat.pow 5 places) := by
    rw [← h] at hm ⊢
    rw [rank_ofUnits, Nat.min_eq_right (isFinite_ofUnits.1 hm).le]
  rw [hrank]
  exact inInterval_nearestRank _ (Nat.pow_pos (by decide))

theorem decimalDropping?_eq_none (hm : m.isFinite = true)
    (hlow : ¬ InInterval m.rank (m.scaled / tenTo dropped * tenTo dropped) (Nat.pow 5 places))
    (hup : ¬ InInterval m.rank ((m.scaled / tenTo dropped + 1) * tenTo dropped) (Nat.pow 5 places)) :
    m.decimalDropping? tie dropped = none := by
  have h1 := mt (inInterval_of_ofDecimal hm) hlow
  have h2 := mt (inInterval_of_ofDecimal hm) hup
  -- whichever neighbour is the nearer one
  have hnear (up : Bool) :
      ofDecimal ⟨if up then m.scaled / tenTo dropped + 1 else m.scaled / tenTo dropped, dropped - places⟩ ≠ m := by
    cases up
    exacts [h1, h2]
  have hfar (up : Bool) :
      ofDecimal ⟨if up then m.scaled / tenTo dropped else m.scaled / tenTo dropped + 1, dropped - places⟩ ≠ m := by
    cases up
    exacts [h2, h1]
  exact (if_neg (hnear _)).trans (if_neg (hfar _))

/-- Numbers of digits that give nothing may be left out of the search. -/
theorem shortest_eq_of_skipped {n : Nat} (h : ∀ i < n, m.decimalDropping? tie (digitBound m.scaled - (i + 1)) = none) :
    m.shortest tie = (((List.range 18).drop n).findSome? fun i =>
      m.decimalDropping? tie (digitBound m.scaled - (i + 1))).getD m.exactDecimal := by
  have hskip : ((List.range 18).take n).findSome? (fun i => m.decimalDropping? tie (digitBound m.scaled - (i + 1))) =
      none := by
    refine List.findSome?_eq_none_iff.2 fun i hi => h i ?_
    rw [List.take_range, List.mem_range] at hi
    omega
  unfold shortest
  simp only
  conv_lhs => rw [← List.take_append_drop n (List.range 18), List.findSome?_append, hskip, Option.none_or]

/-! ## The greatest doubles -/

/-- The finite magnitude with so many others above it. -/
def belowInfinity (i : Nat) : Magnitude := ⟨infinityRank - 1 - i, by omega⟩

/-- The six greatest magnitudes need sixteen digits at least. -/
theorem shortest_belowInfinity {i : Nat} (hi : i < 6) :
    (belowInfinity i).shortest tie =
      ([16, 17].findSome? fun j => (belowInfinity i).decimalDropping? tie (1384 - (j + 1))).getD
        (belowInfinity i).exactDecimal := by
  have hfinite : ∀ i < 6, (belowInfinity i).isFinite = true := by decide
  have hbound : ∀ i < 6, digitBound (belowInfinity i).scaled = 1384 := by decide +kernel
  have hskip : ∀ i < 6, ∀ j < 16,
      ¬ InInterval (belowInfinity i).rank ((belowInfinity i).scaled / tenTo (1384 - (j + 1)) * tenTo (1384 - (j + 1)))
        (Nat.pow 5 places) ∧
      ¬ InInterval (belowInfinity i).rank
        (((belowInfinity i).scaled / tenTo (1384 - (j + 1)) + 1) * tenTo (1384 - (j + 1))) (Nat.pow 5 places) := by
    decide +kernel
  rw [shortest_eq_of_skipped (n := 16), hbound i hi]
  · rfl
  · intro j hj
    rw [hbound i hi]
    exact decimalDropping?_eq_none (hfinite i hi) (hskip i hi j hj).1 (hskip i hi j hj).2

end WhereFilter.Magnitude
