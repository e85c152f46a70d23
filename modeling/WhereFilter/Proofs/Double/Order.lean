/-
The order of doubles. Rounding keeps the order of what is rounded (`rank_ofUnits_mono`), so the doubles nearest to
whole numbers stand in the order of these (`wholeKey_mono`), and as far as `2 ^ 53` no two whole numbers share a
double (`wholeKey_injective`).
-/
import WhereFilter.Proofs.Double.Scaling

namespace WhereFilter

namespace Magnitude

-- the number of units in one is too large to be computed wherever it occurs
attribute [local irreducible] unitsPerOne

/-! ## Rounding -/

/-- A greater quotient is never rounded to a smaller rank. -/
theorem rank_ofUnits_mono {num den num' den' : Nat} (hd : 0 < den) (hd' : 0 < den') (h : num * den' ≤ num' * den) :
    (ofUnits num den).rank ≤ (ofUnits num' den').rank := by
  rcases Nat.eq_or_lt_of_le h with heq | hlt
  · rw [ofUnits_congr hd hd' heq]
  rw [rank_ofUnits, rank_ofUnits]
  refine min_le_min_left _ ?_
  by_contra hrank
  -- the smaller quotient would lie above a middle between two ranks, and the greater one below it
  have hlow := (inInterval_nearestRank num hd).1
  have hup := (inInterval_nearestRank num' hd').2
  generalize nearestRank num den = r at hrank hlow
  generalize nearestRank num' den' = r' at hrank hup
  have hmiddle : rankUnits r' + rankUnits (r' + 1) ≤ rankUnits (r - 1) + rankUnits r :=
    Nat.add_le_add (rankUnits_mono (by omega)) (rankUnits_mono (by omega))
  have : 2 * num' * den ≤ 2 * num * den' := calc
    2 * num' * den ≤ (rankUnits r' + rankUnits (r' + 1)) * den' * den := Nat.mul_le_mul_right _ hup
    _ ≤ (rankUnits (r - 1) + rankUnits r) * den' * den := Nat.mul_le_mul_right _ (Nat.mul_le_mul_right _ hmiddle)
    _ = (rankUnits (r - 1) + rankUnits r) * den * den' := Nat.mul_right_comm _ _ _
    _ ≤ 2 * num * den' := Nat.mul_le_mul_right _ hlow
  rw [Nat.mul_assoc, Nat.mul_assoc] at this
  omega

theorem rank_ofNat_mono {m n : Nat} (h : m ≤ n) : (ofNat m).rank ≤ (ofNat n).rank := by
  rw [ofNat_eq, ofNat_eq]
  exact rank_ofUnits_mono Nat.one_pos Nat.one_pos (Nat.mul_le_mul_right _ (Nat.mul_le_mul_right _ h))

/-- As far as `2 ^ 53` every whole number is a magnitude of its own. -/
theorem eq_of_rank_ofNat_eq {m n : Nat} (hm : m ≤ twoTo 53) (hn : n ≤ twoTo 53)
    (h : (ofNat m).rank = (ofNat n).rank) : m = n := by
  have hsmall : twoTo 53 ≤ tenTo 308 := (by decide : twoTo 53 ≤ tenTo 16).trans (tenTo_le (by decide))
  have hexact {k : Nat} (hk : k ≤ twoTo 53) : rankUnits (ofNat k).rank = k * unitsPerOne := by
    rw [← units_eq]
    exact units_ofNat (show k = k * twoTo 0 from (Nat.mul_one k).symm) hk (hk.trans hsmall)
  have hunits : m * unitsPerOne = n * unitsPerOne := by rw [← hexact hm, ← hexact hn, h]
  exact Nat.eq_of_mul_eq_mul_right unitsPerOne_pos hunits

theorem rank_ofNat_zero : (ofNat 0).rank = 0 := by rw [ofNat_zero]; rfl

theorem ofDecimal_whole (n : Nat) : ofDecimal ⟨n, 0⟩ = ofNat n := by
  rw [ofDecimal_eq]
  exact congrArg (ofRatio · 1) (Nat.mul_one n)

end Magnitude

namespace Double

open Magnitude

/-! ## Whole numbers -/

/-- Where a whole number stands among the doubles: at the one that is nearest to it. -/
def wholeKey (i : Int) : Int := if i < 0 then -(ofNat i.natAbs).rank else (ofNat i.natAbs).rank

theorem key?_signed_ofNat (negative : Bool) (n : Nat) :
    (signed negative (.ofNat n)).key? = some (wholeKey (if negative then -n else n)) := by
  cases negative with
  | false => simp [key?, wholeKey]
  | true =>
    rcases Nat.eq_zero_or_pos n with rfl | hn
    · simp [key?, wholeKey, rank_ofNat_zero]
    · simp [key?, wholeKey, hn]

theorem key?_ofInt (i : Int) : (ofInt i).key? = some (wholeKey i) := by
  rw [ofInt, key?_signed_ofNat]
  congr 2
  simp only [decide_eq_true_eq]
  omega

theorem wholeKey_mono {i j : Int} (h : i ≤ j) : wholeKey i ≤ wholeKey j := by
  unfold wholeKey
  split_ifs with hi hj hj
  · have : (ofNat j.natAbs).rank ≤ (ofNat i.natAbs).rank := rank_ofNat_mono (by omega)
    omega
  · omega
  · omega
  · have : (ofNat i.natAbs).rank ≤ (ofNat j.natAbs).rank := rank_ofNat_mono (by omega)
    omega

theorem lt_of_wholeKey_lt {i j : Int} (h : wholeKey i < wholeKey j) : i < j :=
  Int.not_le.1 fun hle => Int.not_lt.2 (wholeKey_mono hle) h

theorem wholeKey_injective {i j : Int} (hi : i.natAbs ≤ twoTo 53) (hj : j.natAbs ≤ twoTo 53)
    (h : wholeKey i = wholeKey j) : i = j := by
  have hsame := eq_of_rank_ofNat_eq hi hj
  have hzero {k : Int} (hk : k.natAbs ≤ twoTo 53) (h0 : (ofNat k.natAbs).rank = 0) : k.natAbs = 0 :=
    eq_of_rank_ofNat_eq hk (Nat.zero_le _) (h0.trans rank_ofNat_zero.symm)
  unfold wholeKey at h
  split_ifs at h with hineg hjneg hjneg
  · have := hsame (by omega)
    omega
  · have := hzero hi (by omega)
    omega
  · have := hzero hj (by omega)
    omega
  · have := hsame (by omega)
    omega

theorem wholeKey_lt_iff {i j : Int} (hi : i.natAbs ≤ twoTo 53) (hj : j.natAbs ≤ twoTo 53) :
    wholeKey i < wholeKey j ↔ i < j := by
  refine ⟨lt_of_wholeKey_lt, fun h => lt_of_le_of_ne (wholeKey_mono h.le) fun heq => h.ne ?_⟩
  exact wholeKey_injective hi hj heq

end Double

end WhereFilter
