/-
The shortest decimal that rounds to a magnitude. The decimals with few digits are tried first; on
each grid only the two neighbours of the value can be nearest, and one of them counts if it rounds
back to the magnitude.
-/
import WhereFilter.Double.Decimal

namespace WhereFilter

/-- Which of two equally near decimals is taken. -/
inductive Tie
  | toEven
  | away
deriving DecidableEq

namespace Magnitude

/-- The number of binary places after the point of the finest magnitude. -/
def places : Nat := 1074

/-- The value times `10 ^ places`: a whole number, whose digits are those of the value. -/
def scaled (m : Magnitude) : Nat := m.units * Nat.pow 5 places

/-- The value itself as a decimal, with all its digits. -/
def exactDecimal (m : Magnitude) : Decimal := ⟨m.scaled, -(places : Int)⟩

/-- The nearest decimal among those that keep all but `dropped` digits of the scaled value, as far
as it rounds back to the magnitude. -/
def decimalDropping? (tie : Tie) (m : Magnitude) (dropped : Nat) : Option Decimal :=
  let step := tenTo dropped
  let low := m.scaled / step
  let rest := m.scaled % step
  let decimal (c : Nat) : Decimal := ⟨c, (dropped : Int) - places⟩
  let up : Bool := match tie with
    | .toEven => step < 2 * rest || (step == 2 * rest && low % 2 == 1)
    | .away => step ≤ 2 * rest
  let near := decimal (if up then low + 1 else low)
  let far := decimal (if up then low else low + 1)
  if ofDecimal near = m then some near else if ofDecimal far = m then some far else none

/-- How many digits a number has at most; it has one less at least. -/
def digitBound (n : Nat) : Nat := n.log2 * 30103 / 100000 + 2

/-- The shortest decimal that rounds to the magnitude, and the nearest of these. Seventeen digits
always suffice. -/
def shortest (tie : Tie) (m : Magnitude) : Decimal :=
  let bound := digitBound m.scaled
  ((List.range 18).findSome? fun i => decimalDropping? tie m (bound - (i + 1))).getD m.exactDecimal

end Magnitude

end WhereFilter
