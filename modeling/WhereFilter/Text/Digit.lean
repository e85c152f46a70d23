/-
Digits in bases up to sixteen.
-/

namespace WhereFilter.Text

/-- The value of a digit in a base. Letters stand for the digits from ten on, in either case. -/
def digit? (base : Nat) (c : Char) : Option Nat :=
  let value :=
    if c.isDigit then c.toNat - '0'.toNat
    else if 'a' ≤ c && c ≤ 'f' then c.toNat - 'a'.toNat + 10
    else if 'A' ≤ c && c ≤ 'F' then c.toNat - 'A'.toNat + 10
    else base
  if value < base then some value else none

/-- The number that digits in a base write, if they all are digits. -/
def digitsValue? (base : Nat) (digits : List Char) : Option Nat :=
  (digits.mapM (digit? base)).map fun values => values.foldl (fun n d => base * n + d) 0

end WhereFilter.Text
