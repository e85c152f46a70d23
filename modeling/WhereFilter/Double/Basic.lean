/-
Binary floating point with 64 bits, exactly. A magnitude is known by its rank among all
magnitudes, zero first and infinity last, so that comparing ranks compares values; a double is a
signed magnitude or no number at all. Rounding is defined once, from a quotient of natural numbers.
-/

namespace WhereFilter

/-! ## Powers -/

/-- A power of two. -/
abbrev twoTo (exponent : Nat) : Nat := Nat.pow 2 exponent

/-- A power of ten. -/
abbrev tenTo (exponent : Nat) : Nat := Nat.pow 10 exponent

/-! ## Magnitudes -/

/-- The rank of infinity: the number of finite magnitudes. -/
def infinityRank : Nat := 2047 * twoTo 52

/-- A finite magnitude or infinity, by its rank. -/
structure Magnitude where
  rank : Nat
  rank_le : rank ≤ infinityRank
deriving DecidableEq

namespace Magnitude

def zero : Magnitude := ⟨0, Nat.zero_le _⟩

def infinity : Magnitude := ⟨infinityRank, Nat.le_refl _⟩

def isFinite (m : Magnitude) : Bool := m.rank < infinityRank

/-- The value in units of `2 ^ -1074`, the least positive magnitude. Below rank `2 ^ 53` the rank is
the value; from there on the unit doubles every `2 ^ 52` ranks. -/
def units (m : Magnitude) : Nat :=
  if m.rank < twoTo 52 then m.rank
  else (twoTo 52 + m.rank % twoTo 52) * twoTo (m.rank / twoTo 52 - 1)

/-- The number of units in one. -/
def unitsPerOne : Nat := twoTo 1074

end Magnitude

/-- The whole number nearest to `num / den`; of two equally near ones the even one. -/
def roundHalfEven (num den : Nat) : Nat :=
  let q := num / den
  let r := num % den
  if 2 * r < den then q else if den < 2 * r then q + 1 else q + q % 2

namespace Magnitude

/-- The magnitude nearest to `num / den` units, ties going to the even rank. The quotient is rounded
to a whole number of the steps between the magnitudes of its size; beyond the greatest magnitude
everything is infinity. -/
def ofUnits (num den : Nat) : Magnitude :=
  let shift := (num / den).log2 - 52
  ⟨min infinityRank (shift * twoTo 52 + roundHalfEven num (den * twoTo shift)),
    Nat.min_le_left _ _⟩

/-- The magnitude nearest to `num / den`. -/
def ofRatio (num den : Nat) : Magnitude := ofUnits (num * unitsPerOne) den

/-- The magnitude nearest to a whole number. -/
def ofNat (n : Nat) : Magnitude := ofRatio n 1

/-- The rounded product of two finite magnitudes. -/
def times (a b : Magnitude) : Magnitude := ofUnits (a.units * b.units) unitsPerOne

/-- The rounded quotient of two finite magnitudes, the second not zero. -/
def dividedBy (a b : Magnitude) : Magnitude := ofUnits (a.units * unitsPerOne) b.units

end Magnitude

/-! ## Doubles -/

/-- A double: no number, or a magnitude with a sign. The two zeros differ. -/
inductive Double
  | nan
  | signed (negative : Bool) (magnitude : Magnitude)
deriving DecidableEq

namespace Double

def infinity : Double := signed false .infinity

def isFinite : Double → Bool
  | nan => false
  | signed _ m => m.isFinite

def negate : Double → Double
  | nan => nan
  | signed negative m => signed (!negative) m

/-- The double nearest to a whole number; zero is positive. -/
def ofInt (i : Int) : Double := signed (i < 0) (.ofNat i.natAbs)

/-! ## Order -/

/-- A whole number by which all doubles that are numbers are ordered. The two zeros share it. -/
def key? : Double → Option Int
  | nan => none
  | signed false m => some m.rank
  | signed true m => some (-m.rank)

/-- How two doubles compare; not at all when one is no number. -/
def compare? (a b : Double) : Option Ordering :=
  match a.key?, b.key? with
  | some i, some j => some (compare i j)
  | _, _ => none

/-- Equality as numbers: the two zeros are equal, and what is no number equals nothing. -/
def sameNumber (a b : Double) : Bool := a.compare? b == some .eq

end Double

end WhereFilter
