/-
Decimal numerals and the doubles they denote. A decimal is rounded once, to the nearest double,
however many digits it has. Of an exponent only so many digits are taken in that it is far out of the
range of doubles.
-/
import WhereFilter.Double.Basic

namespace WhereFilter

/-- The decimal number `coefficient * 10 ^ exponent`. -/
structure Decimal where
  coefficient : Nat
  exponent : Int
deriving DecidableEq, Repr

/-! ## Rounding -/

/-- The magnitude nearest to a decimal. Exponents far beyond the range of magnitudes are answered
without building the power of ten. -/
def Magnitude.ofDecimal (d : Decimal) : Magnitude :=
  if d.coefficient = 0 then .zero
  else if 0 ≤ d.exponent then
    if 400 ≤ d.exponent then .infinity
    else .ofRatio (d.coefficient * tenTo d.exponent.toNat) 1
  else
    let places := d.exponent.natAbs
    if d.coefficient.log2 + 1076 ≤ 3 * places then .zero
    else .ofRatio d.coefficient (tenTo places)

/-! ## Numerals -/

/-- The number that a sequence of digits writes. -/
def digitsValue (digits : List Char) : Nat :=
  digits.foldl (fun n c => 10 * n + (c.toNat - '0'.toNat)) 0

/-- The digits at the front of a text, and the text behind them. -/
def spanDigits (text : List Char) : List Char × List Char :=
  (text.takeWhile Char.isDigit, text.dropWhile Char.isDigit)

/-- What a sign before digits means. A text that starts with no sign is positive. -/
def spanSign : List Char → Bool × List Char
  | '-' :: rest => (true, rest)
  | '+' :: rest => (false, rest)
  | text => (false, text)

namespace Decimal

/-- Where an exponent stops to take in digits. -/
def exponentLimit : Nat := 0x10000

/-- An exponent with one more digit, as long as it has not reached the limit. -/
def withDigit (n : Nat) (c : Char) : Nat :=
  if n < exponentLimit then 10 * n + (c.toNat - '0'.toNat) else n

/-- The exponent that a sequence of digits writes, as far as it is taken in. -/
def exponentValue (digits : List Char) : Nat := digits.foldl withDigit 0

/-- The exponent that closes a numeral: nothing, or `e` in either case, a sign and digits. -/
def exponent? : List Char → Option Int
  | [] => some 0
  | c :: rest =>
    if c == 'e' || c == 'E' then
      let (negative, rest) := spanSign rest
      let (digits, rest) := spanDigits rest
      if digits.isEmpty || !rest.isEmpty then none
      else some (if negative then -(exponentValue digits : Int) else exponentValue digits)
    else none

/-- The digits of a fraction after a point, and the text behind them. Without a point there are
none. -/
def spanFraction : List Char → List Char × List Char
  | '.' :: rest => spanDigits rest
  | text => ([], text)

/-- An unsigned numeral: digits with a point anywhere among them or without one, at least one
digit in all, and perhaps an exponent. -/
def read? (text : List Char) : Option Decimal :=
  let (whole, rest) := spanDigits text
  let (fraction, rest) := spanFraction rest
  if (whole ++ fraction).isEmpty then none
  else do
    let exponent ← exponent? rest
    return ⟨digitsValue (whole ++ fraction), exponent - fraction.length⟩

end Decimal

namespace Double

/-- The double without a sign that a text denotes: a numeral, or one of the words `inf`, `infinity`
and `nan` in any case. -/
def readUnsigned? (text : List Char) : Option Double :=
  match Decimal.read? text with
  | some d => some (signed false (.ofDecimal d))
  | none =>
    let word := String.ofList (text.map Char.toLower)
    if word == "inf" || word == "infinity" then some infinity
    else if word == "nan" then some nan
    else none

/-- The double that a text denotes, with a sign or without. -/
def read? (text : List Char) : Option Double :=
  let (negative, rest) := spanSign text
  (readUnsigned? rest).map fun d => if negative then d.negate else d

end Double

end WhereFilter
