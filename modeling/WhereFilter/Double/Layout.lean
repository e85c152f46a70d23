/-
How finite doubles are written. The digits are always the shortest that read back; a layout says
where the point goes, when there is an exponent instead, and how a whole number is marked.
-/
import WhereFilter.Double.Shortest

namespace WhereFilter

/-- A way to write finite doubles. -/
structure Layout where
  /-- Which of two equally near digit sequences is written. -/
  tie : Tie
  /-- Whether a number whose first digit stands for this power of ten is written without an
  exponent. -/
  positional : Int → Bool
  /-- What follows the digits of a whole number. -/
  wholeMark : List Char
  /-- What stands before an exponent that is not negative. -/
  exponentPlus : List Char

namespace Layout

/-- Digits and point only, with no mark on whole numbers. -/
def plain : Layout := ⟨.away, fun _ => true, [], []⟩

/-- An exponent outside the powers from `-5` to `15`, with a sign; whole numbers end in `.0`. -/
def json : Layout := ⟨.toEven, fun e => -5 ≤ e && e ≤ 15, ['.', '0'], ['+']⟩

/-- As `json`, with no sign on an exponent that is not negative. -/
def yaml : Layout := { json with exponentPlus := [] }

/-- Significant digits, and the power of ten of the first of them. -/
def digitsOf (d : Decimal) : List Char × Int :=
  let all := Nat.toDigits 10 d.coefficient
  let kept := (all.reverse.dropWhile (· == '0')).reverse
  if kept.isEmpty then (['0'], 0) else (kept, d.exponent + all.length - 1)

/-- Digits with the point after the one of power zero. -/
def placePoint (wholeMark digits : List Char) (power : Int) : List Char :=
  if power < 0 then
    ['0', '.'] ++ List.replicate (power.natAbs - 1) '0' ++ digits
  else
    let whole := power.toNat + 1
    if digits.length ≤ whole then
      digits ++ List.replicate (whole - digits.length) '0' ++ wholeMark
    else digits.take whole ++ ['.'] ++ digits.drop whole

/-- One digit before the point, and the power of ten after an `e`. -/
def placeExponent (plus digits : List Char) (power : Int) : List Char :=
  let point := if digits.length ≤ 1 then [] else ['.']
  let sign := if power < 0 then ['-'] else plus
  digits.take 1 ++ point ++ digits.drop 1 ++ ['e'] ++ sign ++ Nat.toDigits 10 power.natAbs

/-- A decimal in this layout. -/
def decimalText (l : Layout) (d : Decimal) : List Char :=
  let (digits, power) := digitsOf d
  if l.positional power then placePoint l.wholeMark digits power
  else placeExponent l.exponentPlus digits power

/-- A finite magnitude with its sign. -/
def magnitudeText (l : Layout) (negative : Bool) (m : Magnitude) : List Char :=
  (if negative then ['-'] else []) ++ l.decimalText (m.shortest l.tie)

end Layout

namespace Double

/-- The text of a double: shortest digits without an exponent, or one of the words `inf`, `-inf` and
`NaN`. -/
def text : Double → List Char
  | nan => ['N', 'a', 'N']
  | signed negative m =>
    if m.isFinite then Layout.plain.magnitudeText negative m
    else (if negative then ['-'] else []) ++ ['i', 'n', 'f']

/-- A double in a layout; what is not finite has only the plain text. -/
def textIn (l : Layout) : Double → List Char
  | signed negative m => if m.isFinite then l.magnitudeText negative m else (signed negative m).text
  | nan => nan.text

end Double

end WhereFilter
