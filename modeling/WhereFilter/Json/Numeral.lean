/-
Numbers in JSON texts. The digits go into a significand of 64 bits as long as they fit; those that
no longer fit only count as powers of ten or, behind the point, not at all. A number with a point,
an exponent or too many digits is a double: the significand, rounded, times or divided by a power
of ten, rounded again.
-/
import WhereFilter.Double.Decimal
import WhereFilter.Json.Fault

namespace WhereFilter.Json

/-- A value that has been read, and the text behind it. -/
abbrev Parsed (α : Type) := α × List Char

/-- Takes a value off the front of a text, or says why there is none. -/
abbrev Reader (α : Type) := List Char → Except Fault (Parsed α)

/-! ## Scaling -/

/-- The greatest power of ten that is a double of its own. -/
def maxPower : Nat := 308

/-- A magnitude divided by the greatest power so many times, or until nothing is left of it. -/
def shrinkFully : (times : Nat) → Magnitude → Magnitude
  | 0, m => m
  | times + 1, m =>
    if m.rank = 0 then m else shrinkFully times (m.dividedBy (.ofNat (tenTo maxPower)))

/-- A magnitude divided by a power of ten, in steps no larger than `maxPower`. -/
def shrink (m : Magnitude) (power : Nat) : Magnitude :=
  let times := (power - 1) / maxPower
  (shrinkFully times m).dividedBy (.ofNat (tenTo (power - times * maxPower)))

/-- A significand times a power of ten, if that is finite. -/
def scale? (significand : Nat) (power : Int) : Option Magnitude :=
  let m := Magnitude.ofNat significand
  if 0 ≤ power then
    if power ≤ maxPower then
      let product := m.times (.ofNat (tenTo power.toNat))
      if product.isFinite then some product else none
    else if significand = 0 then some m else none
  else some (shrink m power.natAbs)

/-! ## Digits -/

/-- Reads digits into a number as long as it stays within `limit`, and gives those left over. -/
def collect (limit : Nat) : Nat → List Char → Nat × List Char
  | n, [] => (n, [])
  | n, c :: rest =>
    let longer := 10 * n + (c.toNat - '0'.toNat)
    if longer ≤ limit then collect limit longer rest else (n, c :: rest)

/-- The greatest significand. -/
def maxSignificand : Nat := twoTo 64 - 1

/-- The greatest exponent that is read in full. -/
def maxExponent : Nat := twoTo 31 - 1

/-! ## Numbers -/

/-- The number that a magnitude stands for, or a fault behind the number if it is not finite. -/
def floatNumber (negative : Bool) (m? : Option Magnitude) (rest : List Char) :
    Except Fault (Parsed Number) :=
  match m? with
  | none => .error (.upTo .numberOutOfRange rest)
  | some m =>
    if finite : (Double.signed negative m).isFinite = true then
      .ok (.float (.signed negative m) finite, rest)
    else .error (.upTo .numberOutOfRange rest)

/-- What follows significand and fraction: perhaps an exponent. -/
def afterFraction (negative : Bool) (significand : Nat) (power : Int) (text : List Char) :
    Except Fault (Parsed Number) :=
  match text with
  | [] => floatNumber negative (scale? significand power) []
  | c :: rest =>
    if c == 'e' || c == 'E' then
      let (down, rest) := spanSign rest
      let (digits, behind) := spanDigits rest
      if digits.isEmpty then
        match rest with
        | [] => .error (.upTo .endOfValue [])
        | _ => .error (.onNext .invalidNumber rest)
      else
        match collect maxExponent 0 digits with
        | (exponent, []) =>
          let power := if down then power - exponent else power + exponent
          floatNumber negative (scale? significand power) behind
        | (_, _ :: extra) =>
          if significand = 0 || down then floatNumber negative (some .zero) behind
          else .error (.upTo .numberOutOfRange (extra ++ behind))
    else floatNumber negative (scale? significand power) text

/-- The number of a significand with nothing behind it: whole if 64 bits hold it, else a double.
Minus zero is a double. -/
def wholeNumber (negative : Bool) (significand : Nat) (rest : List Char) :
    Except Fault (Parsed Number) :=
  let value : Int := if negative then -significand else significand
  if inRange : leastInteger ≤ value ∧ value ≤ greatestInteger then
    if negative && significand == 0 then floatNumber true (some .zero) rest
    else .ok (.integer value inRange, rest)
  else floatNumber negative (scale? significand 0) rest

/-- What follows the digits before the point, of which `dropped` did not fit. -/
def afterWhole (negative : Bool) (significand dropped : Nat) (text : List Char) :
    Except Fault (Parsed Number) :=
  match text with
  | '.' :: rest =>
    let (digits, behind) := spanDigits rest
    if digits.isEmpty then
      match rest with
      | [] => .error (.upTo .endOfValue [])
      | _ => .error (.onNext .invalidNumber rest)
    else
      let (significand, extra) := collect maxSignificand significand digits
      afterFraction negative significand (dropped - (digits.length - extra.length : Nat)) behind
  | [] => if dropped = 0 then wholeNumber negative significand []
    else afterFraction negative significand dropped []
  | c :: rest =>
    if dropped = 0 && c != 'e' && c != 'E' then wholeNumber negative significand (c :: rest)
    else afterFraction negative significand dropped (c :: rest)

/-- A number without its sign. A leading zero stands alone. -/
def unsignedNumber (negative : Bool) (text : List Char) : Except Fault (Parsed Number) :=
  match text with
  | [] => .error (.upTo .endOfValue [])
  | c :: rest =>
    if c == '0' then
      if (rest.head?.map Char.isDigit).getD false then .error (.onNext .invalidNumber rest)
      else afterWhole negative 0 0 rest
    else if c.isDigit then
      let (digits, behind) := spanDigits text
      let (significand, extra) := collect maxSignificand 0 digits
      afterWhole negative significand extra.length behind
    else .error (.onNext .invalidNumber text)

end WhereFilter.Json
