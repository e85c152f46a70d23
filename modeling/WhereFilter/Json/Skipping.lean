/-
Passing over JSON values that nobody wants. Strings and numbers are only looked at as far as it
takes to find their ends, and containers may stand in one another as deep as they like.
-/
import WhereFilter.Json.Reader

namespace WhereFilter.Json

/-! ## Parts -/

/-- The number of characters behind the backslash that an escape takes. A code may be any. -/
def escapeLength : List Char → Except Fault Nat
  | [] => .error (.upTo .endOfString [])
  | c :: rest =>
    if c = 'u' then (fourHex rest).map fun _ => 5
    else match letterEscape? c with
      | some _ => .ok 1
      | none => .error (.onNext .invalidEscape (c :: rest))

/-- The text behind the end of a string. The first `skip` characters belong to an escape. -/
def skipString : (skip : Nat) → (text : List Char) → Except Fault (List Char)
  | _, [] => .error (.upTo .endOfString [])
  | skip + 1, _ :: rest => skipString skip rest
  | 0, c :: rest =>
    if c = '"' then .ok rest
    else if c = '\\' then
      match escapeLength rest with
      | .error fault => .error fault
      | .ok taken => skipString taken rest
    else if c.toNat < 0x20 then .error (.upTo .controlCharacter (c :: rest))
    else skipString 0 rest

/-- The text behind an exponent, if there is one. -/
def skipExponent (text : List Char) : Except Fault (List Char) :=
  match text with
  | [] => .ok []
  | c :: rest =>
    if c == 'e' || c == 'E' then
      let (_, rest) := spanSign rest
      let (digits, behind) := spanDigits rest
      if digits.isEmpty then .error (.onNext .invalidNumber rest) else .ok behind
    else .ok text

/-- The text behind a number that has no sign. -/
def skipNumber (text : List Char) : Except Fault (List Char) :=
  let (digits, behind) := spanDigits text
  if digits.isEmpty then .error (.onNext .invalidNumber text)
  else if digits.head? = some '0' && digits.length ≠ 1 then
    .error (.onNext .invalidNumber (text.drop 1))
  else match behind with
    | '.' :: rest =>
      let (digits, behind) := spanDigits rest
      if digits.isEmpty then .error (.onNext .invalidNumber rest) else skipExponent behind
    | _ => skipExponent behind

/-- The text behind a value that is no container. -/
def skipScalar (text : List Char) : Except Fault (List Char) :=
  match text with
  | 'n' :: rest => word ['u', 'l', 'l'] rest
  | 't' :: rest => word ['r', 'u', 'e'] rest
  | 'f' :: rest => word ['a', 'l', 's', 'e'] rest
  | '"' :: rest => skipString 0 rest
  | '-' :: rest => skipNumber rest
  | c :: rest =>
    if c.isDigit then skipNumber (c :: rest) else .error (.onNext .expectedValue (c :: rest))
  | [] => .error (.upTo .endOfValue [])

/-! ## Values -/

/-- A container that has been opened and not yet closed. -/
inductive Bracket
  | list
  | object

/-- The fault when a text ends inside a container. -/
def Bracket.atEnd : Bracket → Fault
  | list => .upTo .endOfList []
  | object => .upTo .endOfObject []

/-- The character that closes a container. -/
def Bracket.close : Bracket → Char
  | list => ']'
  | object => '\x7d'

/-- The cause when neither a comma nor the closing character follows a part. -/
def Bracket.missingComma : Bracket → Cause
  | list => .expectedCommaOrBracket
  | object => .expectedCommaOrBrace

/-- The text from the value of the next part of a container on: behind its name, in an object. -/
def enterPart (bracket : Bracket) (text : List Char) : Except Fault (List Char) :=
  match bracket with
  | .list => .ok text
  | .object =>
    match skipGap text with
    | [] => .error (.upTo .endOfObject [])
    | '"' :: rest => do colon (← skipString 0 rest)
    | rest => .error (.onNext .keyNotString rest)

mutual

/-- Passes over a value. The text has fewer than `width` parts. -/
def skipValue : (width : Nat) → (text : List Char) → Except Fault (List Char)
  | 0, text => .error (.upTo .endOfValue text)
  | width + 1, text =>
    match skipGap text with
    | [] => .error (.upTo .endOfValue [])
    | '[' :: rest => skipParts width .list true rest
    | '\x7b' :: rest => skipParts width .object true rest
    | rest => skipScalar rest

/-- Passes over what is left of a container. Before every part but the `first` there is a comma. -/
def skipParts : (width : Nat) → Bracket → (first : Bool) → (text : List Char) →
    Except Fault (List Char)
  | 0, _, _, text => .error (.upTo .endOfValue text)
  | width + 1, bracket, first, text =>
    match skipGap text with
    | [] => .error bracket.atEnd
    | c :: rest =>
      if c = bracket.close then .ok rest
      else if first || c = ',' then do
        let part ← enterPart bracket (if first then c :: rest else rest)
        skipParts width bracket false (← skipValue width part)
      else .error (.onNext bracket.missingComma (c :: rest))

end

end WhereFilter.Json
