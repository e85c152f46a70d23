/-
Why and where a JSON text is refused.
-/
import WhereFilter.Json.Writer
import WhereFilter.Text.Escaped

namespace WhereFilter.Json

/-! ## Causes -/

/-- What is wrong with a JSON text, or with its shape where a certain shape is asked for. -/
inductive Cause
  | endOfList
  | endOfObject
  | endOfString
  | endOfValue
  | expectedColon
  | expectedCommaOrBracket
  | expectedCommaOrBrace
  | expectedWord
  | expectedValue
  | invalidEscape
  | invalidNumber
  | numberOutOfRange
  | controlCharacter
  | keyNotString
  | loneSurrogate
  | trailingComma
  | trailingCharacters
  | unfinishedSurrogate
  | tooDeep
  /-- Another kind of value was asked for. Of a container only the kind counts, not the parts. -/
  | wrongKind (found : Json) (expected : String)
  | missingField (name : String)
  | duplicateField (name : String)
  | tooShort (length : Nat) (expected : String)
  | unknownName (name : String) (known : List String)
  | noSuchForm (expected : String)

/-- The kind of a value, and the value itself where it is short. -/
def kindText : Json → String
  | null => "null"
  | bool b => s!"boolean `{b}`"
  | number (.integer i _) => s!"integer `{i}`"
  | number (.float d _) => "floating point `" ++ String.ofList (d.textIn .json) ++ "`"
  | string s => "string " ++ Text.quoted s
  | array _ => "sequence"
  | object _ => "map"

def Cause.message : Cause → String
  | endOfList => "EOF while parsing a list"
  | endOfObject => "EOF while parsing an object"
  | endOfString => "EOF while parsing a string"
  | endOfValue => "EOF while parsing a value"
  | expectedColon => "expected `:`"
  | expectedCommaOrBracket => "expected `,` or `]`"
  | expectedCommaOrBrace => "expected `,` or `\x7d`"
  | expectedWord => "expected ident"
  | expectedValue => "expected value"
  | invalidEscape => "invalid escape"
  | invalidNumber => "invalid number"
  | numberOutOfRange => "number out of range"
  | controlCharacter => "control character (\\u0000-\\u001F) found while parsing a string"
  | keyNotString => "key must be a string"
  | loneSurrogate => "lone leading surrogate in hex escape"
  | trailingComma => "trailing comma"
  | trailingCharacters => "trailing characters"
  | unfinishedSurrogate => "unexpected end of hex escape"
  | tooDeep => "recursion limit exceeded"
  | wrongKind found expected => "invalid type: " ++ kindText found ++ ", expected " ++ expected
  | missingField name => s!"missing field `{name}`"
  | duplicateField name => s!"duplicate field `{name}`"
  | tooShort length expected => s!"invalid length {length}, expected {expected}"
  | unknownName name known =>
    s!"unknown variant `{name}`, expected one of " ++
      String.intercalate ", " (known.map fun one => s!"`{one}`")
  | noSuchForm expected => s!"data did not match any variant of untagged enum {expected}"

/-! ## Places -/

/-- The number of bytes of a text in UTF-8. -/
def byteCount (text : List Char) : Nat := text.foldl (fun n c => n + c.utf8Size) 0

/-- A cause, and how many bytes of the text lie behind the place to report. -/
structure Fault where
  cause : Cause
  left : Nat

namespace Fault

/-- A fault at the place where the unread text starts. -/
def upTo (cause : Cause) (unread : List Char) : Fault := ⟨cause, byteCount unread⟩

/-- A fault one byte into the unread text, or at the end if there is nothing left. -/
def onNext (cause : Cause) (unread : List Char) : Fault := ⟨cause, byteCount unread - 1⟩

end Fault

/-- A line, counted from one, and the number of its bytes before the place. -/
structure Place where
  line : Nat
  column : Nat
deriving DecidableEq, Repr

/-- The place `offset` bytes further on in a text. -/
def Place.advance (place : Place) (offset : Nat) : List Char → Place
  | [] => place
  | c :: rest =>
    if offset < c.utf8Size then { place with column := place.column + offset }
    else if c = '\n' then advance ⟨place.line + 1, 0⟩ (offset - 1) rest
    else advance { place with column := place.column + c.utf8Size } (offset - c.utf8Size) rest

/-! ## Errors -/

/-- Why a JSON text was refused, and where if the place is known. -/
structure ReadError where
  cause : Cause
  place? : Option Place

/-- A fault with its place in the whole text. -/
def Fault.inText (fault : Fault) (text : List Char) : ReadError :=
  ⟨fault.cause, some (Place.advance ⟨1, 0⟩ (byteCount text - fault.left) text)⟩

def ReadError.message (e : ReadError) : String :=
  match e.place? with
  | none => e.cause.message
  | some ⟨line, column⟩ => e.cause.message ++ s!" at line {line} column {column}"

end WhereFilter.Json
