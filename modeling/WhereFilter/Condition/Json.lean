/-
Conditions and queries as JSON. A condition is an object with the members `field`, `op` and
`literal` in any order, or an array of the three; a query is an array of conditions.
-/
import WhereFilter.Condition.Basic
import WhereFilter.Json.Skipping
import WhereFilter.Literal.Json
import WhereFilter.Query.Basic

namespace WhereFilter

open Json (Fault Parsed)

/-! ## Writing -/

def Op.toJson (op : Op) : Json := .string op.text

def Condition.toJson (c : Condition) : Json :=
  .object [("field", .string c.field), ("op", c.op.toJson), ("literal", c.literal.toJson)]

def Query.toJson (q : Query) : Json := .array (q.conditions.map Condition.toJson)

/-! ## Operators -/

namespace Op

/-- The operator of a name. -/
def ofName (name : String) (rest : List Char) : Except Fault (Parsed Op) :=
  match parse name with
  | .ok op => .ok (op, rest)
  | .error _ => .error (.upTo (.unknownName name ["=", "<", ">"]) rest)

/-- The name of an operator inside an object, where it is a key. -/
def readKey (text : List Char) : Except Fault (Parsed Op) :=
  match Json.skipGap text with
  | [] => .error (.upTo .endOfObject [])
  | '"' :: rest => do
    let (name, rest) ← Json.stringBody rest
    ofName name rest
  | '\x7d' :: rest => .error (.onNext .expectedValue ('\x7d' :: rest))
  | rest => .error (.onNext .keyNotString rest)

/-- Reads the null that an operator has as its only member. -/
def readUnit (text : List Char) : Except Fault (List Char) :=
  match Json.skipGap text with
  | [] => .error (.upTo .endOfValue [])
  | 'n' :: rest => Json.word ['u', 'l', 'l'] rest
  | rest => .error (Json.wrongKind "unit" rest)

/-- An operator: its name, or an object that gives null to its name. -/
def readFrom (nesting : Nat) (text : List Char) : Except Fault (Parsed Op) :=
  match Json.skipGap text with
  | [] => .error (.upTo .endOfValue [])
  | '"' :: rest => do
    let (name, rest) ← Json.stringBody rest
    ofName name rest
  | '\x7b' :: rest =>
    match nesting with
    | 0 => .error (.onNext .tooDeep ('\x7b' :: rest))
    | _ + 1 => do
      let (op, rest) ← readKey rest
      let rest ← readUnit (← Json.colon rest)
      match Json.skipGap rest with
      | [] => throw (.upTo .endOfObject [])
      | '\x7d' :: rest => return (op, rest)
      | rest => throw (.upTo .expectedValue rest)
  | rest => .error (.onNext .expectedValue rest)

/-- Reads an operator from a whole JSON text. -/
def readJson (text : String) : Except Json.ReadError Op :=
  Json.readAll (fun _ nesting => readFrom nesting) text

end Op

/-! ## Conditions -/

namespace Condition

/-- What a condition with too few parts was to be. -/
def partsExpected : String := "struct Condition with 3 elements"

/-- The members of a condition that have been read. -/
structure Partial where
  field : Option String
  op : Option Op
  literal : Option Literal

/-- Where a reader of an array stands when it stops early and closes the array as far as it can. -/
def leaveArray (text : List Char) : List Char :=
  match Json.skipGap text with
  | ']' :: rest => rest
  | ',' :: rest => Json.skipGap rest
  | rest => rest

/-- Where a reader of an object stands when it stops early and closes the object as far as it
can. -/
def leaveObject (text : List Char) : List Char :=
  match Json.skipGap text with
  | '\x7d' :: rest => rest
  | rest => rest

/-- A literal in a container, which is left by `leave` when the value is none. -/
def readLiteral (leave : List Char → List Char) (width nesting : Nat) (text : List Char) :
    Except Fault (Parsed Literal) := do
  let (json, rest) ← Json.value width nesting text
  match Literal.ofJson? json with
  | some literal => return (literal, rest)
  | none => throw (.upTo Literal.noLiteral (leave rest))

/-- Enters the part of an array behind another part; `known` parts have been read. -/
def nextPart (known : Nat) (text : List Char) : Except Fault (List Char) :=
  match Json.skipGap text with
  | [] => .error (.upTo .endOfList [])
  | ']' :: rest => .error (.upTo (.tooShort known partsExpected) rest)
  | ',' :: rest =>
    match Json.skipGap rest with
    | [] => .error (.upTo .endOfValue [])
    | ']' :: rest => .error (.onNext .trailingComma (']' :: rest))
    | rest => .ok rest
  | rest => .error (.onNext .expectedCommaOrBracket rest)

/-- The end of an array of which all parts have been read. -/
def endArray (text : List Char) : Except Fault (List Char) :=
  match Json.skipGap text with
  | [] => .error (.upTo .endOfList [])
  | ']' :: rest => .ok rest
  | ',' :: rest =>
    match Json.skipGap rest with
    | ']' :: rest => .error (.onNext .trailingComma (']' :: rest))
    | rest => .error (.onNext .trailingCharacters rest)
  | rest => .error (.onNext .trailingCharacters rest)

/-- A condition as an array, behind its bracket. -/
def readParts (width nesting : Nat) (text : List Char) : Except Fault (Parsed Condition) :=
  match Json.skipGap text with
  | [] => .error (.upTo .endOfList [])
  | ']' :: rest => .error (.upTo (.tooShort 0 partsExpected) rest)
  | rest => do
    let (field, rest) ← Json.stringValue rest
    let (op, rest) ← Op.readFrom nesting (← nextPart 1 rest)
    let (literal, rest) ← readLiteral leaveArray width nesting (← nextPart 2 rest)
    return (⟨field, op, literal⟩, ← endArray rest)

/-- The condition of the members read, or the first member that is missing. -/
def Partial.finish (p : Partial) (rest : List Char) : Except Fault (Parsed Condition) :=
  match p.field, p.op, p.literal with
  | some field, some op, some literal => .ok (⟨field, op, literal⟩, rest)
  | none, _, _ => .error (.upTo (.missingField "field") rest)
  | _, none, _ => .error (.upTo (.missingField "op") rest)
  | _, _, none => .error (.upTo (.missingField "literal") rest)

/-- Reads the value of one member. A name that a condition does not have is passed over with its
value; one that it already has is a fault. -/
def readMember (width nesting : Nat) (p : Partial) (name : String) (text : List Char) :
    Except Fault (Parsed Partial) :=
  let again : Except Fault (Parsed Partial) :=
    .error (.upTo (.duplicateField name) (leaveObject text))
  match name with
  | "field" => if p.field.isSome then again else do
    let (field, rest) ← Json.stringValue (← Json.colon text)
    return ({ p with field := some field }, rest)
  | "op" => if p.op.isSome then again else do
    let (op, rest) ← Op.readFrom nesting (← Json.colon text)
    return ({ p with op := some op }, rest)
  | "literal" => if p.literal.isSome then again else do
    let (literal, rest) ← readLiteral leaveObject width nesting (← Json.colon text)
    return ({ p with literal := some literal }, rest)
  | _ => do
    let rest ← Json.skipValue (2 * width) (← Json.colon text)
    return (p, rest)

/-- A condition as an object from inside the next name on. There are fewer than `count` members. -/
def readMembers (width nesting : Nat) : (count : Nat) → (text : List Char) → Partial →
    Except Fault (Parsed Condition)
  | 0, text, _ => .error (.upTo .endOfObject text)
  | count + 1, text, p => do
    let (name, rest) ← Json.stringBody text
    let (p, rest) ← readMember width nesting p name rest
    match Json.skipGap rest with
    | [] => throw (.upTo .endOfObject [])
    | '\x7d' :: rest => p.finish rest
    | ',' :: rest =>
      match Json.skipGap rest with
      | [] => throw (.upTo .endOfValue [])
      | '"' :: rest => readMembers width nesting count rest p
      | '\x7d' :: rest => throw (.onNext .trailingComma ('\x7d' :: rest))
      | rest => throw (.onNext .keyNotString rest)
    | rest => throw (.onNext .expectedCommaOrBrace rest)

/-- A condition as an object, behind its brace. -/
def readObject (width nesting : Nat) (text : List Char) : Except Fault (Parsed Condition) :=
  match Json.skipGap text with
  | [] => .error (.upTo .endOfObject [])
  | '\x7d' :: rest => Partial.finish ⟨none, none, none⟩ rest
  | '"' :: rest => readMembers width nesting width rest ⟨none, none, none⟩
  | rest => .error (.onNext .keyNotString rest)

/-- A condition. -/
def readFrom (width nesting : Nat) (text : List Char) : Except Fault (Parsed Condition) :=
  match Json.skipGap text with
  | [] => .error (.upTo .endOfValue [])
  | '[' :: rest =>
    match nesting with
    | 0 => .error (.onNext .tooDeep ('[' :: rest))
    | nesting + 1 => readParts width nesting rest
  | '\x7b' :: rest =>
    match nesting with
    | 0 => .error (.onNext .tooDeep ('\x7b' :: rest))
    | nesting + 1 => readObject width nesting rest
  | rest => .error (Json.wrongKind "struct Condition" rest)

/-- Reads a condition from a whole JSON text. -/
def readJson (text : String) : Except Json.ReadError Condition := Json.readAll readFrom text

end Condition

/-! ## Queries -/

/-- Reads a query from a whole JSON text. -/
def Query.readJson (text : String) : Except Json.ReadError Query := do
  let conditions ← Json.readAll (fun width => Json.listOf (Condition.readFrom width) width) text
  return ⟨conditions⟩

end WhereFilter
