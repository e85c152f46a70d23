/-
Literals as JSON. A literal is a bare number or string, so that its kind is told by the kind of the
JSON value alone.
-/
import WhereFilter.Json.Reader
import WhereFilter.Literal.Basic

namespace WhereFilter.Literal

/-- The JSON value of a literal. A number that is not finite has no JSON number and becomes null. -/
def toJson : Literal → Json
  | number d => .ofDouble d
  | text s => .string s

/-- The literal that a JSON value stands for: numbers and strings only. -/
def ofJson? : Json → Option Literal
  | .number n => some (number n.toDouble)
  | .string s => some (text s)
  | _ => none

/-- The cause when a JSON value stands for no literal. -/
def noLiteral : Json.Cause := .noSuchForm "Literal"

/-- Reads a literal from a whole JSON text. No place is known for a value of another kind. -/
def readJson (text : String) : Except Json.ReadError Literal := do
  let (json, rest) ← Json.readFront Json.value text.toList
  match ofJson? json with
  | some literal =>
    Json.readEnd text.toList rest
    return literal
  | none => throw ⟨noLiteral, none⟩

end WhereFilter.Literal
