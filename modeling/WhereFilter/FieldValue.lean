/-
The values of fields as comparisons see them.
-/
import WhereFilter.Json.Writer

namespace WhereFilter

/-- The value of a field. -/
inductive FieldValue
  | number (value : Double)
  | text (value : String)
  | null
  | other (value : Json)

namespace FieldValue

/-- What a JSON value is as the value of a field. -/
def ofJson : Json → FieldValue
  | .number n => number n.toDouble
  | .string s => text s
  | .null => null
  | json => other json

def isNull : FieldValue → Bool
  | null => true
  | _ => false

def isNumber : FieldValue → Bool
  | number _ => true
  | _ => false

def number? : FieldValue → Option Double
  | number d => some d
  | _ => none

def string? : FieldValue → Option String
  | text s => some s
  | _ => none

/-- The text of the value: a text itself, the digits of a number, and the compact JSON of anything
else. Null has none. -/
def toText? : FieldValue → Option String
  | number d => some (String.ofList d.text)
  | text s => some s
  | null => none
  | other json => some json.compactText

end FieldValue

end WhereFilter
