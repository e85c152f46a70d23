/-
Conditions: one field compared with one literal. What a condition accepts depends on the kind of the
value: numbers are compared as numbers, all else but null as text and only for equality.
-/
import WhereFilter.Literal.Basic
import WhereFilter.Op
import WhereFilter.Record
import WhereFilter.Text.Lowercase

namespace WhereFilter

/-- A comparison of a field with a literal. -/
structure Condition where
  field : String
  op : Op
  literal : Literal
deriving DecidableEq

namespace Condition

/-- Whether a number stands in the relation to the literal. A literal that reads as no number
stands in none. -/
def acceptsNumber (op : Op) (literal : Literal) (value : Double) : Bool :=
  match literal.toDouble? with
  | some d => op.holds (value.compare? d)
  | none => false

/-- Whether a text stands in the relation to the literal. Texts are only ever equal, outer blanks
and case apart. -/
def acceptsText (op : Op) (literal : Literal) (value : String) : Bool :=
  match op with
  | .eq => Text.sameIgnoringCase (Text.trim value.toList) (Text.trim literal.toText.toList)
  | _ => false

/-- Whether a value satisfies the condition. Null satisfies none. -/
def accepts (c : Condition) (value : FieldValue) : Bool :=
  match value with
  | .null => false
  | .number d => acceptsNumber c.op c.literal d
  | .text s => acceptsText c.op c.literal s
  | .other json => acceptsText c.op c.literal json.compactText

/-- Whether the condition holds of something with fields. A missing field satisfies none. -/
def holdsOf {α : Type} [Fields α] (c : Condition) (x : α) : Bool :=
  match field? x c.field with
  | some value => c.accepts value
  | none => false

/-- The condition as it is written in a query. -/
def print (c : Condition) : String := c.field ++ " " ++ c.op.text ++ " " ++ c.literal.print

/-- Equality of conditions, numbers being compared as numbers. -/
def same (a b : Condition) : Bool := a.field == b.field && a.op == b.op && a.literal.same b.literal

end Condition

end WhereFilter
