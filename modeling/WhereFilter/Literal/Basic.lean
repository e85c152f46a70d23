/-
Literals: the constants that fields are compared with.
-/
import WhereFilter.Double.Layout
import WhereFilter.Text.Blank

namespace WhereFilter

/-- The constant side of a comparison. -/
inductive Literal
  | number (value : Double)
  | text (value : String)
deriving DecidableEq

namespace Literal

/-! ## Reading -/

/-- What stands between two single quotes at the ends of a text. -/
def unquote? : List Char → Option (List Char)
  | '\'' :: rest => if rest.getLast? = some '\'' then some rest.dropLast else none
  | _ => none

/-- The literal that a text without outer blanks writes: in single quotes a text; else a number if
it reads as one; else itself as a text. -/
def parse (raw : String) : Literal :=
  match unquote? raw.toList with
  | some inner => text (String.ofList inner)
  | none => match Double.read? raw.toList with
    | some d => number d
    | none => text raw

def ofInt (i : Int) : Literal := number (.ofInt i)

/-! ## Views -/

def isNumber : Literal → Bool
  | number _ => true
  | text _ => false

/-- The number of the literal. A text counts as the number that it reads as, outer blanks apart. -/
def toDouble? : Literal → Option Double
  | number d => some d
  | text s => Double.read? (Text.trim s.toList)

/-- The text of the literal. -/
def toText : Literal → String
  | number d => String.ofList d.text
  | text s => s

/-- The literal as it is written in a query. Nothing is escaped between the quotes. -/
def print : Literal → String
  | number d => String.ofList d.text
  | text s => "'" ++ s ++ "'"

/-- Equality of literals of one kind, numbers being compared as numbers. -/
def same : Literal → Literal → Bool
  | number a, number b => a.sameNumber b
  | text a, text b => a == b
  | _, _ => false

end Literal

end WhereFilter
