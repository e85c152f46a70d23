/-
Reading conditions. A condition starts with the first word that an operator follows, blanks between
them apart, and takes everything behind the operator as its value; what stands before the word is
ignored.
-/
import WhereFilter.Condition.Basic
import WhereFilter.Text.Word

namespace WhereFilter.Condition

/-- The parts of a condition as they stand in a text. -/
structure Parts where
  field : List Char
  op : Op
  value : List Char
deriving DecidableEq

/-- The value part behind an operator: the text from its first character that is no blank on. Of
blanks alone the last is the value; of nothing there is none. -/
def valuePart? (text : List Char) : Option (List Char) :=
  match text.dropWhile Text.isBlank with
  | [] => text.getLast?.map fun blank => [blank]
  | value => some value

/-- The condition that starts at the front of a text: a word, an operator and a value, with blanks
between them. -/
def partsHere? (text : List Char) : Option Parts :=
  match text.takeWhile Text.isWord, (text.dropWhile Text.isWord).dropWhile Text.isBlank with
  | first :: word, c :: rest => do
    let op ← Op.ofSymbol? c
    let value ← valuePart? rest
    return ⟨first :: word, op, value⟩
  | _, _ => none

/-- The first condition in a text. -/
def parts? : List Char → Option Parts
  | [] => none
  | c :: rest => match partsHere? (c :: rest) with
    | some parts => some parts
    | none => parts? rest

/-- The condition that a segment of a query writes. -/
def parse (segment : String) : Except Malformed Condition :=
  match parts? segment.toList with
  | some parts =>
    .ok ⟨String.ofList parts.field, parts.op,
      .parse (String.ofList (Text.trim parts.value))⟩
  | none => .error ⟨.invalidCondition, segment⟩

end WhereFilter.Condition
