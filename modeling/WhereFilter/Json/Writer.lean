/-
JSON texts of values: the compact one and the indented one.
-/
import WhereFilter.Double.Layout
import WhereFilter.Json.Basic

namespace WhereFilter.Json

/-! ## Strings and numbers -/

/-- A character inside a JSON string. Only the quote, the backslash and the controls below space are
escaped. -/
def escapedChar (c : Char) : List Char :=
  match c with
  | '"' => ['\\', '"']
  | '\\' => ['\\', '\\']
  | '\x08' => ['\\', 'b']
  | '\x0c' => ['\\', 'f']
  | '\n' => ['\\', 'n']
  | '\r' => ['\\', 'r']
  | '\t' => ['\\', 't']
  | c =>
    if c.toNat < 0x20 then
      ['\\', 'u', '0', '0', Nat.digitChar (c.toNat / 16), Nat.digitChar (c.toNat % 16)]
    else [c]

/-- A JSON string. -/
def stringText (s : String) : List Char := '"' :: s.toList.flatMap escapedChar ++ ['"']

/-- The digits of a whole number, with a minus sign when it is negative. -/
def intText (i : Int) : List Char :=
  (if i < 0 then ['-'] else []) ++ Nat.toDigits 10 i.natAbs

def Number.text : Number → List Char
  | integer value _ => intText value
  | float value _ => value.textIn .json

/-! ## Compact texts -/

mutual

/-- The text with no blanks. -/
def compact : Json → List Char
  | null => ['n', 'u', 'l', 'l']
  | bool true => ['t', 'r', 'u', 'e']
  | bool false => ['f', 'a', 'l', 's', 'e']
  | number n => n.text
  | string s => stringText s
  | array items => '[' :: compactItems items ++ [']']
  | object members => '\x7b' :: compactMembers members ++ ['\x7d']

def compactItems : List Json → List Char
  | [] => []
  | [item] => compact item
  | item :: rest => compact item ++ ',' :: compactItems rest

def compactMembers : List (String × Json) → List Char
  | [] => []
  | [(name, value)] => stringText name ++ ':' :: compact value
  | (name, value) :: rest => stringText name ++ ':' :: compact value ++ ',' :: compactMembers rest

end

/-! ## Indented texts -/

/-- The start of a line inside `depth` containers. -/
def newline (depth : Nat) : List Char := '\n' :: List.replicate (2 * depth) ' '

mutual

/-- The text with every item and member on a line of its own, two blanks further in than its
container. -/
def pretty (depth : Nat) : Json → List Char
  | array [] => ['[', ']']
  | array (item :: rest) =>
    '[' :: prettyItems (depth + 1) (item :: rest) ++ newline depth ++ [']']
  | object [] => ['\x7b', '\x7d']
  | object (member :: rest) =>
    '\x7b' :: prettyMembers (depth + 1) (member :: rest) ++ newline depth ++ ['\x7d']
  | null => compact null
  | bool b => compact (bool b)
  | number n => compact (number n)
  | string s => compact (string s)

def prettyItems (depth : Nat) : List Json → List Char
  | [] => []
  | [item] => newline depth ++ pretty depth item
  | item :: rest => newline depth ++ pretty depth item ++ ',' :: prettyItems depth rest

def prettyMembers (depth : Nat) : List (String × Json) → List Char
  | [] => []
  | [(name, value)] => newline depth ++ stringText name ++ ':' :: ' ' :: pretty depth value
  | (name, value) :: rest =>
    newline depth ++ stringText name ++ ':' :: ' ' :: pretty depth value ++
      ',' :: prettyMembers depth rest

end

/-- The compact text as a string. -/
def compactText (value : Json) : String := String.ofList value.compact

/-- The indented text as a string. -/
def prettyText (value : Json) : String := String.ofList (value.pretty 0)

end WhereFilter.Json
