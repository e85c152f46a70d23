/-
YAML texts of values, every item and every member on a line of its own. A collection stands two
columns further in than the one that holds it, except that the items of a member stand right below
its name.
-/
import WhereFilter.Json.Writer
import WhereFilter.Yaml.Scalar

namespace WhereFilter.Yaml

/-! ## Names -/

/-- The longest name, in bytes, that can stand before its colon. -/
def maxSimpleName : Nat := 128

/-- Whether a name can stand on one line with its colon. -/
def isSimple (name : String) : Bool :=
  name.utf8ByteSize ≤ maxSimpleName && !name.toList.any isBreak

/-! ## Values -/

/-- The line of a value that has no parts. -/
def leafLine (indent : Nat) : Json → List Char
  | .null => ['n', 'u', 'l', 'l', '\n']
  | .bool true => ['t', 'r', 'u', 'e', '\n']
  | .bool false => ['f', 'a', 'l', 's', 'e', '\n']
  | .number (.integer i _) => Json.intText i ++ ['\n']
  | .number (.float d _) => d.textIn .yaml ++ ['\n']
  | .string s => stringLine indent s.toList
  | .array _ => ['[', ']', '\n']
  | .object _ => ['\x7b', '\x7d', '\n']

/-- What a value stands behind: a mark of one character, or a name. -/
inductive Lead
  | mark
  | name

/-- A name with its colon, or, when it is not simple, between two marks. -/
def nameText (column : Nat) (name : String) : List Char :=
  if isSimple name then stringText (column + 2) name.toList ++ [':']
  else '?' :: ' ' :: stringLine (column + 2) name.toList ++ margin column ++ [':']

/-- What a value behind a name stands behind. -/
def Lead.of (name : String) : Lead := if isSimple name then .name else .mark

mutual

/-- A value behind a mark or a name at `column`. -/
def value (column : Nat) (lead : Lead) : Json → List Char
  | .array (item :: rest) =>
    match lead with
    | .mark => ' ' :: items (column + 2) (item :: rest)
    | .name => '\n' :: margin column ++ items column (item :: rest)
  | .object (member :: rest) =>
    match lead with
    | .mark => ' ' :: members (column + 2) (member :: rest)
    | .name => '\n' :: margin (column + 2) ++ members (column + 2) (member :: rest)
  | leaf => ' ' :: leafLine (column + 2) leaf

/-- Items at `column`, which the text has reached. -/
def items (column : Nat) : List Json → List Char
  | [] => []
  | [item] => '-' :: value column .mark item
  | item :: rest => '-' :: value column .mark item ++ margin column ++ items column rest

/-- Members at `column`, which the text has reached. -/
def members (column : Nat) : List (String × Json) → List Char
  | [] => []
  | [(name, json)] => nameText column name ++ value column (.of name) json
  | (name, json) :: rest =>
    nameText column name ++ value column (.of name) json ++ margin column ++ members column rest

end

/-- A list of values. -/
def text (values : List Json) : List Char :=
  match values with
  | [] => ['[', ']', '\n']
  | item :: rest => items 0 (item :: rest)

end WhereFilter.Yaml
