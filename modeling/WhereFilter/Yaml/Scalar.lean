/-
Strings in YAML: plain, between single or double quotes, or as a block of lines.
-/
import WhereFilter.Yaml.Plain

namespace WhereFilter.Yaml

/-! ## Styles -/

/-- A way to write a string. -/
inductive Style
  | plain
  | singleQuoted
  | doubleQuoted
  | literal
deriving DecidableEq, Repr

/-- The style of a text: a block of lines if it has line feeds, else plain, and quotes where that is
not possible. -/
def Style.of (text : List Char) : Style :=
  if text.contains '\n' then if fitsLiteral text then literal else doubleQuoted
  else if !isTaken text && fitsPlain text then plain
  else if fitsSingleQuotes text then singleQuoted
  else doubleQuoted

/-- The blanks at the start of a line. -/
def margin (indent : Nat) : List Char := List.replicate indent ' '

/-! ## Single quotes -/

/-- A text inside single quotes; `fresh` tells whether a line has just been ended. A line starts
behind the margin, and a quote is written twice. -/
def insideSingle (indent : Nat) (fresh : Bool) : List Char → List Char
  | [] => if fresh then margin indent else []
  | c :: rest =>
    if isBreak c then c :: insideSingle indent true rest
    else
      (if fresh then margin indent else []) ++ (if c = '\'' then ['\'', '\''] else [c]) ++
        insideSingle indent false rest

/-! ## Double quotes -/

/-- The lowest digits of a number in base 16, with capital letters. -/
def hexDigits : (count n : Nat) → List Char
  | 0, _ => []
  | count + 1, n =>
    hexDigits count (n / 16) ++ [(Nat.digitChar (n % 16)).toUpper]

/-- The escape of a character by a letter or by its code. -/
def escape (c : Char) : List Char :=
  '\\' :: match c with
    | '\x00' => ['0']
    | '\x07' => ['a']
    | '\x08' => ['b']
    | '\t' => ['t']
    | '\n' => ['n']
    | '\x0b' => ['v']
    | '\x0c' => ['f']
    | '\r' => ['r']
    | '\x1b' => ['e']
    | '"' => ['"']
    | '\\' => ['\\']
    | '\x85' => ['N']
    | '\u2028' => ['L']
    | '\u2029' => ['P']
    | c =>
      if c.toNat < 0x100 then 'x' :: hexDigits 2 c.toNat
      else if c.toNat < 0x10000 then 'u' :: hexDigits 4 c.toNat
      else 'U' :: hexDigits 8 c.toNat

/-- A character inside double quotes. -/
def insideDouble (c : Char) : List Char :=
  if !isPrintable c || isBreak c || c == '"' || c == '\\' then escape c else [c]

/-! ## Blocks of lines -/

/-- What the header of a block says about the last line: a text without a line end there, one with
more than one, or one with just one, which needs no word. -/
def chomping (text : List Char) : List Char :=
  match text.reverse with
  | [] => ['-']
  | [c] => if isBreak c then ['+'] else ['-']
  | c :: d :: _ => if isBreak c then if isBreak d then ['+'] else [] else ['-']

/-- The header of a block. The indent is told when the text itself starts with blanks. -/
def header (text : List Char) : List Char :=
  '|' :: (if text.head?.any isSpaceOrBreak then ['2'] else []) ++ chomping text ++ ['\n']

/-- The lines of a block; `fresh` tells whether a line has just been ended. -/
def block (indent : Nat) (fresh : Bool) : List Char → List Char
  | [] => []
  | c :: rest =>
    if isBreak c then c :: block indent true rest
    else (if fresh then margin indent else []) ++ c :: block indent false rest

/-! ## Strings -/

/-- A string whose further lines start at `indent`. -/
def stringText (indent : Nat) (text : List Char) : List Char :=
  match Style.of text with
  | .plain => text
  | .singleQuoted => '\'' :: insideSingle indent false text ++ ['\'']
  | .doubleQuoted => '"' :: text.flatMap insideDouble ++ ['"']
  | .literal => header text ++ block indent true text

/-- Whether the string ends its last line itself. -/
def endsLine (text : List Char) : Bool :=
  Style.of text == .literal && text.getLast?.any isBreak

/-- A string and the end of its line. -/
def stringLine (indent : Nat) (text : List Char) : List Char :=
  stringText indent text ++ if endsLine text then [] else ['\n']

end WhereFilter.Yaml
