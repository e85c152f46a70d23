/-
YAML texts without quotes. Some texts would then be read as something other than a string, others
would be read as markup or not be kept.
-/
import WhereFilter.Double.Decimal
import WhereFilter.Text.Digit

namespace WhereFilter.Yaml

/-! ## Texts that stand for something else -/

/-- The words for null. Nothing at all is also null. -/
def nullWords : List String := ["", "~", "null", "Null", "NULL"]

def boolWords : List String := ["true", "True", "TRUE", "false", "False", "FALSE"]

/-- The words for the doubles that are not finite. -/
def specialNumbers : List String :=
  [".inf", ".Inf", ".INF", "+.inf", "+.Inf", "+.INF", "-.inf", "-.Inf", "-.INF",
   ".nan", ".NaN", ".NAN"]

/-- Whether a text consists of digits in a base and writes no more than `limit`. -/
def isNaturalIn (base limit : Nat) (digits : List Char) : Bool :=
  !digits.isEmpty && (Text.digitsValue? base digits).any (· ≤ limit)

/-- Whether a text is a natural number up to `limit` in base 16, 8 or 2, marked by a letter. -/
def isMarkedNatural (limit : Nat) : List Char → Bool
  | '0' :: 'x' :: digits => isNaturalIn 16 limit digits
  | '0' :: 'o' :: digits => isNaturalIn 8 limit digits
  | '0' :: 'b' :: digits => isNaturalIn 2 limit digits
  | _ => false

/-- Whether a text is a marked integer of 128 bits. -/
def isMarkedInteger : List Char → Bool
  | '-' :: text => isMarkedNatural (twoTo 127) text
  | '+' :: text => isMarkedNatural (twoTo 128 - 1) text
  | text => isMarkedNatural (twoTo 128 - 1) text

/-- Whether a text is a zero with digits behind it, which some readers take for a number. -/
def isPadded (text : List Char) : Bool :=
  match (spanSign text).2 with
  | '0' :: digit :: rest => (digit :: rest).all Char.isDigit
  | _ => false

/-- Whether a text is a number that a double can hold. -/
def isFiniteDecimal (text : List Char) : Bool := (Double.read? text).any Double.isFinite

/-- Whether a text without quotes stands for null, a Boolean or a number. -/
def isTaken (text : List Char) : Bool :=
  let word := String.ofList text
  nullWords.contains word || boolWords.contains word || specialNumbers.contains word ||
    isMarkedInteger text || isPadded text || isFiniteDecimal text

/-! ## Characters -/

/-- A character that ends a line. -/
def isBreak (c : Char) : Bool :=
  c == '\n' || c == '\r' || c == '\x85' || c == '\u2028' || c == '\u2029'

/-- A character that can stand for itself. Of the controls only the line feed can. -/
def isPrintable (c : Char) : Bool :=
  c == '\n' || (' ' ≤ c && c ≤ '~') ||
    (0xA0 ≤ c.toNat && c.toNat ≠ 0xFEFF && c.toNat ≠ 0xFFFE && c.toNat ≠ 0xFFFF)

def isSpace (c : Char) : Bool := c == ' '

def isSpaceOrBreak (c : Char) : Bool := isSpace c || isBreak c

/-- Whether a text has a character of one kind right before one of another kind. -/
def hasPair (first second : Char → Bool) (text : List Char) : Bool :=
  (text.zip text.tail).any fun (c, d) => first c && second d

/-! ## Markup -/

/-- A character that is markup at the start of a text. -/
def isIndicator (c : Char) : Bool :=
  ['#', ',', '[', ']', '\x7b', '\x7d', '&', '*', '!', '|', '>', '\'', '"', '%', '@', '`'].contains c

/-- Whether a text starts with markup. A dash and a question mark are that only before a space or
the end. -/
def startsWithMarkup : List Char → Bool
  | '-' :: '-' :: '-' :: _ => true
  | '.' :: '.' :: '.' :: _ => true
  | ['-'] => true
  | ['?'] => true
  | '-' :: c :: _ => isSpace c
  | '?' :: c :: _ => isSpace c
  | c :: _ => isIndicator c
  | [] => false

/-- Whether a text has a colon before a space or the end, or a number sign behind a space. -/
def holdsMarkup : List Char → Bool
  | [] => false
  | [c] => c == ':'
  | c :: d :: rest => (c == ':' && isSpace d) || (isSpace c && d == '#') || holdsMarkup (d :: rest)

/-! ## Where a text can stand -/

/-- Whether all characters stand for themselves and no space is lost at the end of a line. -/
def isKept (text : List Char) : Bool := text.all isPrintable && !hasPair isSpace isBreak text

/-- Whether a text can stand without quotes. -/
def fitsPlain (text : List Char) : Bool :=
  isKept text && !text.any isBreak && !text.head?.any isSpace && !text.getLast?.any isSpace &&
    !startsWithMarkup text && !holdsMarkup text

/-- Whether a text can stand between single quotes. -/
def fitsSingleQuotes (text : List Char) : Bool := isKept text && !hasPair isBreak isSpace text

/-- Whether a text can stand as a block of lines. -/
def fitsLiteral (text : List Char) : Bool := isKept text && !text.getLast?.any isSpace

end WhereFilter.Yaml
