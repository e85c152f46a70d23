/-
Reading JSON texts. Every reader takes the unread text and gives a value with the text behind it,
or the fault at the first place where the text cannot go on. Containers may stand in one another
`maxNesting` deep.
-/
import WhereFilter.Json.Numeral
import WhereFilter.Text.Digit

namespace WhereFilter.Json

/-! ## Gaps and words -/

/-- The characters that may stand between tokens. -/
def isGap (c : Char) : Bool := c == ' ' || c == '\n' || c == '\t' || c == '\r'

/-- The text from the next token on. -/
def skipGap (text : List Char) : List Char := text.dropWhile isGap

/-- Takes the rest of a word that is known by its first letter. -/
def word : (letters text : List Char) → Except Fault (List Char)
  | [], text => .ok text
  | _ :: _, [] => .error (.upTo .endOfValue [])
  | letter :: letters, c :: text =>
    if c = letter then word letters text else .error (.onNext .expectedWord (c :: text))

/-! ## Strings -/

/-- The number that the four hexadecimal digits at the front of a text write. -/
def fourHex (text : List Char) : Except Fault Nat :=
  if byteCount (text.take 4) < 4 then .error (.upTo .endOfString [])
  else match Text.digitsValue? 16 (text.take 4) with
    | some n => .ok n
    | none => .error ⟨.invalidEscape, byteCount text - 4⟩

def isLeadingSurrogate (n : Nat) : Bool := 0xD800 ≤ n && n ≤ 0xDBFF

def isTrailingSurrogate (n : Nat) : Bool := 0xDC00 ≤ n && n ≤ 0xDFFF

/-- The trailing surrogate that has to follow a leading one. -/
def trailingSurrogate (text : List Char) : Except Fault Nat :=
  match text with
  | [] => .error (.upTo .endOfString [])
  | c :: rest =>
    if c ≠ '\\' then .error (.onNext .unfinishedSurrogate (c :: rest))
    else match rest with
      | [] => .error (.upTo .endOfString [])
      | d :: rest =>
        if d ≠ 'u' then .error (.onNext .unfinishedSurrogate (d :: rest))
        else do
          let n ← fourHex rest
          if isTrailingSurrogate n then return n
          else throw (.upTo .loneSurrogate (rest.drop 4))

/-- The character of an escape with a code, and the number of characters behind the backslash that
the escape takes. A character beyond 16 bits is written by two surrogates. -/
def codeEscape (text : List Char) : Except Fault (Char × Nat) := do
  let n ← fourHex text
  if isTrailingSurrogate n then throw (.upTo .loneSurrogate (text.drop 4))
  else if isLeadingSurrogate n then
    let m ← trailingSurrogate (text.drop 4)
    return (Char.ofNat ((n - 0xD800) * 0x400 + (m - 0xDC00) + 0x10000), 11)
  else return (Char.ofNat n, 5)

/-- The character that an escape with one letter writes. -/
def letterEscape? : Char → Option Char
  | '"' => some '"'
  | '\\' => some '\\'
  | '/' => some '/'
  | 'b' => some '\x08'
  | 'f' => some '\x0c'
  | 'n' => some '\n'
  | 'r' => some '\r'
  | 't' => some '\t'
  | _ => none

/-- The character that an escape writes, and the number of characters behind the backslash that it
takes. -/
def escape : List Char → Except Fault (Char × Nat)
  | [] => .error (.upTo .endOfString [])
  | c :: rest =>
    if c = 'u' then codeEscape rest
    else match letterEscape? c with
      | some x => .ok (x, 1)
      | none => .error (.onNext .invalidEscape (c :: rest))

/-- The characters of a string from some point on, with those before it in reverse. The first `skip`
characters belong to an escape that has been read. -/
def stringFrom : (skip : Nat) → (text before : List Char) → Except Fault (Parsed (List Char))
  | _, [], _ => .error (.upTo .endOfString [])
  | skip + 1, _ :: rest, before => stringFrom skip rest before
  | 0, c :: rest, before =>
    if c = '"' then .ok (before.reverse, rest)
    else if c = '\\' then
      match escape rest with
      | .error fault => .error fault
      | .ok (x, taken) => stringFrom taken rest (x :: before)
    else if c.toNat < 0x20 then .error (.onNext .controlCharacter (c :: rest))
    else stringFrom 0 rest (c :: before)

/-- A string behind its opening quote. -/
def stringBody (text : List Char) : Except Fault (Parsed String) := do
  let (chars, rest) ← stringFrom 0 text []
  return (String.ofList chars, rest)

/-! ## Values without parts -/

/-- A null, a Boolean, a number or a string. -/
def scalar (text : List Char) : Except Fault (Parsed Json) :=
  match text with
  | 'n' :: rest => do return (.null, ← word ['u', 'l', 'l'] rest)
  | 't' :: rest => do return (.bool true, ← word ['r', 'u', 'e'] rest)
  | 'f' :: rest => do return (.bool false, ← word ['a', 'l', 's', 'e'] rest)
  | '"' :: rest => do
    let (s, rest) ← stringBody rest
    return (.string s, rest)
  | '-' :: rest => do
    let (n, rest) ← unsignedNumber true rest
    return (.number n, rest)
  | c :: rest =>
    if c.isDigit then do
      let (n, rest) ← unsignedNumber false (c :: rest)
      return (.number n, rest)
    else .error (.onNext .expectedValue (c :: rest))
  | [] => .error (.upTo .endOfValue [])

/-- The fault of a value of another kind than the one asked for. Of a container only the bracket is
looked at; anything else is read first, and its own fault goes before. -/
def wrongKind (expected : String) (text : List Char) : Fault :=
  match text with
  | '[' :: _ => .upTo (.wrongKind (.array []) expected) text
  | '\x7b' :: _ => .upTo (.wrongKind (.object []) expected) text
  | _ => match scalar text with
    | .error fault => fault
    | .ok (found, rest) => .upTo (.wrongKind found expected) rest

/-! ## Containers -/

/-- The items of an array from the next one on, with those before it in reverse. There are fewer
than `width` of them. -/
def itemsFrom {α : Type} (item : Reader α) :
    (width : Nat) → (text : List Char) → (before : List α) → Except Fault (Parsed (List α))
  | 0, text, _ => .error (.upTo .endOfList text)
  | width + 1, text, before => do
    let (x, rest) ← item text
    match skipGap rest with
    | [] => throw (.upTo .endOfList [])
    | ']' :: rest => return ((x :: before).reverse, rest)
    | ',' :: rest =>
      match skipGap rest with
      | [] => throw (.upTo .endOfValue [])
      | ']' :: rest => throw (.onNext .trailingComma (']' :: rest))
      | rest => itemsFrom item width rest (x :: before)
    | rest => throw (.onNext .expectedCommaOrBracket rest)

/-- An array behind its bracket. -/
def arrayBody {α : Type} (item : Reader α) (width : Nat) (text : List Char) :
    Except Fault (Parsed (List α)) :=
  match skipGap text with
  | [] => .error (.upTo .endOfList [])
  | ']' :: rest => .ok ([], rest)
  | rest => itemsFrom item width rest []

/-- The colon between a name and its value. -/
def colon (text : List Char) : Except Fault (List Char) :=
  match skipGap text with
  | [] => .error (.upTo .endOfObject [])
  | ':' :: rest => .ok rest
  | rest => .error (.onNext .expectedColon rest)

/-- The members of an object from inside the next name on, each put into the table of those before it.
There are fewer than `width` of them. -/
def tableFrom {α τ : Type} (put : String → α → τ → τ) (value : Reader α) :
    (width : Nat) → (text : List Char) → (before : τ) → Except Fault (Parsed τ)
  | 0, text, _ => .error (.upTo .endOfObject text)
  | width + 1, text, before => do
    let (name, rest) ← stringBody text
    let rest ← colon rest
    let (x, rest) ← value rest
    let table := put name x before
    match skipGap rest with
    | [] => throw (.upTo .endOfObject [])
    | '\x7d' :: rest => return (table, rest)
    | ',' :: rest =>
      match skipGap rest with
      | [] => throw (.upTo .endOfValue [])
      | '"' :: rest => tableFrom put value width rest table
      | '\x7d' :: rest => throw (.onNext .trailingComma ('\x7d' :: rest))
      | rest => throw (.onNext .keyNotString rest)
    | rest => throw (.onNext .expectedCommaOrBrace rest)

/-- An object behind its brace, put into an empty table. -/
def tableBody {α τ : Type} (empty : τ) (put : String → α → τ → τ) (value : Reader α) (width : Nat)
    (text : List Char) : Except Fault (Parsed τ) :=
  match skipGap text with
  | [] => .error (.upTo .endOfObject [])
  | '\x7d' :: rest => .ok (empty, rest)
  | '"' :: rest => tableFrom put value width rest empty
  | rest => .error (.onNext .keyNotString rest)

/-- The members of an object from inside the next name on, added in their order to those before
them. -/
def membersFrom {α : Type} (value : Reader α) (width : Nat) (text : List Char)
    (before : List (String × α)) : Except Fault (Parsed (List (String × α))) :=
  tableFrom insertMember value width text before

/-- An object behind its brace, as the list of its members. -/
def objectBody {α : Type} (value : Reader α) (width : Nat) (text : List Char) :
    Except Fault (Parsed (List (String × α))) :=
  tableBody [] insertMember value width text

/-! ## Values -/

/-- How many containers may stand in one another. -/
def maxNesting : Nat := 127

/-- A value, with at most `nesting` containers in one another and no container of `width` parts or
more. -/
def value (width : Nat) : (nesting : Nat) → (text : List Char) → Except Fault (Parsed Json)
  | nesting, text =>
    match skipGap text with
    | '[' :: rest =>
      match nesting with
      | 0 => .error (.onNext .tooDeep ('[' :: rest))
      | nesting + 1 => do
        let (items, rest) ← arrayBody (value width nesting) width rest
        return (.array items, rest)
    | '\x7b' :: rest =>
      match nesting with
      | 0 => .error (.onNext .tooDeep ('\x7b' :: rest))
      | nesting + 1 => do
        let (members, rest) ← objectBody (value width nesting) width rest
        return (.object members, rest)
    | rest => scalar rest

/-! ## Values of a given kind -/

/-- An array whose items are all read by `item`. -/
def listOf {α : Type} (item : Nat → Reader α) (width : Nat) :
    (nesting : Nat) → (text : List Char) → Except Fault (Parsed (List α))
  | nesting, text =>
    match skipGap text with
    | [] => .error (.upTo .endOfValue [])
    | '[' :: rest =>
      match nesting with
      | 0 => .error (.onNext .tooDeep ('[' :: rest))
      | nesting + 1 => arrayBody (item nesting) width rest
    | rest => .error (wrongKind "a sequence" rest)

/-- An object, put member by member into an empty table. -/
def tableOf {τ : Type} (empty : τ) (put : String → Json → τ → τ) (width : Nat) :
    (nesting : Nat) → (text : List Char) → Except Fault (Parsed τ)
  | nesting, text =>
    match skipGap text with
    | [] => .error (.upTo .endOfValue [])
    | '\x7b' :: rest =>
      match nesting with
      | 0 => .error (.onNext .tooDeep ('\x7b' :: rest))
      | nesting + 1 => tableBody empty put (value width nesting) width rest
    | rest => .error (wrongKind "a map" rest)

/-- An object, as the list of its members. -/
def membersOf (width nesting : Nat) (text : List Char) :
    Except Fault (Parsed (List (String × Json))) :=
  tableOf [] insertMember width nesting text

/-- A string. -/
def stringValue (text : List Char) : Except Fault (Parsed String) :=
  match skipGap text with
  | [] => .error (.upTo .endOfValue [])
  | '"' :: rest => stringBody rest
  | rest => .error (wrongKind "a string" rest)

/-! ## Whole texts -/

/-- Reads what stands at the front of a text. The reader is told a width that no container in the
text has, and how deep containers may stand in one another. -/
def readFront {α : Type} (reader : (width nesting : Nat) → Reader α)
    (text : List Char) : Except ReadError (Parsed α) :=
  match reader (text.length + 1) maxNesting text with
  | .ok parsed => .ok parsed
  | .error fault => .error (fault.inText text)

/-- Makes sure that nothing but a gap is left of a text. -/
def readEnd (text rest : List Char) : Except ReadError Unit :=
  match skipGap rest with
  | [] => .ok ()
  | rest => .error ((Fault.onNext .trailingCharacters rest).inText text)

/-- Reads a whole text: one value, with nothing but a gap behind it. -/
def readAll {α : Type} (reader : (width nesting : Nat) → Reader α)
    (text : String) : Except ReadError α := do
  let (x, rest) ← readFront reader text.toList
  readEnd text.toList rest
  return x

/-- The value that a text writes. -/
def read (text : String) : Except ReadError Json := readAll value text

end WhereFilter.Json
