/-
Reading queries. Behind the keyword `WHERE` the text is cut at every `AND` that stands as a word of
its own; each piece that is not blank is a condition. Both keywords may be in any case.
-/
import WhereFilter.Condition.Reader
import WhereFilter.Query.Basic

namespace WhereFilter.Query

/-! ## Keywords -/

/-- The text behind `WHERE`, if it starts with that in any case. -/
def afterWhere? (text : List Char) : Option (List Char) :=
  if Text.sameIgnoringAsciiCase (text.take 5) ['w', 'h', 'e', 'r', 'e'] then some (text.drop 5)
  else none

/-- Whether no word character stands at the front of a text. -/
def endsWord (text : List Char) : Bool := !(text.head?.any Text.isWord)

/-- Three letters that write the keyword `AND`, in any case. -/
def isAnd (a n d : Char) : Bool := Text.sameIgnoringAsciiCase [a, n, d] ['a', 'n', 'd']

/-- Puts a character at the front of the first piece. -/
def push (c : Char) : List (List Char) → List (List Char)
  | [] => [[c]]
  | piece :: rest => (c :: piece) :: rest

/-- The pieces of a text between the places where `AND` stands as a word of its own; `glued` tells
whether a word character stands right before the text. -/
def cut (glued : Bool) : List Char → List (List Char)
  | [] => [[]]
  | a :: n :: d :: rest =>
    if !glued && isAnd a n d && endsWord rest then [] :: cut true rest
    else push a (cut (Text.isWord a) (n :: d :: rest))
  | c :: rest => push c (cut (Text.isWord c) rest)

/-- The texts of the conditions, without blanks around them. -/
def segments (text : List Char) : List (List Char) :=
  ((cut false text).map Text.trim).filter (!·.isEmpty)

/-! ## Queries -/

/-- The query that a text writes. The first fault counts. -/
def parse (input : String) : Except Malformed Query :=
  let text := Text.trim input.toList
  if text.isEmpty then .error ⟨.empty, input⟩
  else match afterWhere? text with
    | none => .error ⟨.missingWhere, String.ofList text⟩
    | some rest => do
      let conditions ← (segments (Text.trim rest)).mapM fun s => Condition.parse (String.ofList s)
      return ⟨conditions⟩

end WhereFilter.Query
