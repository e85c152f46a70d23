/-
Lines of input. Bytes are cut behind every line feed; a line feed, and a carriage return right
before it, do not belong to the line. Each line is text of its own or is not.
-/

namespace WhereFilter

/-- A line of input: a text, or bytes that are none. -/
inductive InputLine
  | text (line : String)
  | notText
deriving DecidableEq, Repr

namespace InputLine

def lineFeed : UInt8 := 10

def carriageReturn : UInt8 := 13

/-- The pieces of bytes that end behind a line feed, and what is left. -/
def pieces : List UInt8 → List (List UInt8)
  | [] => []
  | b :: rest =>
    if b = lineFeed then [b] :: pieces rest
    else match pieces rest with
      | [] => [[b]]
      | piece :: more => (b :: piece) :: more

/-- A piece without the end of its line. -/
def withoutEnd (piece : List UInt8) : List UInt8 :=
  match piece.reverse with
  | [] => []
  | b :: rest =>
    if b = lineFeed then
      match rest with
      | [] => []
      | c :: before => if c = carriageReturn then before.reverse else rest.reverse
    else piece

/-- The line that a piece holds. -/
def ofPiece (piece : List UInt8) : InputLine :=
  match String.fromUTF8? ⟨(withoutEnd piece).toArray⟩ with
  | some line => text line
  | none => notText

/-- The lines of bytes. -/
def ofBytes (bytes : List UInt8) : List InputLine := (pieces bytes).map ofPiece

end InputLine

end WhereFilter
