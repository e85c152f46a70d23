/-
The prompt loop: queries are read line by line and reported on, until the input ends or a line asks
to leave. Blank lines are passed over; a line that is no query is complained about, and the loop
goes on.
-/
import WhereFilter.Session.Basic
import WhereFilter.Session.InputLine

namespace WhereFilter

/-- What has been written to the output and to the error output, and how many queries were carried
out and refused. -/
structure Transcript where
  out : String
  err : String
  executed : Nat
  rejected : Nat
deriving DecidableEq, Repr

namespace Transcript

def empty : Transcript := ⟨"", "", 0, 0⟩

/-- Output alone. -/
def ofOutput (text : String) : Transcript := { empty with out := text }

/-- One transcript and then another. -/
def append (a b : Transcript) : Transcript :=
  ⟨a.out ++ b.out, a.err ++ b.err, a.executed + b.executed, a.rejected + b.rejected⟩

instance : Append Transcript := ⟨append⟩

end Transcript

/-- How a prompt loop went: the transcript, and whether it broke off at a line that is no text. -/
structure Conversation where
  transcript : Transcript
  brokeOff : Bool
deriving DecidableEq, Repr

namespace Session

/-- The words by which a line asks to leave. -/
def exitWords : List (List Char) := [['e', 'x', 'i', 't'], ['q', 'u', 'i', 't']]

/-- Whether a line asks to leave, blanks around the word and its case apart. -/
def isExit (line : String) : Bool :=
  exitWords.any (Text.sameIgnoringAsciiCase (Text.trim line.toList))

/-! ## One line -/

/-- What is written when a line is a query. -/
def carryOut (s : Session) (q : Query) : Transcript := ⟨(s.headedReport q).text, "", 1, 0⟩

/-- What is written when a line is no query. -/
def refuse (m : Malformed) : Transcript := ⟨"", m.message ++ "\n", 0, 1⟩

/-- What is written for a line that does not ask to leave. -/
def answer (s : Session) (line : String) : Transcript :=
  let text := Text.trim line.toList
  if text.isEmpty then .empty
  else match Query.parse (String.ofList text) with
    | .ok q => s.carryOut q
    | .error m => refuse m

/-! ## The loop -/

/-- The line written before anything is read. -/
def opening (s : Session) : Transcript := .ofOutput s!"Total records loaded: {s.records.length}\n"

/-- What is written before a line is read: a prompt if somebody is there to see it. -/
def prompt (interactive : Bool) : Transcript :=
  .ofOutput (if interactive then "\nEnter your WHERE query:\n> " else "")

/-- The loop over lines, after the opening. -/
def answerAll (s : Session) (interactive : Bool) : List InputLine → Conversation
  | [] => ⟨prompt interactive, false⟩
  | .notText :: _ => ⟨prompt interactive, true⟩
  | .text line :: rest =>
    if isExit line then ⟨prompt interactive, false⟩
    else
      let others := s.answerAll interactive rest
      { others with transcript := prompt interactive ++ s.answer line ++ others.transcript }

/-- The whole loop over lines. -/
def promptLoop (s : Session) (interactive : Bool) (lines : List InputLine) : Conversation :=
  let answers := s.answerAll interactive lines
  { answers with transcript := s.opening ++ answers.transcript }

end Session

end WhereFilter
