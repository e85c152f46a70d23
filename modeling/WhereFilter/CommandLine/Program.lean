/-
The program as a function: from its arguments, the file and the input to what it writes and how it
exits.
-/
import WhereFilter.CommandLine.Arguments
import WhereFilter.Session.PromptLoop
import WhereFilter.Source.Basic

namespace WhereFilter.Program

/-- What a program leaves behind. -/
structure Outcome where
  exit : Nat
  out : String
  err : String
deriving DecidableEq, Repr

/-! ## Failures -/

/-- The causes of a failure, one on a line. Several are numbered. -/
def causeLines : List String → String
  | [] => ""
  | [cause] => s!"\n\nCaused by:\n    {cause}"
  | causes =>
    "\n\nCaused by:" ++
      String.join (causes.zipIdx.map fun (cause, position) => s!"\n    {position}: {cause}")

/-- The report on a failure and its causes. -/
def failureText (message : String) (causes : List String) : String :=
  "Error: " ++ message ++ causeLines causes ++ "\n"

/-- The outcome of a run that fails after some output. -/
def failed (written : Transcript) (message : String) (causes : List String) : Outcome :=
  ⟨1, written.out, written.err ++ failureText message causes⟩

/-- The outcome when there are no records. -/
def notLoaded (file : String) (e : Source.Error) : Outcome :=
  failed .empty ("failed to load records from " ++ file) e.chain

/-! ## Runs -/

/-- Reports on one query. -/
def runQuery (session : Session) (query : String) : Outcome :=
  match session.execute query with
  | .ok report => ⟨0, report.text, ""⟩
  | .error malformed => failed .empty malformed.message []

/-- What remains to be told after a prompt loop. -/
def afterLoop (c : Conversation) : Outcome :=
  if c.brokeOff then
    let message := ReadFailure.notText.message
    failed c.transcript ("I/O error: " ++ message) [message]
  else ⟨0, c.transcript.out, c.transcript.err⟩

/-- A run over records: the one query of the arguments, or all those of the input. -/
def runSession (arguments : Arguments) (records : List Record) (input : List UInt8) : Outcome :=
  let session : Session := ⟨records, arguments.settings⟩
  match arguments.query? with
  | some query => runQuery session query
  | none => afterLoop (session.promptLoop false (InputLine.ofBytes input))

/-- A run, given what reading the file gave. -/
def run (arguments : Arguments) (content : Except ReadFailure ByteArray) (input : List UInt8) :
    Outcome :=
  match Source.load content with
  | .ok records => runSession arguments records input
  | .error e => notLoaded arguments.file e

/-! ## Usage -/

def versionText : String := "recsieve 0.1.0\n"

/-- The outcome when arguments lead to no run. The text of the help and the lines on a fault in the arguments are
left out. -/
def refused (refusal : Arguments.Refusal) : Outcome :=
  match refusal with
  | .helpAsked => ⟨0, "", ""⟩
  | .versionAsked => ⟨0, versionText, ""⟩
  | _ => ⟨2, "", ""⟩

/-- The whole program. The file is looked up by its name. -/
def outcome (fallbacks : Fallbacks) (args : List String)
    (content : String → Except ReadFailure ByteArray) (input : List UInt8) : Outcome :=
  match Arguments.read fallbacks args with
  | .ok arguments => run arguments (content arguments.file) input
  | .error refusal => refused refusal

end WhereFilter.Program
