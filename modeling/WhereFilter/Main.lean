/-
The command line: reads the environment, the file and the input, and writes what the program gives.
At a terminal the lines are answered one by one as they are typed.
-/
import WhereFilter.CommandLine.Program

namespace WhereFilter.Main

/-! ## Reading -/

/-- The number of a system error, which some calls report with the sign changed. -/
def number (code : UInt32) : Nat := if code < 0x80000000 then code.toNat else (0 - code).toNat

/-- Why the system did not let something be read. -/
def failure : IO.Error → ReadFailure
  | .noFileOrDirectory .. => .notFound
  | .inappropriateType _ code _ => if number code = 20 then .notDirectory else .isDirectory
  | .invalidArgument _ code reason =>
    if number code = 36 then .nameTooLong else .refused reason (number code)
  | .permissionDenied _ code _ => .refused "Permission denied" (number code)
  | .otherError code reason => .refused reason (number code)
  | e => .refused e.toString 0

def readFile (path : String) : IO (Except ReadFailure ByteArray) := do
  try return .ok (← IO.FS.readBinFile path) catch e => return .error (failure e)

/-- All bytes of a stream, behind those that have been read. -/
partial def readAll (stream : IO.FS.Stream) (before : ByteArray) : IO ByteArray := do
  let bytes ← stream.read 65536
  if bytes.isEmpty then return before else readAll stream (before ++ bytes)

/-! ## Writing -/

def write (out err : String) : IO Unit := do
  let output ← IO.getStdout
  output.putStr out
  output.flush
  (← IO.getStderr).putStr err

def leave (o : Program.Outcome) : IO UInt32 := do
  write o.out o.err
  return o.exit.toUInt32

/-! ## Runs -/

/-- Answers the lines that are typed at a terminal. -/
partial def answerTyped (s : Session) (input : IO.FS.Stream) : IO UInt32 := do
  write (Session.prompt true).out ""
  match InputLine.ofBytes (← input.getLine).toUTF8.toList with
  | .text line :: _ =>
    if Session.isExit line then return 0
    let t := s.answer line
    write t.out t.err
    answerTyped s input
  | _ => return 0

/-- Runs over loaded records. -/
def runSession (a : Arguments) (records : List Record) : IO UInt32 := do
  let input ← IO.getStdin
  if a.query?.isSome then leave (Program.runSession a records [])
  else if ← input.isTty then
    let s : Session := ⟨records, a.settings⟩
    write s.opening.out ""
    answerTyped s input
  else leave (Program.runSession a records (← readAll input .empty).toList)

def run (a : Arguments) : IO UInt32 := do
  match Source.load (← readFile a.file) with
  | .ok records => runSession a records
  | .error e => leave (Program.notLoaded a.file e)

end WhereFilter.Main

def main (args : List String) : IO UInt32 := do
  let file? ← IO.getEnv "RECSIEVE_FILE"
  let mode? ← IO.getEnv "RECSIEVE_OUTPUT"
  match WhereFilter.Arguments.read ⟨file?, mode?⟩ args with
  | .ok a => WhereFilter.Main.run a
  | .error refusal => WhereFilter.Main.leave (WhereFilter.Program.refused refusal)
