/-
The arguments of the program. They are read from left to right: an argument with a value is taken in
as soon as the next one starts, so that the fault further to the left is the one reported.
-/
import WhereFilter.Output
import WhereFilter.Session.Basic

namespace WhereFilter

/-- Arguments that lead to a run. -/
structure Arguments where
  file : String
  query? : Option String
  settings : Settings
deriving DecidableEq, Repr

/-- What stands in for arguments that are not given. -/
structure Fallbacks where
  file? : Option String
  mode? : Option String
deriving DecidableEq, Repr

namespace Arguments

/-- Why arguments lead to no run: they are at fault, or only ask for help or for the version. -/
inductive Refusal
  | unknownArgument
  | invalidValue
  | unwantedValue
  | missingFile
  | conflict
  | helpAsked
  | versionAsked
deriving DecidableEq, Repr

/-! ## Shapes -/

/-- What an argument looks like. -/
inductive Shape
  /-- Two dashes alone: no options follow. -/
  | closing
  /-- Two dashes and a name, perhaps with a value behind an equals sign. -/
  | long (name : List Char) (value? : Option (List Char))
  /-- One dash and a letter, with whatever stands behind it. -/
  | short (letter : Char) (rest : List Char)
  | word
deriving DecidableEq, Repr

/-- What stands behind the first equals sign. -/
def attached? (text : List Char) : Option (List Char) :=
  match text.dropWhile (· != '=') with
  | [] => none
  | _ :: value => some value

def Shape.of (arg : List Char) : Shape :=
  match arg with
  | ['-', '-'] => closing
  | '-' :: '-' :: text => long (text.takeWhile (· != '=')) (attached? text)
  | '-' :: letter :: rest => short letter rest
  | _ => word

/-! ## Values -/

/-- The arguments that have a value. -/
inductive Slot
  | file
  | query
  | mode
deriving DecidableEq, Repr

/-- The values and flags taken in so far. -/
structure Given where
  file? : Option String
  query? : Option String
  mode? : Option OutputMode
  count : Bool
  explain : Bool
deriving DecidableEq, Repr

/-- Takes in a value. A slot has room for one. -/
def Given.take (given : Given) (slot : Slot) (value : String) : Except Refusal Given :=
  match slot with
  | .file =>
    if given.file?.isSome then .error .conflict
    else if value.isEmpty then .error .invalidValue
    else .ok { given with file? := some value }
  | .query =>
    if given.query?.isSome then .error .conflict
    else .ok { given with query? := some value }
  | .mode =>
    if given.mode?.isSome then .error .conflict
    else match OutputMode.ofName? value with
      | some mode => .ok { given with mode? := some mode }
      | none => .error .invalidValue

/-! ## Reading -/

/-- The argument that has been started last. -/
inductive Pending
  | nothing
  /-- An option that still waits for its value. -/
  | open (slot : Slot)
  | full (slot : Slot) (value : String)
deriving DecidableEq, Repr

/-- Where the reader of arguments stands. -/
structure State where
  given : Given
  pending : Pending
  /-- Whether options can no longer follow. -/
  closed : Bool
  /-- Whether a word has been read as the name of the file. -/
  fileNamed : Bool
deriving DecidableEq, Repr

namespace State

def start : State := ⟨⟨none, none, none, false, false⟩, .nothing, false, false⟩

/-- Takes in the pending argument. -/
def settle (s : State) : Except Refusal State :=
  match s.pending with
  | .nothing => .ok s
  | .open _ => .error .invalidValue
  | .full slot value => do
    return { s with given := ← s.given.take slot value, pending := .nothing }

/-- Reads a word that is no option and no value of one: the name of the file, once. -/
def readFile (s : State) (value : String) : Except Refusal State :=
  if s.fileNamed then .error .unknownArgument
  else do return { ← s.settle with pending := .full .file value, fileNamed := true }

/-- Starts an option. A value attached to it is taken in at once. -/
def readOption (s : State) (slot : Slot) (value? : Option (List Char)) : Except Refusal State := do
  let s ← s.settle
  match value? with
  | some value => return { s with given := ← s.given.take slot (String.ofList value) }
  | none => return { s with pending := .open slot }

/-- Reads a flag, which has no value: `raise` gives the state with the flag set. -/
def readFlag (s : State) (value? : Option (List Char)) (raise : Given → Except Refusal Given) :
    Except Refusal State :=
  if value?.isSome then .error .unwantedValue
  else do
    let s ← s.settle
    return { s with given := ← raise s.given }

def raiseCount (given : Given) : Except Refusal Given :=
  if given.count then .error .conflict else .ok { given with count := true }

def raiseExplain (given : Given) : Except Refusal Given :=
  if given.explain then .error .conflict else .ok { given with explain := true }

/-- Reads an argument with two dashes. -/
def readLong (s : State) (name : List Char) (value? : Option (List Char)) : Except Refusal State :=
  match String.ofList name with
  | "query" => s.readOption .query value?
  | "output" => s.readOption .mode value?
  | "count" => s.readFlag value? raiseCount
  | "explain" => s.readFlag value? raiseExplain
  | "help" => s.readFlag value? fun _ => .error .helpAsked
  | "version" => s.readFlag value? fun _ => .error .versionAsked
  | _ => .error .unknownArgument

/-- The value attached to a letter; an equals sign before it does not belong to it. -/
def attachedToLetter? : List Char → Option (List Char)
  | [] => none
  | '=' :: value => some value
  | value => some value

/-- Reads an argument with one dash. -/
def readShort (s : State) (letter : Char) (rest : List Char) : Except Refusal State :=
  match letter with
  | 'q' => s.readOption .query (attachedToLetter? rest)
  | 'o' => s.readOption .mode (attachedToLetter? rest)
  | 'h' => s.readFlag none fun _ => .error .helpAsked
  | 'V' => s.readFlag none fun _ => .error .versionAsked
  | _ => .error .unknownArgument

/-- Reads one argument. -/
def read (s : State) (arg : String) : Except Refusal State :=
  if s.closed then s.readFile arg
  else match Shape.of arg.toList with
    | .closing => .ok { s with closed := true }
    | .long name value? => s.readLong name value?
    | .short letter rest => s.readShort letter rest
    | .word =>
      match s.pending with
      | .open slot => .ok { s with pending := .full slot arg }
      | _ => s.readFile arg

end State

/-! ## All arguments -/

/-- Takes in what stands in for a value that is not given. -/
def Given.orElse (given : Given) (slot : Slot) (absent : Bool) (value? : Option String) :
    Except Refusal Given :=
  match absent, value? with
  | true, some value => given.take slot value
  | _, _ => .ok given

/-- The arguments of a run, once all values and flags are known. -/
def finish (given : Given) : Except Refusal Arguments :=
  if given.count && given.explain then .error .conflict
  else match given.file? with
    | none => .error .missingFile
    | some file => .ok ⟨file, given.query?, ⟨given.mode?.getD .json, given.count, given.explain⟩⟩

/-- Reads the arguments of the program. -/
def read (fallbacks : Fallbacks) (args : List String) : Except Refusal Arguments := do
  let s ← args.foldlM State.read State.start
  let given := (← s.settle).given
  let given ← given.orElse .file given.file?.isNone fallbacks.file?
  let given ← given.orElse .mode given.mode?.isNone fallbacks.mode?
  finish given

end Arguments

end WhereFilter
