/-
Record files: bytes that are text, a script wrapper that may be around it, and an array of objects.
-/
import WhereFilter.Record.Reader
import WhereFilter.Source.Wrapper

namespace WhereFilter

/-! ## Failures -/

/-- Why no text could be read from a file or from the input. -/
inductive ReadFailure
  | notText
  /-- The system refused, with a number of its own for the reason. -/
  | refused (reason : String) (code : Nat)
deriving DecidableEq, Repr

namespace ReadFailure

def notFound : ReadFailure := refused "No such file or directory" 2

def notDirectory : ReadFailure := refused "Not a directory" 20

def isDirectory : ReadFailure := refused "Is a directory" 21

def nameTooLong : ReadFailure := refused "File name too long" 36

def message : ReadFailure → String
  | notText => "stream did not contain valid UTF-8"
  | refused reason code => s!"{reason} (os error {code})"

end ReadFailure

/-- Why there are no records. -/
inductive Source.Error
  | unreadable (failure : ReadFailure)
  | missingArray
  | invalid (error : Json.ReadError)

namespace Source.Error

def message : Source.Error → String
  | unreadable failure => "failed to read record file: " ++ failure.message
  | missingArray => "no JSON array found after script assignment"
  | invalid error => "invalid record data: " ++ error.message

/-- The messages of the failure and of what lies behind it. -/
def chain (e : Source.Error) : List String :=
  match e with
  | unreadable failure => [e.message, failure.message]
  | missingArray => [e.message]
  | invalid error => [e.message, error.message]

end Source.Error

/-! ## Records of a file -/

namespace Source

/-- The text of bytes in UTF-8. -/
def decode (bytes : ByteArray) : Except ReadFailure String :=
  match String.fromUTF8? bytes with
  | some text => .ok text
  | none => .error .notText

/-- The text without a wrapper. -/
def unwrap (text : String) : Except Error String :=
  match unwrap? text.toList with
  | some body => .ok (String.ofList body)
  | none => .error .missingArray

/-- The records that the text of a file writes. -/
def parse (text : String) : Except Error (List Record) := do
  let body ← unwrap text
  match Record.readList body with
  | .ok records => .ok records
  | .error error => .error (.invalid error)

/-- The records of a file, given what reading it gave. -/
def load (content : Except ReadFailure ByteArray) : Except Error (List Record) :=
  match content.bind decode with
  | .ok text => parse text
  | .error failure => .error (.unreadable failure)

end Source

end WhereFilter
