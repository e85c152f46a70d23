/-
Folders held in memory, and the walk along a path that ends at one of their files. A walk takes the
steps of the path in order, and the first step that cannot be taken says why nothing is read.
-/
import WhereFilter.Source.Basic

namespace WhereFilter

/-- A folder: the names of its files with what they hold. A name with slashes is that of a file in a
folder below. Of two files of one name the later one counts. -/
structure Folder where
  files : List (String × ByteArray)

namespace Folder

/-! ## Limits -/

/-- How many bytes a path may have. -/
def pathLimit : Nat := 4095

/-- How many bytes one step of a path may have. -/
def stepLimit : Nat := 255

/-! ## Walks -/

/-- Where a walk along a path stands. -/
inductive Place
  /-- In the folder, or in one below it that these steps lead to, the last one first. -/
  | inside (steps : List String)
  /-- In a folder that is not below: nothing is known of what it holds. -/
  | outside
  | file (bytes : ByteArray)

/-- Whether a step leads nowhere. -/
def staysAt (step : String) : Bool := step == "" || step == "."

/-- The steps of a path that lead somewhere. -/
def steps (path : String) : List String := (path.splitOn "/").filter fun step => !staysAt step

/-- The folder above. -/
def Place.above : Place → Place
  | inside (_ :: steps) => inside steps
  | _ => outside

/-- What the steps of a path lead to, if they all are names. -/
def lookup (folder : Folder) (way : List String) : Option Place :=
  match folder.files.reverse.find? fun (name, _) => steps name == way with
  | some (_, bytes) => some (.file bytes)
  | none =>
    if folder.files.any fun (name, _) => way.isPrefixOf (steps name) then some (.inside way.reverse)
    else none

/-- Takes a step by a name. -/
def enter (folder : Folder) (place : Place) (name : String) : Except ReadFailure Place :=
  let found : Option Place := match place with
    | .inside before => folder.lookup (name :: before).reverse
    | _ => none
  match found with
  | some next => .ok next
  | none => .error .notFound

/-- Takes one step. From a file there is none, not even one that leads nowhere. -/
def advance (folder : Folder) (place : Place) (step : String) : Except ReadFailure Place :=
  match place with
  | .file _ => .error .notDirectory
  | _ =>
    if staysAt step then .ok place
    else if step == ".." then .ok place.above
    else if stepLimit < step.utf8ByteSize then .error .nameTooLong
    else folder.enter place step

/-- Where a path starts. -/
def start (path : String) : Place := if path.startsWith "/" then .outside else .inside []

/-- Where a path leads to. -/
def follow (folder : Folder) (path : String) : Except ReadFailure Place :=
  if path == "" then .error .notFound
  else if pathLimit < path.utf8ByteSize then .error .nameTooLong
  else (path.splitOn "/").foldlM folder.advance (start path)

/-- What the file at a path holds. -/
def read (folder : Folder) (path : String) : Except ReadFailure ByteArray :=
  match folder.follow path with
  | .ok (.file bytes) => .ok bytes
  | .ok _ => .error .isDirectory
  | .error failure => .error failure

end Folder

end WhereFilter
