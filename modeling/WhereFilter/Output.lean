/-
The forms in which records are written.
-/
import WhereFilter.Csv.Table
import WhereFilter.Text.Lowercase
import WhereFilter.Yaml.Writer

namespace WhereFilter

/-- A form in which records are written. -/
inductive OutputMode
  | json
  | yaml
  | csv
deriving DecidableEq, Repr

namespace OutputMode

/-! ## Names -/

def name : OutputMode → String
  | json => "json"
  | yaml => "yaml"
  | csv => "csv"

/-- The mode of a name. -/
def ofName? (name : String) : Option OutputMode := [json, yaml, csv].find? (·.name == name)

/-- The mode of a name whose letters may be of any case. -/
def ofNameAnyCase? (name : String) : Option OutputMode :=
  [json, yaml, csv].find? fun mode => Text.sameIgnoringAsciiCase mode.name.toList name.toList

/-- The message for a name that no mode has. -/
def unknownName (name : String) : String := "invalid variant: " ++ name

/-! ## Writing -/

/-- The text of a record among others: indented JSON and the end of a line. -/
def jsonDocument (r : Record) : List Char := r.toJson.pretty 0 ++ ['\n']

/-- The text of records. In JSON every record is a document of its own; in YAML they are one list;
in CSV they are the rows of a table. -/
def render (mode : OutputMode) (records : List Record) : String :=
  String.ofList <| match mode with
    | json => records.flatMap jsonDocument
    | yaml => Yaml.text (records.map Record.toJson)
    | csv => Csv.text records

end OutputMode

end WhereFilter
