/-
Records as a table: a column for every name that any of them has.
-/
import WhereFilter.Csv.Writer
import WhereFilter.Record

namespace WhereFilter.Csv

/-- The names that records have, in the order in which they first appear. -/
def header (records : List Record) : List String := (records.flatMap Record.names).eraseDups

/-- The cell of a value: a string itself, nothing for null or a value that is missing, and the
compact JSON of anything else. -/
def cell : Option Json → List Char
  | none => []
  | some .null => []
  | some (.string s) => s.toList
  | some json => json.compact

/-- The cells of a record in the columns of a header. -/
def row (header : List String) (r : Record) : List (List Char) :=
  header.map fun name => cell (r.get? name)

/-- The header and a row for every record. -/
def table (records : List Record) : List (List (List Char)) :=
  let names := header records
  names.map String.toList :: records.map (row names)

/-- The text of the table; nothing when there are no records. -/
def text (records : List Record) : List Char :=
  if records.isEmpty then [] else lines (table records)

end WhereFilter.Csv
