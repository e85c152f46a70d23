/-
Comma separated rows. A cell stands between quotes only where it would be misread without them, and
a quote inside is written twice.
-/

namespace WhereFilter.Csv

/-- A character that a cell can only hold between quotes. -/
def needsQuotes (c : Char) : Bool := c == ',' || c == '"' || c == '\n' || c == '\r'

/-- A character between quotes. -/
def insideQuotes (c : Char) : List Char := if c = '"' then ['"', '"'] else [c]

/-- A cell as it is written. -/
def field (cell : List Char) : List Char :=
  if cell.any needsQuotes then '"' :: cell.flatMap insideQuotes ++ ['"'] else cell

/-- The fields of a row with commas between them. -/
def fields : List (List Char) → List Char
  | [] => []
  | [cell] => field cell
  | cell :: rest => field cell ++ ',' :: fields rest

/-- A line. A row that would leave nothing on its line is a pair of quotes. -/
def line (row : List (List Char)) : List Char :=
  match fields row with
  | [] => ['"', '"', '\n']
  | text => text ++ ['\n']

/-- A table, row by row. -/
def lines (table : List (List (List Char))) : List Char := table.flatMap line

end WhereFilter.Csv
