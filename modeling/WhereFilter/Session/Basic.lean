/-
Sessions: loaded records, and how what a query finds among them is reported.
-/
import WhereFilter.Condition.Json
import WhereFilter.Output
import WhereFilter.Query.Reader
import WhereFilter.Query.Selection

namespace WhereFilter

/-- How results are reported: in which form, whether only their number, and whether the conditions
of the query instead. -/
structure Settings where
  mode : OutputMode
  countOnly : Bool
  explain : Bool
deriving DecidableEq, Repr

structure Session where
  records : List Record
  settings : Settings

/-- The text that reports on a query, and the number of records it found. -/
structure Report where
  text : String
  found : Nat

namespace Session

/-! ## Reports -/

/-- The conditions of a query as indented JSON. -/
def explanation (q : Query) : String := q.toJson.prettyText ++ "\n"

/-- The lines that stand over the results in a prompt loop. -/
def heading (found : Nat) : String := s!"\nMatched Records: {found}\n\n"

/-- The number of results alone on a line. -/
def countLine (found : Nat) : String := s!"{found}\n"

/-- The report on a query that stands alone. -/
def report (s : Session) (q : Query) : Report :=
  let found := q.filter s.records
  ⟨if s.settings.explain then explanation q
    else if s.settings.countOnly then countLine found.length
    else s.settings.mode.render found, found.length⟩

/-- The report on a query in a prompt loop. The heading already tells the number of results; an
explanation has no heading. -/
def headedReport (s : Session) (q : Query) : Report :=
  let found := q.filter s.records
  ⟨if s.settings.explain then explanation q
    else heading found.length ++
      if s.settings.countOnly then "" else s.settings.mode.render found, found.length⟩

/-- Reads a query and reports on it. -/
def execute (s : Session) (text : String) : Except Malformed Report := do
  return s.report (← Query.parse text)

end Session

end WhereFilter
