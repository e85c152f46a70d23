/-
Why a text is no query.
-/

namespace WhereFilter

/-- What is wrong with the text of a query. -/
inductive Malformed.Reason
  | empty
  | missingWhere
  | invalidCondition
deriving DecidableEq, Repr

def Malformed.Reason.text : Malformed.Reason → String
  | empty => "query is empty"
  | missingWhere => "query must start with WHERE"
  | invalidCondition => "invalid condition"

/-- What is wrong with the text of a query, and the part of the text that it concerns. -/
structure Malformed where
  reason : Malformed.Reason
  fragment : String
deriving DecidableEq, Repr

def Malformed.message (m : Malformed) : String :=
  "malformed query: " ++ m.reason.text ++ ": '" ++ m.fragment ++ "'"

end WhereFilter
