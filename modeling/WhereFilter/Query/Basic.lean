/-
Queries: conditions that all have to hold.
-/
import WhereFilter.Condition.Basic

namespace WhereFilter

/-- A conjunction of conditions. -/
structure Query where
  conditions : List Condition
deriving DecidableEq

namespace Query

/-! ## Making queries -/

/-- The query with no condition, which holds of everything. -/
def empty : Query := ⟨[]⟩

/-- The query with one more condition at its end. -/
def andWhere (q : Query) (field : String) (op : Op) (literal : Literal) : Query :=
  ⟨q.conditions ++ [⟨field, op, literal⟩]⟩

def andEq (q : Query) (field : String) (literal : Literal) : Query := q.andWhere field .eq literal

def andLt (q : Query) (field : String) (literal : Literal) : Query := q.andWhere field .lt literal

def andGt (q : Query) (field : String) (literal : Literal) : Query := q.andWhere field .gt literal

/-- The conditions of both queries. -/
def and (q r : Query) : Query := ⟨q.conditions ++ r.conditions⟩

/-! ## Views -/

def size (q : Query) : Nat := q.conditions.length

def isEmpty (q : Query) : Bool := q.conditions.isEmpty

/-- The query as text: `WHERE` and the conditions with `AND` between them. -/
def print (q : Query) : String :=
  match q.conditions with
  | [] => "WHERE"
  | conditions => "WHERE " ++ String.intercalate " AND " (conditions.map Condition.print)

/-- Equality of queries, numbers being compared as numbers. -/
def same (q r : Query) : Bool :=
  q.conditions.length == r.conditions.length &&
    (q.conditions.zip r.conditions).all fun (a, b) => a.same b

/-! ## Holding -/

/-- Whether all conditions hold of something with fields. -/
def holdsOf {α : Type} [Fields α] (q : Query) (x : α) : Bool := q.conditions.all (·.holdsOf x)

end Query

end WhereFilter
