/-
Selecting from lists and arrays by a query.
-/
import WhereFilter.Query.Basic

namespace WhereFilter.Query

variable {α : Type} [Fields α]

/-! ## Selected things -/

/-- The things of which the query holds, in their order. -/
def filter (q : Query) (xs : List α) : List α := xs.filter q.holdsOf

/-- Keeps in an array the things of which the query holds. -/
def retain (q : Query) (xs : Array α) : Array α := xs.filter q.holdsOf

/-- The positions of the things of which the query holds, the first position being `start`. -/
def positionsFrom (q : Query) (start : Nat) : List α → List Nat
  | [] => []
  | x :: rest =>
    if q.holdsOf x then start :: q.positionsFrom (start + 1) rest
    else q.positionsFrom (start + 1) rest

/-- The positions of the things of which the query holds. -/
def positions (q : Query) (xs : List α) : List Nat := q.positionsFrom 0 xs

/-! ## Questions -/

/-- How many things the query holds of. -/
def count (q : Query) (xs : List α) : Nat := xs.countP q.holdsOf

def any (q : Query) (xs : List α) : Bool := xs.any q.holdsOf

def all (q : Query) (xs : List α) : Bool := xs.all q.holdsOf

/-- The first thing of which the query holds. -/
def find? (q : Query) (xs : List α) : Option α := xs.find? q.holdsOf

/-- The position of the first thing of which the query holds. -/
def position? (q : Query) (xs : List α) : Option Nat := xs.findIdx? q.holdsOf

end WhereFilter.Query

namespace WhereFilter

/-- The things of which a query holds. -/
def select {α : Type} [Fields α] (xs : List α) (q : Query) : List α := q.filter xs

end WhereFilter
