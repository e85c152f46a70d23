/-
Records, and what it is to have fields.
-/
import WhereFilter.FieldValue
import Std.Data.HashMap
import Std.Data.TreeMap

namespace WhereFilter

/-- A record: names with their values, in the order in which the names first appeared. -/
structure Record where
  members : List (String × Json)

namespace Record

def get? (r : Record) (name : String) : Option Json := Json.member? name r.members

def names (r : Record) : List String := r.members.map Prod.fst

def toJson (r : Record) : Json := .object r.members

end Record

/-! ## Fields -/

/-- A thing that has fields: a name has a value or is missing. -/
class Fields (α : Type) where
  field? : α → String → Option FieldValue

export Fields (field?)

instance : Fields Record where
  field? r name := (r.get? name).map .ofJson

/-- Of JSON values only objects have fields. -/
instance : Fields Json where
  field?
    | .object members, name => (Json.member? name members).map .ofJson
    | _, _ => none

/-- A table without an order, by whatever hash it is kept. -/
instance [Hashable String] : Fields (Std.HashMap String Json) where
  field? table name := table[name]?.map .ofJson

instance : Fields (Std.TreeMap String Json) where
  field? table name := table[name]?.map .ofJson

end WhereFilter
