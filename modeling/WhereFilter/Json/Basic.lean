/-
JSON values. The members of an object keep the order in which their names first appear.
-/
import WhereFilter.Double.Basic

namespace WhereFilter

/-- The least whole number that 64 bits with a sign hold. -/
def Json.leastInteger : Int := -9223372036854775808

/-- The greatest whole number that 64 bits without a sign hold. -/
def Json.greatestInteger : Int := 18446744073709551615

/-- A JSON number: a whole number of 64 bits, signed or unsigned, or a finite double. -/
inductive Json.Number
  | integer (value : Int) (inRange : leastInteger ≤ value ∧ value ≤ greatestInteger)
  | float (value : Double) (finite : value.isFinite = true)
deriving DecidableEq

/-- A JSON value. -/
inductive Json
  | null
  | bool (value : Bool)
  | number (value : Json.Number)
  | string (value : String)
  | array (items : List Json)
  | object (members : List (String × Json))

namespace Json

/-- The double nearest to a JSON number. -/
def Number.toDouble : Number → Double
  | integer value _ => .ofInt value
  | float value _ => value

/-- A double as JSON: what is not finite has no number and becomes null. -/
def ofDouble (d : Double) : Json :=
  if finite : d.isFinite = true then .number (.float d finite) else .null

/-! ## Members -/

/-- Gives the value to a name: in the place of the name if it is there, else at the end. -/
def insertMember {α : Type} (name : String) (value : α) : List (String × α) → List (String × α)
  | [] => [(name, value)]
  | (other, old) :: rest =>
    if other = name then (name, value) :: rest else (other, old) :: insertMember name value rest

/-- The value that a name has. -/
def member? {α : Type} (name : String) : List (String × α) → Option α
  | [] => none
  | (other, value) :: rest => if other = name then some value else member? name rest

theorem member?_insertMember {α : Type} (name other : String) (value : α)
    (members : List (String × α)) :
    member? other (insertMember name value members) =
      if name = other then some value else member? other members := by
  induction members with
  | nil => rfl
  | cons member rest ih =>
    obtain ⟨found, old⟩ := member
    by_cases h : found = name
    · subst h
      by_cases hn : found = other <;> simp [insertMember, member?, hn]
    · by_cases hf : found = other
      · subst hf; simp [insertMember, member?, h, Ne.symm h]
      · simp [insertMember, member?, h, hf, ih]

end Json

end WhereFilter
