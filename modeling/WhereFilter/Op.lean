/-
The three comparison operators.
-/
import WhereFilter.Query.Malformed

namespace WhereFilter

/-- A comparison operator. -/
inductive Op
  | eq
  | lt
  | gt
deriving DecidableEq, Repr

namespace Op

/-- Whether the operator holds of two things that compare so. It never holds of things that do not
compare. -/
def holds : Op → Option Ordering → Bool
  | eq, some .eq => true
  | lt, some .lt => true
  | gt, some .gt => true
  | _, _ => false

/-- The character that writes the operator. -/
def symbol : Op → Char
  | eq => '='
  | lt => '<'
  | gt => '>'

/-- The operator that a character writes. -/
def ofSymbol? : Char → Option Op
  | '=' => some eq
  | '<' => some lt
  | '>' => some gt
  | _ => none

@[simp] theorem ofSymbol?_symbol (op : Op) : ofSymbol? op.symbol = some op := by cases op <;> rfl

theorem ofSymbol?_eq_some_iff {c : Char} {op : Op} : ofSymbol? c = some op ↔ c = op.symbol := by
  constructor
  · intro h
    unfold ofSymbol? at h
    split at h <;> cases h <;> rfl
  · rintro rfl; simp

/-- The text of the operator. -/
def text (op : Op) : String := String.singleton op.symbol

/-- The operator that a whole text writes. -/
def parse (text : String) : Except Malformed Op :=
  match text.toList with
  | [c] => match ofSymbol? c with
    | some op => .ok op
    | none => .error ⟨.invalidCondition, text⟩
  | _ => .error ⟨.invalidCondition, text⟩

end Op

end WhereFilter
