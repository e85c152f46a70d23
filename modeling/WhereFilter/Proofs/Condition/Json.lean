/-
Conditions in JSON. A condition is written as an object with three members, and whatever gaps stand
between the tokens it is read with the same field and operator and with the literal that the reader makes
of the text of its literal (`readFrom_textIn`). A number that is not finite is written as null, which is no
literal, so such a condition is refused (`refuses_textIn`).
-/
import WhereFilter.Condition.Json
import WhereFilter.Proofs.Json.RoundTrip

namespace WhereFilter

open Json

/-! ## Literals -/

namespace Literal

/-- The literal is a text or a finite number. -/
def IsFinite : Literal → Prop
  | number d => d.isFinite = true
  | text _ => True

instance : DecidablePred IsFinite
  | number d => inferInstanceAs (Decidable (d.isFinite = true))
  | text _ => inferInstanceAs (Decidable True)

/-- What the text of the literal is read as, if it is read as a literal at all. -/
def reread? (l : Literal) : Option Literal := ofJson? (l.toJson.mapNumbers Number.reread)

theorem isScalar_toJson (l : Literal) : l.toJson.IsScalar := by
  cases l with
  | number d =>
    unfold toJson ofDouble
    dsimp only
    split <;> simp [IsScalar]
  | text s => simp [toJson, IsScalar]

theorem reread?_number {d : Double} (h : d.isFinite = true) :
    (number d).reread? = some (number (Number.float d h).reread.toDouble) := by
  simp [reread?, toJson, ofDouble, h, mapNumbers, ofJson?]

theorem reread?_eq_none_iff {l : Literal} : l.reread? = none ↔ ¬ l.IsFinite := by
  cases l with
  | text s => simp [reread?, toJson, mapNumbers, ofJson?, IsFinite]
  | number d =>
    by_cases h : d.isFinite = true
    · simp [reread?_number h, IsFinite, h]
    · simp [reread?, toJson, ofDouble, h, mapNumbers, ofJson?, IsFinite]

end Literal

/-! ## Operators -/

theorem Op.parse_text (op : Op) : Op.parse op.text = .ok op := by
  cases op <;> rfl

theorem Op.readFrom_text {gap : List Char} (hg : AllGap gap) (op : Op) (nesting : Nat) (rest : List Char) :
    Op.readFrom nesting (gap ++ (stringText op.text ++ rest)) = .ok (op, rest) := by
  rw [Op.readFrom, skipGap_stringText hg]
  simp only [stringBody_escaped, bind, Except.bind, Op.ofName, Op.parse_text]

/-! ## Spacing -/

/-- The gaps in an array of objects: before each item, before each member, behind the colon of a member,
behind the last member and behind the last item. -/
structure Spacing where
  item : List Char
  member : List Char
  value : List Char
  lastMember : List Char
  lastItem : List Char
  allGap_item : AllGap item
  allGap_member : AllGap member
  allGap_value : AllGap value
  allGap_lastMember : AllGap lastMember
  allGap_lastItem : AllGap lastItem

namespace Spacing

/-- No gaps at all. -/
def compact : Spacing where
  item := []
  member := []
  value := []
  lastMember := []
  lastItem := []
  allGap_item := allGap_nil
  allGap_member := allGap_nil
  allGap_value := allGap_nil
  allGap_lastMember := allGap_nil
  allGap_lastItem := allGap_nil

/-- A line for every item and for every member. -/
def indented : Spacing where
  item := newline 1
  member := newline 2
  value := [' ']
  lastMember := newline 1
  lastItem := newline 0
  allGap_item := allGap_newline 1
  allGap_member := allGap_newline 2
  allGap_value := by simp [AllGap, isGap]
  allGap_lastMember := allGap_newline 1
  allGap_lastItem := allGap_newline 0

/-- A member from behind the opening quote of its name on. -/
def memberFrom (s : Spacing) (name : String) (value rest : List Char) : List Char :=
  name.toList.flatMap escapedChar ++ '"' :: ':' :: (s.value ++ (value ++ rest))

end Spacing

namespace Condition

variable (s : Spacing) {width nesting : Nat} {rest : List Char} {c : Condition}

/-! ## Members -/

theorem readMember_field (field : String) (rest : List Char) :
    readMember width nesting ⟨none, none, none⟩ "field" (':' :: (s.value ++ (stringText field ++ rest))) =
      .ok (⟨some field, none, none⟩, rest) := by
  simp [readMember, colon, skipGap_cons (show isGap ':' = false by decide), bind, Except.bind,
    stringValue_stringText s.allGap_value, pure, Except.pure]

theorem readMember_op (field : String) (op : Op) (rest : List Char) :
    readMember width nesting ⟨some field, none, none⟩ "op" (':' :: (s.value ++ (stringText op.text ++ rest))) =
      .ok (⟨some field, some op, none⟩, rest) := by
  simp [readMember, colon, skipGap_cons (show isGap ':' = false by decide), bind, Except.bind,
    Op.readFrom_text s.allGap_value, pure, Except.pure]

theorem readMember_literal (width nesting : Nat) (field : String) (op : Op) (l : Literal) (hr : EndsNumber rest) :
    readMember width nesting ⟨some field, some op, none⟩ "literal" (':' :: (s.value ++ (l.toJson.compact ++ rest))) =
      match l.reread? with
      | some l' => .ok (⟨some field, some op, some l'⟩, rest)
      | none => .error (.upTo Literal.noLiteral (leaveObject rest)) := by
  have hvalue := value_compact s.allGap_value l.isScalar_toJson width nesting hr
  simp only [readMember, colon, skipGap_cons (show isGap ':' = false by decide), bind, Except.bind, readLiteral, hvalue,
    Literal.reread?]
  cases Literal.ofJson? (l.toJson.mapNumbers Number.reread) <;> rfl

theorem readMembers_next {name : String} {value behind body : List Char} {p p' : Partial}
    (h : readMember width nesting p name (':' :: (s.value ++ (value ++ ',' :: behind))) = .ok (p', ',' :: behind))
    (hbehind : skipGap behind = '"' :: body) (count : Nat) :
    readMembers width nesting (count + 1) (s.memberFrom name value (',' :: behind)) p =
      readMembers width nesting count body p' := by
  simp only [readMembers, Spacing.memberFrom, stringBody_escaped, bind, Except.bind, h,
    skipGap_cons (show isGap ',' = false by decide), hbehind]

/-! ## Objects -/

/-- The text of a condition. -/
def textIn (c : Condition) : List Char :=
  '\x7b' :: (s.member ++ '"' :: s.memberFrom "field" (stringText c.field) (
    ',' :: (s.member ++ '"' :: s.memberFrom "op" (stringText c.op.text) (
      ',' :: (s.member ++ '"' :: s.memberFrom "literal" c.literal.toJson.compact (s.lastMember ++ ['\x7d']))))))

theorem startsValue_textIn (c : Condition) : StartsValue (c.textIn s) := ⟨'\x7b', _, rfl, by decide, by decide⟩

/-- Reading a condition comes down to reading its literal. -/
theorem readFrom_textIn_eq (hw : 3 ≤ width) (c : Condition) (rest : List Char) :
    readFrom width (nesting + 1) (c.textIn s ++ rest) =
      match c.literal.reread? with
      | some l => .ok ({ c with literal := l }, rest)
      | none => .error (.upTo Literal.noLiteral (leaveObject (s.lastMember ++ '\x7d' :: rest))) := by
  obtain ⟨count, rfl⟩ : ∃ count, width = count + 3 := ⟨width - 3, by omega⟩
  have hquote (text : List Char) : skipGap (s.member ++ '"' :: text) = '"' :: text :=
    skipGap_append s.allGap_member (by simp [isGap])
  have hclose : skipGap (s.lastMember ++ '\x7d' :: rest) = '\x7d' :: rest :=
    skipGap_append s.allGap_lastMember (by simp [isGap])
  have htext : c.textIn s ++ rest = '\x7b' :: (s.member ++ '"' :: s.memberFrom "field" (stringText c.field) (
      ',' :: (s.member ++ '"' :: s.memberFrom "op" (stringText c.op.text) (
        ',' :: (s.member ++ '"' :: s.memberFrom "literal" c.literal.toJson.compact
          (s.lastMember ++ '\x7d' :: rest)))))) := by
    simp [textIn, Spacing.memberFrom]
  have hliteral := readMember_literal s (count + 3) nesting c.field c.op c.literal
    (endsNumber_gap s.allGap_lastMember (.inr (.inr rfl)) rest)
  rw [htext, readFrom, skipGap_cons (by decide)]
  simp only [readObject, hquote]
  rw [readMembers_next s (readMember_field s c.field _) (hquote _),
    readMembers_next s (readMember_op s c.field c.op _) (hquote _)]
  rw [readMembers, Spacing.memberFrom]
  simp only [stringBody_escaped, bind, Except.bind, hliteral]
  cases c.literal.reread? with
  | some l => simp only [hclose]; rfl
  | none => rfl

/-- The condition with what the text of its literal is read as. -/
def reread (c : Condition) : Condition := { c with literal := c.literal.reread?.getD c.literal }

theorem readFrom_textIn (hw : 3 ≤ width) (h : c.literal.IsFinite) (rest : List Char) :
    readFrom width (nesting + 1) (c.textIn s ++ rest) = .ok (c.reread, rest) := by
  rw [readFrom_textIn_eq s hw, reread]
  cases hl : c.literal.reread? with
  | some l => rfl
  | none => exact absurd h (Literal.reread?_eq_none_iff.1 hl)

theorem refuses_textIn (hw : 3 ≤ width) (h : ¬ c.literal.IsFinite) :
    Refuses (readFrom width (nesting + 1)) Literal.noLiteral (c.textIn s) := by
  intro rest _
  rw [readFrom_textIn_eq s hw, Literal.reread?_eq_none_iff.2 h]
  exact ⟨_, rfl⟩

/-! ## What is kept -/

/-- Conditions with one field and one operator, and with literals that are related. -/
structure Agree (R : Literal → Literal → Prop) (c c' : Condition) : Prop where
  field : c.field = c'.field
  op : c.op = c'.op
  literal : R c.literal c'.literal

/-- Texts are read as themselves, so only what finite numbers are read as counts. -/
theorem agree_reread {R : Literal → Literal → Prop} (htext : ∀ t, R (.text t) (.text t))
    (hnumber : ∀ d h, R (.number d) (.number (Number.float d h).reread.toDouble)) (h : c.literal.IsFinite) :
    c.Agree R c.reread := by
  refine ⟨rfl, rfl, ?_⟩
  rw [reread]
  cases hl : c.literal with
  | text t => exact htext t
  | number d =>
    rw [hl] at h
    rw [Literal.reread?_number h]
    exact hnumber d h

end Condition

end WhereFilter
