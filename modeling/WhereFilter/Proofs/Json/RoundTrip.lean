/-
Indented texts are read back. Whatever the reader gives fits the nesting it was read with, and the
names of each object in it differ (`fitsIn_of_value`); the indented text of such a value is read as that
value again, its doubles apart, which come back as what their digits are read as (`value_pretty`).
-/
import WhereFilter.Proofs.Json.Containers
import WhereFilter.Proofs.Json.NumberText

namespace WhereFilter.Json

/-! ## Values -/

/-- The value has no parts. -/
def IsScalar (j : Json) : Prop := (∀ items, j ≠ array items) ∧ ∀ members, j ≠ object members

theorem isScalar_or (j : Json) : j.IsScalar ∨ (∃ items, j = array items) ∨ ∃ members, j = object members := by
  cases j with
  | array items => exact .inr (.inl ⟨items, rfl⟩)
  | object members => exact .inr (.inr ⟨members, rfl⟩)
  | _ => exact .inl (by simp [IsScalar])

/-- Containers stand in one another at most so deep, and the names of each object differ. -/
def FitsIn (nesting : Nat) (j : Json) : Prop :=
  match j with
  | array items =>
    match nesting with
    | 0 => False
    | nesting + 1 => ∀ item ∈ items, FitsIn nesting item
  | object members =>
    match nesting with
    | 0 => False
    | nesting + 1 => (members.map Prod.fst).Nodup ∧ ∀ member ∈ members, FitsIn nesting member.2
  | _ => True

mutual

/-- The value with every number in it replaced. -/
def mapNumbers (f : Number → Number) : Json → Json
  | null => null
  | bool b => bool b
  | number n => number (f n)
  | string s => string s
  | array items => array (mapItems f items)
  | object members => object (mapMembers f members)

def mapItems (f : Number → Number) : List Json → List Json
  | [] => []
  | item :: rest => item.mapNumbers f :: mapItems f rest

def mapMembers (f : Number → Number) : List (String × Json) → List (String × Json)
  | [] => []
  | (name, value) :: rest => (name, value.mapNumbers f) :: mapMembers f rest

end

theorem mapItems_eq (f : Number → Number) (items : List Json) : mapItems f items = items.map (mapNumbers f) := by
  induction items with
  | nil => rfl
  | cons item rest ih => rw [mapItems, ih]; rfl

theorem mapMembers_eq (f : Number → Number) (members : List (String × Json)) :
    mapMembers f members = members.map fun member => (member.1, member.2.mapNumbers f) := by
  induction members with
  | nil => rfl
  | cons member rest ih => rw [mapMembers, ih]; rfl

/-! ## What is read fits -/

theorem isScalar_of_scalar {text rest : List Char} {j : Json} (h : scalar text = .ok (j, rest)) : j.IsScalar := by
  unfold scalar at h
  split at h
  · cases hw : word ['u', 'l', 'l'] _ <;> rw [hw] at h <;> cases h
    simp [IsScalar]
  · cases hw : word ['r', 'u', 'e'] _ <;> rw [hw] at h <;> cases h
    simp [IsScalar]
  · cases hw : word ['a', 'l', 's', 'e'] _ <;> rw [hw] at h <;> cases h
    simp [IsScalar]
  · cases hs : stringBody _ <;> rw [hs] at h <;> cases h
    simp [IsScalar]
  · cases hn : unsignedNumber true _ <;> rw [hn] at h <;> cases h
    simp [IsScalar]
  · split at h
    · cases hn : unsignedNumber false _ <;> rw [hn] at h <;> cases h
      simp [IsScalar]
    · cases h
  · cases h

theorem fitsIn_of_isScalar {j : Json} (h : j.IsScalar) (nesting : Nat) : j.FitsIn nesting := by
  unfold FitsIn
  split
  · exact absurd rfl (h.1 _)
  · exact absurd rfl (h.2 _)
  · trivial

theorem fitsIn_of_value {width nesting : Nat} {text rest : List Char} {j : Json}
    (h : value width nesting text = .ok (j, rest)) : j.FitsIn nesting := by
  induction nesting generalizing text rest j with
  | zero =>
    unfold value at h
    split at h
    · cases h
    · cases h
    · exact fitsIn_of_isScalar (isScalar_of_scalar h) 0
  | succ nesting ih =>
    unfold value at h
    split at h
    · rename_i body _
      cases ha : arrayBody (value width nesting) width body with
      | error fault => simp only [ha] at h; cases h
      | ok parsed =>
        simp only [ha] at h
        cases h
        exact forall_of_arrayBody (fun _ _ _ => ih) ha
    · rename_i body _
      cases ho : objectBody (value width nesting) width body with
      | error fault => simp only [ho] at h; cases h
      | ok parsed =>
        simp only [ho] at h
        cases h
        exact forall_of_objectBody (fun _ _ _ => ih) ho
    · exact fitsIn_of_isScalar (isScalar_of_scalar h) _

theorem FitsIn.mono {n m : Nat} {j : Json} (hnm : n ≤ m) (h : j.FitsIn n) : j.FitsIn m := by
  induction n generalizing m j with
  | zero =>
    rcases j.isScalar_or with hj | ⟨items, rfl⟩ | ⟨members, rfl⟩
    · exact fitsIn_of_isScalar hj m
    · exact h.elim
    · exact h.elim
  | succ n ih =>
    obtain ⟨m, rfl⟩ : ∃ m', m = m' + 1 := ⟨m - 1, by omega⟩
    have hnm : n ≤ m := Nat.le_of_succ_le_succ hnm
    rcases j.isScalar_or with hj | ⟨items, rfl⟩ | ⟨members, rfl⟩
    · exact fitsIn_of_isScalar hj _
    · exact fun item hitem => ih hnm (h item hitem)
    · exact ⟨h.1, fun member hmember => ih hnm (h.2 member hmember)⟩

/-! ## Starts of values -/

section Starts

variable {width nesting : Nat} {text rest : List Char} {j : Json}

theorem value_gap {c : Char} (hc : isGap c = true) (text : List Char) :
    value width nesting (c :: text) = value width nesting text := by
  have hskip : skipGap (c :: text) = skipGap text := List.dropWhile_cons_of_pos hc
  unfold value
  rw [hskip]

theorem starts_of_scalar (h : scalar text = .ok (j, rest)) :
    ∃ c tail, text = c :: tail ∧ isGap c = false ∧ c ≠ ']' ∧ c ≠ '[' ∧ c ≠ '\x7b' := by
  unfold scalar at h
  split at h
  · exact ⟨'n', _, rfl, by decide⟩
  · exact ⟨'t', _, rfl, by decide⟩
  · exact ⟨'f', _, rfl, by decide⟩
  · exact ⟨'"', _, rfl, by decide⟩
  · exact ⟨'-', _, rfl, by decide⟩
  · rename_i c tail _ _ _ _ _
    split at h
    · rename_i hdigit
      have hne : ∀ d : Char, d.isDigit = false → c ≠ d := fun d hd hcd => by
        rw [hcd, hd] at hdigit; cases hdigit
      refine ⟨c, tail, rfl, ?_, hne _ (by decide), hne _ (by decide), hne _ (by decide)⟩
      simp only [isGap, Bool.or_eq_false_iff, beq_eq_false_iff_ne]
      exact ⟨⟨⟨hne _ (by decide), hne _ (by decide)⟩, hne _ (by decide)⟩, hne _ (by decide)⟩
    · cases h
  · cases h

/-- A value without parts is read as such however deep it stands. -/
theorem value_of_scalar (h : scalar text = .ok (j, rest)) : value width nesting text = .ok (j, rest) := by
  obtain ⟨c, tail, rfl, hgap, -, hbracket, hbrace⟩ := starts_of_scalar h
  unfold value
  rw [skipGap_cons hgap]
  split
  · rename_i heq; exact absurd (List.cons.inj heq).1 hbracket
  · rename_i heq; exact absurd (List.cons.inj heq).1 hbrace
  · exact h

end Starts

/-! ## Indented texts -/

theorem allGap_newline (depth : Nat) : AllGap (newline depth) := by
  intro c hc
  rcases List.mem_cons.1 hc with rfl | hc
  · decide
  · rw [List.eq_of_mem_replicate hc]; decide

/-- The text of a value without parts is read back. -/
theorem scalar_pretty {j : Json} (hj : j.IsScalar) (depth : Nat) {rest : List Char} (hr : EndsNumber rest) :
    scalar (j.pretty depth ++ rest) = .ok (j.mapNumbers Number.reread, rest) := by
  cases j with
  | null => simp [pretty, compact, scalar, word, mapNumbers, bind, Except.bind, pure, Except.pure]
  | bool b => cases b <;> simp [pretty, compact, scalar, word, mapNumbers, bind, Except.bind, pure, Except.pure]
  | number n =>
    rw [pretty, compact, mapNumbers]
    exact scalar_text n hr
  | string s =>
    have htext : pretty depth (string s) ++ rest = '"' :: (s.toList.flatMap escapedChar ++ '"' :: rest) := by
      simp [pretty, compact, stringText]
    rw [htext, scalar, stringBody_escaped]
    rfl
  | array items => exact absurd rfl (hj.1 items)
  | object members => exact absurd rfl (hj.2 members)

theorem startsValue_pretty (depth : Nat) (j : Json) : StartsValue (j.pretty depth) := by
  rcases j.isScalar_or with hj | ⟨items, rfl⟩ | ⟨members, rfl⟩
  · obtain ⟨c, tail, htext, hgap, hclosing, -⟩ := starts_of_scalar (scalar_pretty hj depth EndsNumber.nil)
    rw [List.append_nil] at htext
    exact ⟨c, tail, htext, hgap, hclosing⟩
  · cases items <;> exact ⟨'[', _, rfl, by decide, by decide⟩
  · cases members <;> exact ⟨'\x7b', _, rfl, by decide, by decide⟩

theorem prettyItems_eq (depth : Nat) (item : Json) (items : List Json) :
    prettyItems depth (item :: items) =
      newline depth ++ (',' :: newline depth).intercalate ((item :: items).map (pretty depth)) := by
  induction items generalizing item with
  | nil => simp [prettyItems]
  | cons next items ih => simp [prettyItems, ih next, List.intercalate_cons_cons]

theorem prettyMembers_eq (depth : Nat) (member : String × Json) (members : List (String × Json)) :
    prettyMembers depth (member :: members) = newline depth ++ (',' :: newline depth).intercalate
      ((member :: members).map fun member => memberText member.1 (pretty depth member.2)) := by
  induction members generalizing member with
  | nil => simp [prettyMembers, memberText_eq]
  | cons next members ih => simp [prettyMembers, ih next, memberText_eq, List.intercalate_cons_cons]

theorem compactItems_eq (item : Json) (items : List Json) :
    compactItems (item :: items) = [','].intercalate ((item :: items).map compact) := by
  induction items generalizing item with
  | nil => simp [compactItems]
  | cons next items ih => simp [compactItems, ih next, List.intercalate_cons_cons]

/-! ## Tokens behind a gap -/

theorem pretty_of_isScalar {j : Json} (hj : j.IsScalar) (depth : Nat) : j.pretty depth = j.compact := by
  cases j with
  | array items => exact absurd rfl (hj.1 items)
  | object members => exact absurd rfl (hj.2 members)
  | _ => rfl

section Tokens

variable {gap : List Char} (hg : AllGap gap)

include hg

theorem value_append_gap (width nesting : Nat) (text : List Char) :
    value width nesting (gap ++ text) = value width nesting text := by
  induction gap with
  | nil => rfl
  | cons c gap ih =>
    obtain ⟨hc, hg⟩ := List.forall_mem_cons.1 hg
    rw [List.cons_append, value_gap hc, ih hg]

/-- The compact text of a value without parts is read back. -/
theorem value_compact {j : Json} (hj : j.IsScalar) (width nesting : Nat) {rest : List Char} (hr : EndsNumber rest) :
    value width nesting (gap ++ (j.compact ++ rest)) = .ok (j.mapNumbers Number.reread, rest) := by
  rw [value_append_gap hg, ← pretty_of_isScalar hj 0]
  exact value_of_scalar (scalar_pretty hj 0 hr)

theorem skipGap_stringText (s : String) (rest : List Char) :
    skipGap (gap ++ (stringText s ++ rest)) = '"' :: (s.toList.flatMap escapedChar ++ '"' :: rest) := by
  rw [skipGap_append hg (by simp [stringText, isGap])]
  simp [stringText]

theorem stringValue_stringText (s : String) (rest : List Char) :
    stringValue (gap ++ (stringText s ++ rest)) = .ok (s, rest) := by
  rw [stringValue, skipGap_stringText hg]
  exact stringBody_escaped s rest

end Tokens

/-! ## Sizes -/

/-- Texts that are not empty are no more than the characters of all of them, and none is longer. -/
theorem size_intercalate {β : Type} {text : β → List Char} (hpos : ∀ x, 0 < (text x).length) (separator : List Char)
    (xs : List β) : xs.length ≤ (separator.intercalate (xs.map text)).length ∧
      ∀ x ∈ xs, (text x).length ≤ (separator.intercalate (xs.map text)).length := by
  induction xs with
  | nil => simp
  | cons x xs ih =>
    cases xs with
    | nil => simpa [Nat.succ_le_iff] using hpos x
    | cons y ys =>
      rw [List.map_cons, List.map_cons, List.intercalate_cons_cons, ← List.map_cons, List.length_append,
        List.length_append]
      generalize separator.intercalate ((y :: ys).map text) = behind at ih ⊢
      have hx := hpos x
      refine ⟨by rw [List.length_cons]; omega, fun z hz => ?_⟩
      rcases List.mem_cons.1 hz with rfl | hz
      · omega
      · have := ih.2 z hz
        omega

theorem size_prettyItems (depth : Nat) (items : List Json) :
    items.length ≤ (prettyItems depth items).length ∧
      ∀ item ∈ items, (item.pretty depth).length ≤ (prettyItems depth items).length := by
  cases items with
  | nil => simp
  | cons item items =>
    obtain ⟨hlen, hmem⟩ := size_intercalate (fun one => (startsValue_pretty depth one).length_pos)
      (',' :: newline depth) (item :: items)
    rw [prettyItems_eq, List.length_append]
    exact ⟨hlen.trans (Nat.le_add_left ..), fun one hone => (hmem one hone).trans (Nat.le_add_left ..)⟩

theorem size_prettyMembers (depth : Nat) (members : List (String × Json)) :
    members.length ≤ (prettyMembers depth members).length ∧
      ∀ member ∈ members, (member.2.pretty depth).length ≤ (prettyMembers depth members).length := by
  cases members with
  | nil => simp
  | cons member members =>
    obtain ⟨hlen, hmem⟩ := size_intercalate
      (fun one : String × Json => (startsValue_memberText one.1 (pretty depth one.2)).length_pos)
      (',' :: newline depth) (member :: members)
    rw [prettyMembers_eq, List.length_append]
    refine ⟨hlen.trans (Nat.le_add_left ..), fun one hone => ?_⟩
    have hone := hmem one hone
    rw [memberText_eq, List.length_append, List.length_cons, List.length_cons] at hone
    omega

/-! ## Reading indented texts -/

section Reading

variable {read : Reader Json} {width depth : Nat} (rest : List Char)

/-- The indented text of an array is a bracket and a body that is read as the items. -/
theorem exists_arrayBody {items : List Json} (hw : ((array items).pretty depth).length < width)
    (hread : ∀ item ∈ items, (item.pretty (depth + 1)).length < width → ∀ rest, EndsNumber rest →
      read (item.pretty (depth + 1) ++ rest) = .ok (item.mapNumbers Number.reread, rest)) :
    ∃ body, (array items).pretty depth ++ rest = '[' :: body ∧
      arrayBody read width body = .ok (mapItems Number.reread items, rest) := by
  cases items with
  | nil => exact ⟨']' :: rest, rfl, by simp [arrayBody, skipGap, isGap, mapItems]⟩
  | cons item items =>
    have hsize := size_prettyItems (depth + 1) (item :: items)
    have htext : ((array (item :: items)).pretty depth).length =
        (prettyItems (depth + 1) (item :: items)).length + (newline depth).length + 2 := by
      simp [pretty]; omega
    refine ⟨prettyItems (depth + 1) (item :: items) ++ (newline depth ++ ']' :: rest), by simp [pretty], ?_⟩
    rw [prettyItems_eq, List.append_assoc, mapItems_eq]
    exact arrayBody_texts (allGap_newline (depth + 1)) (allGap_newline depth) (allGap_newline (depth + 1)) (by omega)
      (List.cons_ne_nil _ _) (fun one _ => startsValue_pretty (depth + 1) one)
      fun one hone => hread one hone (by have := hsize.2 one hone; omega)

/-- The indented text of an object is a brace and a body that is read as the members. -/
theorem exists_objectBody {members : List (String × Json)} (hnames : (members.map Prod.fst).Nodup)
    (hw : ((object members).pretty depth).length < width)
    (hread : ∀ member ∈ members, (member.2.pretty (depth + 1)).length < width → ∀ rest, EndsNumber rest →
      read (' ' :: (member.2.pretty (depth + 1) ++ rest)) = .ok (member.2.mapNumbers Number.reread, rest)) :
    ∃ body, (object members).pretty depth ++ rest = '\x7b' :: body ∧
      objectBody read width body = .ok (mapMembers Number.reread members, rest) := by
  cases members with
  | nil => exact ⟨'\x7d' :: rest, rfl, by simp [objectBody, tableBody, skipGap, isGap, mapMembers]⟩
  | cons member members =>
    have hsize := size_prettyMembers (depth + 1) (member :: members)
    have htext : ((object (member :: members)).pretty depth).length =
        (prettyMembers (depth + 1) (member :: members)).length + (newline depth).length + 2 := by
      simp [pretty]; omega
    refine ⟨prettyMembers (depth + 1) (member :: members) ++ (newline depth ++ '\x7d' :: rest), by simp [pretty], ?_⟩
    rw [prettyMembers_eq, List.append_assoc, mapMembers_eq]
    exact objectBody_texts (allGap_newline (depth + 1)) (allGap_newline depth) (allGap_newline (depth + 1)) (by omega)
      (List.cons_ne_nil _ _) hnames fun one hone => hread one hone (by have := hsize.2 one hone; omega)

end Reading

/-- The indented text of a value that fits is read as that value, each number as what its text is read as. -/
theorem value_pretty {width nesting : Nat} {j : Json} (hfit : j.FitsIn nesting) {depth : Nat}
    (hw : (j.pretty depth).length < width) {rest : List Char} (hr : EndsNumber rest) :
    value width nesting (j.pretty depth ++ rest) = .ok (j.mapNumbers Number.reread, rest) := by
  induction nesting generalizing j depth rest with
  | zero =>
    rcases j.isScalar_or with hj | ⟨items, rfl⟩ | ⟨members, rfl⟩
    · exact value_of_scalar (scalar_pretty hj depth hr)
    · exact hfit.elim
    · exact hfit.elim
  | succ nesting ih =>
    rcases j.isScalar_or with hj | ⟨items, rfl⟩ | ⟨members, rfl⟩
    · exact value_of_scalar (scalar_pretty hj depth hr)
    · obtain ⟨body, htext, hbody⟩ := exists_arrayBody rest hw fun item hitem hlen _ => ih (hfit item hitem) hlen
      rw [htext]
      unfold value
      simp only [skipGap_cons (show isGap '[' = false by decide), hbody]
      rfl
    · obtain ⟨body, htext, hbody⟩ := exists_objectBody rest hfit.1 hw fun member hmember hlen rest hr =>
        (value_gap (by decide) _).trans (ih (hfit.2 member hmember) hlen hr)
      rw [htext]
      unfold value
      simp only [skipGap_cons (show isGap '\x7b' = false by decide), hbody]
      rfl

/-- The same for the text of an object where an object is asked for. -/
theorem membersOf_pretty {width nesting : Nat} {members : List (String × Json)} (hfit : (object members).FitsIn nesting)
    {depth : Nat} (hw : ((object members).pretty depth).length < width) {rest : List Char} :
    membersOf width nesting ((object members).pretty depth ++ rest) = .ok (mapMembers Number.reread members, rest) := by
  cases nesting with
  | zero => exact hfit.elim
  | succ nesting =>
    obtain ⟨body, htext, hbody⟩ := exists_objectBody rest hfit.1 hw fun member hmember hlen rest hr =>
      (value_gap (by decide) _).trans (value_pretty (hfit.2 member hmember) hlen hr)
    rw [htext]
    unfold membersOf tableOf
    simp only [skipGap_cons (show isGap '\x7b' = false by decide)]
    exact hbody

/-- A whole document is read as the value that it was written for. -/
theorem read_prettyText {j : Json} (hfit : j.FitsIn maxNesting) :
    read j.prettyText = .ok (j.mapNumbers Number.reread) := by
  have hvalue := value_pretty hfit (Nat.lt_succ_self (j.pretty 0).length) EndsNumber.nil
  rw [List.append_nil] at hvalue
  simp only [read, readAll, readFront, prettyText, String.toList_ofList, hvalue, bind, Except.bind]
  rfl

/-- A number that has been written alone. -/
theorem read_text (n : Number) : read (String.ofList n.text) = .ok (.number n.reread) := by
  have hread := read_prettyText (fitsIn_of_isScalar (j := .number n) (by simp [IsScalar]) maxNesting)
  rwa [prettyText, pretty, compact, mapNumbers] at hread

end WhereFilter.Json
