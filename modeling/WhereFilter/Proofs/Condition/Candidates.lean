/-
The operators from which a condition can be read. An operator is a candidate where a word stands before it, with
nothing but blanks between; cut there (`Cut`), the text has the field in front and the value behind. The reader looks
for the start of a word and finds the first candidate (`exists_cut_of_parts?`): between the word that it finds and its
operator there are only word characters and blanks, so no other candidate fits in. So a segment is read at its first
candidate, if anything stands behind a candidate at all, and is refused as a whole if not
(`parse_at_first_candidate`).
-/
import WhereFilter.Proofs.Condition.Captures

namespace WhereFilter.Condition

open WhereFilter.Text

/-! ## Candidates -/

/-- An operator with a field: going left from it over blanks alone, one meets a word character. -/
structure Candidate (text : List Char) (i : Nat) (op : Op) : Prop where
  symbol : text[i]? = some op.symbol
  word : ∃ c ∈ (trimEnd (text.take i)).getLast?, isWord c = true

/-- A candidate that no other stands before. -/
structure FirstCandidate (text : List Char) (i : Nat) (op : Op) : Prop extends Candidate text i op where
  first : ∀ j other, Candidate text j other → i ≤ j

/-- The field of a candidate: all word characters up to the one that is met. -/
def fieldBefore (text : List Char) (i : Nat) : List Char := ((trimEnd (text.take i)).reverse.takeWhile isWord).reverse

/-- The condition that a candidate writes. -/
def atCandidate (text : List Char) (i : Nat) (op : Op) : Condition :=
  ⟨String.ofList (fieldBefore text i), op, .parse (String.ofList (trim (text.drop (i + 1))))⟩

theorem symbol_injective {op other : Op} (h : op.symbol = other.symbol) : op = other :=
  Option.some.inj ((Op.ofSymbol?_symbol op).symm.trans ((congrArg Op.ofSymbol? h).trans (Op.ofSymbol?_symbol other)))

/-- There is only one first candidate. -/
theorem FirstCandidate.unique {text : List Char} {i j : Nat} {op other : Op} (h : FirstCandidate text i op)
    (h' : FirstCandidate text j other) : i = j ∧ op = other := by
  obtain rfl : i = j := Nat.le_antisymm (h.first j other h'.toCandidate) (h'.first i op h.toCandidate)
  exact ⟨rfl, symbol_injective (Option.some.inj (h.symbol.symm.trans h'.symbol))⟩

/-! ## Cuts -/

/-- A text cut at an operator: the word of the field, the blanks between the field and the operator, and what stands
before the word and behind the operator. -/
structure Cut (text : List Char) where
  before : List Char
  field : List Char
  gap : List Char
  op : Op
  behind : List Char
  text_eq : text = before ++ (field ++ (gap ++ op.symbol :: behind))
  ends : ∀ c ∈ before.getLast?, isWord c = false
  field_ne : field ≠ []
  word : ∀ c ∈ field, isWord c = true
  blank : AllBlank gap

namespace Cut

variable {text : List Char} (cut : Cut text)

/-- The position of the operator. -/
def place : Nat := (cut.before ++ (cut.field ++ cut.gap)).length

theorem text_eq_append : text = (cut.before ++ (cut.field ++ cut.gap)) ++ cut.op.symbol :: cut.behind := by
  rw [List.append_assoc, List.append_assoc]; exact cut.text_eq

theorem take_place : text.take cut.place = cut.before ++ (cut.field ++ cut.gap) :=
  (congrArg (List.take cut.place) cut.text_eq_append).trans List.take_left

theorem drop_place : text.drop cut.place = cut.op.symbol :: cut.behind :=
  (congrArg (List.drop cut.place) cut.text_eq_append).trans List.drop_left

theorem drop_succ_place : text.drop (cut.place + 1) = cut.behind := by
  rw [← List.drop_drop, cut.drop_place]; rfl

theorem getElem?_place : text[cut.place]? = some cut.op.symbol := by
  rw [← Nat.add_zero cut.place, ← List.getElem?_drop, cut.drop_place]; rfl

/-- From the field up to the operator there are word characters and blanks. -/
theorem getElem?_ne_symbol {i : Nat} (h : cut.before.length ≤ i) (hi : i < cut.place) (op : Op) :
    text[i]? ≠ some op.symbol := by
  intro hsymbol
  have hfront : (text.take cut.place)[i]? = some op.symbol := by rw [List.getElem?_take_of_lt hi, hsymbol]
  rw [cut.take_place, List.getElem?_append_right h] at hfront
  rcases List.mem_append.1 (List.mem_of_getElem? hfront) with hfield | hgap
  · exact Bool.false_ne_true (op.isWord_symbol.symm.trans (cut.word _ hfield))
  · exact Bool.false_ne_true (op.isBlank_symbol.symm.trans (cut.blank _ hgap))

/-! ### As candidates -/

/-- Without the blanks before it, the field ends at the operator. -/
theorem trimEnd_take : trimEnd (text.take cut.place) = cut.before ++ cut.field := by
  have hlast : ∀ c ∈ (cut.before ++ cut.field).reverse.head?, isBlank c = false := by
    intro c hc
    rw [List.head?_reverse, List.getLast?_append_of_ne_nil _ cut.field_ne] at hc
    exact isBlank_of_isWord (cut.word c (List.mem_of_mem_getLast? hc))
  rw [cut.take_place, ← List.append_assoc, trimEnd, List.reverse_append,
    dropWhile_run_append (fun c hc => cut.blank c (List.mem_reverse.1 hc)) hlast, List.reverse_reverse]

theorem fieldBefore_place : fieldBefore text cut.place = cut.field := by
  have hends : ∀ c ∈ cut.before.reverse.head?, isWord c = false := by rw [List.head?_reverse]; exact cut.ends
  rw [fieldBefore, cut.trimEnd_take, List.reverse_append,
    takeWhile_run_append (fun c hc => cut.word c (List.mem_reverse.1 hc)) hends, List.reverse_reverse]

theorem candidate : Candidate text cut.place cut.op where
  symbol := cut.getElem?_place
  word := by
    refine ⟨cut.field.getLast cut.field_ne, ?_, cut.word _ (List.getLast_mem _)⟩
    rw [cut.trimEnd_take, List.getLast?_append_of_ne_nil _ cut.field_ne]
    exact List.getLast?_eq_some_getLast _

/-! ### As parts -/

/-- At the field of a cut the reader finds its parts, if there is a value. -/
theorem partsHere?_eq_some {value : List Char} (h : valuePart? cut.behind = some value) :
    partsHere? (cut.field ++ (cut.gap ++ cut.op.symbol :: cut.behind)) = some ⟨cut.field, cut.op, value⟩ :=
  partsHere?_eq_some_iff.2 ⟨cut.gap, cut.behind, rfl, cut.field_ne, cut.word, cut.blank, h⟩

end Cut

theorem isWord_of_mem_fieldBefore {text : List Char} {i : Nat} : ∀ c ∈ fieldBefore text i, isWord c = true := by
  intro c hc
  unfold fieldBefore at hc
  exact mem_takeWhile c (List.mem_reverse.1 hc)

/-- What stands before an operator ends with a word and blanks, either of which may be nothing. -/
theorem take_eq_append (text : List Char) (i : Nat) :
    text.take i = ((trimEnd (text.take i)).reverse.dropWhile isWord).reverse ++
      (fieldBefore text i ++ ((text.take i).reverse.takeWhile isBlank).reverse) := by
  have hfield : trimEnd (text.take i) =
      ((trimEnd (text.take i)).reverse.dropWhile isWord).reverse ++ fieldBefore text i := by
    rw [fieldBefore, ← List.reverse_append, List.takeWhile_append_dropWhile, List.reverse_reverse]
  have hblank : text.take i = trimEnd (text.take i) ++ ((text.take i).reverse.takeWhile isBlank).reverse := by
    rw [trimEnd, ← List.reverse_append, List.takeWhile_append_dropWhile, List.reverse_reverse]
  rw [← List.append_assoc, ← hfield]
  exact hblank

/-- Every candidate is a cut of the text. -/
theorem Candidate.exists_cut {text : List Char} {i : Nat} {op : Op} (h : Candidate text i op) :
    ∃ cut : Cut text, cut.place = i ∧ cut.op = op := by
  obtain ⟨hi, hsymbol⟩ := List.getElem?_eq_some_iff.1 h.symbol
  obtain ⟨c, hc, hword⟩ := h.word
  have htext : text = text.take i ++ op.symbol :: text.drop (i + 1) := by
    rw [← hsymbol, ← List.drop_eq_getElem_cons hi, List.take_append_drop]
  have hends : ∀ b ∈ ((trimEnd (text.take i)).reverse.dropWhile isWord).reverse.getLast?, isWord b = false := by
    rw [List.getLast?_reverse]
    exact head_dropWhile isWord _
  have hne : fieldBefore text i ≠ [] := by
    obtain ⟨rest, hrest⟩ := List.head?_eq_some_iff.1 (List.head?_reverse.trans hc)
    rw [fieldBefore, hrest, List.takeWhile_cons_of_pos hword, List.reverse_cons]
    exact List.append_ne_nil_of_right_ne_nil _ (List.cons_ne_nil c [])
  have hgap : AllBlank ((text.take i).reverse.takeWhile isBlank).reverse :=
    fun b hb => mem_takeWhile b (List.mem_reverse.1 hb)
  refine ⟨⟨_, fieldBefore text i, _, op, text.drop (i + 1), ?_, hends, hne, isWord_of_mem_fieldBefore, hgap⟩, ?_, rfl⟩
  · rw [← List.append_assoc, ← List.append_assoc, List.append_assoc _ (fieldBefore text i), ← take_eq_append]
    exact htext
  · exact (congrArg List.length (take_eq_append text i).symm).trans (List.length_take_of_le hi.le)

/-! ## The candidate that is found -/

/-- There is a value where there is anything. -/
theorem isSome_valuePart?_iff {text : List Char} : (valuePart? text).isSome ↔ text ≠ [] := by
  constructor
  · rintro h rfl
    cases h
  · intro h
    obtain ⟨b, hb⟩ := Option.ne_none_iff_exists'.1 (mt List.getLast?_eq_none_iff.1 h)
    unfold valuePart?
    split
    · rw [hb]; rfl
    · rfl

/-- The reader finds a cut with something behind it whose word starts before that of every other such cut. -/
theorem exists_cut_of_parts? {text : List Char} {p : Parts} (h : parts? text = some p) :
    ∃ cut : Cut text, cut.field = p.field ∧ cut.op = p.op ∧ valuePart? cut.behind = some p.value ∧
      ∀ other : Cut text, other.behind ≠ [] → cut.before.length ≤ other.before.length := by
  obtain ⟨before, here, rfl, hhere, hfirst⟩ := parts?_eq_some_first h
  obtain ⟨gap, behind, rfl, hne, hword, hblank, hvalue⟩ := partsHere?_eq_some_iff.1 hhere
  have hends := not_isWord_of_first hhere hfirst
  refine ⟨⟨before, p.field, gap, p.op, behind, rfl, hends, hne, hword, hblank⟩, rfl, rfl, hvalue,
    fun other hother => ?_⟩
  obtain ⟨value, hv⟩ := Option.isSome_iff_exists.1 (isSome_valuePart?_iff.2 hother)
  exact hfirst _ _ other.text_eq (Option.isSome_iff_exists.2 ⟨_, other.partsHere?_eq_some hv⟩)

theorem Cut.behind_ne_nil_iff {text : List Char} (cut : Cut text) :
    cut.behind ≠ [] ↔ cut.place + 1 < text.length := by
  rw [← cut.drop_succ_place, Ne, List.drop_eq_nil_iff, Nat.not_le]

/-- What the reader finds stands at the first candidate. -/
theorem exists_first_of_parts? {text : List Char} {p : Parts} (h : parts? text = some p) :
    ∃ i, FirstCandidate text i p.op ∧ i + 1 < text.length ∧
      atCandidate text i p.op = ⟨String.ofList p.field, p.op, .parse (String.ofList (trim p.value))⟩ := by
  obtain ⟨cut, hfield, hop, hvalue, hfirst⟩ := exists_cut_of_parts? h
  have hbehind : cut.behind ≠ [] := isSome_valuePart?_iff.1 (Option.isSome_iff_exists.2 ⟨_, hvalue⟩)
  have hlength := cut.behind_ne_nil_iff.1 hbehind
  refine ⟨cut.place, ⟨hop ▸ cut.candidate, ?_⟩, hlength, ?_⟩
  · intro j other hother
    obtain ⟨otherCut, rfl, rfl⟩ := hother.exists_cut
    by_contra hlt
    rw [Nat.not_le] at hlt
    -- an operator before the one that is found stands in front of its word, so the word before it starts earlier
    have hstart : cut.before.length ≤ otherCut.before.length :=
      hfirst otherCut (otherCut.behind_ne_nil_iff.2 (by omega))
    have hplace : otherCut.before.length ≤ otherCut.place := by
      unfold Cut.place; rw [List.length_append]; exact Nat.le_add_right _ _
    exact cut.getElem?_ne_symbol (hstart.trans hplace) hlt _ otherCut.getElem?_place
  · obtain ⟨gap, hgap, hblank, -⟩ := valuePart?_eq_some hvalue
    rw [atCandidate, cut.fieldBefore_place, cut.drop_succ_place, hfield, hgap, trim_blank_append hblank]

/-- A candidate with something behind it is enough for the reader to find parts. -/
theorem Candidate.exists_parts? {text : List Char} {i : Nat} {op : Op} (h : Candidate text i op)
    (hlength : i + 1 < text.length) : ∃ p, parts? text = some p := by
  obtain ⟨cut, rfl, rfl⟩ := h.exists_cut
  obtain ⟨value, hvalue⟩ := Option.isSome_iff_exists.1 (isSome_valuePart?_iff.2 (cut.behind_ne_nil_iff.2 hlength))
  rw [← Option.ne_none_iff_exists']
  intro hnone
  have hhere := parts?_eq_none_iff.1 hnone _ _ cut.text_eq
  rw [cut.partsHere?_eq_some hvalue] at hhere
  cases hhere

/-! ## Reading at the first candidate -/

section Reading

variable {segment : String} {condition : Condition}

theorem parse_eq_ok_iff_candidate :
    Condition.parse segment = .ok condition ↔ ∃ i op, FirstCandidate segment.toList i op ∧
      i + 1 < segment.toList.length ∧ condition = atCandidate segment.toList i op := by
  rw [parse_eq_ok_iff]
  constructor
  · rintro ⟨p, hp, rfl⟩
    obtain ⟨i, hfirst, hlength, hat⟩ := exists_first_of_parts? hp
    exact ⟨i, p.op, hfirst, hlength, hat.symm⟩
  · rintro ⟨i, op, hfirst, hlength, rfl⟩
    obtain ⟨p, hp⟩ := hfirst.toCandidate.exists_parts? hlength
    obtain ⟨j, hfirst', -, hat⟩ := exists_first_of_parts? hp
    obtain ⟨rfl, rfl⟩ := hfirst.unique hfirst'
    exact ⟨p, hp, hat⟩

theorem parse_succeeds_iff :
    (∃ condition, Condition.parse segment = .ok condition) ↔
      ∃ i op, Candidate segment.toList i op ∧ i + 1 < segment.toList.length := by
  constructor
  · rintro ⟨condition, h⟩
    obtain ⟨i, op, hfirst, hlength, -⟩ := parse_eq_ok_iff_candidate.1 h
    exact ⟨i, op, hfirst.toCandidate, hlength⟩
  · rintro ⟨i, op, h, hlength⟩
    obtain ⟨p, hp⟩ := h.exists_parts? hlength
    exact ⟨_, parse_eq_ok_iff.2 ⟨p, hp, rfl⟩⟩

theorem parse_eq_error_iff {m : Malformed} :
    Condition.parse segment = .error m ↔
      (¬ ∃ i op, Candidate segment.toList i op ∧ i + 1 < segment.toList.length) ∧ m = ⟨.invalidCondition, segment⟩ := by
  rw [← parse_succeeds_iff]
  constructor
  · intro h
    have hfails : ∀ condition, Condition.parse segment ≠ .ok condition := fun condition hok => by
      rw [h] at hok; cases hok
    rw [parse_eq_error hfails] at h
    exact ⟨not_exists.2 hfails, (Except.error.inj h).symm⟩
  · rintro ⟨hfails, rfl⟩
    exact parse_eq_error (not_exists.1 hfails)

end Reading

/-- A segment is read if it has a candidate with something behind it, as the condition at its first candidate, and is
refused as a whole if not. This is what the captures of the pattern are read as, of which the second is always an
operator. -/
theorem parse_at_first_candidate (segment : String) :
    ((∃ condition, Condition.parse segment = .ok condition) ↔
      ∃ i op, Candidate segment.toList i op ∧ i + 1 < segment.toList.length) ∧
    (∀ condition, Condition.parse segment = .ok condition ↔ ∃ i op, FirstCandidate segment.toList i op ∧
      i + 1 < segment.toList.length ∧ condition = atCandidate segment.toList i op) ∧
    (∀ m, Condition.parse segment = .error m ↔
      (¬ ∃ i op, Candidate segment.toList i op ∧ i + 1 < segment.toList.length) ∧ m = ⟨.invalidCondition, segment⟩) ∧
    Condition.parse segment = readCaptures segment (capture? pattern segment.toList) ∧
    ∀ captures, capture? pattern segment.toList = some captures →
      ∃ field op value, captures = [field, [Op.symbol op], value] ∧ Op.parse (String.ofList [op.symbol]) = .ok op := by
  refine ⟨parse_succeeds_iff, fun _ => parse_eq_ok_iff_candidate, fun _ => parse_eq_error_iff,
    parse_eq_readCaptures segment, fun captures h => ?_⟩
  rw [capture?_pattern] at h
  obtain ⟨p, -, rfl⟩ := Option.map_eq_some_iff.1 h
  exact ⟨p.field, p.op, p.value, rfl, Op.parse_symbol p.op⟩

-- an operator without a word before it is no candidate, and one behind the first is part of the value
example : Condition.parse "= x.a\n== 'b' " = .ok ⟨"a", .eq, .text "= 'b'"⟩ := by rfl

-- blanks alone are a value
example : Condition.parse ".a= " = .ok ⟨"a", .eq, .text ""⟩ := by rfl

end WhereFilter.Condition
