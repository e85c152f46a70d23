/-
The pattern of a condition: a word, blanks, an operator, blanks and at least one more character, with the word, the
operator and the last part captured. A search for the pattern captures the parts that the reader of conditions finds
(`capture?_pattern`), so a condition is what its captures are read as (`parse_eq_readCaptures`). The word and the
blanks behind it are never given back; the blanks behind the operator give back the last of them if nothing else
is left (`captureHere?_valuePattern`).
-/
import WhereFilter.Proofs.Condition.Reading
import WhereFilter.Proofs.Text.Pattern

namespace WhereFilter.Condition

open WhereFilter.Text

/-! ## The pattern -/

/-- Blanks and what is left behind an operator. -/
def valuePattern : List Part := [⟨isBlank, .any, false⟩, ⟨fun _ => true, .some, true⟩]

/-- An operator and what follows it. -/
def opPattern : List Part := ⟨fun c => c == '=' || c == '<' || c == '>', .one, true⟩ :: valuePattern

/-- A word, an operator and a value. -/
def pattern : List Part := ⟨isWord, .some, true⟩ :: ⟨isBlank, .any, false⟩ :: opPattern

/-- The condition that the captures in a segment make. -/
def readCaptures (segment : String) : Option (List (List Char)) → Except Malformed Condition
  | some [field, op, value] => do
    let op ← Op.parse (String.ofList op)
    return ⟨String.ofList field, op, .parse (String.ofList (trim value))⟩
  | _ => .error ⟨.invalidCondition, segment⟩

/-- The parts of a condition as they are captured. -/
def Parts.captures (p : Parts) : List (List Char) := [p.field, [p.op.symbol], p.value]

/-! ## Values -/

/-- A blank in front is the value only where nothing else is left. -/
theorem valuePart?_blank {c : Char} (hc : isBlank c = true) (rest : List Char) :
    valuePart? (c :: rest) = (valuePart? rest).or (some (c :: rest)) := by
  cases rest with
  | nil => simp [valuePart?, hc]
  | cons b rest =>
    rw [valuePart?, valuePart?, List.dropWhile_cons_of_pos hc]
    cases (b :: rest).dropWhile isBlank with
    | nil =>
      rw [List.getLast?_cons_cons, List.getLast?_eq_some_getLast (List.cons_ne_nil b rest)]; rfl
    | cons _ _ => rfl

theorem captureHere?_rest (text : List Char) :
    captureHere? [⟨fun _ => true, .some, true⟩] text = if text = [] then none else some [text] := by
  cases text with
  | nil => rfl
  | cons c rest =>
    obtain ⟨shorter, hcuts, -⟩ := runCuts_eq_cons (fun _ => true) rest
    have hrun : rest.takeWhile (fun _ => true) = rest := List.takeWhile_eq_self_iff.2 fun _ _ => rfl
    rw [captureHere?, Repeat.cuts, if_pos rfl, hcuts, List.map_cons, List.findSome?_cons, hrun]
    rfl

/-- The blanks behind an operator are given back one by one until there is a value. -/
theorem captureHere?_valuePattern (text : List Char) :
    captureHere? valuePattern text = (valuePart? text).map ([·]) := by
  have hsearch : ∀ text, captureHere? valuePattern text =
      (runCuts isBlank text).findSome? fun cut => if cut.2 = [] then none else some [cut.2] := by
    intro text
    unfold valuePattern
    rw [captureHere?, Repeat.cuts]
    congr 1
    funext cut
    rw [captureHere?_rest]
    split <;> rfl
  induction text with
  | nil => rfl
  | cons c rest ih =>
    rw [hsearch, runCuts]
    cases hc : isBlank c with
    | false => simp [valuePart?, hc]
    | true =>
      rw [hsearch] at ih
      rw [if_pos rfl, List.findSome?_append, List.findSome?_map, valuePart?_blank hc, Option.map_or, ← ih]
      rfl

/-! ## Operators -/

theorem isSymbol_eq {c : Char} : (c == '=' || c == '<' || c == '>') = (Op.ofSymbol? c).isSome := by
  unfold Op.ofSymbol?
  split <;> simp_all

/-- At an operator the pattern captures it and the value behind it. -/
theorem captureHere?_opPattern (c : Char) (rest : List Char) :
    captureHere? opPattern (c :: rest) =
      (Op.ofSymbol? c).bind fun _ => (valuePart? rest).map fun value => [[c], value] := by
  unfold opPattern
  rw [captureHere?_one, captureHere?_valuePattern, isSymbol_eq]
  cases Op.ofSymbol? c with
  | none => rfl
  | some op => rw [if_pos Option.isSome_some, Option.map_map]; rfl

theorem refuses_opPattern {kind : Char → Bool} (h : ∀ op : Op, kind op.symbol = false) : Refuses opPattern kind := by
  intro c rest hc
  rw [captureHere?_opPattern, Option.bind_eq_none_iff]
  intro op hop
  rw [Op.ofSymbol?_eq_some_iff.1 hop, h] at hc
  cases hc

/-! ## Parts -/

/-- The blanks between the word and the operator are taken whole. -/
theorem captureHere?_gap (text : List Char) :
    captureHere? (⟨isBlank, .any, false⟩ :: opPattern) text = captureHere? opPattern (text.dropWhile isBlank) := by
  rw [captureHere?_any (refuses_opPattern Op.isBlank_symbol)]
  exact Option.map_id'

/-- So is the word itself: what follows it starts with no word character. -/
theorem refuses_gap : Refuses (⟨isBlank, .any, false⟩ :: opPattern) isWord := by
  intro c rest hc
  rw [captureHere?_gap, List.dropWhile_cons_of_neg (by simp [isBlank_of_isWord hc])]
  exact refuses_opPattern Op.isWord_symbol c rest hc

theorem captureHere?_pattern (text : List Char) : captureHere? pattern text = (partsHere? text).map Parts.captures := by
  unfold pattern
  rw [captureHere?_some refuses_gap, captureHere?_gap, partsHere?]
  cases text.takeWhile isWord with
  | nil => rfl
  | cons first word =>
    rw [if_neg (List.cons_ne_nil _ _)]
    cases (text.dropWhile isWord).dropWhile isBlank with
    | nil => rfl
    | cons c rest =>
      simp only [captureHere?_opPattern]
      cases hop : Op.ofSymbol? c with
      | none => rfl
      | some op =>
        obtain rfl := Op.ofSymbol?_eq_some_iff.1 hop
        cases valuePart? rest <;> rfl

/-- A search for the pattern captures the parts that the reader finds. -/
theorem capture?_pattern (text : List Char) : capture? pattern text = (parts? text).map Parts.captures := by
  induction text with
  | nil => rfl
  | cons c rest ih =>
    rw [capture?, parts?, captureHere?_pattern]
    cases partsHere? (c :: rest) with
    | none => exact ih
    | some p => rfl

/-! ## Conditions -/

theorem readCaptures_captures (segment : String) (p : Parts) :
    readCaptures segment (some p.captures) =
      .ok ⟨String.ofList p.field, p.op, .parse (String.ofList (trim p.value))⟩ := by
  unfold readCaptures Parts.captures
  simp only [Op.parse_symbol]
  rfl

/-- A condition is what the captures of the pattern are read as. -/
theorem parse_eq_readCaptures (segment : String) :
    Condition.parse segment = readCaptures segment (capture? pattern segment.toList) := by
  rw [capture?_pattern, Condition.parse]
  cases parts? segment.toList with
  | none => rfl
  | some p => exact (readCaptures_captures segment p).symm

end WhereFilter.Condition
