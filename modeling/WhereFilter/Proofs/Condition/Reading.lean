/-
What reading a condition finds: a run of word characters that no word character stands before, an
operator behind it with at most blanks between, and behind the operator a value. The reverse holds
for a run at the front of the text.
-/
import WhereFilter.Condition.Reader
import WhereFilter.Proofs.Text.Trim
import WhereFilter.Proofs.Text.Word

namespace WhereFilter

open WhereFilter.Text

theorem Op.isWord_symbol (op : Op) : isWord op.symbol = false := by cases op <;> decide

theorem Op.isBlank_symbol (op : Op) : isBlank op.symbol = false := by cases op <;> decide

theorem Op.parse_symbol (op : Op) : Op.parse (String.ofList [op.symbol]) = .ok op := by cases op <;> rfl

/-! ## Quotes -/

theorem Literal.unquote?_eq_some_iff {text inner : List Char} :
    Literal.unquote? text = some inner ↔ text = '\'' :: (inner ++ ['\'']) := by
  constructor
  · intro h
    unfold Literal.unquote? at h
    split at h
    · rename_i rest
      split at h
      · rename_i hl
        cases h
        rw [List.dropLast_append_getLast? _ hl]
      · cases h
    · cases h
  · rintro rfl
    simp [Literal.unquote?]

theorem Literal.unquote?_eq_none {text : List Char} (h : '\'' ∉ text) : Literal.unquote? text = none := by
  refine Option.eq_none_iff_forall_ne_some.2 fun inner hinner => h ?_
  rw [Literal.unquote?_eq_some_iff.1 hinner]
  exact List.mem_cons_self ..

namespace Condition

/-! ## Values -/

/-- The value starts behind the blanks that follow the operator, or is a last blank. -/
theorem valuePart?_eq_some {text value : List Char} (h : valuePart? text = some value) :
    ∃ gap, text = gap ++ value ∧ AllBlank gap ∧ value ≠ [] := by
  unfold valuePart? at h
  split at h
  · rename_i hd
    obtain ⟨b, hb, rfl⟩ := Option.map_eq_some_iff.1 h
    rw [List.dropWhile_eq_nil_iff] at hd
    refine ⟨text.dropLast, (List.dropLast_append_getLast? _ hb).symm, ?_, by simp⟩
    exact fun c hc => hd c (List.dropLast_subset _ hc)
  · rename_i hd
    cases h
    exact ⟨text.takeWhile isBlank, List.takeWhile_append_dropWhile.symm, mem_takeWhile, hd⟩

theorem valuePart?_append {gap value : List Char} (hg : AllBlank gap) (h0 : value ≠ [])
    (hv : ∀ c ∈ value.head?, isBlank c = false) : valuePart? (gap ++ value) = some value := by
  obtain ⟨c, value, rfl⟩ := List.exists_cons_of_ne_nil h0
  rw [valuePart?, dropWhile_run_append hg hv]

/-! ## Parts at the front -/

/-- The word of a field ends where an operator follows, with blanks before it or without. -/
theorem isWord_head_gap {gap : List Char} (hg : AllBlank gap) (op : Op) (tail : List Char) :
    ∀ c ∈ (gap ++ op.symbol :: tail).head?, isWord c = false := by
  intro c hc
  cases gap with
  | nil => simp only [List.nil_append, List.head?_cons, Option.mem_some_iff] at hc; exact hc ▸ op.isWord_symbol
  | cons b gap =>
    simp only [List.cons_append, List.head?_cons, Option.mem_some_iff] at hc
    exact hc ▸ isWord_of_isBlank (hg b (List.mem_cons_self ..))

theorem partsHere?_eq_some_iff {text : List Char} {p : Parts} :
    partsHere? text = some p ↔
      ∃ gap tail, text = p.field ++ (gap ++ p.op.symbol :: tail) ∧ p.field ≠ [] ∧
        (∀ c ∈ p.field, isWord c = true) ∧ AllBlank gap ∧ valuePart? tail = some p.value := by
  constructor
  · intro h
    unfold partsHere? at h
    split at h
    · rename_i first word c rest hw hb
      obtain ⟨op, hop, h⟩ := Option.bind_eq_some_iff.1 h
      obtain ⟨value, hv, h⟩ := Option.bind_eq_some_iff.1 h
      cases h
      obtain rfl := Op.ofSymbol?_eq_some_iff.1 hop
      refine ⟨(text.dropWhile isWord).takeWhile isBlank, rest, ?_, List.cons_ne_nil _ _, ?_, mem_takeWhile, hv⟩
      · rw [← hw, ← hb, List.takeWhile_append_dropWhile, List.takeWhile_append_dropWhile]
      · rw [← hw]
        exact mem_takeWhile
    · cases h
  · rintro ⟨gap, tail, rfl, h0, hw, hg, hv⟩
    obtain ⟨field, op, value⟩ := p
    simp only at h0 hw hv ⊢
    -- behind the field no word character stands, so the whole field is the run
    have hstop : ∀ c ∈ (gap ++ op.symbol :: tail).head?, isWord c = false := isWord_head_gap hg op tail
    have hblank : (gap ++ op.symbol :: tail).dropWhile isBlank = op.symbol :: tail :=
      dropWhile_run_append hg (by simpa using op.isBlank_symbol)
    rw [partsHere?, takeWhile_run_append hw hstop, dropWhile_run_append hw hstop, hblank]
    obtain ⟨first, word, rfl⟩ := List.exists_cons_of_ne_nil h0
    simp [hv]

/-- A word character in front makes the run longer and changes nothing else. -/
theorem partsHere?_cons_isSome {c : Char} {text : List Char} {p : Parts} (hc : isWord c = true)
    (h : partsHere? text = some p) : partsHere? (c :: text) = some { p with field := c :: p.field } := by
  obtain ⟨gap, tail, rfl, h0, hw, hg, hv⟩ := partsHere?_eq_some_iff.1 h
  refine partsHere?_eq_some_iff.2 ⟨gap, tail, rfl, List.cons_ne_nil _ _, fun x hx => ?_, hg, hv⟩
  rcases List.mem_cons.1 hx with rfl | hx
  exacts [hc, hw x hx]

/-! ## The first parts -/

/-- No parts are found where there are none behind any front of the text. -/
theorem parts?_eq_none_iff {text : List Char} :
    parts? text = none ↔ ∀ front back, text = front ++ back → partsHere? back = none := by
  induction text with
  | nil =>
    refine ⟨fun _ front back h => ?_, fun _ => rfl⟩
    obtain ⟨-, rfl⟩ := List.append_eq_nil_iff.1 h.symm
    rfl
  | cons c rest ih =>
    rw [parts?]
    constructor
    · intro h front back hback
      split at h
      · cases h
      · rename_i hhere
        rcases List.append_eq_cons_iff.1 hback.symm with ⟨-, rfl⟩ | ⟨front, -, hrest⟩
        exacts [hhere, ih.1 h front back hrest]
    · intro h
      rw [h [] (c :: rest) rfl]
      exact ih.2 fun front back hrest => h (c :: front) back (congrArg (c :: ·) hrest)

/-- The parts that are found stand behind the shortest front of the text that has parts behind it. -/
theorem parts?_eq_some_first {text : List Char} {p : Parts} (h : parts? text = some p) :
    ∃ before here, text = before ++ here ∧ partsHere? here = some p ∧
      ∀ front back, text = front ++ back → (partsHere? back).isSome → before.length ≤ front.length := by
  induction text with
  | nil => cases h
  | cons c rest ih =>
    rw [parts?] at h
    split at h
    · rename_i q hq
      cases h
      exact ⟨[], c :: rest, rfl, hq, fun _ _ _ _ => Nat.zero_le _⟩
    · rename_i hnone
      obtain ⟨before, here, rfl, hp, hfirst⟩ := ih h
      refine ⟨c :: before, here, rfl, hp, fun front back hback hsome => ?_⟩
      rcases List.append_eq_cons_iff.1 hback.symm with ⟨-, rfl⟩ | ⟨front, rfl, hrest⟩
      · rw [hnone] at hsome; cases hsome
      · exact Nat.succ_le_succ (hfirst front back hrest hsome)

/-- No word character stands before parts that start as early as any: it would make their word longer. -/
theorem not_isWord_of_first {before here : List Char} {p : Parts} (hp : partsHere? here = some p)
    (hfirst : ∀ front back, before ++ here = front ++ back → (partsHere? back).isSome → before.length ≤ front.length) :
    ∀ c ∈ before.getLast?, isWord c = false := by
  intro c hc
  by_contra hword
  rw [Bool.not_eq_false] at hword
  obtain ⟨front, rfl⟩ : ∃ front, before = front ++ [c] := ⟨_, (List.dropLast_append_getLast? c hc).symm⟩
  have hle := hfirst front (c :: here) (List.append_cons front c here).symm
    (by rw [partsHere?_cons_isSome hword hp]; rfl)
  rw [List.length_append, List.length_singleton] at hle
  omega

/-- The parts that are found start where no word character stands before. -/
theorem parts?_eq_some {text : List Char} {p : Parts} (h : parts? text = some p) :
    ∃ before here, text = before ++ here ∧ partsHere? here = some p ∧ ∀ c ∈ before.getLast?, isWord c = false := by
  obtain ⟨before, here, rfl, hp, hfirst⟩ := parts?_eq_some_first h
  exact ⟨before, here, rfl, hp, not_isWord_of_first hp hfirst⟩

theorem parts?_of_partsHere? {text : List Char} {p : Parts} (h : partsHere? text = some p) :
    parts? text = some p := by
  cases text with
  | nil => cases h
  | cons c rest => rw [parts?, h]

/-! ## Conditions -/

theorem parse_eq_error {segment : String} (h : ∀ condition, Condition.parse segment ≠ .ok condition) :
    Condition.parse segment = .error ⟨.invalidCondition, segment⟩ := by
  unfold Condition.parse at *
  split at h
  · exact absurd rfl (h _)
  · rfl

theorem parse_eq_ok_iff {segment : String} {condition : Condition} :
    Condition.parse segment = .ok condition ↔ ∃ p, parts? segment.toList = some p ∧
      condition = ⟨String.ofList p.field, p.op, .parse (String.ofList (trim p.value))⟩ := by
  unfold Condition.parse
  split
  · rename_i p hp
    constructor
    · intro h; cases h; exact ⟨p, hp, rfl⟩
    · rintro ⟨q, hq, rfl⟩; rw [hp] at hq; cases hq; rfl
  · rename_i hn
    constructor
    · intro h; cases h
    · rintro ⟨q, hq, -⟩; rw [hn] at hq; cases hq

end Condition

end WhereFilter
