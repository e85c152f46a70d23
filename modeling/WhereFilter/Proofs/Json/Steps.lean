/-
When the readers of containers succeed, step by step: what one step of a reader needs of the text, and
what the steps behind it then have to give. Each law holds in both directions, so that a run of one
reader can be opened and the run of another be built from its parts.
-/
import WhereFilter.Record.Reader

namespace WhereFilter.Json

variable {α τ : Type} {rest : List Char}

/-! ## Arrays -/

/-- Behind an item the array ends, or a comma and the next item follow. -/
theorem itemsFrom_eq_ok_iff {item : Reader α} {width : Nat} {text : List Char} {before xs : List α} :
    itemsFrom item (width + 1) text before = .ok (xs, rest) ↔ ∃ x behind, item text = .ok (x, behind) ∧
      (skipGap behind = ']' :: rest ∧ xs = (x :: before).reverse ∨
        ∃ next c tail, skipGap behind = ',' :: next ∧ skipGap next = c :: tail ∧ c ≠ ']' ∧
          itemsFrom item width (c :: tail) (x :: before) = .ok (xs, rest)) := by
  constructor
  · intro h
    rw [itemsFrom] at h
    cases hx : item text with
    | error fault => rw [hx] at h; cases h
    | ok parsed =>
      obtain ⟨x, behind⟩ := parsed
      rw [hx] at h
      refine ⟨x, behind, rfl, ?_⟩
      simp only [bind, Except.bind] at h
      split at h
      · cases h
      · rename_i hclosed; cases h; exact .inl ⟨hclosed, rfl⟩
      · rename_i next hcomma
        split at h
        · cases h
        · cases h
        · rename_i hempty hclosed
          cases hnext : skipGap next with
          | nil => exact absurd hnext hempty
          | cons c tail =>
            rw [hnext] at h
            refine .inr ⟨next, c, tail, hcomma, hnext, ?_, h⟩
            rintro rfl
            exact hclosed _ hnext
      · cases h
  · rintro ⟨x, behind, hx, ⟨hclosed, rfl⟩ | ⟨next, c, tail, hcomma, hnext, hc, h⟩⟩
    · rw [itemsFrom, hx]
      simp only [bind, Except.bind, hclosed]
      rfl
    · rw [itemsFrom, hx]
      simp only [bind, Except.bind, hcomma, hnext]
      split
      · rename_i hempty; cases hempty
      · rename_i hclosed; cases hclosed; exact absurd rfl hc
      · exact h

theorem arrayBody_eq_ok_iff {item : Reader α} {width : Nat} {text : List Char} {xs : List α} :
    arrayBody item width text = .ok (xs, rest) ↔ skipGap text = ']' :: rest ∧ xs = [] ∨
      ∃ c tail, skipGap text = c :: tail ∧ c ≠ ']' ∧ itemsFrom item width (c :: tail) [] = .ok (xs, rest) := by
  unfold arrayBody
  constructor
  · intro h
    split at h
    · cases h
    · rename_i hclosed; cases h; exact .inl ⟨hclosed, rfl⟩
    · rename_i hempty hclosed
      cases ht : skipGap text with
      | nil => exact absurd ht hempty
      | cons c tail =>
        rw [ht] at h
        refine .inr ⟨c, tail, rfl, ?_, h⟩
        rintro rfl
        exact hclosed _ ht
  · rintro (⟨hclosed, rfl⟩ | ⟨c, tail, ht, hc, h⟩)
    · rw [hclosed]; rfl
    · rw [ht]
      split
      · rename_i hempty; cases hempty
      · rename_i hclosed; cases hclosed; exact absurd rfl hc
      · exact h

theorem listOf_eq_ok_iff {item : Nat → Reader α} {width nesting : Nat} {text : List Char} {xs : List α} :
    listOf item width nesting text = .ok (xs, rest) ↔ ∃ depth body, nesting = depth + 1 ∧ skipGap text = '[' :: body ∧
      arrayBody (item depth) width body = .ok (xs, rest) := by
  rw [listOf]
  constructor
  · intro h
    split at h
    · cases h
    · rename_i body hopen
      cases nesting with
      | zero => cases h
      | succ depth => exact ⟨depth, body, rfl, hopen, h⟩
    · cases h
  · rintro ⟨depth, body, rfl, hopen, h⟩
    rw [hopen]
    exact h

/-! ## Objects -/

/-- Behind a member the object ends, or a comma and the quote of the next name follow. -/
theorem tableFrom_eq_ok_iff {put : String → α → τ → τ} {value : Reader α} {width : Nat} {text : List Char}
    {before table : τ} :
    tableFrom put value (width + 1) text before = .ok (table, rest) ↔ ∃ name behindName behindColon x behind,
      stringBody text = .ok (name, behindName) ∧ colon behindName = .ok behindColon ∧
        value behindColon = .ok (x, behind) ∧
          (skipGap behind = '\x7d' :: rest ∧ table = put name x before ∨
            ∃ next body, skipGap behind = ',' :: next ∧ skipGap next = '"' :: body ∧
              tableFrom put value width body (put name x before) = .ok (table, rest)) := by
  constructor
  · intro h
    rw [tableFrom] at h
    cases hs : stringBody text with
    | error fault => rw [hs] at h; cases h
    | ok parsed =>
    obtain ⟨name, behindName⟩ := parsed
    rw [hs] at h
    simp only [bind, Except.bind] at h
    cases hc : colon behindName with
    | error fault => rw [hc] at h; cases h
    | ok behindColon =>
    rw [hc] at h
    simp only at h
    cases hx : value behindColon with
    | error fault => rw [hx] at h; cases h
    | ok parsed =>
    obtain ⟨x, behind⟩ := parsed
    rw [hx] at h
    refine ⟨name, behindName, behindColon, x, behind, rfl, hc, hx, ?_⟩
    simp only at h
    split at h
    · cases h
    · rename_i hclosed; cases h; exact .inl ⟨hclosed, rfl⟩
    · rename_i next hcomma
      split at h
      · cases h
      · rename_i body hquote; exact .inr ⟨next, body, hcomma, hquote, h⟩
      · cases h
      · cases h
    · cases h
  · rintro ⟨name, behindName, behindColon, x, behind, hs, hc, hx, ⟨hclosed, rfl⟩ | ⟨next, body, hcomma, hquote, h⟩⟩
    · simp only [tableFrom, bind, Except.bind, hs, hc, hx, hclosed]
      rfl
    · simp only [tableFrom, bind, Except.bind, hs, hc, hx, hcomma, hquote]
      exact h

theorem tableBody_eq_ok_iff {empty : τ} {put : String → α → τ → τ} {value : Reader α} {width : Nat}
    {text : List Char} {table : τ} :
    tableBody empty put value width text = .ok (table, rest) ↔ skipGap text = '\x7d' :: rest ∧ table = empty ∨
      ∃ body, skipGap text = '"' :: body ∧ tableFrom put value width body empty = .ok (table, rest) := by
  unfold tableBody
  constructor
  · intro h
    split at h
    · cases h
    · rename_i hclosed; cases h; exact .inl ⟨hclosed, rfl⟩
    · rename_i body hquote; exact .inr ⟨body, hquote, h⟩
    · cases h
  · rintro (⟨hclosed, rfl⟩ | ⟨body, hquote, h⟩)
    · rw [hclosed]; rfl
    · rw [hquote]; exact h

theorem tableOf_eq_ok_iff {empty : τ} {put : String → Json → τ → τ} {width nesting : Nat} {text : List Char}
    {table : τ} :
    tableOf empty put width nesting text = .ok (table, rest) ↔ ∃ depth body, nesting = depth + 1 ∧
      skipGap text = '\x7b' :: body ∧ tableBody empty put (value width depth) width body = .ok (table, rest) := by
  rw [tableOf]
  constructor
  · intro h
    split at h
    · cases h
    · rename_i body hopen
      cases nesting with
      | zero => cases h
      | succ depth => exact ⟨depth, body, rfl, hopen, h⟩
    · cases h
  · rintro ⟨depth, body, rfl, hopen, h⟩
    rw [hopen]
    exact h

/-! ## Whole texts -/

theorem readAll_eq_ok_iff {reader : (width nesting : Nat) → Reader α} {text : String} {x : α} :
    readAll reader text = .ok x ↔
      ∃ rest, reader (text.toList.length + 1) maxNesting text.toList = .ok (x, rest) ∧ skipGap rest = [] := by
  unfold readAll readFront readEnd
  cases hr : reader (text.toList.length + 1) maxNesting text.toList with
  | error fault =>
    constructor
    · intro h; cases h
    · rintro ⟨rest, h, -⟩; cases h
  | ok parsed =>
    obtain ⟨y, behind⟩ := parsed
    simp only [bind, Except.bind]
    constructor
    · intro h
      split at h
      · cases h
      · rename_i hend
        cases h
        refine ⟨behind, rfl, ?_⟩
        split at hend
        · assumption
        · cases hend
    · rintro ⟨rest, h, hend⟩
      cases h
      rw [hend]
      rfl

/-- Records are the objects of an array. -/
theorem readList_eq_ok_iff {text : String} {records : List Record} :
    Record.readList text = .ok records ↔ ∃ objects,
      readAll (fun width => listOf (membersOf width) width) text = .ok objects ∧ records = objects.map .mk := by
  unfold Record.readList
  cases readAll (fun width => listOf (membersOf width) width) text with
  | error e =>
    constructor
    · intro h; cases h
    · rintro ⟨objects, h, -⟩; cases h
  | ok objects =>
    constructor
    · intro h; cases h; exact ⟨objects, rfl, rfl⟩
    · rintro ⟨others, h, rfl⟩; cases h; rfl

end WhereFilter.Json
