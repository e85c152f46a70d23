/-
One text read into different containers. Where one reader of items succeeds and another follows it, the
arrays of these items are read alike (`follows_listOf`). Readers of objects that differ only in how a
member is put into the table follow one another (`follows_tableOf`). A value that is an object is read
exactly where an object is asked for (`value_eq_object_iff`), and one that is an array where an array is
(`value_eq_array_iff`).
-/
import WhereFilter.Proofs.Json.RoundTrip

namespace WhereFilter.Json

/-- What one reader reads, as long as `P` holds of it, the other reads from the same text as something that `R`
relates to it, and both leave the same text. -/
def Follows {α β : Type} (P : α → Prop) (R : α → β → Prop) (read : Reader α) (other : Reader β) : Prop :=
  ∀ text x rest, read text = .ok (x, rest) → P x → ∃ y, other text = .ok (y, rest) ∧ R x y

/-! ## Arrays -/

section Arrays

variable {α β : Type} {P : α → Prop} {R : α → β → Prop}

/-- Items that have been read stay. -/
theorem subset_of_itemsFrom {read : Reader α} : ∀ {width : Nat} {text rest : List Char} {before xs : List α},
    itemsFrom read width text before = .ok (xs, rest) → before ⊆ xs
  | 0, _, _, _, _, h => by cases h
  | width + 1, text, rest, before, xs, h => by
    obtain ⟨x, behind, -, ⟨-, rfl⟩ | ⟨next, c, tail, -, -, -, h⟩⟩ := itemsFrom_eq_ok_iff.1 h
    · intro y hy
      exact List.mem_reverse.2 (List.mem_cons_of_mem _ hy)
    · intro y hy
      exact subset_of_itemsFrom h (List.mem_cons_of_mem _ hy)

theorem follows_itemsFrom {read : Reader α} {other : Reader β} (hitem : Follows P R read other) :
    ∀ {width : Nat} {text rest : List Char} {before xs : List α} {before' : List β},
    itemsFrom read width text before = .ok (xs, rest) → (∀ x ∈ xs, P x) → List.Forall₂ R before before' →
    ∃ ys, itemsFrom other width text before' = .ok (ys, rest) ∧ List.Forall₂ R xs ys
  | 0, _, _, _, _, _, h, _, _ => by cases h
  | width + 1, text, rest, before, xs, before', h, hP, hbefore => by
    obtain ⟨x, behind, hx, h⟩ := itemsFrom_eq_ok_iff.1 h
    have hmem : x ∈ xs := by
      rcases h with ⟨-, rfl⟩ | ⟨next, c, tail, -, -, -, h⟩
      · exact List.mem_reverse.2 (List.mem_cons_self ..)
      · exact subset_of_itemsFrom h (List.mem_cons_self ..)
    obtain ⟨y, hy, hxy⟩ := hitem _ _ _ hx (hP x hmem)
    rcases h with ⟨hclosed, rfl⟩ | ⟨next, c, tail, hcomma, hnext, hc, h⟩
    · exact ⟨(y :: before').reverse, itemsFrom_eq_ok_iff.2 ⟨y, behind, hy, .inl ⟨hclosed, rfl⟩⟩,
        List.rel_reverse (.cons hxy hbefore)⟩
    · obtain ⟨ys, hys, hall⟩ := follows_itemsFrom hitem h hP (.cons hxy hbefore)
      exact ⟨ys, itemsFrom_eq_ok_iff.2 ⟨y, behind, hy, .inr ⟨next, c, tail, hcomma, hnext, hc, hys⟩⟩, hall⟩

theorem follows_arrayBody {read : Reader α} {other : Reader β} (hitem : Follows P R read other) (width : Nat) :
    Follows (fun xs => ∀ x ∈ xs, P x) (List.Forall₂ R) (arrayBody read width) (arrayBody other width) := by
  intro text xs rest h hP
  rcases arrayBody_eq_ok_iff.1 h with ⟨hclosed, rfl⟩ | ⟨c, tail, ht, hc, h⟩
  · exact ⟨[], arrayBody_eq_ok_iff.2 (.inl ⟨hclosed, rfl⟩), .nil⟩
  · obtain ⟨ys, hys, hall⟩ := follows_itemsFrom hitem h hP .nil
    exact ⟨ys, arrayBody_eq_ok_iff.2 (.inr ⟨c, tail, ht, hc, hys⟩), hall⟩

theorem follows_listOf {read : Nat → Reader α} {other : Nat → Reader β}
    (hitem : ∀ depth, Follows P R (read depth) (other depth))
    (width nesting : Nat) :
    Follows (fun xs => ∀ x ∈ xs, P x) (List.Forall₂ R) (listOf read width nesting) (listOf other width nesting) := by
  intro text xs rest h hP
  obtain ⟨depth, body, rfl, hopen, h⟩ := listOf_eq_ok_iff.1 h
  obtain ⟨ys, hys, hall⟩ := follows_arrayBody (hitem depth) width _ _ _ h hP
  exact ⟨ys, listOf_eq_ok_iff.2 ⟨depth, body, rfl, hopen, hys⟩, hall⟩

/-- Whole texts that are arrays are read alike. -/
theorem follows_readAll {read : (width nesting : Nat) → Reader α} {other : (width nesting : Nat) → Reader β}
    (hitem : ∀ width depth, Follows P R (read width depth) (other width depth)) {text : String} {xs : List α}
    (h : readAll (fun width => listOf (read width) width) text = .ok xs) (hP : ∀ x ∈ xs, P x) :
    ∃ ys, readAll (fun width => listOf (other width) width) text = .ok ys ∧ List.Forall₂ R xs ys := by
  obtain ⟨rest, h, hend⟩ := readAll_eq_ok_iff.1 h
  obtain ⟨ys, hys, hall⟩ := follows_listOf (hitem _) _ _ _ _ _ h hP
  exact ⟨ys, readAll_eq_ok_iff.2 ⟨rest, hys, hend⟩, hall⟩

end Arrays

/-! ## Objects -/

section Tables

variable {α τ σ : Type} {R : τ → σ → Prop} {put : String → α → τ → τ} {put' : String → α → σ → σ}

/-- Tables that are related before a text is read are related behind it, if this outlasts each single member. -/
theorem follows_tableFrom {value : Reader α} (hput : ∀ name x t s, R t s → R (put name x t) (put' name x s)) :
    ∀ {width : Nat} {text rest : List Char} {before table : τ} {before' : σ},
    tableFrom put value width text before = .ok (table, rest) → R before before' →
    ∃ table', tableFrom put' value width text before' = .ok (table', rest) ∧ R table table'
  | 0, _, _, _, _, _, h, _ => by cases h
  | width + 1, text, rest, before, table, before', h, hR => by
    obtain ⟨name, behindName, behindColon, x, behind, hs, hc, hx, h⟩ := tableFrom_eq_ok_iff.1 h
    have hR' := hput name x _ _ hR
    rcases h with ⟨hclosed, rfl⟩ | ⟨next, body, hcomma, hquote, h⟩
    · exact ⟨put' name x before',
        tableFrom_eq_ok_iff.2 ⟨name, behindName, behindColon, x, behind, hs, hc, hx, .inl ⟨hclosed, rfl⟩⟩, hR'⟩
    · obtain ⟨table', htable, hR''⟩ := follows_tableFrom hput h hR'
      exact ⟨table', tableFrom_eq_ok_iff.2 ⟨name, behindName, behindColon, x, behind, hs, hc, hx,
        .inr ⟨next, body, hcomma, hquote, htable⟩⟩, hR''⟩

theorem follows_tableOf {put : String → Json → τ → τ} {put' : String → Json → σ → σ} {empty : τ} {empty' : σ}
    (hempty : R empty empty') (hput : ∀ name x t s, R t s → R (put name x t) (put' name x s)) (width nesting : Nat) :
    Follows (fun _ => True) R (tableOf empty put width nesting) (tableOf empty' put' width nesting) := by
  intro text table rest h _
  obtain ⟨depth, body, rfl, hopen, h⟩ := tableOf_eq_ok_iff.1 h
  rcases tableBody_eq_ok_iff.1 h with ⟨hclosed, rfl⟩ | ⟨members, hquote, h⟩
  · exact ⟨empty', tableOf_eq_ok_iff.2 ⟨depth, body, rfl, hopen, tableBody_eq_ok_iff.2 (.inl ⟨hclosed, rfl⟩)⟩, hempty⟩
  · obtain ⟨table', htable, hR⟩ := follows_tableFrom hput h hempty
    have hbody := tableBody_eq_ok_iff.2 (.inr ⟨members, hquote, htable⟩)
    exact ⟨table', tableOf_eq_ok_iff.2 ⟨depth, body, rfl, hopen, hbody⟩, hR⟩

end Tables

/-- Where any value may stand, an object is read as where an object has to stand. -/
theorem value_eq_object_iff {width nesting : Nat} {text rest : List Char} {members : List (String × Json)} :
    value width nesting text = .ok (.object members, rest) ↔ membersOf width nesting text = .ok (members, rest) := by
  unfold membersOf
  rw [tableOf_eq_ok_iff, value]
  constructor
  · intro h
    split at h
    · rename_i body _
      split at h
      · cases h
      · rename_i depth
        cases ha : arrayBody (value width depth) width body <;> rw [ha] at h <;> cases h
    · rename_i body hopen
      split at h
      · cases h
      · rename_i depth
        cases ho : objectBody (value width depth) width body with
        | error fault => rw [ho] at h; cases h
        | ok parsed => rw [ho] at h; cases h; exact ⟨depth, body, rfl, hopen, ho⟩
    · exact absurd rfl ((isScalar_of_scalar h).2 members)
  · rintro ⟨depth, body, rfl, hopen, h⟩
    have ho : objectBody (value width depth) width body = .ok (members, rest) := h
    simp only [hopen, ho, bind, Except.bind]
    rfl

/-- Where any value may stand, an array is read as where an array of any values has to stand. -/
theorem value_eq_array_iff {width nesting : Nat} {text rest : List Char} {items : List Json} :
    value width nesting text = .ok (.array items, rest) ↔
      listOf (value width) width nesting text = .ok (items, rest) := by
  rw [listOf_eq_ok_iff, value]
  constructor
  · intro h
    split at h
    · rename_i body hopen
      split at h
      · cases h
      · rename_i depth
        cases ha : arrayBody (value width depth) width body with
        | error fault => rw [ha] at h; cases h
        | ok parsed => rw [ha] at h; cases h; exact ⟨depth, body, rfl, hopen, ha⟩
    · rename_i body _
      split at h
      · cases h
      · rename_i depth
        cases ho : objectBody (value width depth) width body <;> rw [ho] at h <;> cases h
    · exact absurd rfl ((isScalar_of_scalar h).1 items)
  · rintro ⟨depth, body, rfl, hopen, h⟩
    simp only [hopen, h, bind, Except.bind]
    rfl

/-- A text is read as a list of values exactly if it is that of an array. -/
theorem read_eq_array_iff {text : String} {items : List Json} :
    read text = .ok (.array items) ↔ readList text = .ok items := by
  rw [read, readList, readAll_eq_ok_iff, readAll_eq_ok_iff]
  simp only [value_eq_array_iff]

end WhereFilter.Json
