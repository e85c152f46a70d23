/-
What a query selects from a list. The positions of the things that have every field the query names,
each with a value that its condition accepts, make one increasing list (`selects_positions`,
`Selects.unique`), and every operation of the query on the list answers by these positions
(`selects_answersBy`).
-/
import WhereFilter.Query.Selection
import Mathlib.Data.List.Sort

namespace WhereFilter

variable {α : Type} [Fields α]

/-! ## Holding -/

/-- A condition asks for the field as well as for a value that it accepts. -/
theorem Condition.holdsOf_iff {c : Condition} {x : α} :
    c.holdsOf x = true ↔ ∃ value, field? x c.field = some value ∧ c.accepts value = true := by
  unfold Condition.holdsOf
  constructor
  · intro h
    split at h
    · rename_i value hvalue; exact ⟨value, hvalue, h⟩
    · cases h
  · rintro ⟨value, hvalue, h⟩
    rw [hvalue]; exact h

namespace Query

variable {q : Query} {xs : List α} {places : List Nat}

theorem holdsOf_iff {x : α} :
    q.holdsOf x = true ↔ ∀ c ∈ q.conditions, ∃ value, field? x c.field = some value ∧ c.accepts value = true := by
  unfold holdsOf
  rw [List.all_eq_true]
  exact forall₂_congr fun c _ => c.holdsOf_iff

/-! ## Positions -/

theorem positionsFrom_succ (q : Query) : ∀ (start : Nat) (xs : List α),
    q.positionsFrom (start + 1) xs = (q.positionsFrom start xs).map (· + 1)
  | _, [] => rfl
  | start, x :: rest => by
    unfold positionsFrom
    split
    · rw [List.map_cons, positionsFrom_succ q (start + 1) rest]
    · exact positionsFrom_succ q (start + 1) rest

/-- A thing in front moves every position on by one, and has the first position itself. -/
theorem positions_cons (q : Query) (x : α) (rest : List α) :
    q.positions (x :: rest) =
      if q.holdsOf x then 0 :: (q.positions rest).map (· + 1) else (q.positions rest).map (· + 1) := by
  unfold positions
  rw [positionsFrom, positionsFrom_succ]

theorem mem_positions {i : Nat} : i ∈ q.positions xs ↔ ∃ x, xs[i]? = some x ∧ q.holdsOf x = true := by
  induction xs generalizing i with
  | nil => simp [positions, positionsFrom]
  | cons x rest ih =>
    have hrest : i ∈ (q.positions rest).map (· + 1) ↔ ∃ j, i = j + 1 ∧ ∃ y, rest[j]? = some y ∧ q.holdsOf y = true := by
      rw [List.mem_map]
      constructor
      · rintro ⟨j, hj, rfl⟩; exact ⟨j, rfl, ih.1 hj⟩
      · rintro ⟨j, rfl, hj⟩; exact ⟨j, ih.2 hj, rfl⟩
    rw [positions_cons]
    cases i with
    | zero => cases hx : q.holdsOf x <;> simp [hx]
    | succ i => cases q.holdsOf x <;> simp [hrest]

theorem pairwise_positions (q : Query) (xs : List α) : (q.positions xs).Pairwise (· < ·) := by
  induction xs with
  | nil => exact .nil
  | cons x rest ih =>
    have hmoved : ((q.positions rest).map (· + 1)).Pairwise (· < ·) := ih.map _ fun _ _ => Nat.succ_lt_succ
    rw [positions_cons]
    split
    · refine hmoved.cons fun i hi => ?_
      obtain ⟨j, -, rfl⟩ := List.mem_map.1 hi
      exact Nat.succ_pos j
    · exact hmoved

/-- The places are, in increasing order, the positions of the things that have every field the query names, each
with a value that its condition accepts. -/
structure Selects (q : Query) (xs : List α) (places : List Nat) : Prop where
  increasing : places.Pairwise (· < ·)
  mem_iff : ∀ i, i ∈ places ↔ ∃ x, xs[i]? = some x ∧
    ∀ c ∈ q.conditions, ∃ value, field? x c.field = some value ∧ c.accepts value = true

theorem selects_positions (q : Query) (xs : List α) : q.Selects xs (q.positions xs) := by
  refine ⟨pairwise_positions q xs, fun i => ?_⟩
  rw [mem_positions]
  exact exists_congr fun x => and_congr_right fun _ => holdsOf_iff

theorem Selects.unique {others : List Nat} (h : q.Selects xs places) (h' : q.Selects xs others) : others = places :=
  h'.increasing.eq_of_mem_iff h.increasing fun i => (h'.mem_iff i).trans (h.mem_iff i).symm

/-! ## Things at positions -/

/-- The things at some places of a list, one for each place. -/
def thingsAt {α : Type} (xs : List α) (places : List Nat) : List α := places.filterMap (xs[·]?)

theorem thingsAt_moved {α : Type} (x : α) (rest : List α) (places : List Nat) :
    thingsAt (x :: rest) (places.map (· + 1)) = thingsAt rest places := by
  simp [thingsAt, List.filterMap_map]

theorem filter_eq_thingsAt (q : Query) (xs : List α) : q.filter xs = thingsAt xs (q.positions xs) := by
  induction xs with
  | nil => rfl
  | cons x rest ih =>
    unfold filter at ih ⊢
    rw [positions_cons, List.filter_cons, ih]
    split
    · show x :: _ = x :: thingsAt (x :: rest) ((q.positions rest).map (· + 1))
      rw [thingsAt_moved]
    · rw [thingsAt_moved]

theorem length_positions (q : Query) (xs : List α) : (q.positions xs).length = xs.countP q.holdsOf := by
  induction xs with
  | nil => rfl
  | cons x rest ih =>
    rw [positions_cons, List.countP_cons, ← ih]
    split <;> simp

theorem head?_positions (q : Query) (xs : List α) : (q.positions xs).head? = xs.findIdx? q.holdsOf := by
  induction xs with
  | nil => rfl
  | cons x rest ih =>
    rw [positions_cons, List.findIdx?_cons, ← ih]
    split
    · rfl
    · rw [List.head?_map]

/-- The first of the selected things is at the first of the selected positions. -/
theorem head?_thingsAt (q : Query) (xs : List α) :
    (thingsAt xs (q.positions xs)).head? = (q.positions xs).head?.bind (xs[·]?) := by
  cases hp : q.positions xs with
  | nil => rfl
  | cons i rest =>
    obtain ⟨x, hx, -⟩ := mem_positions.1 (hp ▸ List.mem_cons_self : i ∈ q.positions xs)
    rw [thingsAt, List.filterMap_cons_some hx]
    exact hx.symm

theorem any_iff : q.any xs = true ↔ q.positions xs ≠ [] := by
  unfold any
  rw [List.any_eq_true]
  constructor
  · rintro ⟨x, hx, h⟩
    obtain ⟨i, hi⟩ := List.mem_iff_getElem?.1 hx
    exact List.ne_nil_of_mem (mem_positions.2 ⟨x, hi, h⟩)
  · intro h
    obtain ⟨i, hi⟩ := List.exists_mem_of_ne_nil _ h
    obtain ⟨x, hx, hholds⟩ := mem_positions.1 hi
    exact ⟨x, List.mem_of_getElem? hx, hholds⟩

theorem all_iff : q.all xs = true ↔ q.positions xs = List.range xs.length := by
  unfold all
  rw [List.all_eq_true]
  constructor
  · intro h
    refine (pairwise_positions q xs).eq_of_mem_iff List.pairwise_lt_range fun i => ?_
    rw [mem_positions, List.mem_range]
    constructor
    · rintro ⟨x, hx, -⟩; exact (List.getElem?_eq_some_iff.1 hx).1
    · intro hi; exact ⟨xs[i], List.getElem?_eq_getElem hi, h _ (List.getElem_mem hi)⟩
  · intro h x hx
    obtain ⟨i, hi⟩ := List.mem_iff_getElem?.1 hx
    have hmem : i ∈ q.positions xs := by
      rw [h, List.mem_range]; exact (List.getElem?_eq_some_iff.1 hi).1
    obtain ⟨y, hy, hholds⟩ := mem_positions.1 hmem
    rw [hi] at hy; cases hy; exact hholds

/-! ## Agreement -/

theorem filter_filter (q : Query) (xs : List α) : q.filter (q.filter xs) = q.filter xs := by
  unfold filter
  rw [List.filter_filter]
  exact List.filter_congr fun x _ => Bool.and_self _

theorem toList_retain (q : Query) (xs : Array α) : (q.retain xs).toList = q.filter xs.toList := Array.toList_filter

theorem retain_retain (q : Query) (xs : Array α) : q.retain (q.retain xs) = q.retain xs := by
  apply Array.toList_inj.1
  rw [toList_retain, toList_retain, filter_filter]

/-- All operations of a query on a list answer by the same places. `positions` points at the selected things, so that
equal ones are told apart; `filter` gives the things themselves, of which a copy is no different. What has been
selected once is selected as a whole when the query is asked again. -/
structure AnswersBy (q : Query) (xs : List α) (places : List Nat) : Prop where
  positions : q.positions xs = places
  filter : q.filter xs = thingsAt xs places
  select : select xs q = thingsAt xs places
  retain : (q.retain xs.toArray).toList = thingsAt xs places
  count : q.count xs = places.length
  any : q.any xs = true ↔ places ≠ []
  all : q.all xs = true ↔ places = List.range xs.length
  find? : q.find? xs = places.head?.bind (xs[·]?)
  position? : q.position? xs = places.head?
  filter_again : q.filter (q.filter xs) = q.filter xs
  retain_again : q.retain (q.retain xs.toArray) = q.retain xs.toArray

theorem answersBy_positions (q : Query) (xs : List α) : q.AnswersBy xs (q.positions xs) where
  positions := rfl
  filter := filter_eq_thingsAt q xs
  select := filter_eq_thingsAt q xs
  retain := (toList_retain q _).trans (filter_eq_thingsAt q xs)
  count := (length_positions q xs).symm
  any := any_iff
  all := all_iff
  find? := by
    rw [← head?_thingsAt, ← filter_eq_thingsAt]
    exact List.head?_filter.symm
  position? := (head?_positions q xs).symm
  filter_again := filter_filter q xs
  retain_again := retain_retain q _

/-- For every query and every list there is just one increasing list of the positions at which the query is satisfied,
and all operations answer by it. -/
theorem selects_answersBy (q : Query) (xs : List α) :
    ∃ places, q.Selects xs places ∧ (∀ others, q.Selects xs others → others = places) ∧ q.AnswersBy xs places := by
  have hselects := selects_positions q xs
  exact ⟨q.positions xs, hselects, fun _ h => hselects.unique h, answersBy_positions q xs⟩

end Query

end WhereFilter
