/-
Queries as conjunctions. A query holds of a thing exactly if each of its conditions does, so neither their order nor
how often one of them stands in the query makes a difference (`holdsOf_eq_of_sameConditions`), and what two queries
select together is what they select one after the other, in either order (`conjunction_laws`).
-/
import WhereFilter.Proofs.Query.Selection

namespace WhereFilter.Query

variable {α : Type} [Fields α]

/-! ## Both queries -/

theorem holdsOf_and (q r : Query) (x : α) : (q.and r).holdsOf x = (q.holdsOf x && r.holdsOf x) := by
  rw [holdsOf, and, List.all_append]
  rfl

/-- What a conjunction selects is selected by one query from what the other selects. -/
theorem filter_and (q r : Query) (xs : List α) : (q.and r).filter xs = r.filter (q.filter xs) := by
  rw [filter, filter, filter, List.filter_filter]
  refine List.filter_congr fun x _ => ?_
  rw [holdsOf_and, Bool.and_comm]

/-! ## The same conditions -/

/-- The queries have the same conditions, in whatever order and however often. -/
def SameConditions (q r : Query) : Prop := ∀ c, c ∈ q.conditions ↔ c ∈ r.conditions

theorem sameConditions_and_comm (q r : Query) : (q.and r).SameConditions (r.and q) := by
  intro c
  unfold and
  rw [List.mem_append, List.mem_append]
  exact or_comm

theorem holdsOf_eq_of_sameConditions {q r : Query} (h : q.SameConditions r) :
    (q.holdsOf : α → Bool) = r.holdsOf := by
  funext x
  rw [Bool.eq_iff_iff, holdsOf_iff, holdsOf_iff]
  constructor
  · intro hq c hc; exact hq c ((h c).2 hc)
  · intro hr c hc; exact hr c ((h c).1 hc)

/-- The queries give the same answers on a list, whatever is asked. -/
structure SameAnswers (q r : Query) (xs : List α) : Prop where
  positions : q.positions xs = r.positions xs
  filter : q.filter xs = r.filter xs
  select : select xs q = select xs r
  retain : q.retain xs.toArray = r.retain xs.toArray
  count : q.count xs = r.count xs
  any : q.any xs = r.any xs
  all : q.all xs = r.all xs
  find? : q.find? xs = r.find? xs
  position? : q.position? xs = r.position? xs

/-- Queries that hold of the same things select the same places, and all answers are read off these. -/
theorem sameAnswers_of_holdsOf_eq {q r : Query} (xs : List α) (h : (q.holdsOf : α → Bool) = r.holdsOf) :
    q.SameAnswers r xs := by
  have hq := answersBy_positions q xs
  have hr : r.AnswersBy xs (q.positions xs) := by
    have hplaces : q.positions xs = r.positions xs := by
      refine (selects_positions r xs).unique ⟨pairwise_positions q xs, fun i => ?_⟩
      rw [mem_positions, h]
      exact exists_congr fun x => and_congr_right fun _ => holdsOf_iff
    rw [hplaces]
    exact answersBy_positions r xs
  constructor
  · exact hr.positions.symm
  · exact hq.filter.trans hr.filter.symm
  · exact hq.select.trans hr.select.symm
  · exact Array.toList_inj.1 (hq.retain.trans hr.retain.symm)
  · exact hq.count.trans hr.count.symm
  · exact Bool.eq_iff_iff.2 (hq.any.trans hr.any.symm)
  · exact Bool.eq_iff_iff.2 (hq.all.trans hr.all.symm)
  · exact hq.find?.trans hr.find?.symm
  · exact hq.position?.trans hr.position?.symm

/-! ## Laws -/

/-- A conjunction selects what one of the queries selects from what the other selects, whichever comes first; and
queries with the same conditions, in whatever order and with whatever repetitions, give the same answers. -/
theorem conjunction_laws (q r : Query) (xs : List α) :
    (q.and r).filter xs = r.filter (q.filter xs) ∧ (q.and r).filter xs = q.filter (r.filter xs) ∧
      (q.SameConditions r → q.SameAnswers r xs) := by
  refine ⟨filter_and q r xs, ?_, fun h => sameAnswers_of_holdsOf_eq xs (holdsOf_eq_of_sameConditions h)⟩
  rw [← filter_and]
  exact (sameAnswers_of_holdsOf_eq xs (holdsOf_eq_of_sameConditions (sameConditions_and_comm q r))).filter

/-- One condition stands twice, one has NaN for its literal, and the records lack a field or have null in it. -/
theorem conjunction_laws_of_repeated :
    let a : Condition := ⟨"a", .gt, .ofInt 1⟩
    let b : Condition := ⟨"b", .eq, .text "x"⟩
    let n : Condition := ⟨"a", .eq, .number .nan⟩
    let xs : List Record := [⟨[("a", .number (.integer 2 (by decide))), ("b", .string " X")]⟩,
      ⟨[("a", .number (.integer 2 (by decide)))]⟩, ⟨[("b", .string "x"), ("a", .null)]⟩]
    SameConditions ⟨[a, b]⟩ ⟨[b, a, b]⟩ ∧ Query.position? ⟨[a, b]⟩ xs = some 0 ∧
      Query.position? ⟨[b, a, b]⟩ xs = some 0 ∧ SameConditions ⟨[b, n, a]⟩ ⟨[a, b, n, n]⟩ ∧
      Query.count ⟨[b, n, a]⟩ xs = 0 ∧ Query.count ⟨[a, b, n, n]⟩ xs = 0 := by
  intro a b n xs
  have hab : SameConditions ⟨[a, b]⟩ ⟨[b, a, b]⟩ := by
    intro c
    simp only [List.mem_cons, List.not_mem_nil, or_false]
    tauto
  have hnan : SameConditions ⟨[b, n, a]⟩ ⟨[a, b, n, n]⟩ := by
    intro c
    simp only [List.mem_cons, List.not_mem_nil, or_false]
    tauto
  have hposition : Query.position? ⟨[a, b]⟩ xs = some 0 := by decide +kernel
  have hcount : Query.count ⟨[b, n, a]⟩ xs = 0 := by decide +kernel
  have hanswers := (conjunction_laws ⟨[a, b]⟩ ⟨[b, a, b]⟩ xs).2.2 hab
  have hnone := (conjunction_laws ⟨[b, n, a]⟩ ⟨[a, b, n, n]⟩ xs).2.2 hnan
  exact ⟨hab, hposition, hanswers.position? ▸ hposition, hnan, hcount, hnone.count ▸ hcount⟩

end WhereFilter.Query
