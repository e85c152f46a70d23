/-
The numbers of a query in JSON. They are written with the shortest digits that denote them, but read by
scaling these digits, which rounds more than once: a query comes back with its numbers as their digits are
scaled (`readJson_numbers`), and these need not be the numbers that were written
(`not_readJson_numbers_same`).
-/
import WhereFilter.Proofs.Json.Rereading
import WhereFilter.Proofs.Query.Json
import Mathlib.Data.List.Forall2

namespace WhereFilter

open Json

/-- A literal and what it comes back as: a text as itself, a number with its sign and with its digits scaled. -/
inductive Literal.Rescaled : Literal → Literal → Prop
  | text (s : String) : Rescaled (.text s) (.text s)
  | number (negative : Bool) {m m' : Magnitude} {d : Decimal} (h : Rescales m m' d) :
    Rescaled (.number (.signed negative m)) (.number (.signed negative m'))

theorem Literal.Rescaled.unique {l l₁ l₂ : Literal} (h₁ : l.Rescaled l₁) (h₂ : l.Rescaled l₂) : l₁ = l₂ := by
  cases h₁ with
  | text s => cases h₂; rfl
  | number negative h₁ =>
    cases h₂ with
    | number negative h₂ => rw [h₁.unique h₂]

theorem Literal.rescaled_reread (d : Double) (h : d.isFinite = true) :
    Rescaled (.number d) (.number (Number.float d h).reread.toDouble) := by
  cases d with
  | nan => cases h
  | signed negative m =>
    obtain ⟨d, m', h', hrescales, hreread⟩ := reread_signed negative h
    rw [hreread]
    exact .number negative hrescales

/-- A number comes back as itself where its digits lose nothing. -/
theorem Literal.rescaled_self (negative : Bool) {m : Magnitude} {d : Decimal} (h : m.isFinite = true)
    (hwritten : Decimal.read? ((Double.signed false m).textIn .json) = some d) (hexact : ReadsExactly d) :
    Rescaled (.number (.signed negative m)) (.number (.signed negative m)) := by
  obtain ⟨d', m', -, hrescales, -⟩ := reread_signed negative (m := m) h
  obtain rfl : d' = d := Option.some.inj (hrescales.written.symm.trans hwritten)
  obtain rfl : m' = m := hrescales.exact hexact
  exact .number negative hrescales

theorem Condition.Agree.unique : Relator.RightUnique (Condition.Agree Literal.Rescaled) := by
  rintro c ⟨field₁, op₁, l₁⟩ ⟨field₂, op₂, l₂⟩ ⟨rfl, rfl, h₁⟩ ⟨rfl, rfl, h₂⟩
  exact congrArg (Condition.mk c.field c.op) (Literal.Rescaled.unique h₁ h₂)

namespace Query

/-- The compact text of a query in which all numbers are finite is read as a query with the conditions in
their order, each with its field, its operator and its literal, where the digits of a number are scaled. It
is read as the query itself exactly if scaling gives back every number. -/
theorem readJson_numbers (q : Query) (hq : ∀ c ∈ q.conditions, c.literal.IsFinite) :
    (∃ r : Query, readJson q.toJson.compactText = .ok r ∧
      List.Forall₂ (Condition.Agree Literal.Rescaled) q.conditions r.conditions) ∧
    (readJson q.toJson.compactText = .ok q ↔ ∀ c ∈ q.conditions, c.literal.Rescaled c.literal) := by
  have hread : readJson q.toJson.compactText = .ok q.reread := by
    rw [compactText_eq]
    exact readJson_textIn .compact allGap_nil hq
  have hagree := forall₂_reread Literal.Rescaled.text Literal.rescaled_reread hq
  refine ⟨⟨q.reread, hread, hagree⟩, fun h => ?_, fun h => ?_⟩
  · rw [hread] at h
    rw [Except.ok.inj h, List.forall₂_same] at hagree
    exact fun c hc => (hagree c hc).literal
  · have hself : List.Forall₂ (Condition.Agree Literal.Rescaled) q.conditions q.conditions :=
      List.forall₂_same.2 fun c hc => ⟨rfl, rfl, h c hc⟩
    have hsame : q.reread.conditions = q.conditions := Condition.Agree.unique.forall₂ hagree hself
    rw [hread]
    exact congrArg (fun conditions => Except.ok (Query.mk conditions)) hsame

/-- A number of few digits and a text. -/
theorem readJson_numbers_of_few_digits :
    let q : Query := ⟨[⟨"x", .gt, .number (.signed true (.ofNat 12))⟩, ⟨"y", .eq, .text "1e400"⟩]⟩
    readJson q.toJson.compactText = .ok q := by
  intro q
  have hwritten : (Magnitude.ofNat 12).isFinite = true ∧
      Decimal.read? ((Double.signed false (.ofNat 12)).textIn .json) = some ⟨120, -1⟩ := by
    decide +kernel
  have hnumber := Literal.rescaled_self true hwritten.1 hwritten.2 (.inr ⟨by decide, by decide⟩)
  refine (readJson_numbers q ?_).2.2 ?_
  · exact List.forall_mem_cons.2 ⟨hwritten.1, List.forall_mem_singleton.2 trivial⟩
  · exact List.forall_mem_cons.2 ⟨hnumber, List.forall_mem_singleton.2 (.text "1e400")⟩

/-- The sixteen digits of a whole number make a significand of seventeen, with the one behind the point, which
is rounded before it is divided. -/
theorem not_readJson_numbers_same : ¬ ∀ q : Query, (∀ c ∈ q.conditions, c.literal.IsFinite) →
    readJson q.toJson.compactText = .ok q := by
  intro hall
  let q (n : Nat) : Query := ⟨[⟨"x", .eq, .number (.signed false (.ofNat n))⟩]⟩
  obtain ⟨hfinite, hread, hother⟩ : (∀ c ∈ (q 9007199254740991).conditions, c.literal.IsFinite) ∧
      (readJson (q 9007199254740991).toJson.compactText).toOption = some (q 9007199254740990) ∧
      q 9007199254740990 ≠ q 9007199254740991 := by
    decide +kernel
  rw [hall _ hfinite] at hread
  exact hother (Option.some.inj hread).symm

end Query

end WhereFilter
