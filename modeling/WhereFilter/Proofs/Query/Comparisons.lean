/-
Comparisons of one field with one literal. The three operators never select the same thing (`trichotomy`): of the
things that have a number in the field each is selected by exactly one, if the literal has a number too, and besides
these only equal texts are selected. As the literal grows less is less and greater is not (`comparisons`).
-/
import WhereFilter.Proofs.Condition.Accepting
import WhereFilter.Proofs.Query.Selection

namespace WhereFilter

/-! ## Values -/

/-- At most as great. What is no number is neither less than nor equal to anything. -/
def Double.AtMost (d e : Double) : Prop := Op.holds .lt (d.compare? e) = true ∨ Op.holds .eq (d.compare? e) = true

theorem Double.atMost_iff {d e : Double} : d.AtMost e ↔ ∃ i j, d.key? = some i ∧ e.key? = some j ∧ i ≤ j := by
  unfold AtMost
  rw [holds_compare?_iff, holds_compare?_iff]
  constructor
  · rintro (⟨i, j, hi, hj, h⟩ | ⟨i, j, hi, hj, h⟩)
    · exact ⟨i, j, hi, hj, Int.le_of_lt h⟩
    · exact ⟨i, j, hi, hj, Int.le_of_eq h⟩
  · rintro ⟨i, j, hi, hj, h⟩
    rcases Int.lt_or_eq_of_le h with h | h
    · exact .inl ⟨i, j, hi, hj, h⟩
    · exact .inr ⟨i, j, hi, hj, h⟩

/-- The key of the number of a literal. A literal without a number has none, and neither has NaN. -/
def Literal.key? (c : Literal) : Option Int := c.toDouble?.bind Double.key?

theorem Literal.key?_of_toDouble? {c : Literal} {d : Double} (h : c.toDouble? = some d) : c.key? = d.key? := by
  rw [key?, h]
  rfl

/-- A JSON value that a condition takes for a text. -/
inductive Json.Textual : Json → Prop
  | bool (b : Bool) : Textual (.bool b)
  | string (s : String) : Textual (.string s)
  | array (items : List Json) : Textual (.array items)
  | object (members : List (String × Json)) : Textual (.object members)

theorem FieldValue.ComparedAs.textual {json : Json} {s : String} (h : (ofJson json).ComparedAs s) : json.Textual := by
  cases json with
  | null => cases h
  | bool b => exact .bool b
  | number n => cases h
  | string s => exact .string s
  | array items => exact .array items
  | object members => exact .object members

namespace Query

variable {α : Type} [Fields α]

/-! ## Places -/

/-- The places at which the comparison of a field with a literal holds. -/
def places (field : String) (op : Op) (c : Literal) (xs : List α) : List Nat := positions ⟨[⟨field, op, c⟩]⟩ xs

/-- The thing at the place has the value in the field. -/
def ValueAt (xs : List α) (i : Nat) (field : String) (v : FieldValue) : Prop :=
  ∃ x, xs[i]? = some x ∧ field? x field = some v

variable {xs : List α} {field : String} {i : Nat} {op op' : Op} {c : Literal} {n : Double} {v v' : FieldValue}

theorem ValueAt.unique (h : ValueAt xs i field v) (h' : ValueAt xs i field v') : v = v' := by
  obtain ⟨x, hx, hv⟩ := h
  obtain ⟨y, hy, hv'⟩ := h'
  rw [hx] at hy
  cases hy
  rw [hv] at hv'
  exact Option.some.inj hv'

theorem mem_places :
    i ∈ places field op c xs ↔ ∃ v, ValueAt xs i field v ∧ Condition.accepts ⟨field, op, c⟩ v = true := by
  rw [places, mem_positions]
  simp only [holdsOf_iff, List.forall_mem_singleton]
  constructor
  · rintro ⟨x, hx, v, hv, h⟩; exact ⟨v, ⟨x, hx, hv⟩, h⟩
  · rintro ⟨v, ⟨x, hx, hv⟩, h⟩; exact ⟨x, hx, v, hv, h⟩

/-- A number is selected by the operator that relates its key to that of the literal. -/
theorem mem_places_number (h : ValueAt xs i field (.number n)) :
    i ∈ places field op c xs ↔ ∃ j k, n.key? = some j ∧ c.key? = some k ∧ op.Relates j k := by
  have haccepts : i ∈ places field op c xs ↔ ∃ d, c.toDouble? = some d ∧ op.holds (n.compare? d) = true := by
    rw [mem_places, ← Condition.acceptsNumber_iff]
    constructor
    · rintro ⟨v, hv, haccepts⟩
      obtain rfl := h.unique hv
      exact haccepts
    · intro haccepts; exact ⟨_, h, haccepts⟩
  simp only [haccepts, Double.holds_compare?_iff]
  constructor
  · rintro ⟨d, hd, j, k, hj, hk, hrelates⟩
    exact ⟨j, k, hj, (Literal.key?_of_toDouble? hd).trans hk, hrelates⟩
  · rintro ⟨j, k, hj, hk, hrelates⟩
    obtain ⟨d, hd, hk⟩ := Option.bind_eq_some_iff.1 hk
    exact ⟨d, hd, j, k, hj, hk, hrelates⟩

/-- What is selected is a number, or it is selected for equality as a text. -/
theorem number_or_text_of_mem_places (h : i ∈ places field op c xs) :
    (∃ n, ValueAt xs i field (.number n)) ∨ op = .eq ∧ ∃ v s, ValueAt xs i field v ∧ v.ComparedAs s := by
  obtain ⟨v, hv, haccepts⟩ := mem_places.1 h
  rcases Condition.accepts_iff.1 haccepts with ⟨n, -, rfl, -⟩ | ⟨hop, s, hs, -⟩
  · exact .inl ⟨n, hv⟩
  · exact .inr ⟨hop, v, s, hv, hs⟩

/-! ## Three ways to compare -/

/-- How the three operators share out a list when a field is compared with a literal. -/
structure Trichotomy (field : String) (c : Literal) (xs : List α) : Prop where
  /-- No two operators select the same thing. -/
  apart : ∀ i op op', i ∈ places field op c xs → i ∈ places field op' c xs → op = op'
  /-- If the literal has a number, one of them selects each thing that has a number in the field. -/
  split : ∀ d, c.toDouble? = some d → d ≠ .nan →
    ∀ i n, ValueAt xs i field (.number n) → n ≠ .nan → ∃! op, i ∈ places field op c xs
  /-- Whatever else is selected is equal as a text. -/
  others : ∀ i op v, i ∈ places field op c xs → ValueAt xs i field v →
    (∃ n, v = .number n ∧ n ≠ .nan) ∨ op = .eq ∧ (∃ s, v.ComparedAs s) ∧ ∀ json, v = .ofJson json → json.Textual
  /-- If the literal has no number, no number is selected. -/
  unordered : (∀ d, c.toDouble? = some d → d = .nan) →
    ∀ i n op, ValueAt xs i field (.number n) → i ∉ places field op c xs
  /-- NaN is never selected. -/
  nan : ∀ i op, ValueAt xs i field (.number .nan) → i ∉ places field op c xs

theorem not_mem_places_nan (h : ValueAt xs i field (.number .nan)) : i ∉ places field op c xs := by
  rw [mem_places_number h]
  rintro ⟨j, k, hj, -⟩
  cases hj

theorem places_apart (h : i ∈ places field op c xs) (h' : i ∈ places field op' c xs) : op = op' := by
  rcases number_or_text_of_mem_places h with ⟨n, hn⟩ | ⟨rfl, v, s, hv, hs⟩
  · obtain ⟨j, k, hj, hk, hrelates⟩ := (mem_places_number hn).1 h
    obtain ⟨j', k', hj', hk', hrelates'⟩ := (mem_places_number hn).1 h'
    obtain rfl : j = j' := Option.some.inj (hj.symm.trans hj')
    obtain rfl : k = k' := Option.some.inj (hk.symm.trans hk')
    exact hrelates.unique hrelates'
  · rcases number_or_text_of_mem_places h' with ⟨n, hn⟩ | ⟨rfl, -⟩
    · obtain rfl := hv.unique hn
      cases hs
    · rfl

theorem trichotomy (field : String) (c : Literal) (xs : List α) : Trichotomy field c xs where
  apart _ _ _ := places_apart
  split d hd hnan i n hn hnumber := by
    obtain ⟨j, hj⟩ := Option.ne_none_iff_exists'.1 (mt Double.key?_eq_none_iff.1 hnumber)
    obtain ⟨k, hk⟩ := Option.ne_none_iff_exists'.1 (mt Double.key?_eq_none_iff.1 hnan)
    obtain ⟨op, hop⟩ := Op.exists_relates j k
    have hmem : i ∈ places field op c xs :=
      (mem_places_number hn).2 ⟨j, k, hj, (Literal.key?_of_toDouble? hd).trans hk, hop⟩
    exact ⟨op, hmem, fun op' hmem' => places_apart hmem' hmem⟩
  others i op v h hv := by
    rcases number_or_text_of_mem_places h with ⟨n, hn⟩ | ⟨hop, v', s, hv', hs⟩
    · obtain rfl := hv.unique hn
      exact .inl ⟨n, rfl, fun hnan => not_mem_places_nan (hnan ▸ hn) h⟩
    · obtain rfl := hv.unique hv'
      exact .inr ⟨hop, ⟨s, hs⟩, fun json hjson => (hjson ▸ hs).textual⟩
  unordered hnone i n op hn h := by
    obtain ⟨j, k, -, hk, -⟩ := (mem_places_number hn).1 h
    obtain ⟨d, hd, hk⟩ := Option.bind_eq_some_iff.1 hk
    rw [hnone d hd] at hk
    cases hk
  nan _ _ := not_mem_places_nan

/-! ## Greater literals -/

section Greater

variable {a b : Literal} {d e : Double} (ha : a.toDouble? = some d) (hb : b.toDouble? = some e) (hle : d.AtMost e)

include ha hb hle

theorem exists_keys : ∃ k m, a.key? = some k ∧ b.key? = some m ∧ k ≤ m := by
  obtain ⟨k, m, hk, hm, hkm⟩ := Double.atMost_iff.1 hle
  exact ⟨k, m, (Literal.key?_of_toDouble? ha).trans hk, (Literal.key?_of_toDouble? hb).trans hm, hkm⟩

theorem places_lt_subset : places field .lt a xs ⊆ places field .lt b xs := by
  intro i h
  obtain ⟨k, m, hk, hm, hkm⟩ := exists_keys ha hb hle
  obtain ⟨n, hn⟩ := (number_or_text_of_mem_places h).resolve_right nofun
  obtain ⟨j, k', hj, hk', hlt⟩ := (mem_places_number hn).1 h
  obtain rfl : k = k' := Option.some.inj (hk.symm.trans hk')
  exact (mem_places_number hn).2 ⟨j, m, hj, hm, Int.lt_of_lt_of_le hlt hkm⟩

theorem places_gt_subset : places field .gt b xs ⊆ places field .gt a xs := by
  intro i h
  obtain ⟨k, m, hk, hm, hkm⟩ := exists_keys ha hb hle
  obtain ⟨n, hn⟩ := (number_or_text_of_mem_places h).resolve_right nofun
  obtain ⟨j, m', hj, hm', hgt⟩ := (mem_places_number hn).1 h
  obtain rfl : m = m' := Option.some.inj (hm.symm.trans hm')
  exact (mem_places_number hn).2 ⟨j, k, hj, hk, Int.lt_of_le_of_lt hkm hgt⟩

/-- What is less than a literal is not greater than a greater one: it is less than that as well. -/
theorem places_lt_disjoint_gt : (places field .lt a xs).Disjoint (places field .gt b xs) :=
  fun _ hlt hgt => nomatch places_apart (places_lt_subset ha hb hle hlt) hgt

end Greater

/-- Whatever literal a field is compared with, the operators share out the list; and with a greater literal more is
less, less is greater, and nothing is less than the one and greater than the other. -/
theorem comparisons (field : String) (xs : List α) :
    (∀ c, Trichotomy field c xs) ∧
      ∀ a b d e, a.toDouble? = some d → b.toDouble? = some e → d.AtMost e →
        places field .lt a xs ⊆ places field .lt b xs ∧ places field .gt b xs ⊆ places field .gt a xs ∧
          (places field .lt a xs).Disjoint (places field .gt b xs) :=
  ⟨fun c => trichotomy field c xs, fun _ _ _ _ ha hb hle =>
    ⟨places_lt_subset ha hb hle, places_gt_subset ha hb hle, places_lt_disjoint_gt ha hb hle⟩⟩

/-- Records with a number, a text, null and true; a literal that is a number and a greater one that is a text. -/
theorem comparisons_of_mixed_kinds :
    let five : Literal := .ofInt 5
    let seven : Literal := .text " 7.0 "
    let xs : List Record := [⟨[("x", .number (.integer 5 (by decide)))]⟩, ⟨[("x", .string "7.0")]⟩, ⟨[("x", .null)]⟩,
      ⟨[("x", .bool true)]⟩, ⟨[("x", .number (.integer 4 (by decide)))]⟩]
    (∃! op, 0 ∈ places "x" op five xs) ∧ (∃! op, 0 ∈ places "x" op seven xs) ∧ 1 ∈ places "x" .eq seven xs ∧
      4 ∈ places "x" .lt five xs ∧ places "x" .lt five xs ⊆ places "x" .lt seven xs ∧
      places "x" .gt seven xs ⊆ places "x" .gt five xs ∧
      (places "x" .lt five xs).Disjoint (places "x" .gt seven xs) := by
  intro five seven xs
  have hfive : five.toDouble? = some (.ofInt 5) := rfl
  have hseven : seven.toDouble? = some (.ofInt 7) := by decide +kernel
  have hle : (Double.ofInt 5).AtMost (.ofInt 7) := .inl (by decide +kernel)
  have hvalue : ValueAt xs 0 "x" (.number (.ofInt 5)) := ⟨_, rfl, rfl⟩
  obtain ⟨hsplit, hgreater⟩ := comparisons "x" xs
  exact ⟨(hsplit five).split _ hfive nofun 0 _ hvalue nofun, (hsplit seven).split _ hseven nofun 0 _ hvalue nofun,
    by decide +kernel, by decide +kernel, hgreater five seven _ _ hfive hseven hle⟩

end Query

end WhereFilter
