/-
The printed form of queries. It reads back as the query exactly if all conditions are writable, and
as no other query that agrees with it (`parse_print_iff_writable`); a query that was read is writable,
so its printed form is canonical (`parse_print_of_parse`).
-/
import WhereFilter.Proofs.Condition.Writable
import WhereFilter.Proofs.Query.Reading

namespace WhereFilter

open WhereFilter.Text WhereFilter.Query

/-! ## Agreement -/

/-- The literals are equal, where what is no number counts as equal to itself. -/
def Literal.Agrees (l m : Literal) : Prop := l.same m = true ∨ l = .number .nan ∧ m = .number .nan

/-- The conditions have the same field and operator, and literals that agree. -/
structure Condition.Agrees (a b : Condition) : Prop where
  field_eq : a.field = b.field
  op_eq : a.op = b.op
  literal : a.literal.Agrees b.literal

theorem Double.sameNumber_self {d : Double} (h : d ≠ .nan) : d.sameNumber d = true := by
  cases d with
  | nan => exact absurd rfl h
  | signed negative m => cases negative <;> simp [Double.sameNumber, Double.compare?, Double.key?]

theorem Literal.Agrees.refl (l : Literal) : l.Agrees l := by
  cases l with
  | number d =>
    by_cases hd : d = .nan
    · subst hd; exact .inr ⟨rfl, rfl⟩
    · exact .inl (Double.sameNumber_self hd)
  | text s => exact .inl (beq_self_eq_true s)

/-- A text agrees with itself alone. -/
theorem Literal.Agrees.eq_of_text {l : Literal} {s : String} (h : l.Agrees (.text s)) : l = .text s := by
  rcases h with h | ⟨-, h⟩
  · cases l with
    | number d => cases h
    | text t => rw [eq_of_beq (show (t == s) = true from h)]
  · cases h

theorem Condition.Agrees.refl (c : Condition) : c.Agrees c := ⟨rfl, rfl, .refl _⟩

theorem Condition.Agrees.writable {a b : Condition} (h : a.Agrees b) (ha : a.Writable) : b.Writable := by
  refine ⟨h.field_eq ▸ ha.field_ne, h.field_eq ▸ ha.field_word, h.field_eq ▸ ha.field_not_and, fun s hs => ?_⟩
  have hl := h.literal
  rw [hs] at hl
  exact ha.text_apart s hl.eq_of_text

namespace Query

/-- The queries have conditions that agree, one by one. -/
def Agrees (q r : Query) : Prop := List.Forall₂ Condition.Agrees q.conditions r.conditions

theorem Agrees.refl (q : Query) : q.Agrees q := List.forall₂_same.2 fun c _ => .refl c

/-- A query of writable conditions. -/
def Writable (q : Query) : Prop := ∀ c ∈ q.conditions, c.Writable

theorem forall₂_mem_right {α β : Type} {R : α → β → Prop} {xs : List α} {ys : List β} (h : List.Forall₂ R xs ys) :
    ∀ y ∈ ys, ∃ x ∈ xs, R x y := by
  induction h with
  | nil => intro y hy; cases hy
  | @cons x y xs ys hr _ ih =>
    intro z hz
    rcases List.mem_cons.1 hz with rfl | hz
    · exact ⟨x, List.mem_cons_self .., hr⟩
    · obtain ⟨x', hx', hr'⟩ := ih z hz
      exact ⟨x', List.mem_cons_of_mem _ hx', hr'⟩

theorem Agrees.writable {q r : Query} (h : q.Agrees r) (hq : q.Writable) : r.Writable := by
  intro c hc
  obtain ⟨b, hb, hbc⟩ := forall₂_mem_right h c hc
  exact hbc.writable (hq b hb)

/-! ## Queries that are read -/

/-- What is read is writable, as no piece of a cutting has the keyword in it. -/
theorem writable_of_reads {input : String} {q : Query} (h : Reads input (.ok q)) : q.Writable := by
  cases h with
  | query _ hcut hall =>
    intro condition hcondition
    obtain ⟨text, ht, hp⟩ := forall₂_mem_right hall condition hcondition
    obtain ⟨piece, hpiece, rfl⟩ := List.mem_map.1 ht
    have hapart := hcut.pieces piece (List.mem_filter.1 hpiece).1
    refine Condition.writable_of_parse hp fun hheld => hapart ?_
    rw [String.toList_ofList] at hheld
    exact (holdsAnd_trim piece).1 hheld

/-! ## Texts with the keyword between them -/

/-- What a printed query has between two conditions. -/
def separator : List Char := [' ', 'A', 'N', 'D', ' ']

/-- The cutting of texts with the separator between them: the blanks belong to the pieces. -/
def Cutting.between : List Char → List (List Char) → Cutting
  | text, [] => ⟨text, []⟩
  | text, next :: others =>
    ⟨text ++ [' '], (['A', 'N', 'D'], ' ' :: (between next others).first) :: (between next others).rest⟩

theorem text_between : ∀ (text : List Char) (others : List (List Char)),
    (Cutting.between text others).text = separator.intercalate (text :: others)
  | text, [] => by simp [Cutting.between, Cutting.text]
  | text, next :: others => by
    rw [List.intercalate_cons_cons, ← text_between next others]
    simp [Cutting.between, Cutting.text, separator]

/-- Every keyword between the texts stands between two blanks. -/
theorem keywords_between : ∀ (text : List Char) (others : List (List Char)) (left right : List (List Char × List Char))
    (letters piece : List Char), (Cutting.between text others).rest = left ++ (letters, piece) :: right →
    StandsAlone ((Cutting.between text others).first ++ Cutting.joinRest left) letters
      (piece ++ Cutting.joinRest right)
  | text, [], left, right, letters, piece, h => by simp [Cutting.between] at h
  | text, next :: others, [], right, letters, piece, h => by
    simp only [Cutting.between, List.nil_append, List.cons.injEq, Prod.mk.injEq] at h
    obtain ⟨⟨rfl, rfl⟩, -⟩ := h
    refine ⟨by decide, ?_, ?_⟩ <;> simp [Cutting.between, isWord_space]
  | text, next :: others, keyword :: left, right, letters, piece, h => by
    simp only [Cutting.between, List.cons_append, List.cons.injEq] at h
    obtain ⟨rfl, h⟩ := h
    have := (keywords_between next others left right letters piece h).behind isWord_space
      (text ++ [' '] ++ ['A', 'N', 'D'])
    simpa [Cutting.between] using this

theorem not_holdsAnd_between : ∀ (text : List Char) (others : List (List Char)),
    (∀ t ∈ text :: others, ¬ HoldsAnd t) → ∀ piece ∈ (Cutting.between text others).pieces, ¬ HoldsAnd piece
  | text, [], h, piece, hp => by
    rw [Cutting.between, Cutting.pieces, List.map_nil, List.mem_singleton] at hp
    exact hp ▸ h text (List.mem_cons_self ..)
  | text, next :: others, h, piece, hp => by
    have ih := not_holdsAnd_between next others fun t ht => h t (List.mem_cons_of_mem _ ht)
    simp only [Cutting.pieces, Cutting.between, List.map_cons, List.mem_cons] at hp ih
    rcases hp with rfl | rfl | hp
    · rw [holdsAnd_append_cons isWord_space, or_iff_left not_holdsAnd_nil]
      exact h text (List.mem_cons_self ..)
    · rw [holdsAnd_cons isWord_space]
      exact ih _ (.inl rfl)
    · exact ih _ (.inr hp)

theorem isOf_between {text : List Char} {others : List (List Char)} (h : ∀ t ∈ text :: others, ¬ HoldsAnd t) :
    (Cutting.between text others).IsOf (separator.intercalate (text :: others)) :=
  ⟨text_between text others, fun left letters piece right => keywords_between text others left right letters piece,
    not_holdsAnd_between text others h⟩

theorem trim_pieces_between : ∀ (text : List Char) (others : List (List Char)),
    (∀ t ∈ text :: others, Trimmed t) → (Cutting.between text others).pieces.map trim = text :: others
  | text, [], h => by
    simp [Cutting.between, Cutting.pieces, trim_of_trimmed (h text (List.mem_cons_self ..))]
  | text, next :: others, h => by
    have hnext := trim_pieces_between next others fun t ht => h t (List.mem_cons_of_mem _ ht)
    have htext : trim (text ++ [' ']) = text :=
      trim_around allBlank_nil allBlank_space (h text (List.mem_cons_self ..))
    have hfirst (piece : List Char) : trim (' ' :: piece) = trim piece :=
      trim_blank_append allBlank_space piece
    simp only [Cutting.pieces, List.map_cons] at hnext ⊢
    simpa [Cutting.between, htext, hfirst] using hnext

theorem conditionTexts_between {text : List Char} {others : List (List Char)} (ht : ∀ t ∈ text :: others, Trimmed t)
    (h0 : ∀ t ∈ text :: others, t ≠ []) : (Cutting.between text others).conditionTexts = text :: others := by
  rw [Cutting.conditionTexts_eq, trim_pieces_between text others ht, List.filter_eq_self]
  simpa using h0

theorem trimmed_intercalate : ∀ (text : List Char) (others : List (List Char)), (∀ t ∈ text :: others, Trimmed t) →
    (∀ t ∈ text :: others, t ≠ []) →
    Trimmed (separator.intercalate (text :: others)) ∧ separator.intercalate (text :: others) ≠ []
  | text, [], ht, h0 => by
    rw [List.intercalate_singleton]
    exact ⟨ht text (List.mem_cons_self ..), h0 text (List.mem_cons_self ..)⟩
  | text, next :: others, ht, h0 => by
    obtain ⟨h1, h2⟩ := trimmed_intercalate next others (fun t h => ht t (List.mem_cons_of_mem _ h))
      fun t h => h0 t (List.mem_cons_of_mem _ h)
    rw [List.intercalate_cons_cons]
    exact ⟨(ht text (List.mem_cons_self ..)).around h1 (h0 text (List.mem_cons_self ..)) h2 _, by simp [h2]⟩

/-- Texts of conditions with the separator between them read as these conditions behind `WHERE`, if none of them has
outer blanks or the keyword `AND` in it. -/
theorem reads_separated {input : String} {text : List Char} {others : List (List Char)} {conditions : List Condition}
    (hinput : input.toList = "WHERE".toList ++ ' ' :: separator.intercalate (text :: others))
    (htrimmed : ∀ t ∈ text :: others, Trimmed t) (hne : ∀ t ∈ text :: others, t ≠ [])
    (hand : ∀ t ∈ text :: others, ¬ HoldsAnd t)
    (hparse : List.Forall₂ (fun text condition => Condition.parse (String.ofList text) = .ok condition)
      (text :: others) conditions) : Reads input (.ok ⟨conditions⟩) := by
  obtain ⟨ht, h0⟩ := trimmed_intercalate text others htrimmed hne
  have hwhere : BehindWhere (trim input.toList) (' ' :: separator.intercalate (text :: others)) := by
    have hword : Trimmed "WHERE".toList := trimmed_of_no_blank (List.all_iff_forall_prop.1 (by decide))
    have hall := hword.around ht (by decide) h0 [' ']
    rw [List.append_assoc, List.singleton_append, ← hinput] at hall
    rw [trim_of_trimmed hall]
    exact ⟨"WHERE".toList, hinput, by decide⟩
  have hrest : trim (' ' :: separator.intercalate (text :: others)) = separator.intercalate (text :: others) :=
    (trim_blank_append allBlank_space _).trans (trim_of_trimmed ht)
  -- the texts are the pieces, and trimming gives them back
  refine .query hwhere (by rw [hrest]; exact isOf_between hand) ?_
  rw [conditionTexts_between htrimmed hne]
  exact hparse

/-! ## Printed queries -/

theorem toList_print_cons (c : Condition) (cs : List Condition) :
    (Query.print ⟨c :: cs⟩).toList =
      "WHERE".toList ++ ' ' :: separator.intercalate ((c :: cs).map fun d => d.print.toList) := by
  simp [Query.print, separator, Function.comp_def]

theorem parse_print_nil : Query.parse (Query.print ⟨[]⟩) = .ok ⟨[]⟩ := by decide +kernel

/-- A query of writable conditions is what its print reads as. -/
theorem Writable.reads_print {q : Query} (h : q.Writable) : Reads q.print (.ok q) := by
  obtain ⟨_ | ⟨c, cs⟩⟩ := q
  · rw [← parse_print_nil]; exact reads_parse _
  have hall {P : List Char → Prop} (hp : ∀ d : Condition, d.Writable → P d.print.toList) :
      ∀ t ∈ (c :: cs).map fun d => d.print.toList, P t :=
    List.forall_mem_map.2 fun d hd => hp d (h d hd)
  have hparse : List.Forall₂ (fun text condition => Condition.parse (String.ofList text) = .ok condition)
      ((c :: cs).map fun d => d.print.toList) (c :: cs) :=
    List.forall₂_map_left_iff.2 <| List.forall₂_same.2 fun d hd => by
      rw [String.ofList_toList]; exact (h d hd).parse_print
  exact reads_separated (toList_print_cons c cs) (hall fun d hd => hd.trimmed_print)
    (hall (P := (· ≠ [])) fun d hd => hd.print_ne_nil) (hall fun d hd => hd.not_holdsAnd_print) hparse

/-- A print reads as a query that agrees with the printed one exactly if every field is a word other
than the keyword `AND` and no text has the keyword in it; it then reads as the printed query itself. -/
theorem parse_print_iff_writable (q : Query) :
    ((∃ r, Query.parse q.print = .ok r ∧ r.Agrees q) ↔ q.Writable) ∧
      (Query.parse q.print = .ok q ↔ q.Writable) := by
  have hback (hq : q.Writable) : Query.parse q.print = .ok q := hq.reads_print.parse_eq
  have honly (h : ∃ r, Query.parse q.print = .ok r ∧ r.Agrees q) : q.Writable := by
    obtain ⟨r, hr, hrq⟩ := h
    -- whatever is read is writable, and a query that agrees with it has the same fields and texts
    have hreads := reads_parse q.print
    rw [hr] at hreads
    exact hrq.writable (writable_of_reads hreads)
  exact ⟨⟨honly, fun hq => ⟨q, hback hq, .refl q⟩⟩, ⟨fun h => honly ⟨q, h, .refl q⟩, hback⟩⟩

example : let q : Query := ⟨[⟨"f", .eq, .text " it's = \n<'> "⟩, ⟨"g", .gt, .text ""⟩]⟩
    Query.parse q.print = .ok q := by decide +kernel

/-- A query that was read is read back from its print, so that printing it again changes nothing. -/
theorem parse_print_of_parse {input : String} {q : Query} (h : Query.parse input = .ok q) :
    Query.parse q.print = .ok q ∧ (Query.parse q.print).map Query.print = .ok q.print := by
  have hreads := reads_parse input
  rw [h] at hreads
  have hback := (writable_of_reads hreads).reads_print.parse_eq
  exact ⟨hback, by rw [hback]; rfl⟩

/-- Quotes, an operator and a line break in a text, words in front of a field, a doubled keyword, a
negative zero and a number that is none: all of this is settled once it has been read. -/
theorem parse_print_of_unruly_text :
    ∃ q : Query, Query.parse "\twHere a = 'x\n'= y ' AnD and the b<-0 And c > nan" = .ok q ∧
      q.print = "WHERE a = 'x\n'= y ' AND b < -0 AND c > NaN" ∧
      Query.parse q.print = .ok q ∧ (Query.parse q.print).map Query.print = .ok q.print := by
  have h : Query.parse "\twHere a = 'x\n'= y ' AnD and the b<-0 And c > nan" =
      .ok ⟨[⟨"a", .eq, .text "x\n'= y "⟩, ⟨"b", .lt, .number (.signed true .zero)⟩, ⟨"c", .gt, .number .nan⟩]⟩ := by
    decide +kernel
  exact ⟨_, h, by decide +kernel, parse_print_of_parse h⟩

end Query

end WhereFilter
