/-
Queries in JSON. The compact text of a query and the indented one, in which it is explained, are its
conditions with different gaps between the tokens (`compact_eq_textIn`, `pretty_eq_textIn`). With any gaps
a query is read as its conditions one by one (`readJson_textIn`), or refused where a number is not finite
(`readJson_textIn_refused`); so both texts have the same outcome, which keeps fields, operators, texts and
the kinds of all literals (`readJson_toJson`).
-/
import WhereFilter.Proofs.Condition.Json
import WhereFilter.Session.Basic

namespace WhereFilter

open Json

/-! ## Kinds of literals -/

/-- Two numbers, or one text twice. -/
inductive Literal.SameKind : Literal → Literal → Prop
  | number (d d' : Double) : SameKind (.number d) (.number d')
  | text (s : String) : SameKind (.text s) (.text s)

/-! ## Texts of queries -/

theorem Condition.compact_toJson (c : Condition) : c.toJson.compact = c.textIn .compact := by
  simp [toJson, Op.toJson, compact, compactMembers, textIn, Spacing.compact, Spacing.memberFrom, stringText]

theorem Condition.pretty_toJson (c : Condition) : c.toJson.pretty 1 = c.textIn .indented := by
  have hliteral := pretty_of_isScalar c.literal.isScalar_toJson 2
  simp [toJson, Op.toJson, pretty, prettyMembers, compact, textIn, Spacing.indented, Spacing.memberFrom, stringText,
    hliteral]

namespace Query

variable (s : Spacing) {q : Query}

/-- The text of a query. -/
def textIn (q : Query) : List Char :=
  match q.conditions with
  | [] => ['[', ']']
  | conditions =>
    '[' :: (s.item ++ ((',' :: s.item).intercalate (conditions.map (Condition.textIn s)) ++ (s.lastItem ++ [']'])))

theorem compact_eq_textIn (q : Query) : q.toJson.compact = q.textIn .compact := by
  obtain ⟨conditions⟩ := q
  cases conditions with
  | nil => rfl
  | cons c conditions =>
    have hcompact : Json.compact ∘ Condition.toJson = Condition.textIn .compact := funext Condition.compact_toJson
    rw [toJson, compact, List.map_cons, compactItems_eq, ← List.map_cons, List.map_map, hcompact]
    rfl

theorem pretty_eq_textIn (q : Query) : q.toJson.pretty 0 = q.textIn .indented := by
  obtain ⟨conditions⟩ := q
  cases conditions with
  | nil => rfl
  | cons c conditions =>
    have hpretty : Json.pretty 1 ∘ Condition.toJson = Condition.textIn .indented := funext Condition.pretty_toJson
    rw [toJson, List.map_cons, pretty, prettyItems_eq, ← List.map_cons, List.map_map, hpretty]
    simp [textIn, Spacing.indented]

/-! ## Reading -/

/-- The query with what the texts of its literals are read as. -/
def reread (q : Query) : Query := ⟨q.conditions.map Condition.reread⟩

/-- A text of a query has room for the three members of a condition, and for all conditions. -/
theorem size_textIn (q : Query) : 2 ≤ (q.textIn s).length ∧ q.conditions.length ≤ (q.textIn s).length := by
  obtain ⟨conditions⟩ := q
  cases conditions with
  | nil => simp [textIn]
  | cons c conditions =>
    obtain ⟨hlen, -⟩ := size_intercalate (fun c => (Condition.startsValue_textIn s c).length_pos) (',' :: s.item)
      (c :: conditions)
    simp only [textIn, List.length_cons, List.length_append] at hlen ⊢
    omega

section Reading

variable {width nesting : Nat}

/-- The text of a query is a bracket, and the conditions are read behind it. -/
theorem listOf_textIn_cons {α : Type} (item : Nat → Reader α) (c : Condition) (conditions : List Condition)
    (rest : List Char) :
    listOf item width (nesting + 1) (textIn s ⟨c :: conditions⟩ ++ rest) = arrayBody (item nesting) width (s.item ++
      ((',' :: s.item).intercalate ((c :: conditions).map (Condition.textIn s)) ++ (s.lastItem ++ ']' :: rest))) := by
  unfold listOf textIn
  simp only [List.cons_append, List.append_assoc, skipGap_cons (show isGap '[' = false by decide), List.nil_append]

variable (hw : (q.textIn s).length < width)

include hw

theorem listOf_textIn (hq : ∀ c ∈ q.conditions, c.literal.IsFinite) (rest : List Char) :
    listOf (Condition.readFrom width) width (nesting + 2) (q.textIn s ++ rest) = .ok (q.reread.conditions, rest) := by
  obtain ⟨htwo, hlen⟩ := q.size_textIn s
  obtain ⟨conditions⟩ := q
  have hwidth : 3 ≤ width := by omega
  cases conditions with
  | nil => rfl
  | cons c conditions =>
    rw [listOf_textIn_cons]
    exact arrayBody_texts s.allGap_item s.allGap_lastItem s.allGap_item (hlen.trans_lt hw) (List.cons_ne_nil _ _)
      (fun c _ => Condition.startsValue_textIn s c) fun c hc rest _ => Condition.readFrom_textIn s hwidth (hq c hc) rest

theorem listOf_textIn_refused (hq : ∃ c ∈ q.conditions, ¬ c.literal.IsFinite) (rest : List Char) :
    ∃ left, listOf (Condition.readFrom width) width (nesting + 2) (q.textIn s ++ rest) =
      .error ⟨Literal.noLiteral, left⟩ := by
  obtain ⟨htwo, hlen⟩ := q.size_textIn s
  obtain ⟨conditions⟩ := q
  have hwidth : 3 ≤ width := by omega
  cases conditions with
  | nil => simp at hq
  | cons c conditions =>
    rw [listOf_textIn_cons]
    refine arrayBody_refused (f := Condition.reread) s.allGap_item s.allGap_lastItem s.allGap_item (hlen.trans_lt hw)
      (fun c _ => Condition.startsValue_textIn s c) ?_ ?_
    · intro c _ hc rest _
      have hfinite : c.literal.IsFinite := by_contra fun h => hc (Condition.refuses_textIn s hwidth h)
      exact Condition.readFrom_textIn s hwidth hfinite rest
    · obtain ⟨c, hc, hinfinite⟩ := hq
      exact ⟨c, hc, Condition.refuses_textIn s hwidth hinfinite⟩

end Reading

variable {tail : List Char}

/-- A query in which all numbers are finite is read as its conditions, each with what its literal is read as. -/
theorem readJson_textIn (ht : AllGap tail) (hq : ∀ c ∈ q.conditions, c.literal.IsFinite) :
    readJson (String.ofList (q.textIn s ++ tail)) = .ok q.reread := by
  have hlist : listOf (Condition.readFrom ((q.textIn s ++ tail).length + 1)) ((q.textIn s ++ tail).length + 1)
      maxNesting (q.textIn s ++ tail) = _ := listOf_textIn s (by rw [List.length_append]; omega) hq tail
  have hend : skipGap tail = [] := List.dropWhile_eq_nil_iff.2 ht
  simp only [readJson, readAll, readFront, String.toList_ofList, hlist, readEnd, hend, bind, Except.bind]
  rfl

/-- A query with a number that is not finite is refused. -/
theorem readJson_textIn_refused (tail : List Char) (hq : ∃ c ∈ q.conditions, ¬ c.literal.IsFinite) :
    ∃ place?, readJson (String.ofList (q.textIn s ++ tail)) = .error ⟨Literal.noLiteral, place?⟩ := by
  obtain ⟨left, hlist⟩ : ∃ left, listOf (Condition.readFrom ((q.textIn s ++ tail).length + 1))
      ((q.textIn s ++ tail).length + 1) maxNesting (q.textIn s ++ tail) = .error ⟨Literal.noLiteral, left⟩ :=
    listOf_textIn_refused s (by rw [List.length_append]; omega) hq tail
  refine ⟨(Fault.inText ⟨Literal.noLiteral, left⟩ (q.textIn s ++ tail)).place?, ?_⟩
  simp only [readJson, readAll, readFront, String.toList_ofList, hlist, bind, Except.bind]
  rfl

theorem compactText_eq (q : Query) : q.toJson.compactText = String.ofList (q.textIn .compact ++ []) := by
  rw [Json.compactText, compact_eq_textIn, List.append_nil]

theorem explanation_eq (q : Query) : Session.explanation q = String.ofList (q.textIn .indented ++ ['\n']) := by
  rw [Session.explanation, Json.prettyText, pretty_eq_textIn, String.ofList_append]

/-! ## What is kept -/

theorem forall₂_reread {R : Literal → Literal → Prop} (htext : ∀ t, R (.text t) (.text t))
    (hnumber : ∀ d h, R (.number d) (.number (Number.float d h).reread.toDouble))
    (hq : ∀ c ∈ q.conditions, c.literal.IsFinite) :
    List.Forall₂ (Condition.Agree R) q.conditions q.reread.conditions := by
  rw [reread, List.forall₂_map_right_iff, List.forall₂_same]
  exact fun c hc => Condition.agree_reread htext hnumber (hq c hc)

/-- The compact text of a query and the text in which it is explained are read alike: with a number that
is not finite both are refused, for a value that is no literal; else both are read as one query with the
conditions in their order, each with its field, its operator and a literal that is the same text, or a
number where it was a number. -/
theorem readJson_toJson (q : Query) :
    ((∃ c ∈ q.conditions, ¬ c.literal.IsFinite) →
      (∃ place?, readJson q.toJson.compactText = .error ⟨Literal.noLiteral, place?⟩) ∧
        ∃ place?, readJson (Session.explanation q) = .error ⟨Literal.noLiteral, place?⟩) ∧
    ((∀ c ∈ q.conditions, c.literal.IsFinite) →
      ∃ r : Query, readJson q.toJson.compactText = .ok r ∧ readJson (Session.explanation q) = .ok r ∧
        List.Forall₂ (Condition.Agree Literal.SameKind) q.conditions r.conditions) := by
  rw [compactText_eq, explanation_eq]
  constructor
  · intro hq
    exact ⟨readJson_textIn_refused .compact [] hq, readJson_textIn_refused .indented ['\n'] hq⟩
  · intro hq
    exact ⟨q.reread, readJson_textIn .compact allGap_nil hq, readJson_textIn .indented (by simp [AllGap, isGap]) hq,
      forall₂_reread Literal.SameKind.text (fun d _ => .number d _) hq⟩

/-- Texts that look like a number and like null, beside a number; then the same with one that is none. -/
theorem readJson_toJson_of_unlike_kinds :
    let q : Query := ⟨[⟨"a \"b\"", .eq, .text "5"⟩, ⟨"", .gt, .number (.ofInt (-3))⟩, ⟨"\n", .lt, .text "null"⟩]⟩
    (∃ r : Query, readJson q.toJson.compactText = .ok r ∧ readJson (Session.explanation q) = .ok r ∧
      List.Forall₂ (Condition.Agree Literal.SameKind) q.conditions r.conditions) ∧
    ∃ place?, readJson (q.andEq "x" (.number .nan)).toJson.compactText = .error ⟨Literal.noLiteral, place?⟩ := by
  intro q
  constructor
  · exact (readJson_toJson q).2 (by decide +kernel)
  · refine ((readJson_toJson (q.andEq "x" (.number .nan))).1 ⟨⟨"x", .eq, .number .nan⟩, ?_, ?_⟩).1
    · exact List.mem_append_right _ (List.mem_singleton_self _)
    · decide

end Query

end WhereFilter
