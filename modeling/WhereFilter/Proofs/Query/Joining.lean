/-
Texts joined by the keyword `AND`. A character that belongs to no word lets no keyword reach over it
(`cut_append_cons`), so the conditions of two joined texts are those of the first and then those of the
second (`segments_join`), and blanks around a text do not count (`segments_trim`). Behind `WHERE` the
joined text therefore reads as the conjunction of the two queries, or fails as the first of them that
fails (`parse_join`).
-/
import WhereFilter.Proofs.Query.Conjunction
import WhereFilter.Proofs.Query.Reading

namespace WhereFilter.Query

open WhereFilter.Text

/-! ## Pieces around a character of no word -/

/-- Two lists of pieces as one, where the last piece of the first goes on in the first of the second. -/
def fuse : List (List Char) → List (List Char) → List (List Char)
  | [], others => others
  | [piece], [] => [piece]
  | [piece], next :: others => (piece ++ next) :: others
  | piece :: next :: pieces, others => piece :: fuse (next :: pieces) others

theorem cut_ne_nil (glued : Bool) (text : List Char) : cut glued text ≠ [] := by
  have hpush (c : Char) (pieces : List (List Char)) : push c pieces ≠ [] := by
    cases pieces <;> exact List.cons_ne_nil _ _
  unfold cut
  split
  · exact List.cons_ne_nil _ _
  · split
    · exact List.cons_ne_nil _ _
    · exact hpush _ _
  · exact hpush _ _

theorem push_fuse (c : Char) {pieces : List (List Char)} (h : pieces ≠ []) (others : List (List Char)) :
    push c (fuse pieces others) = fuse (push c pieces) others := by
  match pieces, others with
  | [piece], [] => rfl
  | [piece], next :: others => rfl
  | piece :: next :: pieces, others => rfl

theorem endsWord_append_cons {c : Char} (hc : isWord c = false) (text rest : List Char) :
    endsWord (text ++ c :: rest) = endsWord text := by
  cases text with
  | nil => simp [endsWord, hc]
  | cons a text => rfl

/-- The letters of the keyword are word characters. -/
theorem isAnd_eq_false {a n d : Char} (h : isWord a = false ∨ isWord n = false ∨ isWord d = false) :
    isAnd a n d = false := by
  by_contra hand
  rw [Bool.not_eq_false] at hand
  have halone : StandsAlone [] [a, n, d] [] :=
    ⟨by simpa [isAnd, sameIgnoringAsciiCase] using hand, by simp, by simp⟩
  rcases h with h | h | h
  · exact absurd (by simp) (halone.not_mem_letters h)
  · exact absurd (by simp) (halone.not_mem_letters h)
  · exact absurd (by simp) (halone.not_mem_letters h)

/-- Where no keyword starts, the first character joins the first piece. -/
theorem cut_cons_of_not_isAnd {a : Char} {text : List Char} (glued : Bool)
    (h : ∀ n d rest, text = n :: d :: rest → isAnd a n d = false) :
    cut glued (a :: text) = push a (cut (isWord a) text) := by
  match text with
  | [] => rfl
  | [_] => rfl
  | n :: d :: rest => simp [cut, h n d rest rfl]

theorem cut_cons_apart {c : Char} (hc : isWord c = false) (glued : Bool) (text : List Char) :
    cut glued (c :: text) = push c (cut false text) := by
  rw [cut_cons_of_not_isAnd glued fun _ _ _ _ => isAnd_eq_false (.inl hc), hc]

/-- On the two sides of a character that belongs to no word the text is cut for itself. -/
theorem cut_append_cons {c : Char} (hc : isWord c = false) (glued : Bool) (left right : List Char) :
    cut glued (left ++ c :: right) = fuse (cut glued left) (push c (cut false right)) := by
  fun_induction cut glued left with
  | case1 glued =>
    rw [List.nil_append, cut_cons_apart hc]
    cases cut false right <;> rfl
  | case2 glued a n d rest hand ih =>
    have hand' : (!glued && isAnd a n d && endsWord (rest ++ c :: right)) = true := by
      rwa [endsWord_append_cons hc]
    obtain ⟨piece, pieces, hp⟩ := List.exists_cons_of_ne_nil (cut_ne_nil true rest)
    rw [hp] at ih ⊢
    simp only [List.cons_append, cut, hand', if_true, ih]
    rfl
  | case3 glued a n d rest hand ih =>
    have hand' : ¬ (!glued && isAnd a n d && endsWord (rest ++ c :: right)) = true := by
      rwa [endsWord_append_cons hc]
    rw [← push_fuse a (cut_ne_nil _ _), ← ih]
    simp only [List.cons_append]
    rw [cut, if_neg hand']
  | case4 glued a rest hshort ih =>
    rw [← push_fuse a (cut_ne_nil _ _), ← ih]
    refine cut_cons_of_not_isAnd glued fun n d tail htail => ?_
    -- too little is left for the keyword, so the character would be one of its letters
    cases rest with
    | nil => exact isAnd_eq_false (.inr (.inl ((List.cons.inj htail).1 ▸ hc)))
    | cons b rest =>
      cases rest with
      | nil => exact isAnd_eq_false (.inr (.inr ((List.cons.inj (List.cons.inj htail).2).1 ▸ hc)))
      | cons b' rest => exact absurd rfl (hshort b b' rest)

/-! ## Texts of the conditions -/

/-- The pieces that are not blank, without the blanks around them. -/
def unblank (pieces : List (List Char)) : List (List Char) := (pieces.map trim).filter (!·.isEmpty)

theorem segments_def (text : List Char) : segments text = unblank (cut false text) := rfl

theorem unblank_cons (piece : List Char) (pieces : List (List Char)) :
    unblank (piece :: pieces) = unblank [piece] ++ unblank pieces := by
  rw [unblank, List.map_cons, ← List.singleton_append, List.filter_append]
  rfl

/-- Blanks in front of the first piece do not count. -/
theorem unblank_push {c : Char} (hc : isBlank c = true) {pieces : List (List Char)} (h : pieces ≠ []) :
    unblank (push c pieces) = unblank pieces := by
  obtain ⟨piece, pieces, rfl⟩ := List.exists_cons_of_ne_nil h
  have htrim : trim (c :: piece) = trim piece := trim_blank_append (List.forall_mem_singleton.2 hc) piece
  simp only [push, unblank, List.map_cons, htrim]

/-- Blanks behind the last piece do not count, and what follows them is a piece of its own. -/
theorem unblank_fuse {blanks : List Char} (hb : AllBlank blanks) {pieces : List (List Char)} (h : pieces ≠ [])
    (others : List (List Char)) : unblank (fuse pieces (blanks :: others)) = unblank pieces ++ unblank others := by
  match pieces with
  | [piece] =>
    have htrim : trim (piece ++ blanks) = trim piece := trim_append_blank hb piece
    rw [fuse, unblank_cons]
    simp only [unblank, List.map_cons, List.map_nil, htrim]
  | piece :: next :: pieces =>
    rw [fuse, unblank_cons, unblank_fuse hb (List.cons_ne_nil _ _), ← List.append_assoc, ← unblank_cons]

/-- Around a keyword between blanks the conditions are those of the two sides. -/
theorem segments_join (left right : List Char) :
    segments (left ++ " AND ".toList ++ right) = segments left ++ segments right := by
  have hkeyword : cut false ('A' :: 'N' :: 'D' :: ' ' :: right) = [] :: push ' ' (cut false right) := by
    rw [← cut_cons_apart isWord_space true right]; rfl
  have htext : left ++ " AND ".toList ++ right = left ++ ' ' :: 'A' :: 'N' :: 'D' :: ' ' :: right := by simp
  rw [htext, segments_def, cut_append_cons isWord_space, hkeyword, push,
    unblank_fuse allBlank_space (cut_ne_nil _ _), unblank_push (by decide) (cut_ne_nil _ _)]
  rfl

theorem segments_blank_append {blanks : List Char} (hb : AllBlank blanks) (text : List Char) :
    segments (blanks ++ text) = segments text := by
  induction blanks with
  | nil => rfl
  | cons c blanks ih =>
    obtain ⟨hc, hb⟩ := List.forall_mem_cons.1 hb
    rw [List.cons_append, segments_def, cut_cons_apart (isWord_of_isBlank hc), unblank_push hc (cut_ne_nil _ _)]
    exact ih hb

theorem cut_of_allBlank {blanks : List Char} (hb : AllBlank blanks) (glued : Bool) : cut glued blanks = [blanks] := by
  induction blanks generalizing glued with
  | nil => rfl
  | cons c blanks ih =>
    obtain ⟨hc, hb⟩ := List.forall_mem_cons.1 hb
    rw [cut_cons_apart (isWord_of_isBlank hc), ih hb, push]

theorem segments_append_blank {blanks : List Char} (hb : AllBlank blanks) (text : List Char) :
    segments (text ++ blanks) = segments text := by
  cases blanks with
  | nil => rw [List.append_nil]
  | cons c blanks =>
    have hc := isWord_of_isBlank (hb c (List.mem_cons_self ..))
    have hblanks := fun x hx => hb x (List.mem_cons_of_mem c hx)
    rw [segments_def, cut_append_cons hc, cut_of_allBlank hblanks, push, unblank_fuse hb (cut_ne_nil _ _)]
    exact List.append_nil _

/-- Blanks around a text make no difference to its conditions. -/
theorem segments_trim (text : List Char) : segments (trim text) = segments text := by
  obtain ⟨before, after, hb, ha, ht⟩ := exists_trim text
  conv_rhs => rw [ht, segments_append_blank ha, segments_blank_append hb]

/-! ## Texts behind the keyword `WHERE` -/

theorem exists_trimEnd (text : List Char) :
    ∃ after, AllBlank after ∧ text = trimEnd text ++ after ∧ ∀ c ∈ (trimEnd text).getLast?, isBlank c = false := by
  refine ⟨(text.reverse.takeWhile isBlank).reverse, fun c hc => mem_takeWhile c (List.mem_reverse.1 hc), ?_, ?_⟩
  · rw [trimEnd, ← List.reverse_append, List.takeWhile_append_dropWhile, List.reverse_reverse]
  · rw [trimEnd, List.getLast?_reverse]
    exact head_dropWhile isBlank _

/-- The letters of `WHERE` are no blanks. -/
theorem isBlank_where {start : List Char} (hs : start.map Char.toLower = ['w', 'h', 'e', 'r', 'e']) :
    ∀ c ∈ start, isBlank c = false := by
  intro c hc
  have hword : ∀ x ∈ ['w', 'h', 'e', 'r', 'e'], isWord x = true := List.all_iff_forall_prop.1 (by decide)
  have hlower : c.toLower ∈ ['w', 'h', 'e', 'r', 'e'] := hs ▸ List.mem_map_of_mem hc
  apply isBlank_of_isWord
  rw [← isWord_toLower]
  exact hword _ hlower

/-- Behind blanks and `WHERE` the conditions are those of the text that follows. -/
theorem parse_of_where {input : String} {blanks start text : List Char} (hb : AllBlank blanks)
    (hs : start.map Char.toLower = ['w', 'h', 'e', 'r', 'e']) (h : input.toList = blanks ++ (start ++ text)) :
    Query.parse input = ((segments text).mapM fun s => Condition.parse (String.ofList s)).map Query.mk := by
  obtain ⟨after, ha, htext, hlast⟩ := exists_trimEnd text
  have hnone := isBlank_where hs
  have htrimmed : Trimmed (start ++ trimEnd text) := by
    constructor
    · intro c hc
      cases start with
      | nil => cases hs
      | cons x start => exact hnone c (by simpa using Or.inl (by simpa using hc.symm))
    · intro c hc
      rw [List.getLast?_append] at hc
      cases hl : (trimEnd text).getLast? with
      | none => rw [hl, Option.none_or] at hc; exact hnone c (List.mem_of_mem_getLast? hc)
      | some x => rw [hl, Option.some_or] at hc; exact hlast c (hl.trans hc)
  have htrim : trim input.toList = start ++ trimEnd text := by
    have := trim_around hb ha htrimmed
    rwa [List.append_assoc, List.append_assoc, ← htext, ← h] at this
  have hsegments : segments (trim (trimEnd text)) = segments text := by
    conv_rhs => rw [htext]
    rw [segments_trim, segments_append_blank ha]
  rw [parse_of_behindWhere ⟨start, htrim, hs⟩, hsegments]

/-- A text that does not fail before its conditions has `WHERE` in front of them. -/
theorem exists_where_of_parse {input : String} (h : ∀ m, Query.parse input = .error m → m.reason = .invalidCondition) :
    ∃ blanks start text, AllBlank blanks ∧ start.map Char.toLower = ['w', 'h', 'e', 'r', 'e'] ∧
      input.toList = blanks ++ (start ++ text) := by
  by_cases hb : AllBlank input.toList
  · cases h _ (parse_of_allBlank hb)
  by_cases hw : ∃ rest, BehindWhere (trim input.toList) rest
  · obtain ⟨rest, start, htrim, hs⟩ := hw
    obtain ⟨before, after, hbefore, -, htext⟩ := exists_trim input.toList
    refine ⟨before, start, rest ++ after, hbefore, hs, ?_⟩
    rw [htrim] at htext
    simpa using htext
  · cases h _ (parse_of_missingWhere hb hw)

/-! ## Joined texts -/

/-- Joined texts are read one after the other. -/
theorem parse_join_eq {a b : String} (h : ∀ m, Query.parse a = .error m → m.reason = .invalidCondition) :
    Query.parse (a ++ " AND " ++ b) = do
      let qa ← Query.parse a
      let qb ← Query.parse ("WHERE " ++ b)
      return qa.and qb := by
  obtain ⟨blanks, start, text, hb, hs, ha⟩ := exists_where_of_parse h
  have hjoined : (a ++ " AND " ++ b).toList = blanks ++ (start ++ (text ++ " AND ".toList ++ b.toList)) := by
    rw [String.toList_append, String.toList_append, ha]
    simp only [List.append_assoc]
  have hwhere : ("WHERE " ++ b).toList = [] ++ ("WHERE".toList ++ ([' '] ++ b.toList)) := by
    rw [String.toList_append]; rfl
  rw [parse_of_where hb hs ha, parse_of_where hb hs hjoined, parse_of_where allBlank_nil (by decide) hwhere,
    segments_join, segments_blank_append allBlank_space, List.mapM_append]
  cases (segments text).mapM fun s => Condition.parse (String.ofList s) with
  | error m => rfl
  | ok conditions =>
    cases (segments b.toList).mapM fun s => Condition.parse (String.ofList s) with
    | error m => rfl
    | ok others => rfl

/-- A text that is a query, or fails at one of its conditions, joined by `AND` with any other text: it fails as
the first text does; or else as the second text does behind `WHERE`; or else it is the conjunction of the two
queries, which selects what the second query selects from what the first one does. -/
theorem parse_join {a b : String} (h : ∀ m, Query.parse a = .error m → m.reason = .invalidCondition) :
    (∀ m, Query.parse a = .error m → Query.parse (a ++ " AND " ++ b) = .error m) ∧
      (∀ qa m, Query.parse a = .ok qa → Query.parse ("WHERE " ++ b) = .error m →
        Query.parse (a ++ " AND " ++ b) = .error m) ∧
      ∀ qa qb, Query.parse a = .ok qa → Query.parse ("WHERE " ++ b) = .ok qb →
        Query.parse (a ++ " AND " ++ b) = .ok (qa.and qb) ∧
          ∀ {α : Type} [Fields α] (records : List α), (qa.and qb).filter records = qb.filter (qa.filter records) := by
  rw [parse_join_eq h]
  refine ⟨fun m ha => ?_, fun qa m ha hb => ?_, fun qa qb ha hb => ⟨?_, fun records => filter_and qa qb records⟩⟩
  · rw [ha]; rfl
  · rw [ha, hb]; rfl
  · rw [ha, hb]; rfl

/-- The keyword stands four times in a row, in two cases, with a line break at the end. -/
theorem parse_join_of_doubled :
    Query.parse "\twhere a>1 And and" = .ok ⟨[⟨"a", .gt, .ofInt 1⟩]⟩ ∧
      Query.parse ("WHERE " ++ "and b='x ands'\n") = .ok ⟨[⟨"b", .eq, .text "x ands"⟩]⟩ ∧
      Query.parse ("\twhere a>1 And and" ++ " AND " ++ "and b='x ands'\n") =
        .ok ⟨[⟨"a", .gt, .ofInt 1⟩, ⟨"b", .eq, .text "x ands"⟩]⟩ := by
  have ha : Query.parse "\twhere a>1 And and" = .ok ⟨[⟨"a", .gt, .ofInt 1⟩]⟩ := by decide +kernel
  have hb : Query.parse ("WHERE " ++ "and b='x ands'\n") = .ok ⟨[⟨"b", .eq, .text "x ands"⟩]⟩ := by decide +kernel
  have hinvalid : ∀ m, Query.parse "\twhere a>1 And and" = .error m → m.reason = .invalidCondition := by
    intro m hm
    rw [ha] at hm; cases hm
  obtain ⟨-, -, hjoin⟩ := parse_join (b := "and b='x ands'\n") hinvalid
  exact ⟨ha, hb, (hjoin _ _ ha hb).1⟩

end WhereFilter.Query
