/-
Cutting a text at the keyword `AND`: every text has one and only one cutting into pieces that do not
hold the keyword, with the keyword between them as a word of its own, and `cut` gives its pieces.

The proofs follow a text from left to right and keep what stands before it, since a word character
there glues the keyword to a longer word.
-/
import WhereFilter.Proofs.Query.Keyword
import Mathlib.Logic.ExistsUnique

namespace WhereFilter.Query

open WhereFilter.Text

/-! ## Cuttings -/

/-- A text taken apart: a piece, and behind it keywords, each with the piece that follows it. -/
structure Cutting where
  first : List Char
  rest : List (List Char × List Char)

namespace Cutting

/-- Keywords and the pieces behind them as one text. -/
def joinRest (rest : List (List Char × List Char)) : List Char :=
  rest.flatMap fun (letters, piece) => letters ++ piece

def text (c : Cutting) : List Char := c.first ++ joinRest c.rest

def pieces (c : Cutting) : List (List Char) := c.first :: c.rest.map Prod.snd

/-- The cutting is one of this text at the keyword: between the pieces the keyword stands as a word
of its own, and no piece holds it. -/
structure IsOf (c : Cutting) (text : List Char) : Prop where
  text_eq : c.text = text
  keywords : ∀ left letters piece right, c.rest = left ++ (letters, piece) :: right →
    StandsAlone (c.first ++ joinRest left) letters (piece ++ joinRest right)
  pieces : ∀ piece ∈ c.pieces, ¬ HoldsAnd piece

@[simp] theorem joinRest_nil : joinRest [] = [] := rfl

@[simp] theorem joinRest_cons (letters piece : List Char) (rest : List (List Char × List Char)) :
    joinRest ((letters, piece) :: rest) = letters ++ (piece ++ joinRest rest) := by
  simp [joinRest]

end Cutting

open Cutting

/-! ## Texts behind other texts -/

/-- Behind `before` the text starts with the keyword as a word of its own. -/
def StartsWithAnd (before text : List Char) : Prop :=
  ∃ letters after, text = letters ++ after ∧ StandsAlone before letters after

/-- Behind `before` the text has the keyword in it as a word of its own. -/
def HoldsAndAfter (before text : List Char) : Prop :=
  ∃ left letters right, text = left ++ letters ++ right ∧ StandsAlone (before ++ left) letters right

theorem holdsAndAfter_nil_left (text : List Char) : HoldsAndAfter [] text ↔ HoldsAnd text := by
  simp [HoldsAndAfter, HoldsAnd]

theorem not_holdsAndAfter_nil (before : List Char) : ¬ HoldsAndAfter before [] := by
  rintro ⟨left, letters, right, ht, h⟩
  exact not_holdsAnd_nil ⟨left, letters, right, ht, h.of_append⟩

theorem holdsAndAfter_cons (before : List Char) (c : Char) (text : List Char) :
    HoldsAndAfter before (c :: text) ↔ StartsWithAnd before (c :: text) ∨ HoldsAndAfter (before ++ [c]) text := by
  constructor
  · rintro ⟨left, letters, right, ht, h⟩
    cases left with
    | nil => exact .inl ⟨letters, right, by simpa using ht, by simpa using h⟩
    | cons x left =>
      simp only [List.cons_append, List.cons.injEq] at ht
      obtain ⟨rfl, rfl⟩ := ht
      exact .inr ⟨left, letters, right, rfl, by simpa using h⟩
  · rintro (⟨letters, right, ht, h⟩ | ⟨left, letters, right, rfl, h⟩)
    · exact ⟨[], letters, right, by simpa using ht, by simpa using h⟩
    · exact ⟨c :: left, letters, right, by simp, by simpa using h⟩

/-- Of a text that starts with no word character it does not matter what stands before it. -/
theorem holdsAndAfter_iff {before text : List Char} (ht : ∀ c ∈ text.head?, isWord c = false) :
    HoldsAndAfter before text ↔ HoldsAnd text := by
  constructor
  · rintro ⟨left, letters, right, h, hs⟩
    exact ⟨left, letters, right, h, hs.of_append⟩
  · rintro ⟨left, letters, right, rfl, hs⟩
    refine ⟨left, letters, right, rfl, hs.letters_and, fun c hc => ?_, hs.after_apart⟩
    cases left with
    | nil =>
      obtain ⟨a, n, d, rfl, -⟩ := hs.exists_letters
      have := ht a (by simp)
      rw [hs.isWord_letters a (by simp)] at this; cases this
    | cons x left =>
      rw [List.getLast?_append_of_ne_nil _ (List.cons_ne_nil _ _)] at hc
      exact hs.before_apart c hc

/-! ## Cuttings behind other texts -/

/-- A cutting of a text that follows `before`. -/
inductive CutAfter : List Char → List Char → List (List Char × List Char) → Prop
  | last {before piece : List Char} : ¬ HoldsAndAfter before piece → CutAfter before piece []
  | keyword {before piece letters next : List Char} {rest : List (List Char × List Char)} :
      ¬ HoldsAndAfter before piece → StandsAlone (before ++ piece) letters (next ++ joinRest rest) →
      CutAfter (before ++ piece ++ letters) next rest → CutAfter before piece ((letters, next) :: rest)

/-- The conditions on a cutting, piece by piece and all at once. -/
theorem cutAfter_iff (before first : List Char) (rest : List (List Char × List Char)) :
    CutAfter before first rest ↔ ¬ HoldsAndAfter before first ∧
      (∀ left letters piece right, rest = left ++ (letters, piece) :: right →
        StandsAlone (before ++ first ++ joinRest left) letters (piece ++ joinRest right)) ∧
      ∀ piece ∈ rest.map Prod.snd, ¬ HoldsAnd piece := by
  induction rest generalizing before first with
  | nil =>
    constructor
    · rintro (h | _); exact ⟨h, by simp, by simp⟩
    · rintro ⟨h, -, -⟩; exact .last h
  | cons keyword rest ih =>
    obtain ⟨letters, next⟩ := keyword
    -- behind the keyword only a character that belongs to no word can follow
    have next_apart (h : StandsAlone (before ++ first) letters (next ++ joinRest rest)) :
        HoldsAndAfter (before ++ first ++ letters) next ↔ HoldsAnd next :=
      holdsAndAfter_iff fun c hc => h.of_append_after.after_apart c hc
    constructor
    · rintro (_ | ⟨hfirst, hkey, hrest⟩)
      obtain ⟨hnext, hkeys, hpieces⟩ := (ih _ _).1 hrest
      refine ⟨hfirst, fun left l p right h => ?_, fun p hp => ?_⟩
      · cases left with
        | nil =>
          simp only [List.nil_append, List.cons.injEq, Prod.mk.injEq] at h
          obtain ⟨⟨rfl, rfl⟩, rfl⟩ := h
          simpa using hkey
        | cons x left =>
          simp only [List.cons_append, List.cons.injEq] at h
          obtain ⟨rfl, h⟩ := h
          simpa using hkeys left l p right h
      · rw [List.map_cons, List.mem_cons] at hp
        rcases hp with rfl | hp
        · exact fun hn => hnext ((next_apart hkey).2 hn)
        · exact hpieces p hp
    · rintro ⟨hfirst, hkeys, hpieces⟩
      have hkey : StandsAlone (before ++ first) letters (next ++ joinRest rest) := by
        simpa using hkeys [] letters next rest rfl
      refine .keyword hfirst hkey ((ih _ _).2 ⟨fun h => ?_, fun left l p right h => ?_, fun p hp => ?_⟩)
      · exact hpieces next (by simp) ((next_apart hkey).1 h)
      · simpa using hkeys ((letters, next) :: left) l p right (by simp [h])
      · exact hpieces p (List.mem_cons_of_mem _ hp)

theorem Cutting.isOf_iff (c : Cutting) (text : List Char) :
    c.IsOf text ↔ c.text = text ∧ CutAfter [] c.first c.rest := by
  rw [cutAfter_iff, holdsAndAfter_nil_left]
  constructor
  · rintro ⟨ht, hk, hp⟩
    exact ⟨ht, hp _ (List.mem_cons_self ..), hk, fun p h => hp p (List.mem_cons_of_mem _ h)⟩
  · rintro ⟨ht, hf, hk, hp⟩
    exact ⟨ht, hk, fun p h => by rcases List.mem_cons.1 h with rfl | h; exacts [hf, hp p h]⟩

/-! ## Every text has a cutting -/

/-- One more character in front, if no keyword starts with it. -/
theorem CutAfter.push {before first : List Char} {rest : List (List Char × List Char)} {c : Char}
    (h : CutAfter (before ++ [c]) first rest) (hs : ¬ StartsWithAnd before (c :: first ++ joinRest rest)) :
    CutAfter before (c :: first) rest := by
  have hfirst : ¬ HoldsAndAfter (before ++ [c]) first := by cases h <;> assumption
  have hpiece : ¬ HoldsAndAfter before (c :: first) := by
    rw [holdsAndAfter_cons, not_or]
    refine ⟨?_, hfirst⟩
    rintro ⟨letters, after, ht, ha⟩
    refine hs ⟨letters, after ++ joinRest rest, by rw [ht, List.append_assoc], ha.letters_and, ha.before_apart, ?_⟩
    intro x hx
    cases after with
    | cons a after => exact ha.after_apart x hx
    | nil =>
      cases h with
      | last => simp at hx
      | keyword _ hk _ =>
        -- the letters end the piece, so the next keyword would be glued to them
        obtain ⟨a, n, d, rfl, -⟩ := ha.exists_letters
        have hd := hk.before_apart d (by
          rw [List.append_assoc, List.singleton_append, ht, List.append_nil, List.getLast?_append]; rfl)
        rw [ha.isWord_letters d (by simp)] at hd; cases hd
  cases h with
  | last => exact .last hpiece
  | keyword _ hk hr =>
    have e : before ++ [c] ++ first = before ++ c :: first := by simp
    exact .keyword hpiece (e ▸ hk) (e ▸ hr)

theorem exists_cutAfter (before text : List Char) :
    ∃ first rest, first ++ joinRest rest = text ∧ CutAfter before first rest := by
  -- either a keyword starts here and what is behind it is cut, or the first character joins a piece
  by_cases hs : StartsWithAnd before text
  · obtain ⟨letters, after, ht, h⟩ := hs
    have : after.length < text.length := by rw [ht, List.length_append, h.length_letters]; omega
    obtain ⟨first, rest, rfl, hc⟩ := exists_cutAfter (before ++ letters) after
    refine ⟨[], (letters, first) :: rest, by simp [ht], .keyword (not_holdsAndAfter_nil before) ?_ ?_⟩
    · rwa [List.append_nil]
    · rwa [List.append_nil]
  · cases text with
    | nil => exact ⟨[], [], rfl, .last (not_holdsAndAfter_nil before)⟩
    | cons c text =>
      obtain ⟨first, rest, rfl, hc⟩ := exists_cutAfter (before ++ [c]) text
      exact ⟨c :: first, rest, rfl, hc.push hs⟩
termination_by text.length

/-! ## The pieces -/

/-- Whether a word character ends the text. -/
def endsInWord (text : List Char) : Bool := text.getLast?.any isWord

theorem endsInWord_concat (text : List Char) (c : Char) : endsInWord (text ++ [c]) = isWord c := by
  simp [endsInWord]

theorem endsInWord_eq_false_iff {text : List Char} :
    endsInWord text = false ↔ ∀ c ∈ text.getLast?, isWord c = false := by
  cases h : text.getLast? <;> simp [endsInWord, h]

theorem endsWord_iff {text : List Char} : endsWord text = true ↔ ∀ c ∈ text.head?, isWord c = false := by
  cases h : text.head? <;> simp [endsWord, h]

theorem StandsAlone.endsInWord_letters {before letters after : List Char} (h : StandsAlone before letters after) :
    endsInWord (before ++ letters) = true := by
  obtain ⟨a, n, d, rfl, -⟩ := h.exists_letters
  have : before ++ [a, n, d] = (before ++ [a, n]) ++ [d] := by simp
  rw [this, endsInWord_concat]
  exact h.isWord_letters d (by simp)

/-- At a keyword `cut` ends a piece. -/
theorem cut_keyword {before letters after : List Char} (h : StandsAlone before letters after) :
    cut (endsInWord before) (letters ++ after) = [] :: cut true after := by
  obtain ⟨a, n, d, rfl, hand⟩ := h.exists_letters
  have hb := endsInWord_eq_false_iff.2 h.before_apart
  have ha := endsWord_iff.2 h.after_apart
  rw [List.cons_append, List.cons_append, List.cons_append, List.nil_append, cut, hb, hand, ha]
  rfl

/-- Everywhere else `cut` takes the character into the piece. -/
theorem cut_cons {before text : List Char} {c : Char} (h : ¬ StartsWithAnd before (c :: text)) :
    cut (endsInWord before) (c :: text) = push c (cut (isWord c) text) := by
  match text with
  | [] => rfl
  | [_] => rfl
  | n :: d :: after =>
    rw [cut, if_neg]
    intro hc
    simp only [Bool.and_eq_true, Bool.not_eq_true'] at hc
    obtain ⟨⟨hb, hand⟩, ha⟩ := hc
    refine h ⟨[c, n, d], after, rfl, ?_, endsInWord_eq_false_iff.1 hb, endsWord_iff.1 ha⟩
    simpa [isAnd, sameIgnoringAsciiCase] using hand

/-- `cut` takes a piece without the keyword as a whole, up to the end of the text or to a place
where a keyword may start. -/
theorem cut_piece {piece tail : List Char} {before p : List Char} {ps : List (List Char)}
    (hp : ¬ HoldsAndAfter before piece) (ht : tail = [] ∨ endsInWord (before ++ piece) = false)
    (h : cut (endsInWord (before ++ piece)) tail = p :: ps) :
    cut (endsInWord before) (piece ++ tail) = (piece ++ p) :: ps := by
  induction piece generalizing before with
  | nil => simpa using h
  | cons c piece ih =>
    -- with each character that is passed, the text before it grows, and `cut` keeps its last character
    rw [holdsAndAfter_cons, not_or] at hp
    have e : before ++ c :: piece = before ++ [c] ++ piece := by simp
    have hs : ¬ StartsWithAnd before (c :: (piece ++ tail)) := by
      rintro ⟨letters, after, hl, ha⟩
      rw [← List.cons_append] at hl
      rcases List.append_eq_append_iff.1 hl with ⟨m, rfl, rfl⟩ | ⟨m, hm, rfl⟩
      · rcases ht with ht | ht
        · obtain ⟨rfl, rfl⟩ := List.append_eq_nil_iff.1 ht
          exact hp.1 ⟨c :: piece, [], by simp, by simpa using ha⟩
        · -- the piece would be the start of the letters, and end in a word character
          have hw := endsInWord_eq_false_iff.1 ht ((c :: piece).getLast (List.cons_ne_nil _ _)) (by
            rw [List.getLast?_append_of_ne_nil _ (List.cons_ne_nil _ _)]; exact List.getLast?_eq_some_getLast _)
          rw [ha.isWord_letters _ (List.mem_append_left _ (List.getLast_mem _))] at hw
          cases hw
      · exact hp.1 ⟨letters, m, hm, ha.of_append_after⟩
    rw [e] at ht h
    rw [List.cons_append, cut_cons hs, ← endsInWord_concat before c, ih hp.2 ht h]
    rfl

/-- `cut` gives the pieces of a cutting. -/
theorem CutAfter.cut_eq {before first : List Char} {rest : List (List Char × List Char)}
    (h : CutAfter before first rest) :
    cut (endsInWord before) (first ++ joinRest rest) = first :: rest.map Prod.snd := by
  induction h with
  | last hp =>
    have hnil (glued : Bool) : cut glued [] = [] :: [] := rfl
    simpa using cut_piece hp (.inl rfl) (hnil _)
  | @keyword before piece letters next rest hp hk _ ih =>
    rw [hk.endsInWord_letters] at ih
    have hcut := cut_keyword hk
    rw [ih] at hcut
    have hb := endsInWord_eq_false_iff.2 hk.before_apart
    simpa using cut_piece hp (.inr hb) hcut

theorem Cutting.IsOf.cut_eq {c : Cutting} {text : List Char} (h : c.IsOf text) : cut false text = c.pieces := by
  obtain ⟨rfl, hc⟩ := (c.isOf_iff text).1 h
  exact hc.cut_eq

/-! ## One cutting -/

/-- Keywords of three letters and the pieces behind them are determined by the pieces and the text. -/
theorem rest_ext : ∀ {rest rest' : List (List Char × List Char)},
    (∀ k ∈ rest, k.1.length = 3) → (∀ k ∈ rest', k.1.length = 3) →
    rest.map Prod.snd = rest'.map Prod.snd → joinRest rest = joinRest rest' → rest = rest'
  | [], [], _, _, _, _ => rfl
  | [], _ :: _, _, _, hp, _ => by cases hp
  | _ :: _, [], _, _, hp, _ => by cases hp
  | (l, p) :: rest, (l', p') :: rest', hl, hl', hp, ht => by
    simp only [List.map_cons, List.cons.injEq] at hp
    obtain ⟨rfl, hp⟩ := hp
    rw [joinRest_cons, joinRest_cons] at ht
    have hlen : l.length = l'.length := by
      rw [hl (l, p) (List.mem_cons_self ..), hl' (l', p) (List.mem_cons_self ..)]
    obtain ⟨rfl, hj⟩ := List.append_inj ht hlen
    rw [rest_ext (fun k hk => hl k (List.mem_cons_of_mem _ hk)) (fun k hk => hl' k (List.mem_cons_of_mem _ hk)) hp
      (List.append_cancel_left hj)]

theorem Cutting.IsOf.length_letters {c : Cutting} {text : List Char} (h : c.IsOf text) :
    ∀ k ∈ c.rest, k.1.length = 3 := by
  rintro ⟨letters, piece⟩ hk
  obtain ⟨left, right, e⟩ := List.append_of_mem hk
  exact (h.keywords left letters piece right e).length_letters

theorem Cutting.IsOf.unique {c c' : Cutting} {text : List Char} (h : c.IsOf text) (h' : c'.IsOf text) : c = c' := by
  obtain ⟨first, rest⟩ := c
  obtain ⟨first', rest'⟩ := c'
  -- both have the pieces that `cut` gives, so that only the letters between them could differ
  have hp := h.cut_eq.symm.trans h'.cut_eq
  simp only [Cutting.pieces, List.cons.injEq] at hp
  obtain ⟨rfl, hp⟩ := hp
  have ht : first ++ joinRest rest = first ++ joinRest rest' := h.text_eq.trans h'.text_eq.symm
  have := rest_ext h.length_letters h'.length_letters hp (List.append_cancel_left ht)
  simp only at this
  rw [this]

/-- Every text has exactly one cutting at the keyword. -/
theorem existsUnique_cutting (text : List Char) : ∃! c : Cutting, c.IsOf text := by
  obtain ⟨first, rest, ht, hc⟩ := exists_cutAfter [] text
  have h : Cutting.IsOf ⟨first, rest⟩ text := (Cutting.isOf_iff _ _).2 ⟨ht, hc⟩
  exact ⟨_, h, fun c' h' => h'.unique h⟩

end WhereFilter.Query
