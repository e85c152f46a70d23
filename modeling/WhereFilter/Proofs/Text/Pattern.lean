/-
Patterns that are searched for in a text. A pattern is a row of parts, each one character of a kind or a run of them.
A run takes as many characters as it can and gives them back one by one as long as what follows does not match
(`Repeat.cuts`); of all matches the one that starts first counts (`capture?`). A run is never given back where what
follows cannot start with a character of its kind (`captureHere?_any`, `captureHere?_some`).
-/
import WhereFilter.Proofs.Text.Run

namespace WhereFilter.Text

/-! ## Patterns -/

/-- How many characters a part of a pattern takes: one, any number of them, or any number but none. -/
inductive Repeat
  | one
  | any
  | some
deriving DecidableEq

/-- A part of a pattern: characters of a kind, which are captured or passed over. -/
structure Part where
  kind : Char → Bool
  times : Repeat
  captured : Bool

/-- The cuts of a text behind a run of a kind at its front, in the order in which they are tried: the longest run
first. -/
def runCuts (kind : Char → Bool) : List Char → List (List Char × List Char)
  | [] => [([], [])]
  | c :: rest =>
    if kind c then (runCuts kind rest).map (fun cut => (c :: cut.1, cut.2)) ++ [([], c :: rest)]
    else [([], c :: rest)]

/-- The cuts of a text behind as many characters of a kind, in the order in which they are tried. -/
def Repeat.cuts (kind : Char → Bool) : Repeat → List Char → List (List Char × List Char)
  | .one, [] => []
  | .one, c :: rest => if kind c then [([c], rest)] else []
  | .any, text => runCuts kind text
  | .some, [] => []
  | .some, c :: rest => if kind c then (runCuts kind rest).map fun cut => (c :: cut.1, cut.2) else []

/-- The captures with what a part took before them, if that is captured. -/
def Part.keep (part : Part) (front : List Char) (captures : List (List Char)) : List (List Char) :=
  if part.captured then front :: captures else captures

/-- What a pattern captures at the front of a text: the first way counts on which all its parts match. -/
def captureHere? : List Part → List Char → Option (List (List Char))
  | [], _ => some []
  | part :: pattern, text =>
    (part.times.cuts part.kind text).findSome? fun cut => (captureHere? pattern cut.2).map (part.keep cut.1)

/-- What a pattern captures where it matches first. -/
def capture? (pattern : List Part) : List Char → Option (List (List Char))
  | [] => captureHere? pattern []
  | c :: rest => match captureHere? pattern (c :: rest) with
    | some captures => some captures
    | none => capture? pattern rest

/-! ## Runs -/

section Run

variable {kind : Char → Bool} {pattern : List Part}

/-- The first cut is behind the whole run, and all others are in front of a character of it. -/
theorem runCuts_eq_cons (kind : Char → Bool) : ∀ text : List Char, ∃ shorter,
    runCuts kind text = (text.takeWhile kind, text.dropWhile kind) :: shorter ∧
      ∀ cut ∈ shorter, ∃ c ∈ cut.2.head?, kind c = true
  | [] => ⟨[], rfl, by simp⟩
  | c :: rest => by
    rw [runCuts]
    cases hc : kind c with
    | false => exact ⟨[], by simp [hc], by simp⟩
    | true =>
      obtain ⟨shorter, hcuts, hshorter⟩ := runCuts_eq_cons kind rest
      refine ⟨shorter.map (fun cut => (c :: cut.1, cut.2)) ++ [([], c :: rest)], by simp [hc, hcuts], ?_⟩
      intro cut hcut
      rcases List.mem_append.1 hcut with hcut | hcut
      · obtain ⟨longer, hlonger, rfl⟩ := List.mem_map.1 hcut
        exact hshorter longer hlonger
      · cases List.mem_singleton.1 hcut
        exact ⟨c, rfl, hc⟩

/-- A search through the cuts finds nothing but the whole run, if it fails in front of every character of it. -/
theorem findSome?_runCuts {α : Type} {f : List Char × List Char → Option α}
    (hf : ∀ cut : List Char × List Char, (∃ c ∈ cut.2.head?, kind c = true) → f cut = none) (text : List Char) :
    (runCuts kind text).findSome? f = f (text.takeWhile kind, text.dropWhile kind) := by
  obtain ⟨shorter, hcuts, hshorter⟩ := runCuts_eq_cons kind text
  have hnone : shorter.findSome? f = none := List.findSome?_eq_none_iff.2 fun cut hcut => hf cut (hshorter cut hcut)
  rw [hcuts, List.findSome?_cons, hnone]
  cases f (text.takeWhile kind, text.dropWhile kind) <;> rfl

/-- The pattern matches in front of no character of the kind. -/
def Refuses (pattern : List Part) (kind : Char → Bool) : Prop :=
  ∀ c rest, kind c = true → captureHere? pattern (c :: rest) = none

theorem Refuses.captureHere?_eq_none (h : Refuses pattern kind) {text : List Char}
    (htext : ∃ c ∈ text.head?, kind c = true) : captureHere? pattern text = none := by
  obtain ⟨c, hc, hkind⟩ := htext
  obtain ⟨rest, rfl⟩ := List.head?_eq_some_iff.1 hc
  exact h c rest hkind

theorem captureHere?_one (kind : Char → Bool) (captured : Bool) (pattern : List Part) (c : Char) (rest : List Char) :
    captureHere? (⟨kind, .one, captured⟩ :: pattern) (c :: rest) =
      if kind c then (captureHere? pattern rest).map (Part.keep ⟨kind, .one, captured⟩ [c]) else none := by
  rw [captureHere?, Repeat.cuts]
  split
  · exact List.findSome?_singleton
  · rfl

theorem captureHere?_any (h : Refuses pattern kind) (captured : Bool) (text : List Char) :
    captureHere? (⟨kind, .any, captured⟩ :: pattern) text =
      (captureHere? pattern (text.dropWhile kind)).map (Part.keep ⟨kind, .any, captured⟩ (text.takeWhile kind)) := by
  rw [captureHere?, Repeat.cuts, findSome?_runCuts]
  intro cut hcut
  rw [h.captureHere?_eq_none hcut]; rfl

theorem captureHere?_some (h : Refuses pattern kind) (captured : Bool) (text : List Char) :
    captureHere? (⟨kind, .some, captured⟩ :: pattern) text =
      if text.takeWhile kind = [] then none
      else (captureHere? pattern (text.dropWhile kind)).map
        (Part.keep ⟨kind, .some, captured⟩ (text.takeWhile kind)) := by
  cases text with
  | nil => rfl
  | cons c rest =>
    rw [captureHere?, Repeat.cuts]
    cases hc : kind c with
    | false => simp [hc]
    | true =>
      have hf : ∀ cut : List Char × List Char, (∃ b ∈ cut.2.head?, kind b = true) →
          (captureHere? pattern cut.2).map (Part.keep ⟨kind, .some, captured⟩ (c :: cut.1)) = none := by
        intro cut hcut
        rw [h.captureHere?_eq_none hcut]; rfl
      simp only [hc, if_true, List.findSome?_map, List.takeWhile_cons, List.dropWhile_cons, reduceCtorEq, if_false]
      exact findSome?_runCuts hf rest

end Run

end WhereFilter.Text
