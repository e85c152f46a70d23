/-
A whole prompt loop. Up to the first line that asks to leave every line is answered by itself, as the
session and the line alone have it (`answered_iff`), and the transcript of the loop is made of these
answers in order, each behind a prompt if somebody is there to see it (`promptLoop_answers`).
-/
import WhereFilter.Proofs.Text.Trim
import WhereFilter.Session.PromptLoop
import Mathlib.Data.List.Forall2

namespace WhereFilter

open WhereFilter.Text

/-! ## Queries with blanks around them -/

theorem Text.trim_trim (text : List Char) : trim (trim text) = trim text := trim_of_trimmed (trimmed_trim text)

/-- Blanks around a query make no difference, unless there is nothing else. -/
theorem Query.parse_trim {input : String} (h : ¬ AllBlank input.toList) :
    Query.parse (String.ofList (trim input.toList)) = Query.parse input := by
  have h0 : (trim input.toList).isEmpty = false := by
    rw [List.isEmpty_eq_false_iff]
    exact fun hn => h (trim_eq_nil_iff.1 hn)
  simp only [Query.parse, String.toList_ofList, trim_trim, h0, Bool.false_eq_true, if_false]

theorem Query.not_parse_of_allBlank {input : String} (h : AllBlank input.toList) (q : Query) :
    Query.parse input ≠ .ok q := by
  simp [Query.parse, trim_eq_nil_iff.2 h]

namespace Session

/-! ## Lines -/

/-- A line that asks to leave: one of two words in any case, with blanks around it or without. -/
def AsksToLeave (line : String) : Prop :=
  (trim line.toList).map Char.toLower = "exit".toList ∨ (trim line.toList).map Char.toLower = "quit".toList

theorem isExit_iff (line : String) : isExit line = true ↔ AsksToLeave line := by
  have he : ['e', 'x', 'i', 't'].map Char.toLower = "exit".toList := by decide
  have hq : ['q', 'u', 'i', 't'].map Char.toLower = "quit".toList := by decide
  simp only [isExit, exitWords, List.any_cons, List.any_nil, Bool.or_false, sameIgnoringAsciiCase, Bool.or_eq_true,
    beq_iff_eq, he, hq, AsksToLeave]

/-- What is written for a line, where `m` records match. A single run of the query writes the same
results, and counts as many matches. -/
inductive Answered (s : Session) (line : String) : Transcript → Prop
  | blank : AllBlank line.toList → Answered s line ⟨"", "", 0, 0⟩
  | refused {m : Malformed} : ¬ AllBlank line.toList → Query.parse line = .error m →
      Answered s line ⟨"", m.message ++ "\n", 0, 1⟩
  | explained {text : String} {q : Query} {m : Nat} : s.settings.explain = true → Query.parse line = .ok q →
      q.count s.records = m → s.execute line = .ok ⟨text, m⟩ → Answered s line ⟨text, "", 1, 0⟩
  | counted {text : String} {q : Query} {m : Nat} : s.settings.explain = false → s.settings.countOnly = true →
      Query.parse line = .ok q → q.count s.records = m → s.execute line = .ok ⟨text, m⟩ →
      Answered s line ⟨"\nMatched Records: " ++ toString m ++ "\n\n", "", 1, 0⟩
  | listed {text : String} {q : Query} {m : Nat} : s.settings.explain = false → s.settings.countOnly = false →
      Query.parse line = .ok q → q.count s.records = m → s.execute line = .ok ⟨text, m⟩ →
      Answered s line ⟨"\nMatched Records: " ++ toString m ++ "\n\n" ++ text, "", 1, 0⟩

theorem execute_eq_ok_iff {s : Session} {line : String} {q : Query} {r : Report} (h : Query.parse line = .ok q) :
    s.execute line = .ok r ↔ r = s.report q := by
  have hx : s.execute line = .ok (s.report q) := by rw [execute, h]; rfl
  rw [hx, Except.ok.injEq, eq_comm]

theorem count_eq (s : Session) (q : Query) : q.count s.records = (q.filter s.records).length :=
  List.countP_eq_length_filter

theorem heading_eq (m : Nat) : heading m = "\nMatched Records: " ++ toString m ++ "\n\n" := rfl

/-- The report in a loop, by what a single run of the query reports. -/
theorem headedReport_text (s : Session) (q : Query) :
    (s.headedReport q).text = if s.settings.explain then (s.report q).text
      else heading (q.count s.records) ++ if s.settings.countOnly then "" else (s.report q).text := by
  simp only [headedReport, report, count_eq]
  split
  · rfl
  · split <;> rfl

theorem report_found (s : Session) (q : Query) : (s.report q).found = q.count s.records := by
  simp only [report, count_eq]

theorem answer_of_allBlank {s : Session} {line : String} (h : AllBlank line.toList) :
    s.answer line = ⟨"", "", 0, 0⟩ := by
  simp [answer, trim_eq_nil_iff.2 h, Transcript.empty]

theorem answer_of_not_allBlank {s : Session} {line : String} (h : ¬ AllBlank line.toList) :
    s.answer line = match Query.parse line with
      | .ok q => s.carryOut q
      | .error m => refuse m := by
  have h0 : (trim line.toList).isEmpty = false := by
    rw [List.isEmpty_eq_false_iff]
    exact fun hn => h (trim_eq_nil_iff.1 hn)
  cases hp : Query.parse line <;> simp only [answer, h0, Bool.false_eq_true, if_false, Query.parse_trim h, hp]

theorem answer_of_parse {s : Session} {line : String} {q : Query} (h : Query.parse line = .ok q) :
    s.answer line = ⟨(s.headedReport q).text, "", 1, 0⟩ := by
  rw [answer_of_not_allBlank fun hb => Query.not_parse_of_allBlank hb q h, h]; rfl

theorem answered_answer (s : Session) (line : String) : Answered s line (s.answer line) := by
  by_cases hb : AllBlank line.toList
  · rw [answer_of_allBlank hb]; exact .blank hb
  cases hp : Query.parse line with
  | error m => rw [answer_of_not_allBlank hb, hp]; exact .refused hb hp
  | ok q =>
    have hx : s.execute line = .ok ⟨(s.report q).text, q.count s.records⟩ :=
      (execute_eq_ok_iff hp).2 (by rw [← report_found])
    rw [answer_of_parse hp, headedReport_text, heading_eq]
    -- the two flags decide what stands in the report
    cases he : s.settings.explain with
    | true => exact .explained he hp rfl hx
    | false =>
      cases hn : s.settings.countOnly with
      | true =>
        simp only [Bool.false_eq_true, if_false, if_true, String.append_empty]
        exact .counted he hn hp rfl hx
      | false => exact .listed he hn hp rfl hx

theorem Answered.eq_answer {s : Session} {line : String} {t : Transcript} (h : Answered s line t) :
    t = s.answer line := by
  cases h with
  | blank hb => exact (answer_of_allBlank hb).symm
  | refused hb hp => rw [answer_of_not_allBlank hb, hp]; rfl
  | explained he hp hc hx =>
    have ht := congrArg Report.text ((execute_eq_ok_iff hp).1 hx)
    simp only [answer_of_parse hp, headedReport_text, ← ht, he, if_true]
  | counted he hn hp hc hx =>
    simp only [answer_of_parse hp, headedReport_text, heading_eq, hc, he, hn, Bool.false_eq_true, if_false, if_true,
      String.append_empty]
  | listed he hn hp hc hx =>
    have ht := congrArg Report.text ((execute_eq_ok_iff hp).1 hx)
    simp only [answer_of_parse hp, headedReport_text, heading_eq, hc, ← ht, he, hn, Bool.false_eq_true, if_false]

/-- A line has one answer in a session. -/
theorem answered_iff {s : Session} {line : String} {t : Transcript} : Answered s line t ↔ t = s.answer line :=
  ⟨Answered.eq_answer, fun h => h ▸ answered_answer s line⟩

/-! ## The loop -/

/-- What is written before a line is read: a prompt if somebody is there to see it. -/
def cue (interactive : Bool) : String := if interactive then "\nEnter your WHERE query:\n> " else ""

theorem prompt_eq (interactive : Bool) : prompt interactive = ⟨cue interactive, "", 0, 0⟩ := rfl

theorem opening_eq (s : Session) :
    s.opening = ⟨"Total records loaded: " ++ toString s.records.length ++ "\n", "", 0, 0⟩ := rfl

theorem append_eq (a b : Transcript) :
    a ++ b = ⟨a.out ++ b.out, a.err ++ b.err, a.executed + b.executed, a.rejected + b.rejected⟩ := rfl

theorem answerAll_cons {s : Session} {interactive : Bool} {line : String} (h : ¬ AsksToLeave line)
    (lines : List InputLine) :
    s.answerAll interactive (.text line :: lines) =
      ⟨prompt interactive ++ s.answer line ++ (s.answerAll interactive lines).transcript,
        (s.answerAll interactive lines).brokeOff⟩ := by
  rw [← isExit_iff] at h
  simp [answerAll, h]

theorem answerAll_end (s : Session) (interactive : Bool) {rest : List String}
    (h : ∀ line ∈ rest.head?, AsksToLeave line) :
    s.answerAll interactive (rest.map .text) = ⟨prompt interactive, false⟩ := by
  cases rest with
  | nil => rfl
  | cons line rest =>
    have := (isExit_iff line).2 (h line rfl)
    simp [answerAll, this]

theorem executed_answer (s : Session) (line : String) :
    (s.answer line).executed = if (Query.parse line).isOk then 1 else 0 := by
  by_cases hb : AllBlank line.toList
  · have hn : (Query.parse line).isOk = false := by simp [Query.parse, trim_eq_nil_iff.2 hb, Except.toBool]
    rw [answer_of_allBlank hb, hn]; rfl
  · rw [answer_of_not_allBlank hb]
    cases Query.parse line <;> rfl

theorem rejected_answer (s : Session) (line : String) :
    (s.answer line).rejected = if !isBlankText line.toList && !(Query.parse line).isOk then 1 else 0 := by
  by_cases hb : AllBlank line.toList
  · have hblank : isBlankText line.toList = true := by simp [isBlankText, trim_eq_nil_iff.2 hb]
    rw [answer_of_allBlank hb, hblank]; rfl
  · have hblank : isBlankText line.toList = false := by simpa [isBlankText, trim_eq_nil_iff] using hb
    rw [answer_of_not_allBlank hb, hblank]
    cases Query.parse line <;> rfl

/-- The lines before the first that asks to leave are answered one by one; what follows is not looked at. -/
theorem answerAll_live (s : Session) (interactive : Bool) {rest : List String}
    (hr : ∀ line ∈ rest.head?, AsksToLeave line) :
    ∀ {live : List String}, (∀ line ∈ live, ¬ AsksToLeave line) →
      s.answerAll interactive ((live ++ rest).map .text) =
        ⟨⟨String.join (live.map fun line => cue interactive ++ (s.answer line).out) ++ cue interactive,
          String.join (live.map fun line => (s.answer line).err),
          live.countP fun line => (Query.parse line).isOk,
          live.countP fun line => !isBlankText line.toList && !(Query.parse line).isOk⟩, false⟩
  | [], _ => by simp [answerAll_end s interactive hr, prompt_eq]
  | line :: live, h => by
    have ih := answerAll_live s interactive hr fun l hl => h l (List.mem_cons_of_mem _ hl)
    rw [List.cons_append, List.map_cons, answerAll_cons (h line (List.mem_cons_self ..)), ih]
    simp [append_eq, prompt_eq, String.append_assoc, executed_answer, rejected_answer, List.countP_cons, Nat.add_comm]

/-- The lines before the first that asks to leave have one answer each. The loop writes the number of
records and then these answers in order, with a prompt before every line that is read and before the
read that ends the loop; it counts the lines that are queries and those that are neither queries nor
blank, and does not break off. -/
theorem promptLoop_answers (s : Session) (interactive : Bool) (lines : List String) :
    ∃ live rest answers, lines = live ++ rest ∧ (∀ line ∈ live, ¬ AsksToLeave line) ∧
      (∀ line ∈ rest.head?, AsksToLeave line) ∧
      List.Forall₂ (fun line answer => ∀ t, Answered s line t ↔ t = answer) live answers ∧
      s.promptLoop interactive (lines.map .text) =
        ⟨⟨"Total records loaded: " ++ toString s.records.length ++ "\n" ++
            String.join (answers.map fun answer => cue interactive ++ answer.out) ++ cue interactive,
          String.join (answers.map Transcript.err),
          live.countP fun line => (Query.parse line).isOk,
          live.countP fun line => !isBlankText line.toList && !(Query.parse line).isOk⟩, false⟩ := by
  have hlive : ∀ line ∈ lines.takeWhile (!isExit ·), ¬ AsksToLeave line := by
    intro line hl
    have := List.all_eq_true.1 List.all_takeWhile line hl
    rw [← isExit_iff]
    simpa using this
  have hrest : ∀ line ∈ (lines.dropWhile (!isExit ·)).head?, AsksToLeave line := by
    intro line hl
    have h := List.head?_dropWhile_not (!isExit ·) lines
    rw [hl] at h
    rw [← isExit_iff]
    simpa using h
  refine ⟨_, _, (lines.takeWhile (!isExit ·)).map s.answer, List.takeWhile_append_dropWhile.symm, hlive, hrest, ?_, ?_⟩
  · exact List.forall₂_map_right_iff.2 (List.forall₂_same.2 fun line _ t => answered_iff)
  · conv_lhs => rw [← List.takeWhile_append_dropWhile (p := (!isExit ·)) (l := lines)]
    rw [promptLoop, answerAll_live s interactive hrest hlive]
    simp [append_eq, opening_eq, Function.comp_def, String.append_assoc]

/-- The answers are not all that is written where prompts are shown: even a loop without lines shows one. -/
theorem promptLoop_not_answers_alone :
    ¬ ∀ (s : Session) (interactive : Bool) (lines live rest : List String) (answers : List Transcript),
      lines = live ++ rest → (∀ line ∈ live, ¬ AsksToLeave line) → (∀ line ∈ rest.head?, AsksToLeave line) →
      List.Forall₂ (Answered s) live answers →
      (s.promptLoop interactive (lines.map .text)).transcript.out =
        "Total records loaded: " ++ toString s.records.length ++ "\n" ++ String.join (answers.map Transcript.out) := by
  intro h
  have := h ⟨[], ⟨.json, false, false⟩⟩ true [] [] [] [] rfl (by simp) (by simp) .nil
  exact absurd this (by decide +kernel)

end Session

end WhereFilter
