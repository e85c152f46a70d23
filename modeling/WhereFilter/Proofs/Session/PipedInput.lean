/-
Piped input. Lines that differ in blanks around them only are answered alike (`answerAll_cons_congr`), and
no prompt is written, so it does not matter how lines end, nor whether the last one does: the loop over
bytes goes as the loop over what stands between their line feeds (`promptLoop_ofBytes`). A line that is no
text breaks the loop off behind everything that was written before it, unless the loop has been left by
then (`promptLoop_piped`).
-/
import WhereFilter.CommandLine.Program
import WhereFilter.Proofs.Session.PromptLoop
import WhereFilter.Proofs.Text.Utf8

namespace WhereFilter

open WhereFilter.Text

namespace InputLine

/-! ## Lines and pieces -/

/-- The line that bytes are, all of them. -/
def ofLine (bytes : List UInt8) : InputLine :=
  match String.fromUTF8? ⟨bytes.toArray⟩ with
  | some line => text line
  | none => notText

/-- Both lines are texts, which differ in the blanks around them only, or neither is. -/
inductive Alike : InputLine → InputLine → Prop
  | text {a b : String} : trim a.toList = trim b.toList → Alike (.text a) (.text b)
  | notText : Alike .notText .notText

theorem Alike.refl (line : InputLine) : Alike line line := by
  cases line with
  | text line => exact .text rfl
  | notText => exact .notText

theorem ofLine_utf8 (line : List Char) : ofLine (utf8 line) = text (String.ofList line) := by
  rw [ofLine, fromUTF8?_utf8]

/-- A carriage return at the end makes no difference. -/
theorem alike_return (bytes : List UInt8) : Alike (ofLine bytes) (ofLine (bytes ++ [carriageReturn])) := by
  have hsign : '\r'.toNat < 0x80 := by decide
  cases h : String.fromUTF8? ⟨bytes.toArray⟩ with
  | some line =>
    have hreturn : bytes ++ [carriageReturn] = utf8 (line.toList ++ ['\r']) :=
      (append_eq_utf8_iff hsign).2 ⟨_, rfl, fromUTF8?_eq_some_iff.1 h⟩
    rw [hreturn, ofLine_utf8, ofLine, h]
    apply Alike.text
    rw [String.toList_ofList, trim_append_blank (List.forall_mem_singleton.2 (by decide))]
  | none =>
    have hnone : String.fromUTF8? ⟨(bytes ++ [carriageReturn]).toArray⟩ = none := by
      rw [Option.eq_none_iff_forall_ne_some]
      intro line hline
      obtain ⟨before, -, hb⟩ := (append_eq_utf8_iff hsign).1 (fromUTF8?_eq_some_iff.1 hline)
      rw [hb, fromUTF8?_utf8] at h; cases h
    rw [ofLine, ofLine, h, hnone]
    exact .notText

theorem withoutEnd_of_not_mem {line : List UInt8} (h : lineFeed ∉ line) : withoutEnd line = line := by
  rcases line.eq_nil_or_concat with rfl | ⟨line, b, rfl⟩
  · rfl
  · have hb : b ≠ lineFeed := fun hb => h (by simp [hb])
    simp [withoutEnd, hb]

/-- A piece that ends with a line feed holds the line before it. -/
theorem alike_ofPiece (line : List UInt8) : Alike (ofPiece (line ++ [lineFeed])) (ofLine line) := by
  rcases line.eq_nil_or_concat with rfl | ⟨line, b, rfl⟩
  · exact .refl _
  rw [List.concat_eq_append]
  by_cases hb : b = carriageReturn
  · have hend : withoutEnd (line ++ [b] ++ [lineFeed]) = line := by simp [withoutEnd, hb]
    have hpiece : ofPiece (line ++ [b] ++ [lineFeed]) = ofLine line := by rw [ofPiece, hend]; rfl
    rw [hpiece, hb]
    exact alike_return line
  · have hend : withoutEnd (line ++ [b] ++ [lineFeed]) = line ++ [b] := by simp [withoutEnd, hb]
    have hpiece : ofPiece (line ++ [b] ++ [lineFeed]) = ofLine (line ++ [b]) := by rw [ofPiece, hend]; rfl
    rw [hpiece]
    exact .refl _

theorem pieces_of_not_mem {line : List UInt8} (h : lineFeed ∉ line) (h0 : line ≠ []) : pieces line = [line] := by
  induction line with
  | nil => exact absurd rfl h0
  | cons b line ih =>
    rw [List.mem_cons, not_or] at h
    obtain ⟨hb, hline⟩ := h
    rw [pieces, if_neg (Ne.symm hb)]
    cases line with
    | nil => rfl
    | cons c line => rw [ih hline (List.cons_ne_nil _ _)]

theorem pieces_append {line : List UInt8} (h : lineFeed ∉ line) (rest : List UInt8) :
    pieces (line ++ lineFeed :: rest) = (line ++ [lineFeed]) :: pieces rest := by
  induction line with
  | nil => rw [List.nil_append, pieces, if_pos rfl]; rfl
  | cons b line ih =>
    rw [List.mem_cons, not_or] at h
    obtain ⟨hb, hline⟩ := h
    rw [List.cons_append, pieces, if_neg (Ne.symm hb), ih hline]
    rfl

theorem ofBytes_append {line : List UInt8} (h : lineFeed ∉ line) (rest : List UInt8) :
    ofBytes (line ++ lineFeed :: rest) = ofPiece (line ++ [lineFeed]) :: ofBytes rest := by
  rw [ofBytes, pieces_append h]; rfl

theorem ofBytes_of_not_mem {line : List UInt8} (h : lineFeed ∉ line) (h0 : line ≠ []) :
    ofBytes line = [ofLine line] := by
  rw [ofBytes, pieces_of_not_mem h h0, List.map_singleton, ofPiece, withoutEnd_of_not_mem h]; rfl

end InputLine

open InputLine

namespace Session

variable {s : Session} {interactive : Bool}

/-! ## Lines that are answered alike -/

theorem isExit_congr {a b : String} (h : trim a.toList = trim b.toList) : isExit a = isExit b := by
  rw [isExit, isExit, h]

theorem answer_congr {a b : String} (h : trim a.toList = trim b.toList) : s.answer a = s.answer b := by
  rw [answer, answer, h]

theorem answerAll_cons_congr {x y : InputLine} {xs ys : List InputLine} (h : Alike x y)
    (hs : s.answerAll interactive xs = s.answerAll interactive ys) :
    s.answerAll interactive (x :: xs) = s.answerAll interactive (y :: ys) := by
  cases h with
  | text h => rw [answerAll, answerAll, isExit_congr h, answer_congr h, hs]
  | notText => rfl

theorem answerAll_congr {xs ys : List InputLine} (h : List.Forall₂ Alike xs ys) :
    s.answerAll interactive xs = s.answerAll interactive ys := by
  induction h with
  | nil => rfl
  | cons h _ ih => exact answerAll_cons_congr h ih

/-- A blank line at the end makes no difference where no prompt shows it. -/
theorem answerAll_append_blank {line : String} (hb : AllBlank line.toList) (lines : List InputLine) :
    s.answerAll false (lines ++ [.text line]) = s.answerAll false lines := by
  induction lines with
  | nil =>
    have hstay : ¬ AsksToLeave line := by
      rw [AsksToLeave, trim_eq_nil_iff.2 hb]
      decide
    rw [List.nil_append, answerAll_cons hstay, answer_of_allBlank hb]
    rfl
  | cons first lines ih => exact answerAll_cons_congr (.refl first) ih

/-- The loop over bytes goes as the loop over what stands between their line feeds. -/
theorem answerAll_ofBytes (bytes : List UInt8) :
    s.answerAll false (ofBytes bytes) = s.answerAll false ((bytes.splitOn lineFeed).map ofLine) := by
  induction hn : bytes.length using Nat.strongRecOn generalizing bytes with
  | ind n ih =>
    by_cases hmem : lineFeed ∈ bytes
    · obtain ⟨line, rest, rfl, hline⟩ := List.eq_append_cons_of_mem hmem
      have hrest : rest.length < n := by rw [← hn, List.length_append, List.length_cons]; omega
      rw [ofBytes_append hline, List.splitOn_append_cons_self_of_not_mem hline, List.map_cons]
      exact answerAll_cons_congr (alike_ofPiece line) (ih _ hrest rest rfl)
    · rw [List.splitOn_eq_singleton hmem, List.map_singleton]
      by_cases h0 : bytes = []
      · -- after the last line feed there is no piece, but still an empty line
        subst h0
        have hempty : ofLine [] = .text "" := ofLine_utf8 []
        rw [hempty]
        exact (answerAll_append_blank (by simp [allBlank_nil]) []).symm
      · rw [ofBytes_of_not_mem hmem h0]

theorem promptLoop_ofBytes (bytes : List UInt8) :
    s.promptLoop false (ofBytes bytes) = s.promptLoop false ((bytes.splitOn lineFeed).map ofLine) := by
  rw [promptLoop, answerAll_ofBytes]; rfl

/-! ## Lines that are no text -/

/-- Bytes that are a line that asks to leave. -/
def IsLeaving (line : List UInt8) : Prop := ∃ text, ofLine line = .text text ∧ AsksToLeave text

/-- Where nobody has asked to leave, a line that is no text breaks the loop off. -/
theorem answerAll_notText {before after : List InputLine}
    (h : ∀ text, .text text ∈ before → ¬ AsksToLeave text) :
    s.answerAll interactive (before ++ .notText :: after) = ⟨(s.answerAll interactive before).transcript, true⟩ := by
  induction before with
  | nil => rfl
  | cons line before ih =>
    have ih := ih fun text ht => h text (List.mem_cons_of_mem _ ht)
    cases line with
    | notText => rfl
    | text line =>
      have hstay := h line (List.mem_cons_self ..)
      rw [List.cons_append, answerAll_cons hstay, answerAll_cons hstay, ih]

/-- Behind a line that asks to leave nothing is looked at. -/
theorem answerAll_append_of_leave {before : List InputLine} (h : ∃ text, .text text ∈ before ∧ AsksToLeave text)
    (after : List InputLine) : s.answerAll interactive (before ++ after) = s.answerAll interactive before := by
  induction before with
  | nil => obtain ⟨text, ht, -⟩ := h; cases ht
  | cons line before ih =>
    cases line with
    | notText => rfl
    | text line =>
      by_cases hleave : AsksToLeave line
      · rw [List.cons_append, answerAll, answerAll, (isExit_iff line).2 hleave]; rfl
      · rw [List.cons_append, answerAll_cons hleave, answerAll_cons hleave, ih]
        obtain ⟨text, ht, hasks⟩ := h
        rcases List.mem_cons.1 ht with ht | ht
        · cases ht; exact absurd hasks hleave
        · exact ⟨text, ht, hasks⟩

/-! ## Ends of lines -/

/-- Some of the line feeds of a text get a carriage return before them. -/
inductive ReturnsAdded : List Char → List Char → Prop
  | nil : ReturnsAdded [] []
  | kept (c : Char) {text changed : List Char} : ReturnsAdded text changed → ReturnsAdded (c :: text) (c :: changed)
  | added {text changed : List Char} : ReturnsAdded text changed → ReturnsAdded ('\n' :: text) ('\r' :: '\n' :: changed)

/-- The lines between the line feeds get blanks at their ends at most. -/
theorem ReturnsAdded.lines {text changed : List Char} (h : ReturnsAdded text changed) :
    List.Forall₂ (fun line longer => ∃ blanks, AllBlank blanks ∧ longer = line ++ blanks)
      (text.splitOn '\n') (changed.splitOn '\n') := by
  induction h with
  | nil => exact .cons ⟨[], allBlank_nil, rfl⟩ .nil
  | @kept c text changed _ ih =>
    rw [List.splitOn_cons_eq_if_modifyHead, List.splitOn_cons_eq_if_modifyHead]
    split
    · exact .cons ⟨[], allBlank_nil, rfl⟩ ih
    · generalize text.splitOn '\n' = lines at ih ⊢
      generalize changed.splitOn '\n' = longer at ih ⊢
      cases ih with
      | nil => exact .nil
      | cons hline hlines =>
        obtain ⟨blanks, hb, rfl⟩ := hline
        exact .cons ⟨blanks, hb, rfl⟩ hlines
  | @added text changed _ ih =>
    have hreturn : AllBlank ['\r'] := List.forall_mem_singleton.2 (by decide)
    have hsplit : ('\n' :: text).splitOn '\n' = [] :: text.splitOn '\n' := List.splitOn_append_cons_self [] text
    have hsplit' : ('\r' :: '\n' :: changed).splitOn '\n' = ['\r'] :: changed.splitOn '\n' :=
      List.splitOn_append_cons_self_of_not_mem (show '\n' ∉ ['\r'] by decide) changed
    rw [hsplit, hsplit']
    exact .cons ⟨['\r'], hreturn, rfl⟩ ih

/-- The lines of a text between its line feeds. -/
def linesOf (content : List Char) : List InputLine := (content.splitOn '\n').map fun line => .text (String.ofList line)

/-- The bytes of a text between their line feeds are the lines of the text. -/
theorem map_ofLine_splitOn (content : List Char) : ((utf8 content).splitOn lineFeed).map ofLine = linesOf content := by
  have hsplit : (utf8 content).splitOn lineFeed = (content.splitOn '\n').map utf8 :=
    splitOn_utf8 (show '\n'.toNat < 0x80 by decide) content
  rw [hsplit, List.map_map]
  exact List.map_congr_left fun line _ => ofLine_utf8 line

theorem promptLoop_utf8 (content : List Char) :
    s.promptLoop false (ofBytes (utf8 content)) = s.promptLoop false (linesOf content) := by
  rw [promptLoop_ofBytes, map_ofLine_splitOn]

theorem ReturnsAdded.promptLoop_eq {content changed : List Char} (h : ReturnsAdded content changed) :
    s.promptLoop interactive (linesOf content) = s.promptLoop interactive (linesOf changed) := by
  have halike : List.Forall₂ Alike (linesOf content) (linesOf changed) := by
    rw [linesOf, linesOf, List.forall₂_map_left_iff, List.forall₂_map_right_iff]
    refine h.lines.imp fun line longer => ?_
    rintro ⟨blanks, hb, rfl⟩
    apply Alike.text
    rw [String.toList_ofList, String.toList_ofList, trim_append_blank hb]
  rw [promptLoop, answerAll_congr halike]; rfl

theorem promptLoop_final_lineFeed (content : List Char) :
    s.promptLoop false (linesOf (content ++ ['\n'])) = s.promptLoop false (linesOf content) := by
  have hlines : linesOf (content ++ ['\n']) = linesOf content ++ [.text ""] := by
    rw [linesOf, List.splitOn_append_cons_self, List.map_append]; rfl
  have hblank : AllBlank "".toList := allBlank_nil
  rw [hlines, promptLoop, answerAll_append_blank hblank]; rfl

/-- That a loop broke off is told behind what it has written. -/
theorem afterLoop_brokeOff (written : Transcript) :
    Program.afterLoop ⟨written, true⟩ =
      ⟨1, written.out, written.err ++ "Error: I/O error: stream did not contain valid UTF-8\n\nCaused by:" ++
        "\n    stream did not contain valid UTF-8\n"⟩ := by
  rw [String.append_assoc]
  rfl

/-- Text that is piped in is answered like its lines between the line feeds, whatever the session; carriage
returns before line feeds make no difference, nor does a line feed at the end. Of bytes in general the lines
between the line feeds are answered up to the first that asks to leave. Where a line is no text and nobody
has asked to leave before it, what is written is what the loop over the lines before it writes, and the run
fails and tells why; where somebody has, the line makes no difference. -/
theorem promptLoop_piped (s : Session) :
    (∀ content : String, s.promptLoop false (ofBytes content.toUTF8.data.toList) =
      s.promptLoop false ((content.toList.splitOn '\n').map fun line => .text (String.ofList line))) ∧
    (∀ content changed : String, ReturnsAdded content.toList changed.toList →
      s.promptLoop false (ofBytes changed.toUTF8.data.toList) =
        s.promptLoop false (ofBytes content.toUTF8.data.toList)) ∧
    (∀ content : String, s.promptLoop false (ofBytes (content ++ "\n").toUTF8.data.toList) =
      s.promptLoop false (ofBytes content.toUTF8.data.toList)) ∧
    ∀ (bytes : List UInt8) (before : List (List UInt8)) (bad : List UInt8) (after : List (List UInt8)),
      bytes.splitOn lineFeed = before ++ bad :: after → String.fromUTF8? ⟨bad.toArray⟩ = none →
      ((∀ line ∈ before, ¬ IsLeaving line) →
        s.promptLoop false (ofBytes bytes) = ⟨(s.promptLoop false (before.map ofLine)).transcript, true⟩ ∧
        Program.afterLoop (s.promptLoop false (ofBytes bytes)) =
          ⟨1, (s.promptLoop false (before.map ofLine)).transcript.out,
            (s.promptLoop false (before.map ofLine)).transcript.err ++
              "Error: I/O error: stream did not contain valid UTF-8\n\nCaused by:" ++
              "\n    stream did not contain valid UTF-8\n"⟩) ∧
      ((∃ line ∈ before, IsLeaving line) →
        s.promptLoop false (ofBytes bytes) = s.promptLoop false (before.map ofLine)) := by
  refine ⟨fun content => ?_, fun content changed h => ?_, fun content => ?_,
    fun bytes before bad after hsplit hbad => ?_⟩
  · rw [toUTF8_eq, promptLoop_utf8]; rfl
  · rw [toUTF8_eq, toUTF8_eq, promptLoop_utf8, promptLoop_utf8, h.promptLoop_eq]
  · rw [toUTF8_eq, toUTF8_eq, promptLoop_utf8, promptLoop_utf8, String.toList_append]
    exact promptLoop_final_lineFeed _
  have hline : ofLine bad = .notText := by rw [ofLine, hbad]
  have hlines : (bytes.splitOn lineFeed).map ofLine = before.map ofLine ++ .notText :: after.map ofLine := by
    rw [hsplit, List.map_append, List.map_cons, hline]
  constructor
  · intro hstay
    have hnobody : ∀ text, .text text ∈ before.map ofLine → ¬ AsksToLeave text := by
      intro text ht hasks
      obtain ⟨line, hmem, hl⟩ := List.mem_map.1 ht
      exact hstay line hmem ⟨text, hl, hasks⟩
    have hloop : s.promptLoop false (ofBytes bytes) = ⟨(s.promptLoop false (before.map ofLine)).transcript, true⟩ := by
      rw [promptLoop_ofBytes, hlines, promptLoop, answerAll_notText hnobody]; rfl
    refine ⟨hloop, ?_⟩
    rw [hloop, afterLoop_brokeOff]
  · rintro ⟨line, hmem, text, hl, hasks⟩
    have hsomebody : ∃ text, .text text ∈ before.map ofLine ∧ AsksToLeave text :=
      ⟨text, List.mem_map.2 ⟨line, hmem, hl⟩, hasks⟩
    rw [promptLoop_ofBytes, hlines, promptLoop, answerAll_append_of_leave hsomebody]; rfl

/-- A carriage return; a query and then bytes that are no text; the same bytes behind a line that asks to leave. -/
theorem promptLoop_piped_of_bad_line :
    let s : Session := ⟨[], ⟨.json, true, false⟩⟩
    let bad : List UInt8 := [0xff, 0x41]
    s.promptLoop false (ofBytes "WHERE\r\nquit".toUTF8.data.toList) =
      s.promptLoop false (ofBytes "WHERE\nquit".toUTF8.data.toList) ∧
    s.promptLoop false (ofBytes (utf8 "WHERE".toList ++ lineFeed :: bad ++ lineFeed :: utf8 "WHERE".toList)) =
      ⟨(s.promptLoop false [.text "WHERE"]).transcript, true⟩ ∧
    s.promptLoop false (ofBytes (utf8 "Exit ".toList ++ lineFeed :: bad)) = s.promptLoop false [.text "Exit "] := by
  intro s bad
  have hbad : String.fromUTF8? ⟨bad.toArray⟩ = none := by decide
  obtain ⟨-, hreturn, -, hlines⟩ := promptLoop_piped s
  have hstay : ∀ line ∈ [utf8 "WHERE".toList], ¬ IsLeaving line := by
    rintro line hline ⟨text, htext, hasks⟩
    rw [List.mem_singleton.1 hline, ofLine_utf8] at htext
    cases htext
    exact absurd ((isExit_iff _).2 hasks) (by decide)
  have hexit : ∃ line ∈ [utf8 "Exit ".toList], IsLeaving line :=
    ⟨_, List.mem_singleton_self _, "Exit ", ofLine_utf8 _, (isExit_iff _).1 (by decide)⟩
  refine ⟨hreturn "WHERE\nquit" "WHERE\r\nquit" ?_, ?_, ?_⟩
  · exact .kept _ (.kept _ (.kept _ (.kept _ (.kept _ (.added (.kept _ (.kept _ (.kept _ (.kept _ .nil)))))))))
  · exact ((hlines _ [utf8 "WHERE".toList] bad [utf8 "WHERE".toList] (by decide) hbad).1 hstay).1
  · exact (hlines (utf8 "Exit ".toList ++ lineFeed :: bad) [utf8 "Exit ".toList] bad [] (by decide) hbad).2 hexit

end Session

end WhereFilter
