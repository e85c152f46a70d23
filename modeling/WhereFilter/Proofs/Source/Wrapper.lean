/-
Script wrappers. Of a text that declares a variable the part from its first opening bracket to its last
closing one is left, so an array comes out of any wrapper as it went in. Every other text stays as it is,
JSON among them, and what has been unwrapped once is not changed again (`unwrap_laws`).
-/
import WhereFilter.Proofs.Json.Grammar
import WhereFilter.Proofs.Text.Trim
import WhereFilter.Proofs.Text.Word
import WhereFilter.Source.Basic

namespace WhereFilter.Source

open WhereFilter.Text WhereFilter.Json

/-! ## Declarations -/

/-- Behind blanks the text starts with a word that declares a variable, and a blank stands behind the word. -/
def Declares (text : List Char) : Prop :=
  ∃ word ∈ ["var", "let", "const"], ∃ blanks c rest, AllBlank blanks ∧ isBlank c = true ∧
    text = blanks ++ (word.toList ++ c :: rest)

variable {text before between after : List Char}

theorem startsWithWord_iff {word : List Char} :
    startsWithWord text word = true ↔ ∃ c rest, isBlank c = true ∧ text = word ++ c :: rest := by
  rw [startsWithWord, Bool.and_eq_true, List.isPrefixOf_iff_prefix]
  constructor
  · rintro ⟨⟨rest, rfl⟩, hblank⟩
    rw [List.drop_left] at hblank
    cases rest with
    | nil => cases hblank
    | cons c rest => exact ⟨c, rest, hblank, rfl⟩
  · rintro ⟨c, rest, hc, rfl⟩
    rw [List.drop_left]
    exact ⟨List.prefix_append .., hc⟩

theorem isAssignment_iff :
    isAssignment text = true ↔ ∃ word ∈ ["var", "let", "const"], ∃ c rest, isBlank c = true ∧
      text = word.toList ++ c :: rest := by
  simp only [isAssignment, assignmentWords, List.any_cons, List.any_nil, Bool.or_false, Bool.or_eq_true,
    startsWithWord_iff, List.mem_cons, List.not_mem_nil, or_false, exists_eq_or_imp, exists_eq_left]
  rfl

theorem exists_head_of_word {word : String} (h : word ∈ ["var", "let", "const"]) :
    ∃ first letters, word.toList = first :: letters ∧ isBlank first = false ∧ first ∈ ['v', 'l', 'c'] := by
  simp only [List.mem_cons, List.not_mem_nil, or_false] at h
  rcases h with rfl | rfl | rfl <;> exact ⟨_, _, rfl, by decide, by decide⟩

/-- The words themselves start with no blank. -/
theorem isAssignment_trimStart : isAssignment (trimStart text) = true ↔ Declares text := by
  rw [isAssignment_iff]
  constructor
  · rintro ⟨word, hword, c, rest, hc, htext⟩
    refine ⟨word, hword, text.takeWhile isBlank, c, rest, mem_takeWhile, hc, ?_⟩
    rw [← htext, trimStart, List.takeWhile_append_dropWhile]
  · rintro ⟨word, hword, blanks, c, rest, hb, hc, rfl⟩
    obtain ⟨first, letters, hfirst, hblank, -⟩ := exists_head_of_word hword
    exact ⟨word, hword, c, rest, hc, dropWhile_run_append hb (by simpa [hfirst] using hblank)⟩

theorem Declares.append (h : Declares before) (rest : List Char) : Declares (before ++ rest) := by
  obtain ⟨word, hword, blanks, c, tail, hb, hc, rfl⟩ := h
  exact ⟨word, hword, blanks, c, tail ++ rest, hb, hc, by simp⟩

/-! ## Brackets -/

/-- The text has an opening bracket and, somewhere behind it, a closing one. -/
def HoldsArray (text : List Char) : Prop := ∃ before between after, text = before ++ '[' :: (between ++ ']' :: after)

theorem fromOpening_append (h : '[' ∉ before) (rest : List Char) :
    fromOpening (before ++ '[' :: rest) = '[' :: rest := by
  refine dropWhile_run_append (fun c hc => ?_) (by simp)
  rw [bne_iff_ne]
  rintro rfl
  exact h hc

theorem fromOpening_of_not_mem (h : '[' ∉ text) : fromOpening text = [] := by
  rw [fromOpening, List.dropWhile_eq_nil_iff]
  intro c hc
  rw [bne_iff_ne]
  rintro rfl
  exact h hc

/-- No bracket is lost with the blanks at the start. -/
theorem fromOpening_trimStart (text : List Char) : fromOpening (trimStart text) = fromOpening text := by
  conv_rhs => rw [← List.takeWhile_append_dropWhile (p := isBlank) (l := text)]
  refine (List.dropWhile_append_of_pos fun c hc => ?_).symm
  rw [bne_iff_ne]
  rintro rfl
  exact absurd (mem_takeWhile _ hc) (by decide)

theorem upToClosing_append (h : ']' ∉ after) (front : List Char) :
    upToClosing (front ++ ']' :: after) = front ++ [']'] := by
  have hrun : ∀ c ∈ after.reverse, (c != ']') = true := by
    intro c hc
    rw [bne_iff_ne]
    rintro rfl
    exact h (List.mem_reverse.1 hc)
  rw [upToClosing, List.reverse_append, List.reverse_cons, List.append_assoc, dropWhile_run_append hrun (by simp)]
  simp

theorem upToClosing_of_not_mem (h : ']' ∉ text) : upToClosing text = [] := by
  rw [upToClosing, List.reverse_eq_nil_iff, List.dropWhile_eq_nil_iff]
  intro c hc
  rw [bne_iff_ne]
  rintro rfl
  exact h (List.mem_reverse.1 hc)

/-- The brackets may be taken to be the first that opens and the last that closes. -/
theorem HoldsArray.exists_outermost (h : HoldsArray text) :
    ∃ before between after, '[' ∉ before ∧ ']' ∉ after ∧ text = before ++ '[' :: (between ++ ']' :: after) := by
  obtain ⟨before, between, after, rfl⟩ := h
  obtain ⟨first, tail, hfirst, htail, htext⟩ : ∃ first tail, '[' ∉ first ∧ ']' ∈ tail ∧
      before ++ '[' :: (between ++ ']' :: after) = first ++ '[' :: tail := by
    by_cases hb : '[' ∈ before
    · obtain ⟨first, others, rfl, hfirst⟩ := List.eq_append_cons_of_mem hb
      exact ⟨first, others ++ '[' :: (between ++ ']' :: after), hfirst, by simp, by simp⟩
    · exact ⟨before, _, hb, by simp, rfl⟩
  obtain ⟨last, others, hreverse, hlast⟩ := List.eq_append_cons_of_mem (List.mem_reverse.2 htail)
  refine ⟨first, others.reverse, last.reverse, hfirst, by simpa using hlast, ?_⟩
  rw [htext, ← List.reverse_reverse tail, hreverse]
  simp

/-! ## Unwrapping -/

theorem unwrap?_of_not_declares (h : ¬ Declares text) : unwrap? text = some text := by
  rw [← isAssignment_trimStart] at h
  simp only [unwrap?, h, Bool.false_eq_true, if_false]

theorem unwrap?_of_declares (h : Declares text) (ho : '[' ∉ before) (hc : ']' ∉ after)
    (htext : text = before ++ '[' :: (between ++ ']' :: after)) : unwrap? text = some ('[' :: (between ++ [']'])) := by
  have harray : upToClosing (fromOpening (trimStart text)) = '[' :: (between ++ [']']) := by
    rw [fromOpening_trimStart, htext, fromOpening_append ho, ← List.cons_append, upToClosing_append hc]
    rfl
  rw [← isAssignment_trimStart] at h
  simp only [unwrap?, h, if_true, harray]

/-- A text that starts with a bracket declares nothing. -/
theorem unwrap?_opening (text : List Char) : unwrap? ('[' :: text) = some ('[' :: text) := by
  apply unwrap?_of_not_declares
  have htrim : trimStart ('[' :: text) = '[' :: text := dropWhile_of_head (by simp; decide)
  rw [← isAssignment_trimStart, htrim]
  simp [isAssignment, assignmentWords, startsWithWord]

theorem unwrap?_eq_none_iff : unwrap? text = none ↔ Declares text ∧ ¬ HoldsArray text := by
  by_cases hd : Declares text
  · by_cases harray : HoldsArray text
    · obtain ⟨before, between, after, ho, hc, htext⟩ := harray.exists_outermost
      simp [unwrap?_of_declares hd ho hc htext, harray]
    · -- without an array nothing is left between the brackets
      have hnone : upToClosing (fromOpening (trimStart text)) = [] := by
        rw [fromOpening_trimStart]
        by_cases ho : '[' ∈ text
        · obtain ⟨before, rest, rfl, hbefore⟩ := List.eq_append_cons_of_mem ho
          rw [fromOpening_append hbefore]
          apply upToClosing_of_not_mem
          intro hc
          obtain ⟨between, after, hrest⟩ := List.append_of_mem (List.mem_of_ne_of_mem (by decide) hc)
          exact harray ⟨before, between, after, by rw [hrest]⟩
        · rw [fromOpening_of_not_mem ho]
          rfl
      simp only [hd, harray, not_false_eq_true, and_self, iff_true]
      rw [← isAssignment_trimStart] at hd
      simp only [unwrap?, hd, if_true, hnone]
  · simp [unwrap?_of_not_declares hd, hd]

/-- What is left of a text is left of it again. -/
theorem unwrap?_of_unwrap? {body : List Char} (h : unwrap? text = some body) : unwrap? body = some body := by
  by_cases hd : Declares text
  · by_cases harray : HoldsArray text
    · obtain ⟨before, between, after, ho, hc, htext⟩ := harray.exists_outermost
      rw [unwrap?_of_declares hd ho hc htext] at h
      rw [← Option.some.inj h]
      exact unwrap?_opening _
    · rw [unwrap?_eq_none_iff.2 ⟨hd, harray⟩] at h
      cases h
  · rw [unwrap?_of_not_declares hd] at h
    rw [← Option.some.inj h]
    exact unwrap?_of_not_declares hd

/-! ## JSON -/

theorem isBlank_of_isGap {c : Char} (h : isGap c = true) : isBlank c = true := by
  simp only [isGap, Bool.or_eq_true, beq_iff_eq] at h
  rcases h with ((rfl | rfl) | rfl) | rfl <;> decide

/-- No value starts with a blank, nor with a letter by which a word that declares a variable starts. -/
theorem exists_head_apart {form : List Char} (h : ValueForm form) :
    ∃ c rest, form = c :: rest ∧ isBlank c = false ∧ c ∉ ['v', 'l', 'c'] := by
  obtain ⟨c, rest, rfl, hc⟩ := exists_head_of_valueForm h
  refine ⟨c, rest, rfl, ?_⟩
  rcases hc with hc | hdigit
  · simp only [List.mem_cons, List.not_mem_nil, or_false] at hc
    rcases hc with rfl | rfl | rfl | rfl | rfl | rfl | rfl <;> exact ⟨by decide, by simp⟩
  · refine ⟨(Double.plain_of_mem_textChars c (Double.mem_textChars_of_isDigit hdigit)).1, ?_⟩
    simp only [List.mem_cons, List.not_mem_nil, or_false]
    rintro (rfl | rfl | rfl) <;> cases hdigit

theorem not_declares_of_textForm (h : TextForm text) : ¬ Declares text := by
  rintro ⟨word, hword, blanks, c, rest, hb, -, htext⟩
  obtain ⟨first, letters, hfirst, hblank, hmem⟩ := exists_head_of_word hword
  cases h with
  | @around gap form after hg hform _ =>
    obtain ⟨d, tail, rfl, hd, hapart⟩ := exists_head_apart hform
    -- both cuttings end where the blanks end
    obtain ⟨-, heq⟩ := run_append_unique (fun x hx => isBlank_of_isGap (hg x hx)) (by simpa using hd) hb
      (by simpa [hfirst] using hblank) htext
    rw [hfirst] at heq
    obtain ⟨rfl, -⟩ := List.cons.inj heq
    exact hapart hmem

/-! ## Unwrapped texts -/

theorem unwrap_eq_ok_iff {text body : String} : unwrap text = .ok body ↔ unwrap? text.toList = some body.toList := by
  unfold unwrap
  cases unwrap? text.toList with
  | none => simp
  | some array =>
    rw [Except.ok.injEq, Option.some.injEq, ← String.toList_inj, String.toList_ofList]

theorem unwrap_eq_error_iff {text : String} {e : Error} :
    unwrap text = .error e ↔ e = .missingArray ∧ unwrap? text.toList = none := by
  unfold unwrap
  cases unwrap? text.toList with
  | none => simp [eq_comm]
  | some array => simp

/-- A text that starts with a bracket has no wrapper. -/
theorem unwrap_opening (text : List Char) :
    unwrap (String.ofList ('[' :: text)) = .ok (String.ofList ('[' :: text)) := by
  rw [unwrap_eq_ok_iff, String.toList_ofList]
  exact unwrap?_opening text

/-! ## Parsing -/

theorem parse_eq_ok_iff {text : String} {records : List Record} :
    parse text = .ok records ↔ ∃ body, unwrap text = .ok body ∧ Record.readList body = .ok records := by
  unfold parse
  cases unwrap text with
  | error e => simp [bind, Except.bind]
  | ok body => cases hread : Record.readList body <;> simp [bind, Except.bind, hread]

/-- The wrapper is looked at first. -/
theorem parse_eq_error_iff {text : String} {e : Error} :
    parse text = .error e ↔ unwrap text = .error e ∨
      ∃ body error, unwrap text = .ok body ∧ Record.readList body = .error error ∧ e = .invalid error := by
  unfold parse
  cases unwrap text with
  | error failure => simp [bind, Except.bind]
  | ok body => cases hread : Record.readList body <;> simp [bind, Except.bind, hread, eq_comm]

theorem parse_congr {a b : String} (h : unwrap a = unwrap b) : parse a = parse b := by
  rw [parse, parse, h]

/-! ## Laws -/

/-- An array comes out of a wrapper as it is, and is parsed with it as without it. A text of JSON stays as
it is, and so does what is left of any text. Nothing is left only of a declaration without an array. -/
theorem unwrap_laws :
    (∀ before array after : String, Declares before.toList → '[' ∉ before.toList →
      array.toList.head? = some '[' → array.toList.getLast? = some ']' → ']' ∉ after.toList →
      unwrap (before ++ array ++ after) = .ok array ∧ parse (before ++ array ++ after) = parse array) ∧
    (∀ text : String, TextForm text.toList → unwrap text = .ok text) ∧
    (∀ text : String, (unwrap text).bind unwrap = unwrap text) ∧
    ∀ (text : String) (e : Error), unwrap text = .error e ↔
      e = .missingArray ∧ Declares text.toList ∧ ¬ HoldsArray text.toList := by
  refine ⟨fun before array after hd ho hhead hlast hc => ?_, fun text h => ?_, fun text => ?_, fun text e => ?_⟩
  · obtain ⟨between, harray⟩ : ∃ between, array.toList = '[' :: (between ++ [']']) := by
      obtain ⟨tail, htail⟩ := List.head?_eq_some_iff.1 hhead
      rcases tail.eq_nil_or_concat with rfl | ⟨between, c, rfl⟩
      · rw [htail] at hlast
        cases hlast
      · refine ⟨between, ?_⟩
        rw [List.concat_eq_append] at htail
        rw [htail, ← List.cons_append, List.getLast?_concat, Option.some.injEq] at hlast
        rw [htail, hlast]
    have hwrapped : unwrap (before ++ array ++ after) = .ok array := by
      rw [unwrap_eq_ok_iff, harray, String.toList_append, String.toList_append, List.append_assoc]
      exact unwrap?_of_declares (hd.append _) ho hc (by simp [harray])
    have hbare : unwrap array = .ok array := by
      rw [← String.ofList_toList (s := array), harray]
      exact unwrap_opening _
    exact ⟨hwrapped, parse_congr (hwrapped.trans hbare.symm)⟩
  · rw [unwrap_eq_ok_iff]
    exact unwrap?_of_not_declares (not_declares_of_textForm h)
  · cases h : unwrap text with
    | error e => rfl
    | ok body =>
      rw [unwrap_eq_ok_iff] at h
      exact unwrap_eq_ok_iff.2 (unwrap?_of_unwrap? h)
  · rw [unwrap_eq_error_iff, unwrap?_eq_none_iff]

/-- An array whose strings hold brackets and a declaration, in a wrapper with a letter of two bytes, and a
text of JSON that is a declaration in quotes. -/
theorem unwrap_laws_of_brackets :
    let before := "\u3000const größe =\n"
    let array := "[\x7b\"]\":\"var a = [0];\"\x7d]"
    unwrap (before ++ array ++ ";\n\x7d") = .ok array ∧
      (parse (before ++ array ++ ";\n\x7d")).toOption.map (·.map (·.toJson.compactText)) =
        some ["\x7b\"]\":\"var a = [0];\"\x7d"] ∧
      unwrap "\t\"let b = [1]\"" = .ok "\t\"let b = [1]\"" := by
  intro before array
  obtain ⟨hwrapped, hjson, -, -⟩ := unwrap_laws
  have hdeclares : Declares before.toList :=
    ⟨"const", by simp, ['\u3000'], ' ', "größe =\n".toList, List.forall_mem_singleton.2 (by decide), by decide,
      by decide⟩
  obtain ⟨hunwrap, hparse⟩ := hwrapped before array ";\n\x7d" hdeclares (by decide) (by decide) (by decide) (by decide)
  refine ⟨hunwrap, ?_, ?_⟩
  · rw [hparse]
    decide +kernel
  · have hread : (Json.read "\t\"let b = [1]\"").toOption.map Json.compactText = some "\"let b = [1]\"" := by
      decide +kernel
    cases h : Json.read "\t\"let b = [1]\"" with
    | error e => rw [h] at hread; cases hread
    | ok j => exact hjson _ (textForm_of_read h)

end WhereFilter.Source
