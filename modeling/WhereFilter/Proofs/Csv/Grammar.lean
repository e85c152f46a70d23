/-
The grammar of comma separated rows as a relation between texts and tables, and the two laws that it
has with the writer: the grammar gives a text one table at most (`TableOf.unique`), and the writer's text of a
table is in the grammar with that table (`tableOf_lines`). So reading gives back what was written
(`tableOf_lines_iff`).
-/
import WhereFilter.Csv.Writer
import WhereFilter.Proofs.Text.Run

namespace WhereFilter.Csv

open WhereFilter.Text

/-! ## The grammar -/

/-- What a cell is between quotes: any characters, where a quote is written twice. -/
inductive Quoted : List Char → List Char → Prop
  | nil : Quoted [] []
  | quote {text cell : List Char} : Quoted text cell → Quoted ('"' :: '"' :: text) ('"' :: cell)
  | char {c : Char} {text cell : List Char} : c ≠ '"' → Quoted text cell → Quoted (c :: text) (c :: cell)

/-- The characters that stand for themselves only between quotes. -/
def marks : List Char := [',', '"', '\n', '\r']

/-- A cell as a field: itself if it has no marks in it, or between quotes. -/
inductive FieldOf : List Char → List Char → Prop
  | plain {cell : List Char} : (∀ c ∈ cell, c ∉ marks) → FieldOf cell cell
  | quoted {text cell : List Char} : Quoted text cell → FieldOf ('"' :: (text ++ ['"'])) cell

/-- A row: at least one field, commas between the fields, and the end of the line. -/
inductive RowOf : List Char → List (List Char) → Prop
  | last {text cell : List Char} : FieldOf text cell → RowOf (text ++ ['\n']) [cell]
  | more {text cell rest : List Char} {row : List (List Char)} : FieldOf text cell → RowOf rest row →
      RowOf (text ++ ',' :: rest) (cell :: row)

/-- A table: rows one after another. An empty line is passed over by some readers and is a row of one
empty cell to others. -/
inductive TableOf (skipsEmpty : Bool) : List Char → List (List (List Char)) → Prop
  | nil : TableOf skipsEmpty [] []
  | row {text rest : List Char} {row : List (List Char)} {table : List (List (List Char))} : RowOf text row →
      (skipsEmpty = true → text ≠ ['\n']) → TableOf skipsEmpty rest table →
      TableOf skipsEmpty (text ++ rest) (row :: table)
  | emptyLine {rest : List Char} {table : List (List (List Char))} : skipsEmpty = true →
      TableOf skipsEmpty rest table → TableOf skipsEmpty ('\n' :: rest) table

/-! ## One reading -/

/-- Behind a quoted cell stands the first quote that no other quote follows. -/
theorem Quoted.unique {text cell : List Char} (h : Quoted text cell) :
    ∀ {text' cell' rest rest' : List Char}, Quoted text' cell' → text ++ '"' :: rest = text' ++ '"' :: rest' →
      rest.head? ≠ some '"' → rest'.head? ≠ some '"' → cell = cell' ∧ rest = rest' := by
  -- both readings take the same step: the end at a single quote, two characters at a double one
  induction h with
  | nil =>
    intro text' cell' rest rest' h' heq hr hr'
    cases h' with
    | nil => simpa using heq
    | quote => simp only [List.nil_append, List.cons_append, List.cons.injEq, true_and] at heq; simp [heq] at hr
    | char hc => simp only [List.nil_append, List.cons_append, List.cons.injEq] at heq; exact absurd heq.1.symm hc
  | quote _ ih =>
    intro text' cell' rest rest' h' heq hr hr'
    cases h' with
    | nil => simp only [List.nil_append, List.cons_append, List.cons.injEq, true_and] at heq; simp [← heq] at hr'
    | quote h' =>
      simp only [List.cons_append, List.cons.injEq, true_and] at heq
      obtain ⟨rfl, rfl⟩ := ih h' heq hr hr'
      exact ⟨rfl, rfl⟩
    | char hc => simp only [List.cons_append, List.cons.injEq] at heq; exact absurd heq.1.symm hc
  | char hc _ ih =>
    intro text' cell' rest rest' h' heq hr hr'
    cases h' with
    | nil => simp only [List.nil_append, List.cons_append, List.cons.injEq] at heq; exact absurd heq.1 hc
    | quote => simp only [List.cons_append, List.cons.injEq] at heq; exact absurd heq.1 hc
    | char _ h' =>
      simp only [List.cons_append, List.cons.injEq] at heq
      obtain ⟨rfl, heq⟩ := heq
      obtain ⟨rfl, rfl⟩ := ih h' heq hr hr'
      exact ⟨rfl, rfl⟩

theorem mem_marks_of_end {c : Char} (h : c = ',' ∨ c = '\n') : c ∈ marks ∧ c ≠ '"' := by
  rcases h with rfl | rfl <;> decide

theorem plain_ne_quote {cell rest rest' : List Char} {e : Char} (hc : ∀ c ∈ cell, c ∉ marks)
    (he : e = ',' ∨ e = '\n') : cell ++ e :: rest ≠ '"' :: rest' := by
  intro heq
  cases cell with
  | nil => simp only [List.nil_append, List.cons.injEq] at heq; exact (mem_marks_of_end he).2 heq.1
  | cons c cell =>
    simp only [List.cons_append, List.cons.injEq] at heq
    exact hc c (List.mem_cons_self ..) (by rw [heq.1]; decide)

/-- A field is determined by a text that goes on with a comma or the end of the line behind it. -/
theorem FieldOf.unique {text text' cell cell' rest rest' : List Char} {e e' : Char} (h : FieldOf text cell)
    (h' : FieldOf text' cell') (he : e = ',' ∨ e = '\n') (he' : e' = ',' ∨ e' = '\n')
    (heq : text ++ e :: rest = text' ++ e' :: rest') : cell = cell' ∧ e = e' ∧ rest = rest' := by
  cases h with
  | plain hc =>
    cases h' with
    | plain hc' =>
      -- both cells are the characters up to the first mark
      have hcut : text = text' ∧ e :: rest = e' :: rest' := by
        refine run_append_unique (p := (· ∉ marks)) (fun c h => decide_eq_true (hc c h)) ?_
          (fun c h => decide_eq_true (hc' c h)) ?_ heq
        · simpa using (mem_marks_of_end he).1
        · simpa using (mem_marks_of_end he').1
      exact ⟨hcut.1, List.cons.inj hcut.2⟩
    | quoted => exact absurd heq (plain_ne_quote hc he)
  | @quoted text _ hq =>
    cases h' with
    | plain hc' => exact absurd heq.symm (plain_ne_quote hc' he')
    | @quoted text' _ hq' =>
      -- no quote follows the closing one, as the field has an end behind it
      have heq' : text ++ '"' :: (e :: rest) = text' ++ '"' :: (e' :: rest') := by simpa using heq
      obtain ⟨hcell, hrest⟩ := hq.unique hq' heq' (by simpa using (mem_marks_of_end he).2)
        (by simpa using (mem_marks_of_end he').2)
      exact ⟨hcell, List.cons.inj hrest⟩

theorem RowOf.unique {text : List Char} {row : List (List Char)} (h : RowOf text row) :
    ∀ {text' rest rest' : List Char} {row' : List (List Char)}, RowOf text' row' →
      text ++ rest = text' ++ rest' → row = row' ∧ rest = rest' := by
  induction h with
  | last hf =>
    intro text' rest rest' row' h' heq
    cases h' with
    | last hf' =>
      obtain ⟨rfl, -, rfl⟩ := hf.unique hf' (.inr rfl) (.inr rfl) (by simpa using heq)
      exact ⟨rfl, rfl⟩
    | more hf' =>
      obtain ⟨-, he, -⟩ := hf.unique hf' (.inr rfl) (.inl rfl) (by simpa using heq)
      exact absurd he (by decide)
  | more hf _ ih =>
    intro text' rest rest' row' h' heq
    cases h' with
    | last hf' =>
      obtain ⟨-, he, -⟩ := hf.unique hf' (.inl rfl) (.inr rfl) (by simpa using heq)
      exact absurd he (by decide)
    | more hf' h' =>
      obtain ⟨rfl, -, hrest⟩ := hf.unique hf' (.inl rfl) (.inl rfl) (by simpa using heq)
      obtain ⟨rfl, rfl⟩ := ih h' hrest
      exact ⟨rfl, rfl⟩

theorem RowOf.ne_nil {text : List Char} {row : List (List Char)} (h : RowOf text row) : text ≠ [] := by
  cases h <;> simp

theorem rowOf_emptyLine : RowOf ['\n'] [[]] := .last (.plain fun _ hc => absurd hc List.not_mem_nil)

/-- A row at the front of a text that starts with the end of a line is the empty line. -/
theorem RowOf.eq_emptyLine {text rest rest' : List Char} {row : List (List Char)} (h : RowOf text row)
    (heq : text ++ rest = '\n' :: rest') : text = ['\n'] := by
  obtain ⟨-, rfl⟩ := h.unique rowOf_emptyLine heq
  exact List.append_cancel_right (heq.trans (List.singleton_append).symm)

/-- A text has one table at most. -/
theorem TableOf.unique {skipsEmpty : Bool} {text : List Char} {table : List (List (List Char))}
    (h : TableOf skipsEmpty text table) :
    ∀ {text' : List Char} {table' : List (List (List Char))}, TableOf skipsEmpty text' table' → text = text' →
      table = table' := by
  induction h with
  | nil =>
    intro text' table' h' heq
    cases h' with
    | nil => rfl
    | row hrow => simp [hrow.ne_nil] at heq
    | emptyLine => cases heq
  | row hrow hs _ ih =>
    intro text' table' h' heq
    cases h' with
    | nil => simp [hrow.ne_nil] at heq
    | row hrow' _ h' =>
      obtain ⟨rfl, hrest⟩ := hrow.unique hrow' heq
      rw [ih h' hrest]
    -- a reader that passes over empty lines takes none of them for a row
    | emptyLine hskip => exact absurd (hrow.eq_emptyLine heq) (hs hskip)
  | emptyLine hskip _ ih =>
    intro text' table' h' heq
    cases h' with
    | nil => cases heq
    | row hrow' hs' => exact absurd (hrow'.eq_emptyLine heq.symm) (hs' hskip)
    | emptyLine _ h' => exact ih h' (List.cons.inj heq).2

/-! ## The writer -/

theorem needsQuotes_eq_false_iff {c : Char} : needsQuotes c = false ↔ c ∉ marks := by
  simp [needsQuotes, marks, and_assoc]

theorem quoted_insideQuotes : ∀ cell : List Char, Quoted (cell.flatMap insideQuotes) cell
  | [] => .nil
  | c :: cell => by
    have ih := quoted_insideQuotes cell
    by_cases hc : c = '"'
    · subst hc; exact .quote ih
    · simpa [insideQuotes, hc] using Quoted.char hc ih

theorem fieldOf_field (cell : List Char) : FieldOf (field cell) cell := by
  unfold field
  split
  · simpa using FieldOf.quoted (quoted_insideQuotes cell)
  · rename_i h
    refine .plain fun c hc => needsQuotes_eq_false_iff.1 ?_
    simp only [List.any_eq_true, not_exists, not_and, Bool.not_eq_true] at h
    exact h c hc

theorem rowOf_fields : ∀ {row : List (List Char)}, row ≠ [] → RowOf (fields row ++ ['\n']) row
  | [cell], _ => .last (fieldOf_field cell)
  | cell :: next :: rest, _ => by
    have ih := rowOf_fields (List.cons_ne_nil next rest)
    simpa [fields] using RowOf.more (fieldOf_field cell) ih

/-- Only a single empty cell leaves nothing on its line. -/
theorem fields_eq_nil : ∀ {row : List (List Char)}, row ≠ [] → fields row = [] → row = [[]]
  | [cell], _, h => by
    cases cell with
    | nil => rfl
    | cons c cell => simp only [fields, field] at h; split at h <;> simp at h
  | cell :: next :: rest, _, h => by simp [fields] at h

theorem rowOf_line {row : List (List Char)} (h : row ≠ []) : RowOf (line row) row ∧ line row ≠ ['\n'] := by
  unfold line
  split
  · rename_i hf
    rw [fields_eq_nil h hf]
    exact ⟨.last (.quoted .nil), by decide⟩
  · rename_i hf
    exact ⟨rowOf_fields h, by simpa using hf⟩

/-- The text of a table reads as the table, be empty lines passed over or not. -/
theorem tableOf_lines (skipsEmpty : Bool) : ∀ {table : List (List (List Char))}, (∀ row ∈ table, row ≠ []) →
    TableOf skipsEmpty (lines table) table
  | [], _ => .nil
  | row :: table, h => by
    obtain ⟨hrow, hne⟩ := rowOf_line (h row (List.mem_cons_self ..))
    exact .row hrow (fun _ => hne) (tableOf_lines skipsEmpty fun r hr => h r (List.mem_cons_of_mem _ hr))

theorem tableOf_lines_iff {skipsEmpty : Bool} {table table' : List (List (List Char))}
    (h : ∀ row ∈ table, row ≠ []) : TableOf skipsEmpty (lines table) table' ↔ table' = table := by
  constructor
  · exact fun h' => h'.unique (tableOf_lines skipsEmpty h) rfl
  · rintro rfl; exact tableOf_lines skipsEmpty h

end WhereFilter.Csv
