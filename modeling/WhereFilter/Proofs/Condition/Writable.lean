/-
Conditions that can be written down. Nothing is escaped when a condition is printed, so its field
must be a word other than the keyword `AND`, and a text that it is compared with must not have the
keyword in it. Every condition that is read from a piece of a query is writable (`writable_of_parse`),
and a writable one is read back from its print (`parse_print`).
-/
import WhereFilter.Proofs.Condition.Reading
import WhereFilter.Proofs.Double.RoundTrip
import WhereFilter.Proofs.Query.Keyword

namespace WhereFilter

open WhereFilter.Text WhereFilter.Query

/-! ## Literals -/

theorem Double.plain_text (d : Double) : ∀ c ∈ d.text, isBlank c = false ∧ c.toLower ≠ 'd' ∧ c ≠ '\'' :=
  fun c hc => plain_of_mem_textChars c (d.mem_text c hc)

theorem Double.trimmed_text (d : Double) : Trimmed d.text := trimmed_of_no_blank fun c hc => (d.plain_text c hc).1

namespace Literal

theorem isWord_quote : isWord '\'' = false := by decide

/-- A literal has only the keywords of the text that it is read from. -/
theorem holdsAnd_of_parse {raw : List Char} {s : String} (h : Literal.parse (String.ofList raw) = .text s)
    (hs : HoldsAnd s.toList) : HoldsAnd raw := by
  rw [Literal.parse, String.toList_ofList] at h
  split at h
  · rename_i inner hu
    cases h
    rw [String.toList_ofList] at hs
    rw [unquote?_eq_some_iff.1 hu, holdsAnd_cons isWord_quote, holdsAnd_append_cons isWord_quote]
    exact .inl hs
  · split at h
    · cases h
    · cases h
      rwa [String.toList_ofList] at hs

theorem toList_print_text (s : String) : (Literal.text s).print.toList = '\'' :: (s.toList ++ ['\'']) := by
  simp [Literal.print]

theorem toList_print_number (d : Double) : (Literal.number d).print.toList = d.text := by
  simp [Literal.print]

theorem print_ne_nil (l : Literal) : l.print.toList ≠ [] := by
  cases l with
  | number d => rw [toList_print_number]; exact d.text_ne_nil
  | text s => rw [toList_print_text]; exact List.cons_ne_nil _ _

theorem trimmed_print (l : Literal) : Trimmed l.print.toList := by
  cases l with
  | number d =>
    rw [toList_print_number]
    exact d.trimmed_text
  | text s =>
    rw [toList_print_text]
    exact trimmed_ends (by decide) (by decide)

/-- Every literal is read back from its print: a number has no quotes and reads as itself. -/
theorem parse_print (l : Literal) : Literal.parse l.print = l := by
  cases l with
  | number d =>
    have hquote : '\'' ∉ d.text := fun hm => (d.plain_text _ hm).2.2 rfl
    rw [Literal.parse, toList_print_number, unquote?_eq_none hquote, d.read?_text]
  | text s =>
    have hquote : unquote? (Literal.text s).print.toList = some s.toList :=
      unquote?_eq_some_iff.2 (toList_print_text s)
    rw [Literal.parse, hquote]
    simp

theorem holdsAnd_print_text (s : String) : HoldsAnd (Literal.text s).print.toList ↔ HoldsAnd s.toList := by
  rw [toList_print_text, holdsAnd_cons isWord_quote, holdsAnd_append_cons isWord_quote,
    or_iff_left not_holdsAnd_nil]

theorem not_holdsAnd_print_number (d : Double) : ¬ HoldsAnd (Literal.number d).print.toList := by
  rw [toList_print_number]
  exact not_holdsAnd_of_no_d fun c hc => (d.plain_text c hc).2.1

end Literal

/-! ## Conditions -/

namespace Condition

/-- A condition that its print says unmistakably: its field is a word other than the keyword `AND`,
and its literal, if it is a text, does not have the keyword in it. -/
structure Writable (c : Condition) : Prop where
  field_ne : c.field.toList ≠ []
  field_word : ∀ x ∈ c.field.toList, isWord x = true
  field_not_and : c.field.toList.map Char.toLower ≠ ['a', 'n', 'd']
  text_apart : ∀ s, c.literal = .text s → ¬ HoldsAnd s.toList

/-- What is read from a text without the keyword is writable. -/
theorem writable_of_parse {segment : String} {c : Condition} (h : Condition.parse segment = .ok c)
    (hn : ¬ HoldsAnd segment.toList) : c.Writable := by
  obtain ⟨p, hp, rfl⟩ := parse_eq_ok_iff.1 h
  obtain ⟨before, here, hseg, hhere, hb⟩ := parts?_eq_some hp
  obtain ⟨gap, tail, rfl, h0, hw, hg, hv⟩ := partsHere?_eq_some_iff.1 hhere
  obtain ⟨gap', rfl, hg', -⟩ := valuePart?_eq_some hv
  rw [hseg] at hn
  constructor
  · simpa using h0
  · simpa using hw
  · rw [String.toList_ofList]
    intro hand
    -- the field itself would stand there as the keyword
    exact hn ⟨before, p.field, _, (List.append_assoc ..).symm, hand, hb, isWord_head_gap hg p.op _⟩
  · intro s hs hheld
    -- a keyword in the text stands in the value, and the operator keeps the value apart
    have hvalue := (holdsAnd_trim _).1 (Literal.holdsAnd_of_parse hs hheld)
    refine hn ?_
    rw [← List.append_assoc, ← List.append_assoc, holdsAnd_append_cons p.op.isWord_symbol]
    exact .inr ((holdsAnd_blank_append hg' _).2 hvalue)

/-! ## Texts of comparisons -/

/-- A field, an operator and the text of a literal with blanks between them. -/
def written (field : List Char) (op : Op) (raw : List Char) : List Char :=
  field ++ ([' '] ++ op.symbol :: ([' '] ++ raw))

section Written

variable {field raw : List Char} (op : Op) (h0 : field ≠ []) (hword : ∀ x ∈ field, isWord x = true)

include h0 hword

theorem parse_written (ht : Trimmed raw) (hraw : raw ≠ []) :
    Condition.parse (String.ofList (written field op raw)) =
      .ok ⟨String.ofList field, op, .parse (String.ofList raw)⟩ := by
  have hv : valuePart? ([' '] ++ raw) = some raw := valuePart?_append allBlank_space hraw ht.head
  have hp : partsHere? (written field op raw) = some ⟨field, op, raw⟩ :=
    partsHere?_eq_some_iff.2 ⟨[' '], _, rfl, h0, hword, allBlank_space, hv⟩
  refine parse_eq_ok_iff.2 ⟨⟨field, op, raw⟩, ?_, by rw [trim_of_trimmed ht]⟩
  rw [String.toList_ofList]
  exact parts?_of_partsHere? hp

theorem trimmed_written (ht : Trimmed raw) (hraw : raw ≠ []) : Trimmed (written field op raw) := by
  have hfield : Trimmed field := trimmed_of_no_blank fun x hx => isBlank_of_isWord (hword x hx)
  have := hfield.around ht h0 hraw [' ', op.symbol, ' ']
  simpa [written] using this

omit h0 in
theorem not_holdsAnd_written (hand : field.map Char.toLower ≠ ['a', 'n', 'd']) (h : ¬ HoldsAnd raw) :
    ¬ HoldsAnd (written field op raw) := by
  have hfield : ¬ HoldsAnd field := fun hf => hand ((holdsAnd_word_iff hword).1 hf)
  rw [written, List.singleton_append, List.singleton_append, holdsAnd_append_cons isWord_space,
    holdsAnd_cons op.isWord_symbol, holdsAnd_cons isWord_space]
  exact not_or.2 ⟨hfield, h⟩

end Written

/-! ## Prints -/

theorem toList_print (c : Condition) : c.print.toList = written c.field.toList c.op c.literal.print.toList := by
  simp [Condition.print, Op.text, written]

namespace Writable

variable {c : Condition}

theorem parse_print (h : c.Writable) : Condition.parse c.print = .ok c := by
  have hparse := parse_written c.op h.field_ne h.field_word c.literal.trimmed_print c.literal.print_ne_nil
  rwa [← toList_print, String.ofList_toList, String.ofList_toList, String.ofList_toList, Literal.parse_print] at hparse

theorem trimmed_print (h : c.Writable) : Trimmed c.print.toList := by
  rw [toList_print]
  exact trimmed_written c.op h.field_ne h.field_word c.literal.trimmed_print c.literal.print_ne_nil

theorem print_ne_nil (h : c.Writable) : c.print.toList ≠ [] := by
  rw [toList_print]
  exact List.append_ne_nil_of_left_ne_nil h.field_ne _

theorem not_holdsAnd_print (h : c.Writable) : ¬ HoldsAnd c.print.toList := by
  have hliteral : ¬ HoldsAnd c.literal.print.toList := by
    cases hl : c.literal with
    | number d => exact Literal.not_holdsAnd_print_number d
    | text s => exact fun ht => h.text_apart s hl ((Literal.holdsAnd_print_text s).1 ht)
  rw [toList_print]
  exact not_holdsAnd_written c.op h.field_word h.field_not_and hliteral

end Writable

end Condition

end WhereFilter
