/-
Texts that read as doubles. The case of their letters makes no difference (`read?_map_toLower`), and they have only
plain characters in them, no blanks and no quotes (`plain_of_read?`).
-/
import WhereFilter.Proofs.Double.RoundTrip
import WhereFilter.Proofs.Text.Case

namespace WhereFilter

open WhereFilter.Text

/-! ## Signs and digits -/

/-- The characters of numerals that are no letters are no lower case of another character. -/
theorem toLower_eq_iff {c mark : Char} (h : mark ∈ ['-', '+', '.']) : c.toLower = mark ↔ c = mark := by
  have hmark := apply_toLower (f := fun c => ['-', '+', '.'].map (c == ·)) (by decide +kernel) c
  simp only [List.map_cons, List.map_nil, List.cons.injEq, and_true] at hmark
  obtain ⟨h1, h2, h3⟩ := hmark
  simp only [List.mem_cons, List.not_mem_nil, or_false] at h
  rcases h with rfl | rfl | rfl
  · rw [← beq_iff_eq, h1, beq_iff_eq]
  · rw [← beq_iff_eq, h2, beq_iff_eq]
  · rw [← beq_iff_eq, h3, beq_iff_eq]

theorem spanSign_cons (c : Char) (rest : List Char) :
    spanSign (c :: rest) = if c = '-' then (true, rest) else (false, if c = '+' then rest else c :: rest) := by
  unfold spanSign
  split
  · rename_i heq; cases heq; rfl
  · rename_i heq; cases heq; rfl
  · rename_i hminus hplus
    rw [if_neg fun h => hminus rest (by rw [h]), if_neg fun h => hplus rest (by rw [h])]

theorem spanSign_map_toLower (text : List Char) :
    spanSign (text.map Char.toLower) = ((spanSign text).1, (spanSign text).2.map Char.toLower) := by
  cases text with
  | nil => rfl
  | cons c rest =>
    have hminus : c.toLower = '-' ↔ c = '-' := toLower_eq_iff (by decide)
    have hplus : c.toLower = '+' ↔ c = '+' := toLower_eq_iff (by decide)
    simp only [List.map_cons, spanSign_cons, hminus, hplus]
    split_ifs <;> rfl

theorem toLower_of_isDigit {c : Char} (h : c.isDigit = true) : c.toLower = c := by
  have hdigit := apply_toLower (f := fun c => if c.isDigit then c else ' ') (by decide +kernel) c
  rwa [isDigit_toLower, if_pos h, if_pos h] at hdigit

theorem spanDigits_map_toLower (text : List Char) :
    spanDigits (text.map Char.toLower) = ((spanDigits text).1, (spanDigits text).2.map Char.toLower) := by
  have hdigit : Char.isDigit ∘ Char.toLower = Char.isDigit := funext isDigit_toLower
  have hdigits : (text.takeWhile Char.isDigit).map Char.toLower = text.takeWhile Char.isDigit :=
    (List.map_congr_left fun c hc => toLower_of_isDigit (mem_takeWhile c hc)).trans (List.map_id _)
  simp only [spanDigits, List.takeWhile_map, List.dropWhile_map, hdigit, hdigits]

/-! ## Numerals -/

namespace Decimal

theorem spanFraction_cons (c : Char) (rest : List Char) :
    spanFraction (c :: rest) = if c = '.' then spanDigits rest else ([], c :: rest) := by
  unfold spanFraction
  split
  · rename_i heq; cases heq; rfl
  · rename_i hpoint
    rw [if_neg fun h => hpoint rest (by rw [h])]

theorem spanFraction_map_toLower (text : List Char) :
    spanFraction (text.map Char.toLower) = ((spanFraction text).1, (spanFraction text).2.map Char.toLower) := by
  cases text with
  | nil => rfl
  | cons c rest =>
    have hpoint : c.toLower = '.' ↔ c = '.' := toLower_eq_iff (by decide)
    simp only [List.map_cons, spanFraction_cons, hpoint, spanDigits_map_toLower]
    split_ifs <;> rfl

theorem exponent?_map_toLower (text : List Char) : exponent? (text.map Char.toLower) = exponent? text := by
  cases text with
  | nil => rfl
  | cons c rest =>
    have hmark : (c.toLower == 'e' || c.toLower == 'E') = (c == 'e' || c == 'E') :=
      apply_toLower (f := fun c => c == 'e' || c == 'E') (by decide +kernel) c
    simp only [List.map_cons, exponent?, hmark, spanSign_map_toLower, spanDigits_map_toLower, List.isEmpty_map]

theorem read?_map_toLower (text : List Char) : read? (text.map Char.toLower) = read? text := by
  simp only [read?, spanDigits_map_toLower, spanFraction_map_toLower, exponent?_map_toLower]

end Decimal

/-! ## Doubles -/

namespace Double

/-- Words as well as numerals are read in any case. -/
theorem read?_map_toLower (text : List Char) : read? (text.map Char.toLower) = read? text := by
  have hunsigned (text : List Char) : readUnsigned? (text.map Char.toLower) = readUnsigned? text := by
    simp only [readUnsigned?, Decimal.read?_map_toLower, map_toLower_map_toLower]
  simp only [read?, spanSign_map_toLower, hunsigned]

theorem read?_eq_of_map_toLower {text text' : List Char} (h : text.map Char.toLower = text'.map Char.toLower) :
    read? text = read? text' := by rw [← read?_map_toLower text, h, read?_map_toLower]

end Double

/-! ## Characters -/

/-- The characters of numerals: digits and a few others. -/
def IsNumeralChar (c : Char) : Prop := c.isDigit = true ∨ c ∈ ['.', 'e', 'E', '+', '-']

theorem isNumeralChar_sign {sign : List Char} (h : sign = [] ∨ sign = ['+'] ∨ sign = ['-']) :
    ∀ c ∈ sign, IsNumeralChar c := by
  intro c hc
  rcases h with rfl | rfl | rfl
  · cases hc
  · exact .inr (by simp_all)
  · exact .inr (by simp_all)

theorem IsNumeralChar.plain {c : Char} (h : IsNumeralChar c) : isBlank c = false ∧ c.toLower ≠ 'd' ∧ c ≠ '\'' := by
  have hmarks : ∀ c ∈ ['.', 'e', 'E', '+', '-'], isBlank c = false ∧ c.toLower ≠ 'd' ∧ c ≠ '\'' :=
    List.all_iff_forall_prop.1 (by decide)
  rcases h with h | h
  · exact Double.plain_of_mem_textChars c (Double.mem_textChars_of_isDigit h)
  · exact hmarks c h

namespace Decimal

variable {text : List Char}

theorem isNumeralChar_of_exponent? {e : Int} (h : exponent? text = some e) : ∀ c ∈ text, IsNumeralChar c := by
  cases text with
  | nil => exact List.forall_mem_nil _
  | cons mark rest =>
    simp only [exponent?] at h
    split at h
    case isFalse => cases h
    rename_i hmark
    split at h
    case isTrue => cases h
    rename_i hdigits
    simp only [Bool.or_eq_true, not_or, Bool.not_eq_true, Bool.not_eq_false', List.isEmpty_iff] at hdigits
    obtain ⟨sign, hsign, hrest⟩ := exists_sign rest
    have hbehind := spanDigits_fst_append (spanSign rest).2
    rw [hdigits.2, List.append_nil] at hbehind
    intro c hc
    rcases List.mem_cons.1 hc with rfl | hc
    · simp only [Bool.or_eq_true, beq_iff_eq] at hmark
      exact .inr (by rcases hmark with rfl | rfl <;> decide)
    · rw [hrest, ← hbehind] at hc
      rcases List.mem_append.1 hc with hc | hc
      · exact isNumeralChar_sign hsign c hc
      · exact .inl (isDigit_spanDigits _ c hc)

theorem exists_point (text : List Char) : ∃ point, (point = [] ∨ point = ['.']) ∧
    text = point ++ ((spanFraction text).1 ++ (spanFraction text).2) ∧
      ∀ c ∈ (spanFraction text).1, c.isDigit = true := by
  unfold spanFraction
  split
  · rename_i rest
    exact ⟨['.'], .inr rfl, by rw [spanDigits_fst_append]; rfl, isDigit_spanDigits rest⟩
  · exact ⟨[], .inl rfl, rfl, List.forall_mem_nil _⟩

theorem isNumeralChar_of_read? {d : Decimal} (h : read? text = some d) : ∀ c ∈ text, IsNumeralChar c := by
  simp only [read?] at h
  split_ifs at h
  obtain ⟨e, he, -⟩ := Option.bind_eq_some_iff.1 h
  obtain ⟨point, hpoint, hrest, hfraction⟩ := exists_point (spanDigits text).2
  intro c hc
  rw [← spanDigits_fst_append text, hrest] at hc
  rcases List.mem_append.1 hc with hc | hc
  · exact .inl (isDigit_spanDigits text c hc)
  rcases List.mem_append.1 hc with hc | hc
  · rcases hpoint with rfl | rfl
    · cases hc
    · obtain rfl := List.mem_singleton.1 hc
      exact .inr (by decide)
  rcases List.mem_append.1 hc with hc | hc
  · exact .inl (hfraction c hc)
  · exact isNumeralChar_of_exponent? he c hc

end Decimal

namespace Double

variable {text : List Char} {d : Double}

/-- What is no numeral is one of three words. -/
theorem plain_of_readUnsigned? (h : readUnsigned? text = some d) :
    ∀ c ∈ text, isBlank c = false ∧ c.toLower ≠ 'd' ∧ c ≠ '\'' := by
  unfold readUnsigned? at h
  split at h
  · rename_i decimal hdecimal
    exact fun c hc => (Decimal.isNumeralChar_of_read? hdecimal c hc).plain
  · -- each of the words is made of these letters
    have hletters : ∀ c ∈ ['i', 'n', 'f', 't', 'y', 'a'], isBlank c = false ∧ c ≠ 'd' ∧ c ≠ '\'' :=
      List.all_iff_forall_prop.1 (by decide)
    have hword {word : String} (h : (String.ofList (text.map Char.toLower) == word) = true) :
        text.map Char.toLower = word.toList := by rw [← eq_of_beq h, String.toList_ofList]
    have hsubset : text.map Char.toLower ⊆ ['i', 'n', 'f', 't', 'y', 'a'] := by
      simp only at h
      split_ifs at h with hinf hnan
      · rcases Bool.or_eq_true_iff.1 hinf with h | h <;> rw [hword h] <;> simp
      · rw [hword hnan]; simp
    intro c hc
    obtain ⟨hblank, hd, hquote⟩ := hletters _ (hsubset (List.mem_map_of_mem hc))
    exact ⟨isBlank_toLower c ▸ hblank, hd, fun h => hquote (by rw [h]; rfl)⟩

/-- A text that reads as a double has neither blanks nor quotes in it, nor the last letter of the keyword `AND`. -/
theorem plain_of_read? (h : read? text = some d) : ∀ c ∈ text, isBlank c = false ∧ c.toLower ≠ 'd' ∧ c ≠ '\'' := by
  obtain ⟨sign, hsign, htext⟩ := exists_sign text
  obtain ⟨d, hd, -⟩ := Option.map_eq_some_iff.1 h
  intro c hc
  rw [htext] at hc
  rcases List.mem_append.1 hc with hc | hc
  · exact (isNumeralChar_sign hsign c hc).plain
  · exact plain_of_readUnsigned? hd c hc

/-- Trimming changes nothing in such a text. -/
theorem trimmed_of_read? (h : read? text = some d) : Trimmed text :=
  trimmed_of_no_blank fun c hc => (plain_of_read? h c hc).1

end Double

end WhereFilter
