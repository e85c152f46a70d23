/-
Case and outer blanks. The case of ASCII letters makes no difference to blanks and digits nor to the lower case of a
character, and trimming does not look at it. So texts are respelled, in case or outer blanks, exactly if they are equal
once they are trimmed and put in lower case (`respelled_iff`).
-/
import WhereFilter.Text.Lowercase
import WhereFilter.Proofs.Text.Trim
import WhereFilter.Proofs.Text.Word

namespace WhereFilter.Text

/-! ## Characters -/

theorem isBlank_toLower (c : Char) : isBlank c.toLower = isBlank c := apply_toLower (by decide +kernel) c

theorem isDigit_toLower (c : Char) : c.toLower.isDigit = c.isDigit := apply_toLower (by decide +kernel) c

theorem lowercase_toLower (c : Char) : lowercase c.toLower = lowercase c := apply_toLower (by decide +kernel) c

theorem toLower_toLower (c : Char) : c.toLower.toLower = c.toLower := apply_toLower (by decide +kernel) c

/-! ## Texts -/

theorem map_toLower_map_toLower (text : List Char) :
    (text.map Char.toLower).map Char.toLower = text.map Char.toLower := by
  rw [List.map_map]
  exact List.map_congr_left fun c _ => toLower_toLower c

theorem flatMap_lowercase_map_toLower (text : List Char) :
    (text.map Char.toLower).flatMap lowercase = text.flatMap lowercase := by
  rw [List.flatMap_map]
  exact congrArg (text.flatMap ·) (funext lowercase_toLower)

theorem trim_map_toLower (text : List Char) : trim (text.map Char.toLower) = (trim text).map Char.toLower := by
  have hblank : isBlank ∘ Char.toLower = isBlank := funext isBlank_toLower
  simp only [trim, trimStart, trimEnd, List.dropWhile_map, hblank, ← List.map_reverse]

/-! ## Respelling -/

/-- Either text is made from the other by changes in the case of ASCII letters and in the blanks at the ends. -/
inductive Respelled : List Char → List Char → Prop
  | case {text text' : List Char} (h : text.map Char.toLower = text'.map Char.toLower) : Respelled text text'
  | before {blanks : List Char} (h : AllBlank blanks) (text : List Char) : Respelled text (blanks ++ text)
  | behind {blanks : List Char} (h : AllBlank blanks) (text : List Char) : Respelled text (text ++ blanks)
  | symm {text text' : List Char} (h : Respelled text text') : Respelled text' text
  | trans {text text' text'' : List Char} (h : Respelled text text') (h' : Respelled text' text'') :
      Respelled text text''

namespace Respelled

variable {text text' : List Char}

theorem trim_eq (h : Respelled text text') : (trim text).map Char.toLower = (trim text').map Char.toLower := by
  induction h with
  | case h => rw [← trim_map_toLower, h, trim_map_toLower]
  | before h text => rw [trim_blank_append h]
  | behind h text => rw [trim_append_blank h]
  | symm _ ih => exact ih.symm
  | trans _ _ ih ih' => exact ih.trans ih'

theorem sameIgnoringCase_trim (h : Respelled text text') : sameIgnoringCase (trim text) (trim text') = true := by
  rw [sameIgnoringCase, beq_iff_eq, ← flatMap_lowercase_map_toLower, h.trim_eq, flatMap_lowercase_map_toLower]

end Respelled

theorem respelled_trim (text : List Char) : Respelled text (trim text) := by
  obtain ⟨before, after, hbefore, hafter, htext⟩ := exists_trim text
  have hstart := Respelled.before hbefore (trim text)
  have hend := Respelled.behind hafter (before ++ trim text)
  rw [← htext] at hend
  exact (hstart.trans hend).symm

theorem respelled_iff {text text' : List Char} :
    Respelled text text' ↔ (trim text).map Char.toLower = (trim text').map Char.toLower :=
  ⟨Respelled.trim_eq, fun h => (respelled_trim text).trans ((Respelled.case h).trans (respelled_trim text').symm)⟩

end WhereFilter.Text
