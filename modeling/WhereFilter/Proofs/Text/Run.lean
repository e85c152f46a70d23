/-
Runs of characters of one kind at the front of a text. A run ends where a character of another kind
follows, so taking and dropping the characters of a kind cut a text there.
-/
import Mathlib.Data.List.TakeWhile

namespace WhereFilter.Text

variable {p : Char → Bool}

theorem dropWhile_of_head {text : List Char} (h : ∀ c ∈ text.head?, p c = false) : text.dropWhile p = text := by
  cases text with
  | nil => rfl
  | cons c rest => exact List.dropWhile_cons_of_neg (by simpa using h c)

theorem dropWhile_run_append {run rest : List Char} (hrun : ∀ c ∈ run, p c = true)
    (hrest : ∀ c ∈ rest.head?, p c = false) : (run ++ rest).dropWhile p = rest := by
  rw [List.dropWhile_append_of_pos hrun, dropWhile_of_head hrest]

theorem takeWhile_run_append {run rest : List Char} (hrun : ∀ c ∈ run, p c = true)
    (hrest : ∀ c ∈ rest.head?, p c = false) : (run ++ rest).takeWhile p = run := by
  have h := List.takeWhile_append_dropWhile (p := p) (l := run ++ rest)
  rw [dropWhile_run_append hrun hrest] at h
  exact List.append_cancel_right h

/-- A text has one cutting behind its first run. -/
theorem run_append_unique {run rest run' rest' : List Char} (hrun : ∀ c ∈ run, p c = true)
    (hrest : ∀ c ∈ rest.head?, p c = false) (hrun' : ∀ c ∈ run', p c = true)
    (hrest' : ∀ c ∈ rest'.head?, p c = false) (h : run ++ rest = run' ++ rest') : run = run' ∧ rest = rest' := by
  have h1 := takeWhile_run_append hrun hrest
  have h2 := dropWhile_run_append hrun hrest
  rw [h, takeWhile_run_append hrun' hrest'] at h1
  rw [h, dropWhile_run_append hrun' hrest'] at h2
  exact ⟨h1.symm, h2.symm⟩

theorem head_dropWhile (p : Char → Bool) (text : List Char) : ∀ c ∈ (text.dropWhile p).head?, p c = false := by
  intro c hc
  have h := List.head?_dropWhile_not p text
  rw [hc] at h
  simpa using h

theorem mem_takeWhile {text : List Char} : ∀ c ∈ text.takeWhile p, p c = true :=
  fun c hc => List.all_eq_true.1 List.all_takeWhile c hc

end WhereFilter.Text
