/-
Laws of word characters: no blank is one, and case makes no difference to them.
-/
import WhereFilter.Text.Blank
import WhereFilter.Text.Word

namespace WhereFilter.Text

/-! ## Blanks -/

/-- The code points of white space, one by one. -/
def blankCodes : List Nat :=
  blankRanges.flatMap fun (first, last) => (List.range (last + 1 - first)).map (first + ·)

theorem toNat_mem_blankCodes {c : Char} (h : isBlank c = true) : c.toNat ∈ blankCodes := by
  obtain ⟨⟨first, last⟩, hr, hc⟩ := List.any_eq_true.1 h
  simp only [Bool.and_eq_true, decide_eq_true_eq] at hc
  refine List.mem_flatMap.2 ⟨(first, last), hr, List.mem_map.2 ⟨c.toNat - first, ?_, ?_⟩⟩
  · rw [List.mem_range]; omega
  · omega

theorem blankCodes_no_word : ∀ n ∈ blankCodes, isWord (Char.ofNat n) = false := by decide +kernel

theorem isWord_of_isBlank {c : Char} (h : isBlank c = true) : isWord c = false := by
  rw [← Char.ofNat_toNat c]
  exact blankCodes_no_word c.toNat (toNat_mem_blankCodes h)

theorem isBlank_of_isWord {c : Char} (h : isWord c = true) : isBlank c = false := by
  cases hb : isBlank c
  · rfl
  · rw [isWord_of_isBlank hb] at h; cases h

theorem isWord_space : isWord ' ' = false := by decide

/-! ## Case -/

/-- What holds of the first 128 code points holds of every ASCII character. -/
theorem ascii_induction {P : Char → Prop} (h : ∀ n < 128, P (Char.ofNat n)) {c : Char} (hc : c.toNat < 128) :
    P c := by
  have := h c.toNat hc
  rwa [Char.ofNat_toNat] at this

theorem toLower_of_not_ascii {c : Char} (hc : ¬ c.toNat < 128) : c.toLower = c := by
  unfold Char.toLower
  rw [dif_neg]
  rintro ⟨-, h⟩
  exact hc (Nat.lt_of_le_of_lt (UInt32.le_iff_toNat_le.1 h) (by decide))

/-- What makes no difference between the first 128 code points and their lower cases makes none for any character. -/
theorem apply_toLower {β : Type} {f : Char → β} (h : ∀ n < 128, f (Char.ofNat n).toLower = f (Char.ofNat n))
    (c : Char) :
    f c.toLower = f c := by
  by_cases hc : c.toNat < 128
  · exact ascii_induction (P := fun c => f c.toLower = f c) h hc
  · rw [toLower_of_not_ascii hc]

theorem isWord_toLower (c : Char) : isWord c.toLower = isWord c := apply_toLower (by decide +kernel) c

end WhereFilter.Text
