/-
Texts as bytes in UTF-8. Bytes are those of a text exactly if they can be read as one
(`fromUTF8?_eq_some_iff`), and a byte of seven bits is always a character of its own, so cutting the bytes
of a text at such a character cuts the text there (`splitOn_utf8`).
-/
import Mathlib.Data.List.Basic

namespace WhereFilter.Text

/-- The bytes of a text. -/
def utf8 (text : List Char) : List UInt8 := text.flatMap String.utf8EncodeChar

@[simp] theorem utf8_nil : utf8 [] = [] := rfl

@[simp] theorem utf8_cons (c : Char) (text : List Char) : utf8 (c :: text) = String.utf8EncodeChar c ++ utf8 text := rfl

@[simp] theorem utf8_append (a b : List Char) : utf8 (a ++ b) = utf8 a ++ utf8 b := List.flatMap_append

theorem toUTF8_eq (s : String) : s.toUTF8.data.toList = utf8 s.toList := by
  rw [String.toUTF8_eq_toByteArray, ← String.utf8Encode_toList, List.utf8Encode, List.toList_data_toByteArray]
  rfl

/-- Bytes are read as a text exactly if they are its bytes. -/
theorem fromUTF8?_eq_some_iff {bytes : List UInt8} {s : String} :
    String.fromUTF8? ⟨bytes.toArray⟩ = some s ↔ bytes = utf8 s.toList := by
  rw [← toUTF8_eq, String.toUTF8_eq_toByteArray]
  unfold String.fromUTF8?
  constructor
  · intro h
    split at h
    · rw [← Option.some.inj h]; rfl
    · cases h
  · rintro rfl
    rw [Array.toArray_toList, dif_pos s.isValidUTF8]
    rfl

theorem fromUTF8?_utf8 (text : List Char) : String.fromUTF8? ⟨(utf8 text).toArray⟩ = some (String.ofList text) := by
  rw [fromUTF8?_eq_some_iff, String.toList_ofList]

/-! ## Bytes of seven bits -/

/-- The bytes of a character are one byte of seven bits, which is its number, or bytes of eight bits. -/
theorem utf8EncodeChar_cases (c : Char) :
    (c.toNat < 0x80 ∧ String.utf8EncodeChar c = [UInt8.ofNat c.toNat]) ∨
      (0x80 ≤ c.toNat ∧ ∀ b ∈ String.utf8EncodeChar c, 0x80 ≤ b.toNat) := by
  have height {n : Nat} (hlow : 0x80 ≤ n) (hup : n < 0x100) : 0x80 ≤ (UInt8.ofNat n).toNat := by
    rw [UInt8.toNat_ofNat', Nat.mod_eq_of_lt hup]; exact hlow
  have hvalue : c.val.toNat = c.toNat := rfl
  unfold String.utf8EncodeChar
  simp only [hvalue]
  by_cases h1 : c.toNat ≤ 0x7f
  · exact .inl ⟨by omega, if_pos h1⟩
  refine .inr ⟨by omega, fun b hb => ?_⟩
  rw [if_neg h1] at hb
  split_ifs at hb with h2 h3
  · simp only [List.mem_cons, List.not_mem_nil, or_false] at hb
    rcases hb with rfl | rfl
    · exact height (by omega) (by omega)
    · exact height (by omega) (by omega)
  · simp only [List.mem_cons, List.not_mem_nil, or_false] at hb
    rcases hb with rfl | rfl | rfl
    · exact height (by omega) (by omega)
    · exact height (by omega) (by omega)
    · exact height (by omega) (by omega)
  · simp only [List.mem_cons, List.not_mem_nil, or_false] at hb
    rcases hb with rfl | rfl | rfl | rfl
    · exact height (by omega) (by omega)
    · exact height (by omega) (by omega)
    · exact height (by omega) (by omega)
    · exact height (by omega) (by omega)

section Seven

variable {sign : Char} (hs : sign.toNat < 0x80)

include hs

theorem utf8EncodeChar_of_lt : String.utf8EncodeChar sign = [UInt8.ofNat sign.toNat] := by
  rcases utf8EncodeChar_cases sign with ⟨-, h⟩ | ⟨h, -⟩
  · exact h
  · omega

theorem mem_utf8EncodeChar_iff {c : Char} : UInt8.ofNat sign.toNat ∈ String.utf8EncodeChar c ↔ c = sign := by
  constructor
  · intro h
    have hbyte : (UInt8.ofNat sign.toNat).toNat = sign.toNat := by
      rw [UInt8.toNat_ofNat', Nat.mod_eq_of_lt (by omega)]
    rcases utf8EncodeChar_cases c with ⟨hc, hall⟩ | ⟨-, hall⟩
    · rw [hall, List.mem_singleton] at h
      have := congrArg UInt8.toNat h
      rw [hbyte, UInt8.toNat_ofNat', Nat.mod_eq_of_lt (by omega)] at this
      exact Char.toNat_inj.1 this.symm
    · have := hall _ h
      omega
  · rintro rfl
    rw [utf8EncodeChar_of_lt hs]
    exact List.mem_singleton_self _

/-- The byte of a character of seven bits stands among the bytes of a text only where the character stands. -/
theorem mem_utf8_iff {text : List Char} : UInt8.ofNat sign.toNat ∈ utf8 text ↔ sign ∈ text := by
  rw [utf8, List.mem_flatMap]
  constructor
  · rintro ⟨c, hc, hb⟩
    exact (mem_utf8EncodeChar_iff hs).1 hb ▸ hc
  · intro h
    exact ⟨sign, h, (mem_utf8EncodeChar_iff hs).2 rfl⟩

/-- The bytes of a text are cut at such a character where the text is. -/
theorem splitOn_utf8 (text : List Char) :
    (utf8 text).splitOn (UInt8.ofNat sign.toNat) = (text.splitOn sign).map utf8 := by
  induction hn : text.length using Nat.strongRecOn generalizing text with
  | ind n ih =>
    by_cases hmem : sign ∈ text
    · obtain ⟨left, right, rfl, hleft⟩ := List.eq_append_cons_of_mem hmem
      have hright : right.length < n := by rw [← hn, List.length_append, List.length_cons]; omega
      have hbyte : UInt8.ofNat sign.toNat ∉ utf8 left := (mem_utf8_iff hs).not.2 hleft
      rw [utf8_append, utf8_cons, utf8EncodeChar_of_lt hs, List.singleton_append,
        List.splitOn_append_cons_self_of_not_mem hbyte, List.splitOn_append_cons_self_of_not_mem hleft, List.map_cons,
        ih _ hright right rfl]
    · have hbyte : UInt8.ofNat sign.toNat ∉ utf8 text := (mem_utf8_iff hs).not.2 hmem
      rw [List.splitOn_eq_singleton hbyte, List.splitOn_eq_singleton hmem, List.map_singleton]

/-- Bytes with such a character behind them are those of a text exactly if they are without it. -/
theorem append_eq_utf8_iff {bytes : List UInt8} {text : List Char} :
    bytes ++ [UInt8.ofNat sign.toNat] = utf8 text ↔ ∃ before, text = before ++ [sign] ∧ bytes = utf8 before := by
  constructor
  · intro h
    rcases text.eq_nil_or_concat with rfl | ⟨before, c, rfl⟩
    · simp at h
    rw [List.concat_eq_append] at h ⊢
    rw [utf8_append, utf8_cons, utf8_nil, List.append_nil] at h
    -- the last byte is one of the last character, which is therefore the sign itself
    have hlast : UInt8.ofNat sign.toNat ∈ String.utf8EncodeChar c := by
      have hne : String.utf8EncodeChar c ≠ [] := String.utf8EncodeChar_ne_nil
      have := congrArg List.getLast? h
      rw [List.getLast?_concat, List.getLast?_append_of_ne_nil _ hne] at this
      exact List.mem_of_getLast? this.symm
    obtain rfl := (mem_utf8EncodeChar_iff hs).1 hlast
    rw [utf8EncodeChar_of_lt hs] at h
    exact ⟨before, rfl, List.append_cancel_right h⟩
  · rintro ⟨before, rfl, rfl⟩
    rw [utf8_append, utf8_cons, utf8_nil, List.append_nil, utf8EncodeChar_of_lt hs]

end Seven

end WhereFilter.Text
