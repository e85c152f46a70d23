/-
Written strings are read back. Every character is written as itself or as one escape, which the reader
takes as that character (`stringFrom_escapedChar`), so a whole string is read up to its closing quote
(`stringBody_escaped`).
-/
import WhereFilter.Json.Reader
import Mathlib.Data.List.Basic

namespace WhereFilter.Json

/-! ## Escapes -/

theorem fourHex_append {code : List Char} {n : Nat} (hlen : code.length = 4) (hbytes : 4 ≤ byteCount code)
    (hvalue : Text.digitsValue? 16 code = some n) (rest : List Char) : fourHex (code ++ rest) = .ok n := by
  have htake : (code ++ rest).take 4 = code := by rw [← hlen, List.take_left]
  rw [fourHex, htake, if_neg (by omega), hvalue]

/-- The code of a control character, in four digits. -/
def controlCode (n : Nat) : List Char := ['0', '0', Nat.digitChar (n / 16), Nat.digitChar (n % 16)]

theorem fourHex_controlCode {n : Nat} (hn : n < 0x20) (rest : List Char) : fourHex (controlCode n ++ rest) = .ok n := by
  have h : ∀ n < 0x20, 4 ≤ byteCount (controlCode n) ∧ Text.digitsValue? 16 (controlCode n) = some n := by
    decide
  exact fourHex_append rfl (h n hn).1 (h n hn).2 rest

theorem escape_controlCode {c : Char} (hc : c.toNat < 0x20) (rest : List Char) :
    escape ('u' :: (controlCode c.toNat ++ rest)) = .ok (c, 5) := by
  have h1 : isTrailingSurrogate c.toNat = false := by simp [isTrailingSurrogate]; omega
  have h2 : isLeadingSurrogate c.toNat = false := by simp [isLeadingSurrogate]; omega
  simp [escape, codeEscape, fourHex_controlCode hc, bind, Except.bind, h1, h2, pure, Except.pure]

/-! ## Characters -/

theorem stringFrom_skip (skipped rest before : List Char) :
    stringFrom skipped.length (skipped ++ rest) before = stringFrom 0 rest before := by
  induction skipped with
  | nil => rfl
  | cons c skipped ih =>
    rw [List.length_cons, List.cons_append, stringFrom]
    exact ih

/-- An escape of one letter or of a code, behind the backslash. -/
theorem stringFrom_escape {c : Char} (code rest before : List Char)
    (h : escape (code ++ rest) = .ok (c, code.length)) :
    stringFrom 0 ('\\' :: (code ++ rest)) before = stringFrom 0 rest (c :: before) := by
  rw [← stringFrom_skip code rest (c :: before)]
  simp [stringFrom, h]

/-- A character is read as it was written. -/
theorem stringFrom_escapedChar (c : Char) (rest before : List Char) :
    stringFrom 0 (escapedChar c ++ rest) before = stringFrom 0 rest (c :: before) := by
  unfold escapedChar
  split
  · exact stringFrom_escape ['"'] rest before rfl
  · exact stringFrom_escape ['\\'] rest before rfl
  · exact stringFrom_escape ['b'] rest before rfl
  · exact stringFrom_escape ['f'] rest before rfl
  · exact stringFrom_escape ['n'] rest before rfl
  · exact stringFrom_escape ['r'] rest before rfl
  · exact stringFrom_escape ['t'] rest before rfl
  · rename_i hquote hbackslash _ _ _ _ _
    split_ifs with hcontrol
    · exact stringFrom_escape ('u' :: controlCode c.toNat) rest before (escape_controlCode hcontrol rest)
    · rw [List.singleton_append, stringFrom, if_neg hquote, if_neg hbackslash, if_neg hcontrol]

theorem stringFrom_escaped (chars rest before : List Char) :
    stringFrom 0 (chars.flatMap escapedChar ++ '"' :: rest) before = .ok (before.reverse ++ chars, rest) := by
  induction chars generalizing before with
  | nil => simp [stringFrom]
  | cons c chars ih =>
    rw [List.flatMap_cons, List.append_assoc, stringFrom_escapedChar, ih]
    simp

/-- A string is read back from behind its opening quote. -/
theorem stringBody_escaped (s : String) (rest : List Char) :
    stringBody (s.toList.flatMap escapedChar ++ '"' :: rest) = .ok (s, rest) := by
  rw [stringBody, stringFrom_escaped]
  show Except.ok (String.ofList ([] ++ s.toList), rest) = _
  rw [List.nil_append, String.ofList_toList]

end WhereFilter.Json
