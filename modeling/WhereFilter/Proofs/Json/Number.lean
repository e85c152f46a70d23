/-
Numbers of JSON texts. What is read as a number is a numeral with or without a minus sign before it
(`scalar_eq_number_iff`), it is read the same whatever ends it (`scalar_append`), and the double of the
number has the sign and the magnitude that were read (`exists_magnitude`). As a literal the same characters
denote the double nearest to the decimal that is taken from them (`Double.read?_numeral`).
-/
import WhereFilter.Json.Reader
import WhereFilter.Proofs.Json.Exponent

namespace WhereFilter

open WhereFilter.Text

namespace Json

variable {negative : Bool} {n : Number} {t : Numeral} {text rest : List Char}

/-! ## What ends a number -/

theorem floatNumber_append {m? : Option Magnitude} (h : floatNumber negative m? [] = .ok (n, [])) (rest : List Char) :
    floatNumber negative m? rest = .ok (n, rest) := by
  unfold floatNumber at *
  split at h
  · cases h
  · split at h
    · rename_i hfinite
      cases h
      simp only [hfinite, dite_true]
    · cases h

/-- A whole number with a sign. -/
def withSign (negative : Bool) (s : Nat) : Int := if negative then -s else s

theorem wholeNumber_eq_integer {s : Nat}
    (h : leastInteger ≤ withSign negative s ∧ withSign negative s ≤ greatestInteger)
    (h0 : (negative && s == 0) = false) (rest : List Char) :
    wholeNumber negative s rest = .ok (.integer (withSign negative s) h, rest) := by
  unfold wholeNumber
  simp only [h0, Bool.false_eq_true, if_false]
  exact dif_pos h

/-- What is no integer of 64 bits, or zero with a minus sign, becomes a double. -/
theorem wholeNumber_eq_floatNumber {s : Nat}
    (h : (leastInteger ≤ withSign negative s ∧ withSign negative s ≤ greatestInteger) → (negative && s == 0) = true)
    (rest : List Char) : wholeNumber negative s rest = floatNumber negative (scale? s 0) rest := by
  unfold wholeNumber
  simp only
  by_cases hrange : leastInteger ≤ withSign negative s ∧ withSign negative s ≤ greatestInteger
  · refine (dif_pos hrange).trans ?_
    have h0 := h hrange
    rw [if_pos h0]
    obtain ⟨rfl, hs⟩ := Bool.and_eq_true_iff.1 h0
    obtain rfl : s = 0 := by simpa using hs
    rw [scale?_zero]
  · exact dif_neg hrange

theorem wholeNumber_append {s : Nat} (h : wholeNumber negative s [] = .ok (n, [])) (rest : List Char) :
    wholeNumber negative s rest = .ok (n, rest) := by
  by_cases hint : (leastInteger ≤ withSign negative s ∧ withSign negative s ≤ greatestInteger) →
      (negative && s == 0) = true
  · rw [wholeNumber_eq_floatNumber hint] at *
    exact floatNumber_append h rest
  · rw [Classical.not_imp, Bool.not_eq_true] at hint
    obtain ⟨hrange, h0⟩ := hint
    rw [wholeNumber_eq_integer hrange h0] at *
    cases h; rfl

theorem toOption_eq_some {ε α : Type} {x : Except ε α} {a : α} : x.toOption = some a ↔ x = .ok a := by
  cases x <;> simp [Except.toOption]

/-- A numeral that is read by itself is read the same in front of what ends a number. -/
theorem unsignedNumber_append (h : unsignedNumber negative t.text = .ok (n, [])) (hr : EndsNumber rest) :
    unsignedNumber negative (t.text ++ rest) = .ok (n, rest) := by
  rw [← List.append_nil t.text] at h
  by_cases ht : t.IsPlain
  · rw [Numeral.unsignedNumber_eq_wholeNumber ht EndsNumber.nil] at h
    rw [Numeral.unsignedNumber_eq_wholeNumber ht hr]
    exact wholeNumber_append h rest
  · rw [← toOption_eq_some, Numeral.toOption_unsignedNumber ht EndsNumber.nil, toOption_eq_some] at h
    rw [← toOption_eq_some, Numeral.toOption_unsignedNumber ht hr, toOption_eq_some]
    exact floatNumber_append h rest

/-! ## The number that is read -/

theorem toDouble_floatNumber {m? : Option Magnitude} (h : floatNumber negative m? rest = .ok (n, rest)) :
    ∃ m, m? = some m ∧ n.toDouble = .signed negative m := by
  unfold floatNumber at h
  split at h
  · cases h
  · split at h
    · cases h; exact ⟨_, rfl, rfl⟩
    · cases h

theorem ofInt_withSign {s : Nat} (h : (negative && s == 0) = false) :
    Double.ofInt (withSign negative s) = .signed negative (.ofNat s) := by
  unfold Double.ofInt withSign
  cases negative with
  | false => simp
  | true =>
    have hs : s ≠ 0 := by simpa using h
    simp only [if_true, Int.natAbs_neg, Int.natAbs_natCast, Double.signed.injEq, and_true]
    exact decide_eq_true (by omega)

/-- A number that is read is the magnitude of its numeral with the sign before it. -/
theorem exists_magnitude (h : unsignedNumber negative t.text = .ok (n, [])) :
    ∃ m, t.magnitude? = some m ∧ n.toDouble = .signed negative m := by
  rw [← List.append_nil t.text] at h
  by_cases ht : t.IsPlain
  · rw [Numeral.unsignedNumber_eq_wholeNumber ht EndsNumber.nil] at h
    have hm : t.magnitude? = some (.ofNat (digitsValue t.whole)) := ht.magnitude?_eq
    by_cases hint : (leastInteger ≤ withSign negative (digitsValue t.whole) ∧
        withSign negative (digitsValue t.whole) ≤ greatestInteger) → (negative && digitsValue t.whole == 0) = true
    · rw [wholeNumber_eq_floatNumber hint, scale?_zero_power ht.2.2] at h
      obtain ⟨m, hm', hn⟩ := toDouble_floatNumber h
      exact ⟨m, hm.trans hm', hn⟩
    · rw [Classical.not_imp, Bool.not_eq_true] at hint
      obtain ⟨hrange, h0⟩ := hint
      rw [wholeNumber_eq_integer hrange h0] at h
      cases h
      exact ⟨_, hm, ofInt_withSign h0⟩
  · rw [← toOption_eq_some, Numeral.toOption_unsignedNumber ht EndsNumber.nil, toOption_eq_some] at h
    exact toDouble_floatNumber h

/-! ## Signs -/

/-- A minus sign before a number that is negative. -/
def minus (negative : Bool) : List Char := if negative then ['-'] else []

theorem scalar_digit {c : Char} (hc : c.isDigit = true) (text : List Char) :
    scalar (c :: text) = (unsignedNumber false (c :: text)).map fun parsed => (Json.number parsed.1, parsed.2) := by
  unfold scalar
  split
  all_goals first
    | (rename_i heq; cases heq; cases hc)
    | skip
  · rename_i heq
    obtain ⟨rfl, rfl⟩ := List.cons.inj heq
    rw [if_pos hc]
    cases unsignedNumber false (c :: text) <;> rfl
  · rename_i heq; cases heq

theorem scalar_minus (text : List Char) :
    scalar ('-' :: text) = (unsignedNumber true text).map fun parsed => (Json.number parsed.1, parsed.2) := by
  unfold scalar
  simp only
  cases unsignedNumber true text <;> rfl

theorem scalar_minus_append {r : List Char} (h : unsignedNumber negative (t.text ++ rest) = .ok (n, r)) :
    scalar (minus negative ++ (t.text ++ rest)) = .ok (.number n, r) := by
  cases negative with
  | true =>
    show scalar ('-' :: (t.text ++ rest)) = _
    rw [scalar_minus, h]; rfl
  | false =>
    obtain ⟨c, whole, hw⟩ := List.exists_cons_of_ne_nil t.whole_ne_nil
    have hc : c.isDigit = true := t.isDigit_whole c (hw ▸ List.mem_cons_self ..)
    have htext : t.text ++ rest = c :: (whole ++ (fractionText t.fraction ++ exponentText t.exponent?) ++ rest) := by
      rw [Numeral.text, hw]; rfl
    show scalar (t.text ++ rest) = _
    rw [htext] at h ⊢
    rw [scalar_digit hc, h]; rfl

theorem scalar_ne_number {c : Char} (hminus : c ≠ '-') (hdigit : ¬ c.isDigit = true) :
    scalar (c :: text) ≠ .ok (.number n, rest) := by
  have hword {letters text : List Char} {j : Json} (hj : j ≠ .number n) :
      (do return (j, ← word letters text) : Except Fault (Parsed Json)) ≠ .ok (.number n, rest) := by
    cases word letters text with
    | error fault => exact fun h => by cases h
    | ok r => exact fun h => by cases h; exact hj rfl
  intro h
  unfold scalar at h
  split at h
  · exact hword (by simp) h
  · exact hword (by simp) h
  · exact hword (by simp) h
  · rename_i body heq
    cases hs : stringBody body with
    | error fault => rw [hs] at h; cases h
    | ok parsed => rw [hs] at h; cases h
  · rename_i heq; exact hminus (List.cons.inj heq).1
  · rename_i heq
    rw [if_neg ((List.cons.inj heq).1 ▸ hdigit)] at h
    cases h
  · cases h

/-- What is read as a number is a numeral, perhaps with a minus sign in front. -/
theorem exists_of_scalar (h : scalar text = .ok (.number n, [])) :
    ∃ negative, ∃ t : Numeral, text = minus negative ++ t.text ∧ unsignedNumber negative t.text = .ok (n, []) := by
  have hback (negative : Bool) {text : List Char} (h : unsignedNumber negative text = .ok (n, [])) :
      ∃ t : Numeral, text = t.text ∧ unsignedNumber negative t.text = .ok (n, []) := by
    obtain ⟨t, rfl⟩ := exists_numeral h
    rw [List.append_nil] at h
    exact ⟨t, List.append_nil _, h⟩
  have hmap (negative : Bool) {text : List Char}
      (h : (unsignedNumber negative text).map (fun parsed => (Json.number parsed.1, parsed.2)) = .ok (.number n, [])) :
      unsignedNumber negative text = .ok (n, []) := by
    cases hu : unsignedNumber negative text with
    | error fault => rw [hu] at h; cases h
    | ok parsed =>
      obtain ⟨m, r⟩ := parsed
      rw [hu] at h
      cases h; rfl
  cases text with
  | nil => cases h
  | cons c text =>
    by_cases hminus : c = '-'
    · subst hminus
      rw [scalar_minus] at h
      obtain ⟨t, rfl, ht⟩ := hback true (hmap true h)
      exact ⟨true, t, rfl, ht⟩
    by_cases hdigit : c.isDigit = true
    · rw [scalar_digit hdigit] at h
      obtain ⟨t, htext, ht⟩ := hback false (hmap false h)
      exact ⟨false, t, htext, ht⟩
    exact absurd h (scalar_ne_number hminus hdigit)

/-- The record text around a number ends it. -/
theorem scalar_append (h : scalar text = .ok (.number n, [])) (hr : EndsNumber rest) :
    scalar (text ++ rest) = .ok (.number n, rest) := by
  obtain ⟨negative, t, rfl, ht⟩ := exists_of_scalar h
  rw [List.append_assoc]
  exact scalar_minus_append (unsignedNumber_append ht hr)

end Json

/-! ## Numbers as literals -/

open Json

theorem Decimal.read?_numeral (t : Numeral) : Decimal.read? t.text = some t.taken := by
  have hwhole : spanDigits t.text = (t.whole, fractionText t.fraction ++ exponentText t.exponent?) := by
    have hhead := head_fractionText t.fraction t.exponent? EndsNumber.nil
    rw [List.append_nil] at hhead
    exact spanDigits_append t.isDigit_whole hhead
  have hhead := head_exponentText t.exponent? EndsNumber.nil
  rw [List.append_nil] at hhead
  have hfraction : Decimal.spanFraction (fractionText t.fraction ++ exponentText t.exponent?) =
      (t.fraction, exponentText t.exponent?) := by
    cases hf : t.fraction with
    | nil =>
      rw [fractionText, List.nil_append]
      unfold Decimal.spanFraction
      split
      · rename_i heq; rw [heq] at hhead; exact absurd rfl (hhead '.' rfl).2
      · rfl
    | cons d f => exact spanDigits_append (hf ▸ t.isDigit_fraction) fun c hc => (hhead c hc).1
  have hexponent : Decimal.exponent? (exponentText t.exponent?) = some (t.exponent?.elim 0 Exponent.taken) := by
    cases t.exponent? with
    | none => rfl
    | some e =>
      have hmark : (e.mark == 'e' || e.mark == 'E') = true := by simpa using e.isMark
      have hsign := e.spanSign_append []
      rw [List.append_nil, List.append_nil] at hsign
      have hne : e.digits.isEmpty = false := by simpa using e.digits_ne_nil
      simp [exponentText, Exponent.text, Decimal.exponent?, hmark, hsign, spanDigits_run e.isDigit_digits, hne,
        Exponent.taken]
  have hne : (t.whole ++ t.fraction).isEmpty = false := by simp [t.whole_ne_nil]
  simp only [Decimal.read?, hwhole, hfraction, hne, Bool.false_eq_true, if_false, hexponent]
  rfl

theorem spanSign_minus (negative : Bool) (t : Numeral) : spanSign (minus negative ++ t.text) = (negative, t.text) := by
  cases negative with
  | true => rfl
  | false =>
    obtain ⟨c, whole, hw⟩ := List.exists_cons_of_ne_nil t.whole_ne_nil
    have hc : c.isDigit = true := t.isDigit_whole c (hw ▸ List.mem_cons_self ..)
    show spanSign t.text = _
    rw [Numeral.text, hw]
    exact Double.spanSign_of_isDigit hc _

/-- As a literal, a numeral with or without a minus sign is the double nearest to the decimal taken from it. -/
theorem Double.read?_numeral (negative : Bool) (t : Numeral) :
    Double.read? (minus negative ++ t.text) = some (.signed negative (.ofDecimal t.taken)) := by
  rw [Double.read?]
  simp only [spanSign_minus, Double.readUnsigned?, Decimal.read?_numeral]
  cases negative <;> rfl

end WhereFilter
