/-
Numbers in JSON texts by their parts. A number without its sign is a numeral: digits, perhaps a point
and more digits, perhaps an exponent. What is read from a text starts with a numeral
(`exists_numeral`), and from every numeral with no digit, point or exponent behind it the reader takes
just the numeral (`unsignedNumber_eq_wholeNumber`, `toOption_unsignedNumber`).
-/
import WhereFilter.Json.Numeral
import WhereFilter.Proofs.Double.RoundTrip

namespace WhereFilter

/-! ## Values of digits -/

theorem digitsValue_cons (c : Char) (digits : List Char) :
    digitsValue (c :: digits) = tenTo digits.length * (c.toNat - '0'.toNat) + digitsValue digits := by
  rw [digitsValue_eq, Nat.ofDigitChars_cons, Nat.ofDigitChars_eq_ofDigitChars_zero, Nat.mul_zero, Nat.zero_add,
    digitsValue_eq]
  rfl

theorem digitsValue_append (digits digits' : List Char) :
    digitsValue (digits ++ digits') = digitsValue digits * tenTo digits'.length + digitsValue digits' := by
  rw [digitsValue_eq, Nat.ofDigitChars_append, Nat.ofDigitChars_eq_ofDigitChars_zero, Nat.mul_comm, digitsValue_eq,
    digitsValue_eq]
  rfl

theorem digit_lt {c : Char} (hc : c.isDigit = true) : c.toNat - '0'.toNat < 10 := by
  simp only [Char.isDigit, ge_iff_le, Bool.and_eq_true, decide_eq_true_eq] at hc
  have h9 : c.toNat ≤ '9'.toNat := UInt32.le_iff_toNat_le.1 hc.2
  have : '9'.toNat = 57 := rfl
  have : '0'.toNat = 48 := rfl
  omega

theorem digitsValue_lt {digits : List Char} (hd : ∀ c ∈ digits, c.isDigit = true) :
    digitsValue digits < tenTo digits.length := by
  induction digits with
  | nil => decide
  | cons c digits ih =>
    obtain ⟨hc, hd⟩ := List.forall_mem_cons.1 hd
    have h1 := ih hd
    have h2 : tenTo digits.length * (c.toNat - '0'.toNat) ≤ tenTo digits.length * 9 :=
      Nat.mul_le_mul_left _ (Nat.le_of_lt_succ (digit_lt hc))
    rw [digitsValue_cons, List.length_cons, tenTo_succ]
    omega

namespace Json

open WhereFilter.Text

/-! ## Collecting digits -/

/-- The digits that are collected are the first ones, and the next would not fit. -/
theorem collect_spec (limit n : Nat) (digits : List Char) (hn : n ≤ limit) :
    ∃ taken, digits = taken ++ (collect limit n digits).2 ∧
      (collect limit n digits).1 = n * tenTo taken.length + digitsValue taken ∧
      (collect limit n digits).1 ≤ limit ∧
      ∀ c ∈ (collect limit n digits).2.head?, limit < 10 * (collect limit n digits).1 + (c.toNat - '0'.toNat) := by
  induction digits generalizing n with
  | nil => exact ⟨[], rfl, (Nat.mul_one n).symm, hn, by simp [collect]⟩
  | cons c digits ih =>
    unfold collect
    simp only
    split_ifs with hfit
    · obtain ⟨taken, htaken, hvalue, hle, hnext⟩ := ih _ hfit
      refine ⟨c :: taken, by rw [List.cons_append, ← htaken], ?_, hle, hnext⟩
      rw [hvalue, digitsValue_cons, List.length_cons, tenTo_succ]
      ring
    · refine ⟨[], rfl, (Nat.mul_one n).symm, hn, fun x hx => ?_⟩
      obtain rfl : c = x := by simpa using hx
      exact Nat.lt_of_not_le hfit

/-- Digits whose number fits are all collected. -/
theorem collect_eq_of_le {limit n : Nat} {digits : List Char}
    (h : n * tenTo digits.length + digitsValue digits ≤ limit) :
    collect limit n digits = (n * tenTo digits.length + digitsValue digits, []) := by
  have hn : n ≤ limit := (Nat.le_mul_of_pos_right n (tenTo_pos _)).trans ((Nat.le_add_right _ _).trans h)
  obtain ⟨taken, htaken, hvalue, -, hnext⟩ := collect_spec limit n digits hn
  generalize collect limit n digits = collected at htaken hvalue hnext
  obtain ⟨m, extra⟩ := collected
  simp only at htaken hvalue hnext
  cases extra with
  | nil => rw [List.append_nil] at htaken; rw [htaken, hvalue]
  | cons c extra =>
    -- one more digit would already be too much
    exfalso
    have hc := hnext c rfl
    subst htaken
    rw [List.length_append, List.length_cons, digitsValue_append, digitsValue_cons, List.length_cons, tenTo_add,
      tenTo_succ] at h
    have hpos := tenTo_pos extra.length
    have : (10 * m + (c.toNat - '0'.toNat)) * 1 ≤ (10 * m + (c.toNat - '0'.toNat)) * tenTo extra.length :=
      Nat.mul_le_mul_left _ hpos
    have e : n * (tenTo taken.length * (10 * tenTo extra.length)) + (digitsValue taken * (10 * tenTo extra.length) +
        (tenTo extra.length * (c.toNat - '0'.toNat) + digitsValue extra)) =
        (10 * m + (c.toNat - '0'.toNat)) * tenTo extra.length + digitsValue extra := by rw [hvalue]; ring
    omega

theorem collect_zero_of_le {limit : Nat} {digits : List Char} (h : digitsValue digits ≤ limit) :
    collect limit 0 digits = (digitsValue digits, []) := by
  have h0 : 0 * tenTo digits.length + digitsValue digits = digitsValue digits := by rw [Nat.zero_mul, Nat.zero_add]
  rw [collect_eq_of_le (h0.trans_le h), h0]

/-! ## Numerals -/

/-- An exponent: its mark, a sign that may be missing, and digits. -/
structure Exponent where
  mark : Char
  sign : List Char
  digits : List Char
  isMark : mark = 'e' ∨ mark = 'E'
  isSign : sign = [] ∨ sign = ['+'] ∨ sign = ['-']
  digits_ne_nil : digits ≠ []
  isDigit_digits : ∀ c ∈ digits, c.isDigit = true

namespace Exponent

def text (e : Exponent) : List Char := e.mark :: (e.sign ++ e.digits)

/-- Whether the exponent is negative. -/
def down (e : Exponent) : Bool := e.sign == ['-']

def value (e : Exponent) : Int := if e.down then -digitsValue e.digits else digitsValue e.digits

theorem natAbs_value (e : Exponent) : e.value.natAbs = digitsValue e.digits := by
  unfold value
  split_ifs <;> omega

theorem spanSign_append (e : Exponent) (rest : List Char) :
    spanSign (e.sign ++ e.digits ++ rest) = (e.down, e.digits ++ rest) := by
  obtain ⟨c, digits, hd⟩ := List.exists_cons_of_ne_nil e.digits_ne_nil
  have hc : c.isDigit = true := e.isDigit_digits c (hd ▸ List.mem_cons_self ..)
  unfold down
  rcases e.isSign with h | h | h <;> rw [h]
  · rw [hd, List.nil_append]; exact Double.spanSign_of_isDigit hc _
  · rfl
  · rfl

end Exponent

/-- A number without its sign, by its parts. No zero stands before other digits, and the fraction is
empty where there is no point. -/
structure Numeral where
  whole : List Char
  fraction : List Char
  exponent? : Option Exponent
  whole_ne_nil : whole ≠ []
  isDigit_whole : ∀ c ∈ whole, c.isDigit = true
  isDigit_fraction : ∀ c ∈ fraction, c.isDigit = true
  leading_zero : whole.head? = some '0' → whole = ['0']

/-- The point and the digits behind it, if there are any. -/
def fractionText : List Char → List Char
  | [] => []
  | digits => '.' :: digits

theorem fractionText_of_ne_nil {digits : List Char} (h : digits ≠ []) : fractionText digits = '.' :: digits := by
  obtain ⟨d, digits, rfl⟩ := List.exists_cons_of_ne_nil h
  rfl

/-- The exponent, if there is one. -/
def exponentText : Option Exponent → List Char
  | none => []
  | some e => e.text

namespace Numeral

def text (t : Numeral) : List Char := t.whole ++ (fractionText t.fraction ++ exponentText t.exponent?)

/-- The decimal that a numeral writes. -/
def decimal (t : Numeral) : Decimal :=
  ⟨digitsValue (t.whole ++ t.fraction), (t.exponent?.elim 0 Exponent.value) - t.fraction.length⟩

end Numeral

/-- Nothing at the front of a text makes a number before it longer. -/
def EndsNumber (text : List Char) : Prop := ∀ c ∈ text.head?, c.isDigit = false ∧ c ≠ '.' ∧ c ≠ 'e' ∧ c ≠ 'E'

theorem EndsNumber.nil : EndsNumber [] := by simp [EndsNumber]

namespace EndsNumber

variable {rest : List Char}

theorem not_isDigit (h : EndsNumber rest) : ∀ c ∈ rest.head?, c.isDigit = false := fun c hc => (h c hc).1

end EndsNumber

/-! ## Reading numerals -/

variable {negative : Bool} {s : Nat} {p : Int} {rest : List Char}

theorem head_exponentText (e? : Option Exponent) (h : EndsNumber rest) :
    ∀ c ∈ (exponentText e? ++ rest).head?, c.isDigit = false ∧ c ≠ '.' := by
  intro c hc
  cases e? with
  | none => exact ⟨(h c hc).1, (h c hc).2.1⟩
  | some e =>
    obtain rfl : e.mark = c := by simpa [exponentText, Exponent.text] using hc
    rcases e.isMark with hm | hm <;> rw [hm] <;> exact ⟨by decide, by decide⟩

theorem head_fractionText (f : List Char) (e? : Option Exponent) (h : EndsNumber rest) :
    ∀ c ∈ (fractionText f ++ (exponentText e? ++ rest)).head?, c.isDigit = false := by
  cases f with
  | nil => exact fun c hc => (head_exponentText e? h c hc).1
  | cons d f =>
    intro c hc
    obtain rfl : '.' = c := by simpa [fractionText] using hc
    decide

/-- What an exponent does to a significand at a power of ten. An exponent too great to be read in full
makes everything but zero infinite, or everything zero. -/
def scaleBy? (s : Nat) (p : Int) : Option Exponent → Option Magnitude
  | none => scale? s p
  | some e =>
    if digitsValue e.digits ≤ maxExponent then scale? s (p + e.value)
    else if s = 0 || e.down then some .zero
    else none

theorem afterFraction_text (e? : Option Exponent) (h : EndsNumber rest) :
    (afterFraction negative s p (exponentText e? ++ rest)).toOption =
      (floatNumber negative (scaleBy? s p e?) rest).toOption := by
  cases e? with
  | none =>
    cases rest with
    | nil => rfl
    | cons c rest =>
      obtain ⟨-, -, he, hE⟩ := h c rfl
      simp [exponentText, afterFraction, he, hE, scaleBy?]
  | some e =>
    have hmark : (e.mark == 'e' || e.mark == 'E') = true := by simpa using e.isMark
    have hdigits : spanDigits (e.digits ++ rest) = (e.digits, rest) := spanDigits_append e.isDigit_digits h.not_isDigit
    have hne : e.digits.isEmpty = false := by simpa using e.digits_ne_nil
    rw [exponentText, Exponent.text, List.cons_append]
    simp only [afterFraction, hmark, if_true, e.spanSign_append, hdigits, hne, Bool.false_eq_true, if_false, scaleBy?]
    by_cases hfit : digitsValue e.digits ≤ maxExponent
    · rw [collect_zero_of_le hfit, if_pos hfit, Exponent.value]
      cases e.down <;> rfl
    · obtain ⟨taken, htaken, hvalue, hle, -⟩ := collect_spec maxExponent 0 e.digits (Nat.zero_le _)
      rw [if_neg hfit]
      generalize collect maxExponent 0 e.digits = collected at htaken hvalue hle ⊢
      obtain ⟨m, extra⟩ := collected
      cases extra with
      | nil =>
        simp only [List.append_nil, Nat.zero_mul, Nat.zero_add] at htaken hvalue hle
        rw [hvalue, ← htaken] at hle
        exact absurd hle hfit
      | cons c extra =>
        simp only [Bool.or_eq_true, decide_eq_true_eq]
        split_ifs <;> rfl

namespace Numeral

variable (t : Numeral)

/-- The significand that the digits are collected into. -/
def significand : Nat := (collect maxSignificand (collect maxSignificand 0 t.whole).1 t.fraction).1

/-- The power of ten of the significand, the exponent apart. -/
def power : Int :=
  (collect maxSignificand 0 t.whole).2.length -
    (t.fraction.length - (collect maxSignificand (collect maxSignificand 0 t.whole).1 t.fraction).2.length : Nat)

/-- The magnitude that is read. -/
def magnitude? : Option Magnitude := scaleBy? t.significand t.power t.exponent?

/-- A whole number that the significand holds, written with digits alone. -/
def IsPlain : Prop := t.fraction = [] ∧ t.exponent? = none ∧ digitsValue t.whole ≤ maxSignificand

theorem unsignedNumber_text (h : EndsNumber rest) :
    unsignedNumber negative (t.text ++ rest) =
      afterWhole negative (collect maxSignificand 0 t.whole).1 (collect maxSignificand 0 t.whole).2.length
        (fractionText t.fraction ++ (exponentText t.exponent? ++ rest)) := by
  have hhead := head_fractionText t.fraction t.exponent? h
  rw [text, List.append_assoc, List.append_assoc]
  generalize fractionText t.fraction ++ (exponentText t.exponent? ++ rest) = behind at hhead ⊢
  obtain ⟨c, whole, hw⟩ := List.exists_cons_of_ne_nil t.whole_ne_nil
  by_cases hc : c = '0'
  · subst hc
    have hzero : t.whole = ['0'] := t.leading_zero (by rw [hw]; rfl)
    have hb : (behind.head?.map Char.isDigit).getD false = false := by
      cases behind with
      | nil => rfl
      | cons d behind => exact hhead d rfl
    rw [hzero]
    simp only [List.cons_append, List.nil_append, unsignedNumber, hb]
    rfl
  · have hspan : spanDigits (t.whole ++ behind) = (t.whole, behind) := spanDigits_append t.isDigit_whole hhead
    have hdigit : c.isDigit = true := t.isDigit_whole c (hw ▸ List.mem_cons_self ..)
    rw [hw] at hspan ⊢
    simp only [List.cons_append] at hspan ⊢
    simp only [unsignedNumber, hspan, beq_iff_eq, hc, if_false, hdigit, if_true]

variable {t}

theorem unsignedNumber_eq_wholeNumber (ht : t.IsPlain) (h : EndsNumber rest) :
    unsignedNumber negative (t.text ++ rest) = wholeNumber negative (digitsValue t.whole) rest := by
  obtain ⟨hf, he, hfit⟩ := ht
  rw [t.unsignedNumber_text h, collect_zero_of_le hfit, hf, he]
  cases rest with
  | nil => rfl
  | cons c rest =>
    obtain ⟨-, hpoint, he, hE⟩ := h c rfl
    simp only [fractionText, exponentText, List.nil_append, List.length_nil]
    unfold afterWhole
    split
    · rename_i heq; cases heq; exact absurd rfl hpoint
    · rename_i heq; cases heq
    · rename_i heq; cases heq; simp [he, hE]

/-- A whole number that is not plain has more digits than the significand holds. -/
theorem length_dropped_ne_zero (ht : ¬ t.IsPlain) (hf : t.fraction = []) (he : t.exponent? = none) :
    (collect maxSignificand 0 t.whole).2.length ≠ 0 := by
  intro hnil
  obtain ⟨taken, htaken, hvalue, hle, -⟩ := collect_spec maxSignificand 0 t.whole (Nat.zero_le _)
  rw [List.length_eq_zero_iff.1 hnil, List.append_nil] at htaken
  rw [Nat.zero_mul, Nat.zero_add, ← htaken] at hvalue
  exact ht ⟨hf, he, hvalue ▸ hle⟩

theorem toOption_unsignedNumber (ht : ¬ t.IsPlain) (h : EndsNumber rest) :
    (unsignedNumber negative (t.text ++ rest)).toOption = (floatNumber negative t.magnitude? rest).toOption := by
  rw [t.unsignedNumber_text h, magnitude?, ← afterFraction_text t.exponent? h]
  cases hf : t.fraction with
  | cons d f =>
    have hspan : spanDigits (d :: f ++ (exponentText t.exponent? ++ rest)) =
        (d :: f, exponentText t.exponent? ++ rest) :=
      spanDigits_append (hf ▸ t.isDigit_fraction) fun c hc => (head_exponentText t.exponent? h c hc).1
    rw [List.cons_append] at hspan
    simp only [fractionText, List.cons_append, afterWhole, hspan, List.isEmpty_cons, Bool.false_eq_true, if_false,
      significand, power, hf]
  | nil =>
    have hpower : t.power = (collect maxSignificand 0 t.whole).2.length := by simp [power, hf, collect]
    have hsignificand : t.significand = (collect maxSignificand 0 t.whole).1 := by simp [significand, hf, collect]
    rw [hpower, hsignificand, fractionText, List.nil_append]
    cases he : t.exponent? with
    | some e =>
      have hmark : e.mark ≠ '.' ∧ (e.mark != 'e' && e.mark != 'E') = false := by
        rcases e.isMark with hm | hm <;> rw [hm] <;> decide
      simp only [exponentText, Exponent.text, List.cons_append]
      unfold afterWhole
      split
      · rename_i heq; exact absurd (List.cons.inj heq).1 hmark.1
      · rename_i heq; cases heq
      · rename_i heq
        obtain ⟨rfl, rfl⟩ := List.cons.inj heq
        rw [Bool.and_assoc, hmark.2, Bool.and_false]
        rfl
    | none =>
      have hdropped := length_dropped_ne_zero ht hf he
      rw [exponentText, List.nil_append]
      cases rest with
      | nil => simp only [afterWhole, if_neg hdropped]
      | cons c rest =>
        obtain ⟨-, hpoint, -, -⟩ := h c rfl
        unfold afterWhole
        split
        · rename_i heq; cases heq; exact absurd rfl hpoint
        · rename_i heq; cases heq
        · rename_i heq
          cases heq
          simp [hdropped]

end Numeral

/-! ## Numerals in texts -/

variable {text : List Char} {n : Number}

theorem floatNumber_rest {m? : Option Magnitude} {behind : List Char}
    (h : floatNumber negative m? behind = .ok (n, rest)) : behind = rest := by
  unfold floatNumber at h
  split at h
  · cases h
  · split at h
    · cases h; rfl
    · cases h

theorem wholeNumber_rest {behind : List Char} (h : wholeNumber negative s behind = .ok (n, rest)) : behind = rest := by
  unfold wholeNumber at h
  simp only at h
  split_ifs at h <;> first
    | exact floatNumber_rest h
    | cases h; rfl

theorem exists_exponentText (h : afterFraction negative s p text = .ok (n, rest)) :
    ∃ e?, text = exponentText e? ++ rest := by
  cases text with
  | nil => exact ⟨none, floatNumber_rest h⟩
  | cons c text =>
    simp only [afterFraction] at h
    by_cases hmark : (c == 'e' || c == 'E') = true
    · rw [if_pos hmark] at h
      by_cases hempty : (spanDigits (spanSign text).2).1.isEmpty = true
      · rw [if_pos hempty] at h; split at h <;> cases h
      · rw [if_neg hempty] at h
        obtain ⟨sign, hsign, htext⟩ := exists_sign text
        have hbehind : (spanDigits (spanSign text).2).2 = rest := by
          split at h
          · exact floatNumber_rest h
          · split at h
            · exact floatNumber_rest h
            · cases h
        refine ⟨some ⟨c, sign, (spanDigits (spanSign text).2).1, by simpa using hmark, hsign, by simpa using hempty,
          isDigit_spanDigits _⟩, ?_⟩
        rw [exponentText, Exponent.text, List.cons_append, List.append_assoc, ← hbehind, spanDigits_fst_append, ← htext]
    · rw [if_neg hmark] at h
      exact ⟨none, floatNumber_rest h⟩

theorem exists_fractionText {dropped : Nat} (h : afterWhole negative s dropped text = .ok (n, rest)) :
    ∃ f e?, (∀ c ∈ f, c.isDigit = true) ∧ text = fractionText f ++ (exponentText e? ++ rest) := by
  unfold afterWhole at h
  split at h
  · rename_i text
    simp only at h
    split_ifs at h with hempty
    · split at h <;> cases h
    · obtain ⟨e?, he⟩ := exists_exponentText h
      refine ⟨(spanDigits text).1, e?, isDigit_spanDigits _, ?_⟩
      rw [← he, fractionText_of_ne_nil (by simpa using hempty), List.cons_append, spanDigits_fst_append]
  · split_ifs at h
    · exact ⟨[], none, by simp, wholeNumber_rest h⟩
    · obtain ⟨e?, he⟩ := exists_exponentText h
      exact ⟨[], e?, by simp, he⟩
  · split_ifs at h
    · exact ⟨[], none, by simp, wholeNumber_rest h⟩
    · obtain ⟨e?, he⟩ := exists_exponentText h
      exact ⟨[], e?, by simp, he⟩

/-- What is read as a number is a numeral at the front of the text. -/
theorem exists_numeral (h : unsignedNumber negative text = .ok (n, rest)) : ∃ t : Numeral, text = t.text ++ rest := by
  unfold unsignedNumber at h
  split at h
  · cases h
  · rename_i c behind
    split_ifs at h with hc hnext hdigit
    · obtain ⟨f, e?, hf, htext⟩ := exists_fractionText h
      obtain rfl : c = '0' := by simpa using hc
      refine ⟨⟨['0'], f, e?, by simp, List.forall_mem_singleton.2 (by decide), hf, fun _ => rfl⟩, ?_⟩
      rw [Numeral.text, List.append_assoc, List.append_assoc, ← htext]; rfl
    · obtain ⟨f, e?, hf, htext⟩ := exists_fractionText h
      have hfirst : (spanDigits (c :: behind)).1 = c :: (spanDigits behind).1 := List.takeWhile_cons_of_pos hdigit
      refine ⟨⟨(spanDigits (c :: behind)).1, f, e?, by simp [hfirst], isDigit_spanDigits _, hf, fun hhead => ?_⟩, ?_⟩
      · rw [hfirst] at hhead
        exact absurd (by simpa using hhead) hc
      · rw [Numeral.text, List.append_assoc, List.append_assoc, ← htext]
        exact (spanDigits_fst_append (c :: behind)).symm

end Json

end WhereFilter
