/-
Exponents that are not taken in as a whole. A literal stops reading the digits of its exponent at a limit,
so a numeral may be read as another decimal than the one that it writes (`Numeral.taken`). The two are the
same if the exponent has no digit behind the limit (`taken_eq_decimal`), and they are rounded alike if the
numeral is too short to make up for an exponent that has (`ofDecimal_taken`).
-/
import WhereFilter.Proofs.Json.Magnitude

namespace WhereFilter

/-! ## Digits behind the limit -/

namespace Decimal

variable {digits : List Char}

/-- More digits make a number no smaller. -/
theorem le_ofDigitChars (digits : List Char) (n : Nat) : n ≤ Nat.ofDigitChars 10 digits n := by
  rw [Nat.ofDigitChars_eq_ofDigitChars_zero]
  exact (Nat.le_mul_of_pos_left n (Nat.pow_pos (by decide))).trans (Nat.le_add_right _ _)

theorem foldl_withDigit_of_le {n : Nat} (h : exponentLimit ≤ n) : digits.foldl withDigit n = n := by
  induction digits with
  | nil => rfl
  | cons c digits ih => rw [List.foldl_cons, withDigit, if_neg (Nat.not_lt.2 h), ih]

theorem foldl_withDigit_of_lt : ∀ (digits : List Char) (n : Nat),
    Nat.ofDigitChars 10 digits n < 10 * exponentLimit → digits.foldl withDigit n = Nat.ofDigitChars 10 digits n
  | [], _, _ => rfl
  | c :: digits, n, h => by
    have hle := le_ofDigitChars digits (10 * n + (c.toNat - '0'.toNat))
    have hn : n < exponentLimit := by
      have := hle.trans_lt h
      omega
    rw [List.foldl_cons, withDigit, if_pos hn]
    exact foldl_withDigit_of_lt digits _ h

theorem le_foldl_withDigit : ∀ (digits : List Char) (n : Nat),
    10 * exponentLimit ≤ Nat.ofDigitChars 10 digits n → exponentLimit ≤ digits.foldl withDigit n
  | [], n, h => by
    have : 10 * exponentLimit ≤ n := h
    show exponentLimit ≤ n
    omega
  | c :: digits, n, h => by
    by_cases hn : n < exponentLimit
    · rw [List.foldl_cons, withDigit, if_pos hn]
      exact le_foldl_withDigit digits _ h
    · rw [foldl_withDigit_of_le (Nat.not_lt.1 hn)]
      exact Nat.not_lt.1 hn

/-- The last digit may pass the limit. -/
theorem exponentValue_eq (h : digitsValue digits < 10 * exponentLimit) : exponentValue digits = digitsValue digits :=
  foldl_withDigit_of_lt digits 0 h

theorem le_exponentValue (h : 10 * exponentLimit ≤ digitsValue digits) : exponentLimit ≤ exponentValue digits :=
  le_foldl_withDigit digits 0 h

end Decimal

/-! ## Numerals as literals -/

namespace Json

/-- An exponent as far as a literal takes it in. -/
def Exponent.taken (e : Exponent) : Int :=
  if e.down then -(Decimal.exponentValue e.digits : Int) else Decimal.exponentValue e.digits

namespace Numeral

/-- The decimal that a literal takes a numeral for. -/
def taken (t : Numeral) : Decimal :=
  ⟨digitsValue (t.whole ++ t.fraction), t.exponent?.elim 0 Exponent.taken - t.fraction.length⟩

/-- No digit of the exponent is left out. -/
def TakenWhole (t : Numeral) : Prop := ∀ e, t.exponent? = some e → digitsValue e.digits < 655360

variable {t : Numeral}

theorem taken_eq_decimal (h : t.TakenWhole) : t.taken = t.decimal := by
  rw [taken, decimal]
  cases he : t.exponent? with
  | none => rfl
  | some e => rw [Option.elim_some, Option.elim_some, Exponent.taken, Exponent.value, Decimal.exponentValue_eq (h e he)]

/-- A short numeral with such an exponent is zero, or rounded to zero or infinity, whatever is left out. -/
theorem ofDecimal_taken (hwhole : t.whole.length ≤ 65000) (hfraction : t.fraction.length ≤ 65000) :
    Magnitude.ofDecimal t.taken = .ofDecimal t.decimal := by
  by_cases h : t.TakenWhole
  · rw [taken_eq_decimal h]
  obtain ⟨e, he, hlong⟩ : ∃ e, t.exponent? = some e ∧ 655360 ≤ digitsValue e.digits := by
    simpa [TakenWhole] using h
  have hlimit : 65536 ≤ Decimal.exponentValue e.digits := Decimal.le_exponentValue hlong
  have hlength : (t.whole ++ t.fraction).length = t.whole.length + t.fraction.length := List.length_append
  have hcoefficient := t.coefficient_lt
  rw [hlength] at hcoefficient
  rw [taken, decimal, he, Option.elim_some, Option.elim_some, Exponent.taken, Exponent.value]
  cases e.down with
  | true =>
    rw [ofDecimal_eq_zero_of_lt hcoefficient, ofDecimal_eq_zero_of_lt hcoefficient]
    · simp only [if_true]
      push_cast
      omega
    · simp only [if_true]
      push_cast
      omega
  | false =>
    by_cases h0 : t.coefficient = 0
    · have hzero (p : Int) : Magnitude.ofDecimal ⟨digitsValue (t.whole ++ t.fraction), p⟩ = .zero := by
        rw [Magnitude.ofDecimal]
        exact if_pos h0
      rw [hzero, hzero]
    · rw [ofDecimal_eq_infinity h0, ofDecimal_eq_infinity h0]
      · simp only [Bool.false_eq_true, if_false]
        omega
      · simp only [Bool.false_eq_true, if_false]
        omega

end Numeral

end Json

end WhereFilter
