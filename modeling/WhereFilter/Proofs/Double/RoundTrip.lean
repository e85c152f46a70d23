/-
The text of a double reads back as that double: the digits that are written have the value of the
shortest decimal, wherever the point goes, and the shortest decimal denotes the magnitude. Also what
characters such a text is made of.
-/
import WhereFilter.Double.Layout
import WhereFilter.Text.Blank
import WhereFilter.Proofs.Double.Rounding
import WhereFilter.Proofs.Text.Run
import Mathlib.Data.Bool.AllAny

namespace WhereFilter

open WhereFilter.Text

/-! ## Digits -/

theorem digitsValue_eq (digits : List Char) : digitsValue digits = Nat.ofDigitChars 10 digits 0 := rfl

theorem digitsValue_zeros_append (n : Nat) (digits : List Char) :
    digitsValue (List.replicate n '0' ++ digits) = digitsValue digits := by
  rw [digitsValue_eq, Nat.ofDigitChars_append, Nat.ofDigitChars_replicate_zero, Nat.mul_zero, digitsValue_eq]

theorem digitsValue_append_zeros (digits : List Char) (n : Nat) :
    digitsValue (digits ++ List.replicate n '0') = tenTo n * digitsValue digits := by
  rw [digitsValue_eq, Nat.ofDigitChars_append, Nat.ofDigitChars_replicate_zero, digitsValue_eq]
  rfl

theorem spanDigits_append {digits rest : List Char} (hd : ∀ c ∈ digits, c.isDigit = true)
    (hr : ∀ c ∈ rest.head?, c.isDigit = false) : spanDigits (digits ++ rest) = (digits, rest) := by
  rw [spanDigits, takeWhile_run_append hd hr, dropWhile_run_append hd hr]

theorem spanDigits_run {digits : List Char} (hd : ∀ c ∈ digits, c.isDigit = true) :
    spanDigits digits = (digits, []) := by
  rw [← List.append_nil digits, spanDigits_append hd (by simp), List.append_nil]

theorem spanDigits_fst_append (text : List Char) : (spanDigits text).1 ++ (spanDigits text).2 = text :=
  List.takeWhile_append_dropWhile

theorem isDigit_spanDigits (text : List Char) : ∀ c ∈ (spanDigits text).1, c.isDigit = true := mem_takeWhile

theorem exists_sign (text : List Char) :
    ∃ sign, (sign = [] ∨ sign = ['+'] ∨ sign = ['-']) ∧ text = sign ++ (spanSign text).2 := by
  unfold spanSign
  split
  · exact ⟨['-'], by simp, rfl⟩
  · exact ⟨['+'], by simp, rfl⟩
  · exact ⟨[], by simp, rfl⟩

theorem isDigit_replicate_zero {n : Nat} : ∀ c ∈ List.replicate n '0', c.isDigit = true := by
  intro c hc
  rw [List.eq_of_mem_replicate hc]; decide

namespace Decimal

theorem read?_point {whole fraction : List Char} (hw : ∀ c ∈ whole, c.isDigit = true)
    (hf : ∀ c ∈ fraction, c.isDigit = true) (h0 : whole ≠ []) :
    read? (whole ++ '.' :: fraction) = some ⟨digitsValue (whole ++ fraction), -fraction.length⟩ := by
  have h1 : spanDigits (whole ++ '.' :: fraction) = (whole, '.' :: fraction) := spanDigits_append hw (by simp)
  have h2 : spanFraction ('.' :: fraction) = (fraction, []) :=
    spanDigits_run hf
  simp [read?, h1, h2, h0, exponent?]

theorem read?_whole {whole : List Char} (hw : ∀ c ∈ whole, c.isDigit = true) (h0 : whole ≠ []) :
    read? whole = some ⟨digitsValue whole, 0⟩ := by
  simp [read?, spanDigits_run hw, spanFraction, h0, exponent?]

end Decimal

namespace Layout

/-! ## Where the point goes -/

/-- The point stands behind leading zeros, behind all digits and unwritten, or among the digits. -/
theorem placePoint_cases (digits : List Char) (power : Int) :
    (power < 0 ∧ placePoint [] digits power =
      ['0'] ++ '.' :: (List.replicate (power.natAbs - 1) '0' ++ digits)) ∨
    (0 ≤ power ∧ digits.length ≤ power.toNat + 1 ∧ placePoint [] digits power =
      digits ++ List.replicate (power.toNat + 1 - digits.length) '0') ∨
    (0 ≤ power ∧ power.toNat + 1 < digits.length ∧ placePoint [] digits power =
      digits.take (power.toNat + 1) ++ '.' :: digits.drop (power.toNat + 1)) := by
  by_cases hp : power < 0
  · exact .inl ⟨hp, by simp [placePoint, hp]⟩
  by_cases hl : digits.length ≤ power.toNat + 1
  · exact .inr (.inl ⟨by omega, hl, by simp [placePoint, hp, hl]⟩)
  · exact .inr (.inr ⟨by omega, by omega, by simp [placePoint, hp, hl]⟩)

/-- Digits with the point after the one of power zero read as these digits at that power. -/
theorem read?_placePoint {digits : List Char} (hd : ∀ c ∈ digits, c.isDigit = true) (h0 : digits ≠ []) (power : Int) :
    ∃ d, Decimal.read? (placePoint [] digits power) = some d ∧
      d.value = digitsValue digits * (10 : ℚ) ^ (power + 1 - digits.length) := by
  have hlen := List.length_pos_iff.2 h0
  rcases placePoint_cases digits power with ⟨hp, h⟩ | ⟨hp, hl, h⟩ | ⟨hp, hl, h⟩ <;> rw [h]
  -- the number of digits behind the point is what the exponent makes up for
  · have hz := isDigit_replicate_zero (n := power.natAbs - 1)
    refine ⟨_, Decimal.read?_point (List.forall_mem_singleton.2 (by decide))
      (fun c hc => (List.mem_append.1 hc).elim (hz c) (hd c)) (by simp), ?_⟩
    have hv : digitsValue (['0'] ++ (List.replicate (power.natAbs - 1) '0' ++ digits)) = digitsValue digits := by
      rw [← List.append_assoc]
      exact digitsValue_zeros_append (power.natAbs - 1 + 1) digits
    have he : -((List.replicate (power.natAbs - 1) '0' ++ digits).length : Int) = power + 1 - digits.length := by
      rw [List.length_append, List.length_replicate]; omega
    rw [Decimal.value, hv, he]
  · refine ⟨_, Decimal.read?_whole (fun c hc => (List.mem_append.1 hc).elim (hd c) (isDigit_replicate_zero c))
      (by simp [h0]), ?_⟩
    have he : power + 1 - digits.length = ((power.toNat + 1 - digits.length : ℕ) : Int) := by omega
    rw [Decimal.value, digitsValue_append_zeros, he, zpow_natCast, zpow_zero, mul_one, Nat.cast_mul, cast_tenTo,
      mul_comm]
  · have ht : ∀ c ∈ digits.take (power.toNat + 1), c.isDigit = true := fun c hc => hd c (List.mem_of_mem_take hc)
    have hr : ∀ c ∈ digits.drop (power.toNat + 1), c.isDigit = true := fun c hc => hd c (List.mem_of_mem_drop hc)
    refine ⟨_, Decimal.read?_point ht hr (by simp [h0]), ?_⟩
    have he : -((digits.drop (power.toNat + 1)).length : Int) = power + 1 - digits.length := by
      rw [List.length_drop]; omega
    rw [Decimal.value, List.take_append_drop, he]

/-! ## The digits of a decimal -/

theorem exists_zeros (digits : List Char) :
    ∃ n, digits = (digits.reverse.dropWhile (· == '0')).reverse ++ List.replicate n '0' := by
  refine ⟨(digits.reverse.takeWhile (· == '0')).length, ?_⟩
  have hz : digits.reverse.takeWhile (· == '0') =
      List.replicate (digits.reverse.takeWhile (· == '0')).length '0' :=
    List.eq_replicate_of_mem fun c hc => by simpa using mem_takeWhile c hc
  rw [← List.reverse_replicate, ← hz, ← List.reverse_append, List.takeWhile_append_dropWhile, List.reverse_reverse]

/-- The significant digits of a decimal, at the power of the first of them, have its value. -/
theorem digitsOf_spec (d : Decimal) :
    (digitsOf d).1 ≠ [] ∧ (∀ c ∈ (digitsOf d).1, c.isDigit = true) ∧
      digitsValue (digitsOf d).1 * (10 : ℚ) ^ ((digitsOf d).2 + 1 - (digitsOf d).1.length) = d.value := by
  obtain ⟨n, hn⟩ := exists_zeros (Nat.toDigits 10 d.coefficient)
  have hval : digitsValue (Nat.toDigits 10 d.coefficient) = d.coefficient := Nat.ofDigitChars_ten_toDigits
  have hdig : ∀ c ∈ Nat.toDigits 10 d.coefficient, c.isDigit = true := fun c hc =>
    Nat.isDigit_of_mem_toDigits (by decide) (by decide) hc
  unfold digitsOf
  simp only
  generalize Nat.toDigits 10 d.coefficient = all at hn hval hdig ⊢
  generalize (all.reverse.dropWhile (· == '0')).reverse = kept at hn ⊢
  subst hn
  rw [digitsValue_append_zeros] at hval
  split_ifs with hk
  · -- a decimal without significant digits is zero
    rw [List.isEmpty_iff] at hk
    subst hk
    have h0 : d.coefficient = 0 := by rw [← hval]; rfl
    exact ⟨by decide, List.forall_mem_singleton.2 (by decide), by rw [Decimal.value, h0]; simp [digitsValue]⟩
  · refine ⟨by simpa using hk, fun c hc => hdig c (List.mem_append_left _ hc), ?_⟩
    have he : d.exponent + ((kept ++ List.replicate n '0').length : Int) - 1 + 1 - (kept.length : Int) =
        (n : Int) + d.exponent := by
      simp only [List.length_append, List.length_replicate, Nat.cast_add]; omega
    rw [he, zpow_add₀ (by norm_num), Decimal.value, ← hval, zpow_natCast, Nat.cast_mul, cast_tenTo]
    ring

theorem decimalText_plain (d : Decimal) : plain.decimalText d = placePoint [] (digitsOf d).1 (digitsOf d).2 := rfl

/-- A decimal in plain layout reads as a decimal of its value. -/
theorem read?_decimalText (d : Decimal) :
    ∃ d', Decimal.read? (plain.decimalText d) = some d' ∧ d'.value = d.value := by
  obtain ⟨h0, hd, hv⟩ := digitsOf_spec d
  rw [← hv, decimalText_plain]
  exact read?_placePoint hd h0 _

theorem mem_decimalText (d : Decimal) : ∀ c ∈ plain.decimalText d, c.isDigit = true ∨ c = '.' := by
  obtain ⟨-, hd, -⟩ := digitsOf_spec d
  intro c hc
  rw [decimalText_plain] at hc
  have hz (n : Nat) : c ∈ List.replicate n '0' → c.isDigit = true := isDigit_replicate_zero c
  rcases placePoint_cases (digitsOf d).1 (digitsOf d).2 with ⟨-, h⟩ | ⟨-, -, h⟩ | ⟨-, -, h⟩ <;> rw [h] at hc <;>
    simp only [List.cons_append, List.nil_append, List.mem_cons, List.mem_append] at hc
  · rcases hc with rfl | rfl | hc | hc
    exacts [.inl (by decide), .inr rfl, .inl (hz _ hc), .inl (hd c hc)]
  · rcases hc with hc | hc
    exacts [.inl (hd c hc), .inl (hz _ hc)]
  · rcases hc with hc | rfl | hc
    exacts [.inl (hd c (List.mem_of_mem_take hc)), .inr rfl, .inl (hd c (List.mem_of_mem_drop hc))]

theorem head_decimalText (d : Decimal) : ∃ c rest, plain.decimalText d = c :: rest ∧ c.isDigit = true := by
  obtain ⟨h0, hd, -⟩ := digitsOf_spec d
  rw [decimalText_plain]
  generalize (digitsOf d).1 = digits at h0 hd ⊢
  obtain ⟨c, digits, rfl⟩ := List.exists_cons_of_ne_nil h0
  have hc := hd c (List.mem_cons_self ..)
  rcases placePoint_cases (c :: digits) (digitsOf d).2 with ⟨-, h⟩ | ⟨-, -, h⟩ | ⟨-, -, h⟩ <;> rw [h]
  exacts [⟨'0', _, rfl, by decide⟩, ⟨c, _, rfl, hc⟩, ⟨c, _, rfl, hc⟩]

end Layout

/-! ## Doubles -/

namespace Double

theorem spanSign_of_isDigit {c : Char} (hc : c.isDigit = true) (rest : List Char) :
    spanSign (c :: rest) = (false, c :: rest) := by
  unfold spanSign
  split
  · rename_i h; cases h; cases hc
  · rename_i h; cases h; cases hc
  · rfl

theorem readUnsigned?_decimalText (tie : Tie) {m : Magnitude} (h : m.isFinite = true) :
    readUnsigned? (Layout.plain.decimalText (m.shortest tie)) = some (signed false m) := by
  obtain ⟨d, hd, hv⟩ := Layout.read?_decimalText (m.shortest tie)
  simp only [readUnsigned?, hd]
  rw [Magnitude.ofDecimal_congr hv, Magnitude.ofDecimal_shortest tie h]

theorem eq_infinity {m : Magnitude} (h : m.isFinite = false) : m = .infinity := by
  obtain ⟨rank, hle⟩ := m
  simp only [Magnitude.isFinite, decide_eq_false_iff_not] at h
  simp only [Magnitude.infinity, Magnitude.mk.injEq]
  omega

theorem text_signed (negative : Bool) (m : Magnitude) :
    (signed negative m).text = if m.isFinite then Layout.plain.magnitudeText negative m
      else (if negative then ['-'] else []) ++ ['i', 'n', 'f'] := rfl

/-- What is not finite is written as a word, which reads as itself. -/
theorem read?_words : read? nan.text = some nan ∧
    ∀ negative, read? (signed negative .infinity).text = some (signed negative .infinity) := by decide +kernel

/-- The text of a double reads as that double. -/
theorem read?_text (d : Double) : read? d.text = some d := by
  cases d with
  | nan => exact read?_words.1
  | signed negative m =>
    by_cases hf : m.isFinite = true
    · -- a finite magnitude is written in digits, behind a sign if it is negative
      have hr := readUnsigned?_decimalText Layout.plain.tie hf
      obtain ⟨c, rest, ht, hc⟩ := Layout.head_decimalText (m.shortest Layout.plain.tie)
      rw [ht] at hr
      rw [text_signed, if_pos hf, Layout.magnitudeText, ht]
      cases negative with
      | true => simp [read?, spanSign, hr, negate]
      | false => simp [read?, spanSign_of_isDigit hc, hr]
    · rw [eq_infinity (m := m) (by simpa using hf)]
      exact read?_words.2 negative

/-! ## Characters of texts -/

/-- The characters that occur in texts of doubles. -/
def textChars : List Char := "0123456789.-infNa".toList

theorem mem_textChars_of_isDigit {c : Char} (hc : c.isDigit = true) : c ∈ textChars := by
  have h : ∀ n < 128, (Char.ofNat n).isDigit = true → Char.ofNat n ∈ textChars := by decide +kernel
  have hlt : c.toNat < 128 := by
    simp only [Char.isDigit, ge_iff_le, Bool.and_eq_true, decide_eq_true_eq] at hc
    exact Nat.lt_of_le_of_lt (UInt32.le_iff_toNat_le.1 hc.2) (by decide)
  have := h c.toNat hlt
  rw [Char.ofNat_toNat] at this
  exact this hc

/-- No text of a number has a blank, a letter `D` or a quote in it. -/
theorem plain_of_mem_textChars : ∀ c ∈ textChars, isBlank c = false ∧ c.toLower ≠ 'd' ∧ c ≠ '\'' :=
  List.all_iff_forall_prop.1 (by decide +kernel)

theorem mem_text (d : Double) : ∀ c ∈ d.text, c ∈ textChars := by
  have hmarks : ∀ c ∈ ['N', 'a', 'i', 'n', 'f', '-', '.'], c ∈ textChars :=
    List.all_iff_forall_prop.1 (by decide +kernel)
  have hnan : ∀ c ∈ ['N', 'a', 'N'], c ∈ textChars := by simp [hmarks]
  have hinf : ∀ c ∈ ['i', 'n', 'f'], c ∈ textChars := by simp [hmarks]
  cases d with
  | nan => exact hnan
  | signed negative m =>
    have hsign : ∀ c ∈ (if negative then ['-'] else []), c ∈ textChars := by
      cases negative <;> simp [hmarks]
    intro c hc
    rw [text_signed] at hc
    split at hc
    · rcases List.mem_append.1 hc with hc | hc
      · exact hsign c hc
      · rcases Layout.mem_decimalText _ c hc with hc | rfl
        exacts [mem_textChars_of_isDigit hc, hmarks '.' (by simp)]
    · rcases List.mem_append.1 hc with hc | hc
      · exact hsign c hc
      · exact hinf c hc

theorem text_ne_nil (d : Double) : d.text ≠ [] := by
  intro h
  have := read?_text d
  rw [h] at this
  exact absurd this (by simp [read?, spanSign, readUnsigned?, Decimal.read?, spanDigits, Decimal.spanFraction])

end Double

end WhereFilter
