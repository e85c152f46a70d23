/-
What a written double is read as. Its text has few digits, so all of them go into the significand, and
what comes back is that significand times the power of ten of its last digit, as the reader scales it
(`reread_signed`). The result lies near to the double that was written, as the decimal of the digits denotes
that double (`near_scale?_decimal`).
-/
import WhereFilter.Proofs.Double.Digits
import WhereFilter.Proofs.Json.NumberText

namespace WhereFilter

open WhereFilter.Text

/-! ## Powers of ten that are written -/

theorem Layout.natAbs_power_le (d : Decimal) :
    (digitsOf d).2.natAbs ≤ d.exponent.natAbs + (Nat.toDigits 10 d.coefficient).length := by
  unfold digitsOf
  simp only
  split_ifs
  · exact Nat.zero_le _
  · have := List.length_pos_iff.2 (Nat.toDigits_ne_nil (n := d.coefficient) (b := 10))
    dsimp only
    omega

-- the number of units in one and the greatest power of ten are too large to be computed
attribute [local irreducible] Magnitude.unitsPerOne Magnitude.places Json.maxPower

namespace Json

/-- Scaling a decimal whose coefficient is a significand comes near to the magnitude that it denotes. -/
theorem near_scale?_decimal {d : Decimal} (h : d.coefficient ≤ maxSignificand) :
    Magnitude.Near 6 ((scale? d.coefficient d.exponent).getD .infinity) (.ofDecimal d) := by
  by_cases h0 : d.coefficient = 0
  · have hzero : Magnitude.ofDecimal d = .zero := by rw [Magnitude.ofDecimal, if_pos h0]
    rw [h0, scale?_zero, hzero]
    exact (Magnitude.Near.refl _).mono (by decide)
  · exact near_scale? (Nat.pos_of_ne_zero h0) h
      (Within.self (mul_nonneg (Nat.cast_nonneg _) (zpow_nonneg (by norm_num) _)) one_le_truncation)

variable {m : Magnitude}

/-- The text of a finite magnitude is a numeral that denotes it and is read by scaling all of its digits. -/
theorem exists_numeral_shortest (h : m.isFinite = true) : ∃ t : Numeral,
    Layout.json.decimalText (m.shortest .toEven) = t.text ∧ Magnitude.ofDecimal t.decimal = m ∧
      t.taken = t.decimal ∧ t.decimal.coefficient ≤ maxSignificand ∧
      t.magnitude? = scale? t.decimal.coefficient t.decimal.exponent := by
  obtain ⟨t, ht, hvalue, -, -, hcoefficient, hpower⟩ := Layout.exists_numeral_decimalText (m.shortest .toEven)
  obtain ⟨hdigits, hexponent⟩ := Magnitude.shortest_bounds .toEven h
  have hfit : t.coefficient ≤ maxSignificand :=
    (hcoefficient.trans (max_le (hdigits.trans (by decide)) (by decide)))
  have hreach : ∀ e, t.exponent? = some e → digitsValue e.digits < 655360 := by
    intro e he
    have hlength : (Nat.toDigits 10 (m.shortest .toEven).coefficient).length ≤ 19 :=
      (Nat.length_toDigits_le_iff (by decide) (by decide)).2 (hdigits.trans_lt (by decide))
    have hbound := Layout.natAbs_power_le (m.shortest .toEven)
    rw [← hpower e he, e.natAbs_value] at hbound
    omega
  have hmax : 655360 ≤ maxExponent := by decide
  refine ⟨t, ht, ?_, Numeral.taken_eq_decimal hreach, hfit,
    t.magnitude?_eq_scale? hfit fun e he => (hreach e he).le.trans hmax⟩
  rw [Magnitude.ofDecimal_congr hvalue, Magnitude.ofDecimal_shortest .toEven h]

/-- The decimal `d` whose digits the magnitude `m` is written with, and the magnitude `m'` that the reader makes of
these digits. -/
structure Rescales (m m' : Magnitude) (d : Decimal) : Prop where
  written : Decimal.read? ((Double.signed false m).textIn .json) = some d
  denotes : Magnitude.ofDecimal d = m
  fits : d.coefficient ≤ maxSignificand
  scaled : scale? d.coefficient d.exponent = some m'
  finite : m'.isFinite = true
  near : m'.Near 6 m
  exact : ReadsExactly d → m' = m

/-- The digits of a magnitude say all. -/
theorem Rescales.unique {m₁ m₂ : Magnitude} {d₁ d₂ : Decimal} (h₁ : Rescales m m₁ d₁) (h₂ : Rescales m m₂ d₂) :
    m₁ = m₂ := by
  obtain rfl : d₁ = d₂ := Option.some.inj (h₁.written.symm.trans h₂.written)
  exact Option.some.inj (h₁.scaled.symm.trans h₂.scaled)

/-- A finite double is read back with its sign, as its digits scaled by their power of ten. -/
theorem reread_signed (negative : Bool) (h : (Double.signed negative m).isFinite = true) :
    ∃ (d : Decimal) (m' : Magnitude) (h' : (Double.signed negative m').isFinite = true),
      Rescales m m' d ∧ (Number.float (.signed negative m) h).reread = .float (.signed negative m') h' := by
  obtain ⟨t, ht, hdenotes, htaken, hfit, hscale⟩ := exists_numeral_shortest (m := m) h
  obtain ⟨m', h', hread⟩ := exists_unsignedNumber_float negative (m := m) h
  have hself := hread [] EndsNumber.nil
  rw [ht] at hself
  have hscalar := scalar_minus_append hself
  rw [List.append_nil] at hself hscalar
  obtain ⟨m'', hm'', hdouble⟩ := exists_magnitude hself
  obtain rfl : m' = m'' := (Double.signed.inj hdouble).2
  have hscaled : scale? t.decimal.coefficient t.decimal.exponent = some m' := hscale ▸ hm''
  refine ⟨t.decimal, m', h', ⟨?_, hdenotes, hfit, hscaled, h', ?_, fun hexact => ?_⟩, ?_⟩
  · have htext : (Double.signed false m).textIn .json = minus false ++ Layout.json.decimalText (m.shortest .toEven) :=
      text_float false (m := m) h
    rw [htext, ht, show minus false = [] from rfl, List.nil_append, Decimal.read?_numeral, htaken]
  · have hnear := near_scale?_decimal hfit
    rwa [hscaled, hdenotes] at hnear
  · rw [scale?_of_readsExactly hexact, hdenotes] at hscaled
    exact (Option.some.inj hscaled).symm
  · rw [Number.reread, text_float, ht, hscalar]

end Json

end WhereFilter
