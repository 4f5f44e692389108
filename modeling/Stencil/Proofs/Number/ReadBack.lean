import Stencil.Number.Display
import Stencil.Proofs.Number.Places

/-!
# Numbers read back from their digits

Reading a decimal rounds it to the nearest number, however far away its point is
(`Stencil.Decimal.toNumber_of_isNearest`). The shortest digits of a magnitude are rounded
to that magnitude, so a numeral with their quantity denotes the number it was made from.

The main statement is `Stencil.Number.exists_numeral_literal`: the literal of a
finite number is its sign and the text of a numeral that denotes it.
-/

namespace Stencil

/-! ### Reading a decimal -/

theorem Decimal.quantity_nonneg (d : Decimal) : 0 ≤ d.quantity := by
  rw [quantity]
  positivity

/-- A decimal is below the power of ten at its point, and not below the one before. -/
theorem Decimal.quantity_lt (d : Decimal) : d.quantity < 10 ^ d.pointPlace := by
  have hlt : (d.coefficient : ℚ) < 10 ^ (digitsOf d.coefficient).length := by
    exact_mod_cast lt_pow_length_digitsOf d.coefficient
  rw [quantity, pointPlace, zpow_add₀ (by norm_num), zpow_natCast]
  exact mul_lt_mul_of_pos_right hlt (by positivity)

theorem Decimal.le_quantity {d : Decimal} (hpos : 0 < d.coefficient) :
    10 ^ (d.pointPlace - 1) ≤ d.quantity := by
  have hle : (10 : ℚ) ^ ((digitsOf d.coefficient).length - 1) ≤ d.coefficient := by
    exact_mod_cast pow_length_digitsOf_le hpos
  have hlength : 0 < (digitsOf d.coefficient).length := Nat.length_toDigits_pos
  have hplace : d.pointPlace - 1 =
      (((digitsOf d.coefficient).length - 1 : ℕ) : ℤ) + d.exponent := by
    rw [pointPlace]
    omega
  rw [quantity, hplace, zpow_add₀ (by norm_num), zpow_natCast]
  exact mul_le_mul_of_nonneg_right hle (by positivity)

/-- The quotient that is rounded is the quantity of the decimal. -/
theorem Decimal.quantity_eq_quotient (d : Decimal) :
    0 < d.quotient.2 ∧
      (d.quotient.1 / d.quotient.2 / 2 ^ unitExponent : ℚ) = d.quantity := by
  obtain ⟨c, e⟩ := d
  cases e with
  | ofNat e =>
    refine ⟨Nat.one_pos, ?_⟩
    simp only [quotient, quantity, Int.ofNat_eq_natCast, zpow_natCast]
    push_cast
    rw [div_one, mul_div_assoc, div_self (by positivity), mul_one]
  | negSucc e =>
    refine ⟨Nat.pow_pos (by decide), ?_⟩
    simp only [quotient, quantity, zpow_negSucc]
    push_cast
    rw [div_right_comm, mul_div_assoc, div_self (by positivity), mul_one, div_eq_mul_inv]

/-- The least magnitude that is too large to be finite. -/
theorem magnitude_rankCount : magnitude rankCount = (2 ^ 1024 : ℕ) := by
  have hrank : rankCount = 2046 * 2 ^ 52 + 2 ^ 52 := rfl
  rw [hrank]
  refine magnitude_run_of_mul_eq (by decide) le_rfl _ ?_
  have hexponent : 52 + 2046 = 1024 + unitExponent := rfl
  rw [← Nat.pow_add, ← Nat.pow_add, hexponent]

/-- Three binary digits are worth less than one decimal digit. -/
theorem two_pow_le_ten_pow {a b : Nat} (h : a ≤ 3 * b) : 2 ^ a ≤ 10 ^ b := by
  calc 2 ^ a ≤ 2 ^ (3 * b) := Nat.pow_le_pow_right (by decide) h
    _ = (2 ^ 3) ^ b := Nat.pow_mul 2 3 b
    _ ≤ 10 ^ b := Nat.pow_le_pow_left (by decide) b

/-- A quantity of 400 digits or more before the point is too large to be finite. -/
theorem IsNearest.rankCount_le {q : ℚ} {rank b : ℕ} (h : IsNearest q rank) (hb : 400 ≤ b)
    (hq : 10 ^ b ≤ q) : rankCount ≤ rank := by
  refine (isNearest_magnitude rankCount).mono h (le_trans ?_ hq)
  rw [magnitude_rankCount]
  exact_mod_cast two_pow_le_ten_pow (by omega : 1024 ≤ 3 * b)

/-- A quantity with 400 zeros or more behind the point is too small to be positive. -/
theorem IsNearest.eq_zero {q : ℚ} {rank b : ℕ} (h : IsNearest q rank) (hb : 400 ≤ b)
    (hq : 0 ≤ q) (hq' : q * 10 ^ b < 1) : rank = 0 := by
  refine h.unique (.of_lower_half (magnitude_zero ▸ hq) (.inl ?_))
  have hone : magnitude (0 + 1) = 1 / 2 ^ unitExponent := by
    have hunits : units 1 = 1 := rfl
    rw [Nat.zero_add, magnitude, hunits, Nat.cast_one]
  have hpower : (2 : ℚ) ^ (unitExponent + 1) ≤ 10 ^ b := by
    exact_mod_cast two_pow_le_ten_pow (by have : unitExponent = 1074 := rfl; omega)
  rw [magnitude_zero, hone, zero_add, lt_div_iff₀ (by positivity)]
  calc 2 * q * 2 ^ unitExponent = q * 2 ^ (unitExponent + 1) := by
        rw [pow_succ]
        ring
    _ ≤ q * 10 ^ b := mul_le_mul_of_nonneg_left hpower hq
    _ < 1 := hq'

/-- **Reading rounds to the nearest number**, also where the power of ten is not
computed. -/
theorem Decimal.toNumber_of_isNearest {d : Decimal} {rank : ℕ} (h : IsNearest d.quantity rank)
    (negative : Bool) : d.toNumber negative = .ofRank negative rank := by
  -- The bound gets a name, so that its power of ten is never written out.
  obtain ⟨b, hb⟩ : ∃ b, b = 400 := ⟨_, rfl⟩
  unfold toNumber
  split
  · next hcoefficient =>
    have hquantity : d.quantity = magnitude 0 := by
      rw [quantity, hcoefficient, Nat.cast_zero, zero_mul, magnitude_zero]
    rw [(isNearest_magnitude 0).unique (hquantity ▸ h)]
  next hcoefficient =>
  split
  · next hlarge =>
    -- Beyond the bound the nearest rank is too large for a number.
    have hquantity : (10 : ℚ) ^ b ≤ d.quantity := by
      refine le_trans ?_ (le_quantity (Nat.pos_of_ne_zero hcoefficient))
      rw [← zpow_natCast]
      exact zpow_le_zpow_right₀ (by norm_num) (by omega)
    have hrank := h.rankCount_le hb.ge hquantity
    rw [Number.ofRank, dif_neg (Nat.not_lt.mpr hrank)]
  split
  · next hsmall =>
    -- On the other side of it zero is nearest.
    have hquantity : d.quantity * 10 ^ b < 1 := by
      rw [← lt_div_iff₀ (by positivity), one_div, ← zpow_natCast, ← zpow_neg]
      exact d.quantity_lt.trans_le (zpow_le_zpow_right₀ (by norm_num) (by omega))
    rw [h.eq_zero hb.ge d.quantity_nonneg hquantity]
  · obtain ⟨hden, hquotient⟩ := d.quantity_eq_quotient
    rw [Number.ofUnits, (nearestRank_eq_iff hden).mpr (hquotient ▸ h)]

/-! ### Literals -/

namespace Significant

variable {s : Significant} (h : s.Proper)

include h

/-- Digits with the point after the first one and an exponent are a numeral. -/
theorem exists_numeral_mantissa {sign : Sign} {ds : DigitRun}
    (hvalue : sign.apply (Decimal.ofDigits ds.digits) = s.exponent) :
    ∃ n : WrittenNumeral, n.text = s.mantissa ++ 'e' :: (sign.text ++ ds.digits) ∧
      n.decimal = s.decimal ∧ n.exponent? = some (sign, ds) ∧ n.whole.digits = s.digits.take 1 ∧
      ∀ run, n.fraction? = some run → run.digits = s.digits.drop 1 := by
  obtain ⟨hne, hdigit, -, -⟩ := h
  obtain ⟨digits, point⟩ := s
  obtain ⟨d, others, rfl⟩ := List.exists_cons_of_ne_nil hne
  have hfirst : ∀ c ∈ [d], c.isDigit = true := fun c hc => hdigit c (by simp_all)
  simp only [exponent] at hvalue
  cases others with
  | nil =>
    refine ⟨⟨⟨[d], by simp, hfirst⟩, none, some (sign, ds)⟩, rfl, ?_, rfl, rfl, by simp⟩
    simp only [WrittenNumeral.decimal, WrittenNumeral.mantissa, Decimal.shift, hvalue, decimal,
      List.length_singleton, Decimal.mk.injEq, true_and]
    omega
  | cons e rest =>
    refine ⟨⟨⟨[d], by simp, hfirst⟩, some ⟨e :: rest, by simp, fun c hc => hdigit c (by simp_all)⟩,
      some (sign, ds)⟩, ?_, ?_, rfl, rfl, by simp⟩
    · simp [WrittenNumeral.text, WrittenNumeral.fractionText, WrittenNumeral.exponentText,
        mantissa]
    · simp only [WrittenNumeral.decimal, WrittenNumeral.mantissa, Decimal.shift, hvalue, decimal,
        List.cons_append, List.nil_append, List.length_cons, Decimal.mk.injEq, true_and]
      omega

/-- Digits that go on behind the point are a numeral. -/
theorem exists_numeral_fraction (hfraction : s.isWhole = false) :
    ∃ n : WrittenNumeral, n.text = s.positional ∧ n.decimal = s.decimal ∧
      n.exponent? = none ∧ (n.whole = .zero ∨ n.whole.digits.head? = s.digits.head?) ∧
      ∃ run, n.fraction? = some run ∧ run.digits.getLast? = s.digits.getLast? := by
  have hfraction : s.point < s.digits.length := by simpa [isWhole] using hfraction
  by_cases hsmall : s.point ≤ 0
  · -- All digits stand behind the point, after zeros.
    have hall : ∀ c ∈ List.replicate (-s.point).toNat '0' ++ s.digits, c.isDigit = true := by
      intro c hc
      rcases List.mem_append.mp hc with hc | hc
      · rw [List.eq_of_mem_replicate hc]
        rfl
      · exact h.all_isDigit c hc
    refine ⟨⟨.zero, some ⟨_, by simp [h.ne_nil], hall⟩, none⟩, ?_, ?_, rfl, .inl rfl, _, rfl, ?_⟩
    · simp [WrittenNumeral.text, WrittenNumeral.fractionText, WrittenNumeral.exponentText,
        DigitRun.zero, positional, hsmall]
    · have hvalue : Decimal.ofDigits (['0'] ++ (List.replicate (-s.point).toNat '0' ++ s.digits)) =
          Decimal.ofDigits s.digits := by
        simpa [List.replicate_succ] using
          Decimal.ofDigits_zeros_append ((-s.point).toNat + 1) s.digits
      simp only [WrittenNumeral.decimal, WrittenNumeral.mantissa, DigitRun.zero, hvalue, decimal,
        List.length_append, List.length_replicate, Decimal.mk.injEq, true_and]
      omega
    · rw [List.getLast?_append, Option.or_of_isSome (by simpa using h.ne_nil)]
  · -- The point stands between two digits.
    have hlong : ¬s.digits.length ≤ s.point.toNat := by omega
    refine ⟨⟨⟨s.digits.take s.point.toNat, ?_,
        fun c hc => h.all_isDigit c (List.mem_of_mem_take hc)⟩,
      some ⟨s.digits.drop s.point.toNat, ?_,
        fun c hc => h.all_isDigit c (List.mem_of_mem_drop hc)⟩,
      none⟩, ?_, ?_, rfl, .inr ?_, _, rfl, ?_⟩
    · rw [ne_eq, List.take_eq_nil_iff]
      rintro (hzero | hnil)
      · omega
      · exact h.ne_nil hnil
    · rw [ne_eq, List.drop_eq_nil_iff]
      exact hlong
    · simp [WrittenNumeral.text, WrittenNumeral.fractionText, WrittenNumeral.exponentText,
        positional, hsmall, hlong]
    · simp only [WrittenNumeral.decimal, WrittenNumeral.mantissa, List.take_append_drop, decimal,
        List.length_drop, Decimal.mk.injEq, true_and]
      omega
    · rw [List.head?_take, if_neg (by omega)]
    · rw [List.getLast?_drop, if_neg hlong]

/-- Digits that end before the point are a run of digits, with zeros up to the point. -/
theorem exists_positional_run (hwhole : s.isWhole = true) :
    ∃ run : DigitRun, run.digits = s.positional ∧ run.digits.head? = s.digits.head? ∧
      (Decimal.ofDigits run.digits : ℚ) = s.decimal.quantity := by
  have hlength : s.digits.length ≠ 0 := fun hzero => h.ne_nil (List.length_eq_zero_iff.mp hzero)
  have hle : (s.digits.length : ℤ) ≤ s.point := by simpa [isWhole] using hwhole
  have hpoint : ¬s.point ≤ 0 := by omega
  have hshort : s.digits.length ≤ s.point.toNat := by omega
  obtain ⟨z, hz⟩ : ∃ z, s.point.toNat - s.digits.length = z := ⟨_, rfl⟩
  have hall : ∀ c ∈ s.digits ++ List.replicate z '0', c.isDigit = true := by
    intro c hc
    rcases List.mem_append.mp hc with hc | hc
    · exact h.all_isDigit c hc
    · rw [List.eq_of_mem_replicate hc]
      rfl
  refine ⟨⟨_, by simp [h.ne_nil], hall⟩, ?_, List.head?_append_of_ne_nil _ h.ne_nil, ?_⟩
  · simp [positional, hpoint, hshort, hz]
  · have hexponent : s.point - s.digits.length = z := by omega
    rw [Decimal.ofDigits_append_zeros, Decimal.quantity, decimal, hexponent, zpow_natCast,
      Nat.cast_mul, Nat.cast_pow, Nat.cast_ofNat]

end Significant

/-- A numeral with the quantity of the shortest digits denotes their magnitude. -/
theorem WrittenNumeral.toNumber_of_quantity {n : WrittenNumeral} {r : Fin rankCount}
    (h : n.decimal.quantity = shortestQuantity r) (negative : Bool) :
    n.decimal.toNumber negative = .finite negative r := by
  have hnearest : IsNearest n.decimal.quantity r := h ▸ isNearest_shortestQuantity r
  rw [Decimal.toNumber_of_isNearest hnearest, Number.ofRank, dif_pos r.isLt]

/-- **The literal of a finite number denotes it**: it is the sign, followed by the
text of a numeral whose exact quantity is rounded to the magnitude. -/
theorem Number.exists_numeral_literal (s : Bool) (r : Fin rankCount) :
    ∃ n : WrittenNumeral, (Number.finite s r).literal.toList = (signText s).toList ++ n.text ∧
      ∀ negative, n.decimal.toNumber negative = .finite negative r := by
  rcases Nat.eq_zero_or_pos r.val with hzero | hpos
  · -- Zero has no leading digit and is written apart.
    refine ⟨⟨.zero, some .zero, none⟩, ?_, fun negative => ?_⟩
    · simp [Number.literal, hzero, WrittenNumeral.text, WrittenNumeral.fractionText,
        WrittenNumeral.exponentText, DigitRun.zero]
    · have hvalue : Decimal.ofDigits ['0', '0'] = 0 := rfl
      have hrank : r = ⟨0, by decide⟩ := Fin.ext hzero
      rw [hrank]
      simp [WrittenNumeral.decimal, WrittenNumeral.mantissa, DigitRun.zero, Decimal.toNumber,
        hvalue, Number.ofRank, rankCount]
  have hproper := significant_proper hpos
  have hquantity := quantity_significant r
  simp only [Number.literal, hpos.ne', if_false]
  split
  · obtain ⟨sign, ds, hexponent, hvalue, -⟩ := exists_sign_digits (significant r).exponent
    obtain ⟨n, htext, hdecimal, -⟩ := Significant.exists_numeral_mantissa hproper hvalue
    exact ⟨n, by simp [htext, ← hexponent], n.toNumber_of_quantity (hdecimal ▸ hquantity)⟩
  split
  · next hwhole =>
    -- A whole number gets a zero behind the point, which does not change its quantity.
    obtain ⟨run, htext, -, hvalue⟩ := Significant.exists_positional_run hproper hwhole
    refine ⟨⟨run, some .zero, none⟩, ?_, WrittenNumeral.toNumber_of_quantity ?_⟩
    · simp [WrittenNumeral.text, WrittenNumeral.fractionText, WrittenNumeral.exponentText,
        DigitRun.zero, htext]
    · have hzero : Decimal.ofDigits (run.digits ++ ['0']) = Decimal.ofDigits run.digits * 10 :=
        Decimal.ofDigits_append_zeros run.digits 1
      rw [← hquantity, ← hvalue]
      simp [WrittenNumeral.decimal, WrittenNumeral.mantissa, Decimal.quantity, DigitRun.zero, hzero]
  · next hwhole =>
    obtain ⟨n, htext, hdecimal, -⟩ :=
      Significant.exists_numeral_fraction hproper (by simpa using hwhole)
    exact ⟨n, by simp [htext], n.toNumber_of_quantity (hdecimal ▸ hquantity)⟩

end Stencil
