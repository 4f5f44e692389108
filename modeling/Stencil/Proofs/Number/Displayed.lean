import Stencil.Proofs.Number.ReadBack

/-!
# Numbers that are displayed

The text of a number identifies it. The text of a finite number other than zero is a sign
and a numeral without idle zeros whose exact quantity is rounded to the number, and no
decimal with fewer digits is. It is written with an exponent outside the range from
`10 ^ -6` to `10 ^ 21`, and otherwise with a point if the number is not a whole one.

A text that is displayed is read as the number it was made from
(`Stencil.Number.ofText?_display`), but for the sign of zero, so that two numbers with one
text are equal or both not-a-number. `Stencil.Number.display_identifies` says all of this
together.
-/

namespace Stencil

/-! ### The forms of a numeral -/

namespace WrittenNumeral

/-- **A numeral in exponent form**: one digit before the point, other than zero, and an
exponent with its sign. -/
def IsScientific (n : WrittenNumeral) : Prop :=
  (∃ d, n.whole.digits = [d] ∧ d ≠ '0') ∧
    ∃ sign ds, n.exponent? = some (sign, ds) ∧ sign ≠ .absent

/-- A numeral without an exponent. -/
def IsPositional (n : WrittenNumeral) : Prop := n.exponent? = none

/-- **A numeral without idle zeros**: no zero stands at the end of the fraction, nor
before other digits of the whole part. -/
structure Tidy (n : WrittenNumeral) : Prop where
  whole : n.whole.digits.head? = some '0' → n.whole.digits = ['0']
  fraction : ∀ run, n.fraction? = some run → run.digits.getLast? ≠ some '0'

theorem IsScientific.not_isPositional {n : WrittenNumeral} (h : n.IsScientific) :
    ¬n.IsPositional := by
  obtain ⟨-, sign, ds, hexponent, -⟩ := h
  simp [IsPositional, hexponent]

end WrittenNumeral

namespace Significant

variable {s : Significant} (h : s.Proper)

include h

/-- Digits with an exponent are a tidy numeral in exponent form. -/
theorem exists_scientific {sign : Sign} {ds : DigitRun} (hsign : sign ≠ .absent)
    (hvalue : sign.apply (Decimal.ofDigits ds.digits) = s.exponent) :
    ∃ n : WrittenNumeral, n.text = s.mantissa ++ 'e' :: (sign.text ++ ds.digits) ∧ n.Tidy ∧
      n.decimal.quantity = s.decimal.quantity ∧ n.IsScientific := by
  obtain ⟨n, htext, hdecimal, hexponent, hwhole, hfraction⟩ := exists_numeral_mantissa h hvalue
  obtain ⟨d, others, hdigits⟩ := List.exists_cons_of_ne_nil h.ne_nil
  have hd : d ≠ '0' := by
    have := h.head?_ne
    rintro rfl
    simp [hdigits] at this
  rw [hdigits, List.take_succ_cons, List.take_zero] at hwhole
  refine ⟨n, htext, ⟨fun hhead => ?_, fun run hrun => ?_⟩, by rw [hdecimal],
    ⟨d, hwhole, hd⟩, sign, ds, hexponent, hsign⟩
  · simp [hwhole, hd] at hhead
  · rw [hfraction run hrun, List.getLast?_drop]
    split
    · simp
    · exact h.getLast?_ne

/-- Digits that go on behind the point are a tidy numeral with a point. -/
theorem exists_fraction (hfraction : s.isWhole = false) :
    ∃ n : WrittenNumeral, n.text = s.positional ∧ n.Tidy ∧
      n.decimal.quantity = s.decimal.quantity ∧ n.IsPositional ∧ n.fraction?.isSome = true := by
  obtain ⟨n, htext, hdecimal, hexponent, hwhole, run, hrun, hlast⟩ :=
    exists_numeral_fraction h hfraction
  refine ⟨n, htext, ⟨fun hhead => ?_, fun run' hrun' => ?_⟩, by rw [hdecimal], hexponent,
    by rw [hrun, Option.isSome_some]⟩
  · rcases hwhole with hzero | hsame
    · rw [hzero, DigitRun.zero]
    · exact absurd (hsame.symm.trans hhead) h.head?_ne
  · obtain rfl : run = run' := Option.some.inj (hrun.symm.trans hrun')
    rw [hlast]
    exact h.getLast?_ne

/-- Digits that end before the point are a tidy numeral without a point. -/
theorem exists_whole (hwhole : s.isWhole = true) :
    ∃ n : WrittenNumeral, n.text = s.positional ∧ n.Tidy ∧
      n.decimal.quantity = s.decimal.quantity ∧ n.IsPositional ∧ n.fraction? = none := by
  obtain ⟨run, htext, hhead, hvalue⟩ := exists_positional_run h hwhole
  refine ⟨⟨run, none, none⟩, ?_, ⟨fun hzero => ?_, by simp⟩, ?_, rfl, rfl⟩
  · simp [WrittenNumeral.text, WrittenNumeral.fractionText, WrittenNumeral.exponentText, htext]
  · exact absurd (hhead.symm.trans hzero) h.head?_ne
  · simpa [WrittenNumeral.decimal, WrittenNumeral.mantissa, Decimal.quantity] using hvalue

end Significant

/-! ### The range without an exponent -/

theorem Decimal.isNearest_quotient (d : Decimal) :
    IsNearest d.quantity (nearestRank d.quotient.1 d.quotient.2) := by
  obtain ⟨hden, hquotient⟩ := d.quantity_eq_quotient
  exact hquotient ▸ isNearest_nearestRank d.quotient.1 hden

/-- **Where exponents begin**: the exponent of the shortest digits is below a power of ten
if the magnitude is below the number that the power is rounded to, for the two powers at
which the form of the text changes. -/
theorem exists_bounds : ∃ small large, IsNearest (10 ^ (-6 : ℤ)) small ∧
    IsNearest (10 ^ (21 : ℤ)) large ∧ ∀ rank, 0 < rank →
      ((significant rank).exponent < -6 ↔ rank < small) ∧
      (21 ≤ (significant rank).exponent ↔ large ≤ rank) := by
  have hpower (p : ℤ) : (10 : ℚ) ^ p = Decimal.quantity ⟨1, p⟩ := by
    rw [Decimal.quantity, Nat.cast_one, one_mul]
  have hnine (p : ℤ) : (9 : ℚ) * 10 ^ p = Decimal.quantity ⟨9, p⟩ := by
    rw [Decimal.quantity, Nat.cast_ofNat]
  have hbound (p : ℤ) := hpower p ▸ Decimal.isNearest_quotient ⟨1, p⟩
  -- Nine at the next place is rounded to a smaller number, which the kernel computes.
  refine ⟨_, _, hbound (-6), hbound 21, fun rank hrank => ⟨?_, ?_⟩⟩
  · rw [← not_le, ← not_le]
    refine not_congr (le_exponent_iff hrank (hbound (-6))
      (hnine (-6 - 1) ▸ Decimal.isNearest_quotient ⟨9, -6 - 1⟩) ?_)
    decide +kernel
  · refine le_exponent_iff hrank (hbound 21)
      (hnine (21 - 1) ▸ Decimal.isNearest_quotient ⟨9, 21 - 1⟩) ?_
    decide +kernel

namespace Number

variable {s : Bool} {r : Fin rankCount}

/-- **The text of a finite number other than zero** is its sign and a tidy numeral with
the quantity of the shortest decimal, in one of the two forms. -/
theorem exists_displayed (hr : 0 < r.val) :
    ∃ n : WrittenNumeral, (finite s r).display.toList = (signText s).toList ++ n.text ∧ n.Tidy ∧
      n.decimal.quantity = shortestQuantity r ∧
      ((n.IsScientific ∧
          ((significant r).exponent < -6 ∨ 21 ≤ (significant r).exponent)) ∨
        (n.IsPositional ∧
          (-6 ≤ (significant r).exponent ∧ (significant r).exponent < 21) ∧
          (n.fraction?.isSome = true ↔ (significant r).isWhole = false))) := by
  have hproper := significant_proper hr
  rw [← quantity_significant]
  obtain ⟨sign, ds, htoString, hvalue, hsign⟩ := exists_sign_digits (significant r).exponent
  simp only [display, hr.ne', if_false]
  split
  · next hsmall =>
    rw [if_pos (by omega)] at hsign
    obtain ⟨n, htext, htidy, hquantity, hform⟩ :=
      Significant.exists_scientific hproper (by simp [hsign]) hvalue
    refine ⟨n, ?_, htidy, hquantity, .inl ⟨hform, .inl hsmall⟩⟩
    simp [htext, ← htoString]
  split
  · next hlarge =>
    -- The exponent has no sign of its own, and the display puts a plus before it.
    rw [if_neg (by omega)] at hsign
    subst hsign
    have hplus : Sign.plus.apply (Decimal.ofDigits ds.digits) = (significant r).exponent := hvalue
    obtain ⟨n, htext, htidy, hquantity, hform⟩ :=
      Significant.exists_scientific hproper (by simp) hplus
    refine ⟨n, ?_, htidy, hquantity, .inl ⟨hform, .inr hlarge⟩⟩
    have hdigits : (toString (significant r).exponent).toList = ds.digits := htoString
    simp [htext, ← hdigits, Sign.text]
  · next hsmall hlarge =>
    have hrange : -6 ≤ (significant r).exponent ∧ (significant r).exponent < 21 := by omega
    cases hwhole : (significant r).isWhole with
    | true =>
      obtain ⟨n, htext, htidy, hquantity, hform, hnone⟩ :=
        Significant.exists_whole hproper hwhole
      exact ⟨n, by simp [htext], htidy, hquantity, .inr ⟨hform, hrange, by simp [hnone]⟩⟩
    | false =>
      obtain ⟨n, htext, htidy, hquantity, hform, hsome⟩ :=
        Significant.exists_fraction hproper hwhole
      exact ⟨n, by simp [htext], htidy, hquantity, .inr ⟨hform, hrange, by simp [hsome]⟩⟩

/-! ### Reading back -/

/-- A digit has no case. -/
theorem toLower_of_isDigit {c : Char} (h : c.isDigit = true) : c.toLower = c := by
  have hdigit := (Char.isDigit_iff_toNat.mp h).2
  refine dif_neg fun hupper => ?_
  have hletter : 'A'.toNat ≤ c.toNat := hupper.1
  exact absurd (Nat.le_trans hletter hdigit) (by decide)

/-- A text that begins with a digit is not a name that begins with none. -/
theorem ofList_toLower_ne {d : Char} {rest : List Char} {name : String} (hd : d.isDigit = true)
    (hname : Stops Char.isDigit name.toList) :
    String.ofList ((d :: rest).map Char.toLower) ≠ name := by
  rintro rfl
  rw [String.toList_ofList, List.map_cons, toLower_of_isDigit hd, stops_cons, hd] at hname
  cases hname

/-- **A numeral with a sign is read as the number its decimal is rounded to.** -/
theorem ofText?_numeral {text : String} {n : WrittenNumeral}
    (h : text.toList = (signText s).toList ++ n.text) :
    ofText? text = some (n.decimal.toNumber s) := by
  have hstops : Stops isSignChar n.text := by
    rw [WrittenNumeral.text, List.append_assoc]
    exact n.whole.stops_isSignChar _
  have hsign : Decimal.readSign text.toList = (s, n.text) := by
    rw [h]
    cases s with
    | false => exact Decimal.readSign_text .absent hstops
    | true => exact Decimal.readSign_text .minus hstops
  obtain ⟨d, rest, hd, htext⟩ : ∃ d rest, d.isDigit = true ∧ n.text = d :: rest := by
    obtain ⟨d, digits, hdigits⟩ := List.exists_cons_of_ne_nil n.whole.nonempty
    refine ⟨d, digits ++ (n.fractionText ++ n.exponentText),
      n.whole.all_isDigit d (by simp [hdigits]), ?_⟩
    rw [WrittenNumeral.text, List.append_assoc, hdigits, List.cons_append]
  -- The text begins with a digit, and the names of numbers do not.
  have hname (name : String) (h : Stops Char.isDigit name.toList) :
      String.ofList (n.text.map Char.toLower) ≠ name := by
    rw [htext]
    exact ofList_toLower_ne hd h
  have hmantissa := n.readMantissa?_text stops_nil
  have hexponent := n.readExponent_text stops_nil
  rw [List.append_nil] at hmantissa hexponent
  simp only [ofText?, ofTextWith?, hsign]
  rw [if_neg (not_or.mpr ⟨hname "inf" (by simp), hname "infinity" (by simp)⟩),
    if_neg (hname "nan" (by simp)), hmantissa, WrittenNumeral.decimal]
  simp only [List.append_nil, hexponent]
  cases hcase : n.exponent? with
  | none => simp [WrittenNumeral.exponentText, hcase]
  | some e => rfl

/-- **What is displayed is read back**, but for the sign of zero. -/
theorem ofText?_display (x : Number) : ofText? x.display = some x.unsignedZero := by
  cases x with
  | nan => rfl
  | infinite negative => cases negative <;> rfl
  | finite s r =>
    rcases Nat.eq_zero_or_pos r.val with hr | hr
    · have hzero : finite (s && r.val != 0) r = zero := by
        simpa [zero, hr] using Fin.ext hr
      rw [unsignedZero, hzero, display, if_pos hr]
      rfl
    · obtain ⟨n, htext, -, hquantity, -⟩ := exists_displayed (s := s) hr
      rw [ofText?_numeral htext, n.toNumber_of_quantity hquantity, unsignedZero,
        bne_iff_ne.mpr hr.ne', Bool.and_true]

theorem display_unsignedZero (x : Number) : x.unsignedZero.display = x.display := by
  cases x with
  | finite s r =>
    by_cases hr : r.val = 0
    · simp [unsignedZero, display, hr]
    · rw [unsignedZero, bne_iff_ne.mpr hr, Bool.and_true]
  | _ => rfl

/-- Equality of numbers does not see the sign of zero. -/
theorem unsignedZero_eq_iff {x y : Number} :
    x.unsignedZero = y.unsignedZero ↔ x.same y = true ∨ x = nan ∧ y = nan := by
  cases x with
  | nan => cases y <;> simp [unsignedZero, same]
  | infinite negative => cases y <;> simp [unsignedZero, same]
  | finite s r =>
    cases y with
    | finite t q =>
      simp only [unsignedZero, same, finite.injEq, Bool.and_eq_true, Bool.or_eq_true, beq_iff_eq,
        reduceCtorEq, false_and, or_false, and_comm (b := r = q), and_congr_right_iff]
      rintro rfl
      by_cases hr : r.val = 0
      · simp [hr]
      · simp [bne_iff_ne.mpr hr, hr]
    | _ => simp [unsignedZero, same]

/-- **Two numbers have one text if they are equal or both not-a-number.** -/
theorem display_eq_iff (x y : Number) :
    x.display = y.display ↔ x.same y = true ∨ x = nan ∧ y = nan := by
  rw [← unsignedZero_eq_iff]
  constructor
  · intro h
    have hread := congrArg ofText? h
    rw [ofText?_display, ofText?_display] at hread
    exact Option.some.inj hread
  · intro h
    rw [← display_unsignedZero x, h, display_unsignedZero]

/-! ### The text identifies the number -/

/-- A magnitude is a whole number, whatever its sign. -/
theorem exists_int_signed_magnitude_iff (s : Bool) (rank : ℕ) :
    (∃ z : ℤ, signed s (magnitude rank) = z) ↔ ∃ N : ℕ, magnitude rank = N := by
  have hnonneg := magnitude_nonneg rank
  constructor
  · rintro ⟨z, hz⟩
    refine ⟨z.natAbs, ?_⟩
    rw [Nat.cast_natAbs, Int.cast_abs, ← hz, abs_signed, abs_of_nonneg hnonneg]
  · rintro ⟨N, hN⟩
    cases s with
    | false => exact ⟨N, by rw [hN]; rfl⟩
    | true => exact ⟨-N, by rw [hN]; simp [signed]⟩

/-- **The text of a number identifies it.** The text of a finite number other than zero is
its sign and a numeral without idle zeros. The exact quantity of the numeral is rounded to
the number, and no quantity with fewer digits is. The numeral is in exponent form if the
number is below the one that `10 ^ -6` is rounded to, or not below the one that `10 ^ 21`
is rounded to, and otherwise has no exponent, and a point if the number is not a whole
one. The other numbers have names, and only equal numbers have one text. -/
theorem display_identifies :
    (∀ (s : Bool) (r : Fin rankCount), r.val ≠ 0 → ∃ n : WrittenNumeral,
      (finite s r).display.toList = (signText s).toList ++ n.text ∧ n.Tidy ∧
      RoundsTo (signed s n.decimal.quantity) s r ∧
      (∀ q k, RoundsTo q s r → HasDigits k q → HasDigits k (signed s n.decimal.quantity)) ∧
      (∃ small large, IsNearest (10 ^ (-6 : ℤ)) small ∧ IsNearest (10 ^ (21 : ℤ)) large ∧
        (n.IsScientific ↔ magnitude r < magnitude small ∨ magnitude large ≤ magnitude r) ∧
        (n.IsPositional ↔ magnitude small ≤ magnitude r ∧ magnitude r < magnitude large)) ∧
      (n.IsPositional →
        (n.fraction?.isSome = true ↔ ¬∃ z : ℤ, signed s (magnitude r) = z))) ∧
    (∀ (s : Bool) (r : Fin rankCount), r.val = 0 → (finite s r).display = "0") ∧
    (infinite false).display = "+Inf" ∧ (infinite true).display = "-Inf" ∧
    nan.display = "NaN" ∧
    ∀ x y : Number, x.display = y.display ↔ x.same y = true ∨ x = nan ∧ y = nan := by
  refine ⟨fun s r hne => ?_, fun s r hzero => if_pos hzero, rfl, rfl, rfl, display_eq_iff⟩
  have hr := Nat.pos_of_ne_zero hne
  obtain ⟨n, htext, htidy, hquantity, hform⟩ := exists_displayed (s := s) hr
  obtain ⟨small, large, hsmall, hlarge, hbounds⟩ := exists_bounds
  have hlow := (hbounds r hr).1.trans magnitude_strictMono.lt_iff_lt.symm
  have hhigh := (hbounds r hr).2.trans magnitude_strictMono.le_iff_le.symm
  have hnearest := hquantity ▸ isNearest_shortestQuantity r
  refine ⟨n, htext, htidy, (roundsTo_signed_iff hr).mpr hnearest, fun q k hq hdigits => ?_,
    ⟨small, large, hsmall, hlarge, ?_⟩, fun hpositional => ?_⟩
  · have hq' : IsNearest (signed s q) r :=
      (roundsTo_signed_iff hr).mp (by rwa [signed_signed])
    rw [hquantity]
    exact (hasDigits_shortestQuantity hr hq' (hdigits.signed s)).signed s
  · have hlow' : -6 ≤ (significant r).exponent ↔ magnitude small ≤ magnitude r := by
      rw [← not_lt, hlow, not_lt]
    have hhigh' : (significant r).exponent < 21 ↔ magnitude r < magnitude large := by
      rw [← not_le, hhigh, not_le]
    rw [← hlow, ← hhigh, ← hlow', ← hhigh']
    rcases hform with ⟨hscientific, hrange⟩ | ⟨hpositional, hrange, -⟩
    · exact ⟨iff_of_true hscientific hrange,
        iff_of_false hscientific.not_isPositional (by omega)⟩
    · exact ⟨iff_of_false (fun h => h.not_isPositional hpositional) (by omega),
        iff_of_true hpositional (by omega)⟩
  · rw [exists_int_signed_magnitude_iff, ← isWhole_significant_iff hr, Bool.not_eq_true]
    rcases hform with ⟨hscientific, -⟩ | ⟨-, -, hfraction⟩
    · exact absurd hpositional hscientific.not_isPositional
    · exact hfraction

end Number

end Stencil
