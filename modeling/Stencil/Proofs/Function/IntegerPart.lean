import Stencil.Proofs.Function.Printing
import Stencil.Proofs.Function.Repetition
import Stencil.Proofs.Number.Places

/-!
# The integer verb is exact

A number is shown by the verb `d` in three steps: its fraction is dropped, which is a
number again, the sign of zero is dropped, and what is left is written without places. In
each step something could be lost, and nothing is. The whole part of a magnitude is itself
a magnitude (`Stencil.exists_magnitude_eq_wholePart`), so that dropping the fraction does
not round; and a whole magnitude is written with all of its digits, not with the shortest
ones that would do to read it back.

So the text is the canonical numeral of the number truncated toward zero
(`Stencil.integer_verb_exact`), however large the number is.
-/

namespace Stencil

/-! ### Canonical numerals -/

/-- **The canonical numeral of a whole number**: the digits of its magnitude, without idle
zeros in front, and before them a minus if the number is negative. -/
def CanonicalNumeral (z : ℤ) (text : List Char) : Prop :=
  ∃ run : DigitRun, text = (if z < 0 then ['-'] else []) ++ run.digits ∧
    Decimal.ofDigits run.digits = z.natAbs ∧
    (run.digits.head? = some '0' → run.digits = ['0'])

/-- **A whole number has one canonical numeral.** -/
theorem canonicalNumeral_iff {z : ℤ} {text : List Char} :
    CanonicalNumeral z text ↔
      text = (signText (z < 0)).toList ++ Decimal.digitsOf z.natAbs := by
  have hsign : (if z < 0 then ['-'] else []) = (signText (z < 0)).toList := by
    by_cases hz : z < 0 <;> simp [signText, hz]
  rw [CanonicalNumeral, hsign]
  constructor
  · rintro ⟨run, rfl, hvalue, hhead⟩
    rw [← hvalue, digitsOf_ofDigits run.nonempty run.all_isDigit hhead]
  · rintro rfl
    refine ⟨.ofNat z.natAbs, rfl, Decimal.ofDigits_digitsOf _, fun hhead => ?_⟩
    rcases Nat.eq_zero_or_pos z.natAbs with hzero | hpos
    · rw [hzero]
      rfl
    · exact absurd hhead (head?_digitsOf_ne hpos)

/-! ### Truncation -/

/-- A quantity truncated toward zero. -/
def towardZero (q : ℚ) : ℤ := if q < 0 then ⌈q⌉ else ⌊q⌋

theorem towardZero_neg (q : ℚ) : towardZero (-q) = -towardZero q := by
  unfold towardZero
  rcases lt_trichotomy q 0 with hq | rfl | hq
  · rw [if_pos hq, if_neg (by linarith), Int.floor_neg]
  · simp
  · rw [if_neg hq.not_gt, if_pos (neg_lt_zero.mpr hq), Int.ceil_neg]

theorem towardZero_magnitude (rank : ℕ) :
    towardZero (magnitude rank) = Number.wholePart rank := by
  have hnonneg := magnitude_nonneg rank
  rw [towardZero, if_neg hnonneg.not_gt, ← floor_magnitude,
    Int.natCast_floor_eq_floor hnonneg]

/-- **The whole part of a magnitude is a magnitude.** -/
theorem exists_magnitude_eq_wholePart (rank : ℕ) :
    ∃ whole ≤ rank, magnitude whole = Number.wholePart rank := by
  have hfloor : (Number.wholePart rank : ℚ) ≤ magnitude rank := by
    rw [← floor_magnitude]
    exact Nat.floor_le (magnitude_nonneg rank)
  obtain ⟨whole, hwhole⟩ : ∃ whole, magnitude whole = Number.wholePart rank := by
    rcases Nat.lt_or_ge rank (1075 * 2 ^ 52) with hsmall | hlarge
    · -- Below `2 ^ 52` the fraction has a place, and all whole numbers are magnitudes.
      have hlt : magnitude rank < (2 ^ 52 : ℕ) :=
        magnitude_spacing_one ▸ magnitude_strictMono hsmall
      have hwhole : Number.wholePart rank < 2 ^ 52 := by exact_mod_cast hfloor.trans_lt hlt
      exact exists_magnitude_eq (by omega)
    · obtain ⟨N, hN⟩ := exists_eq_magnitude_of_le hlarge
      refine ⟨rank, ?_⟩
      rw [← floor_magnitude, hN, Nat.floor_natCast]
  exact ⟨whole, magnitude_strictMono.le_iff_le.mp (hwhole ▸ hfloor), hwhole⟩

namespace Number

/-- **Dropping the fraction does not round.** -/
theorem exists_truncated_eq (s : Bool) (r : Fin rankCount) :
    ∃ whole : Fin rankCount, (finite s r).truncated = finite s whole ∧
      magnitude whole = wholePart r := by
  obtain ⟨whole, hle, hwhole⟩ := exists_magnitude_eq_wholePart r
  have hlt : whole < rankCount := Nat.lt_of_le_of_lt hle r.isLt
  have hnearest : nearestRank (wholePart r * 2 ^ unitExponent) 1 = whole := by
    have hexact : ((wholePart r * 2 ^ unitExponent : ℕ) : ℚ) / (1 : ℕ) / 2 ^ unitExponent =
        magnitude whole := by
      rw [hwhole]
      push_cast
      rw [div_one, mul_div_assoc, div_self (by positivity), mul_one]
    rw [nearestRank_eq_iff Nat.one_pos, hexact]
    exact isNearest_magnitude whole
  refine ⟨⟨whole, hlt⟩, ?_, hwhole⟩
  rw [truncated, ofUnits, hnearest, ofRank, dif_pos hlt]

/-- A whole magnitude is written without places by its digits. -/
theorem fixed_zero_of_magnitude {s : Bool} {whole : Fin rankCount} {N : ℕ}
    (h : magnitude whole = N) :
    (finite s whole).fixed 0 = signText s ++ String.ofList (Decimal.digitsOf N) := by
  have hunits : units whole = N * 2 ^ unitExponent := by
    rw [magnitude, div_eq_iff (by positivity)] at h
    exact_mod_cast h
  have hround : roundPlaces whole 0 = N := by
    have hpos : 0 < 2 ^ unitExponent := Nat.two_pow_pos _
    rw [roundPlaces, hunits, Nat.pow_zero, Nat.mul_one]
    rcases divNearest_cases (N * 2 ^ unitExponent) (2 ^ unitExponent) with
      ⟨hround, -⟩ | ⟨-, hhalf⟩
    · rw [hround, Nat.mul_div_cancel _ hpos]
    · rw [Nat.mul_mod_left] at hhalf
      omega
  have hlength : 0 < (Decimal.digitsOf N).length := Nat.length_toDigits_pos
  rw [fixed, hround, pointed, if_pos rfl, Nat.sub_eq_zero_of_le hlength, List.replicate_zero,
    List.nil_append]

/-- **The verb writes the integer part**: its sign, unless it is zero, and its digits. -/
theorem fixed_truncated {n : Number} {z : ℤ} (h : n.integerPart? = some z) :
    n.truncated.unsignedZero.fixed 0 =
      signText (z < 0) ++ String.ofList (Decimal.digitsOf z.natAbs) := by
  cases n with
  | nan => cases h
  | infinite negative => cases h
  | finite s r =>
    obtain rfl : (if s then -(wholePart r : ℤ) else wholePart r) = z := Option.some.inj h
    obtain ⟨whole, htruncated, hwhole⟩ := exists_truncated_eq s r
    have hzero : whole.val = 0 ↔ wholePart r = 0 := by
      rw [← magnitude_strictMono.injective.eq_iff, hwhole, magnitude_zero, Nat.cast_eq_zero]
    have hsign : decide ((if s then -(wholePart r : ℤ) else wholePart r) < 0) =
        (s && whole.val != 0) := by
      cases s with
      | false => simp
      | true =>
        rw [if_pos rfl, Bool.true_and, Bool.eq_iff_iff, decide_eq_true_iff, bne_iff_ne, ne_eq,
          hzero]
        omega
    have habs : (if s then -(wholePart r : ℤ) else wholePart r).natAbs = wholePart r := by
      cases s <;> simp
    rw [htruncated, unsignedZero, fixed_zero_of_magnitude hwhole, hsign, habs]

/-- The integer part of a number is its quantity truncated toward zero. -/
theorem integerPart?_finite (s : Bool) (r : Fin rankCount) :
    (finite s r).integerPart? = some (towardZero (signed s (magnitude r))) := by
  cases s with
  | false => exact congrArg some (towardZero_magnitude r).symm
  | true =>
    have hneg : towardZero (signed true (magnitude r)) = -wholePart r := by
      rw [signed, if_pos rfl, towardZero_neg, towardZero_magnitude]
    rw [hneg]
    rfl

end Number

/-! ### The verb -/

/-- A format of one directive shows its value by the verb. -/
theorem printFormat_directive {precision : Option Nat} {text : List Char} {verb : Char}
    (h : PrecisionText precision text verb) (hverb : verb ≠ '%') (v : Value) :
    printFormat (String.ofList ('%' :: (text ++ [verb]))) [v] = showVerb verb precision v := by
  have hpieces := formatPieces_append (.verb h hverb) []
  have hnil : formatPieces [] = [] := by rw [formatPieces]
  rw [List.append_nil, hnil] at hpieces
  rw [printFormat, String.toList_ofList, hpieces, printPieces]
  cases showVerb verb precision v with
  | none => rfl
  | some shown => exact congrArg some (String.append_empty)

/-- **The integer verb is exact.** A finite number, however large, is shown by the one
canonical numeral of its exact quantity truncated toward zero; the other numbers are ones
that the verb cannot show. The precision of the directive does not matter, and the text is
what `printf` gives. -/
theorem integer_verb_exact {precision : Option Nat} {text : List Char}
    (h : PrecisionText precision text 'd') :
    (∀ (s : Bool) (r : Fin rankCount), ∃ out,
      showVerb 'd' precision (.number (.finite s r)) = some out ∧
      ∀ other : String, CanonicalNumeral (towardZero (signed s (magnitude r))) other.toList ↔
        other = out) ∧
    (∀ n : Number, n.isFinite = false →
      showVerb 'd' precision (.number n) = some ("%!d(number=" ++ n.display ++ ")")) ∧
    ∀ (n : Number) (out : String), (Registry.builtins.call "printf"
        [.string (String.ofList ('%' :: (text ++ ['d']))), .number n]).value = .ok (.string out) ↔
      showVerb 'd' precision (.number n) = some out := by
  refine ⟨fun s r => ?_, fun n hn => ?_, fun n out => ?_⟩
  · refine ⟨_, congrArg some (Number.fixed_truncated (Number.integerPart?_finite s r)),
      fun other => ?_⟩
    rw [canonicalNumeral_iff, ← String.toList_inj, String.toList_append, String.toList_ofList]
  · cases n with
    | finite s r => cases hn
    | nan => rfl
    | infinite s => rfl
  · rw [Registry.call_printf_eq_ok_iff, printFormat_directive h (by decide)]

/-- The number nearest to `-10 ^ 23` is displayed by one digit and an exponent, but the
verb shows all digits of the number itself. -/
theorem integer_verb_exact_nearest :
    (Registry.builtins.call "printf" [.string "%.5d",
      .number (.finite true ⟨4950912855330343670, by decide⟩)]).value =
        .ok (.string "-99999999999999991611392") ∧
    CanonicalNumeral (towardZero (signed true (magnitude 4950912855330343670)))
      "-99999999999999991611392".toList ∧
    (Registry.builtins.call "printf" [.string "%.5d", .number (.infinite true)]).value =
      .ok (.string "%!d(number=-Inf)") := by
  have hdigits : ∀ d ∈ ['5'], d.isDigit = true := List.all_eq_true.mp rfl
  obtain ⟨hfinite, hothers, hcall⟩ := integer_verb_exact (.digits hdigits (by decide))
  obtain ⟨out, hout, hcanonical⟩ := hfinite true ⟨4950912855330343670, by decide⟩
  obtain rfl : "-99999999999999991611392" = out := by
    have hshown : showVerb 'd' (some (precisionOf ['5']))
        (.number (.finite true ⟨4950912855330343670, by decide⟩)) =
          some "-99999999999999991611392" := by decide +kernel
    exact Option.some.inj (hshown.symm.trans hout)
  refine ⟨(hcall _ _).mpr hout, (hcanonical _).mpr rfl, (hcall _ _).mpr ?_⟩
  exact hothers (.infinite true) rfl

end Stencil
