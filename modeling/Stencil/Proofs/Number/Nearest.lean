import Stencil.Number.Basic
import Mathlib.Algebra.Order.Field.Rat
import Mathlib.Algebra.Order.Ring.Abs
import Mathlib.Tactic.Linarith
import Mathlib.Tactic.FieldSimp
import Mathlib.Tactic.Positivity
import Mathlib.Tactic.Ring

/-!
# The nearest magnitude

Rounding said without an algorithm. `Stencil.IsNearest` compares a quantity with the
magnitudes of all ranks: none is nearer, and where another one is as near, the rank is
even. The last bit of a magnitude is that of its rank, so this is rounding to nearest with
ties to even. Ranks that are too large for a number take part in the comparison, and a
quantity is too large to be finite if the nearest rank is one of them.

There is one nearest rank at most (`Stencil.IsNearest.unique`), the larger quantity has
the larger one (`Stencil.IsNearest.mono`), and `Stencil.nearestRank` computes it
(`Stencil.isNearest_nearestRank`). Nothing else about the computation is used after that.
-/

namespace Stencil

/-! ### Magnitudes as quantities -/

section Runs

variable {fraction : ℕ}

/-- Every rank lies in a run of equally spaced magnitudes. -/
theorem exists_run (fraction rank : ℕ) :
    ∃ k m, rank = k * 2 ^ fraction + m ∧ m < 2 ^ (fraction + 1) ∧ (k = 0 ∨ 2 ^ fraction ≤ m) := by
  have hpow : 0 < 2 ^ fraction := Nat.two_pow_pos fraction
  rcases Nat.lt_or_ge rank (2 ^ fraction) with hsmall | hlarge
  · exact ⟨0, rank, by omega, by rw [Nat.pow_succ]; omega, .inl rfl⟩
  · refine ⟨rank / 2 ^ fraction - 1, 2 ^ fraction + rank % 2 ^ fraction, ?_, ?_, .inr (by omega)⟩
    · have hrun : 0 < rank / 2 ^ fraction := Nat.div_pos hlarge hpow
      have hone := Nat.sub_one_mul (rank / 2 ^ fraction) (2 ^ fraction)
      have hle : 2 ^ fraction ≤ rank / 2 ^ fraction * 2 ^ fraction := Nat.le_mul_of_pos_left _ hrun
      have hrank := Nat.div_add_mod' rank (2 ^ fraction)
      omega
    · have := Nat.mod_lt rank hpow
      rw [Nat.pow_succ]
      omega

/-- The magnitudes of a run, counted from its spacing. -/
theorem binaryUnits_run {k m : ℕ} (hm : m ≤ 2 ^ (fraction + 1)) (hk : k = 0 ∨ 2 ^ fraction ≤ m) :
    binaryUnits fraction (k * 2 ^ fraction + m) = m * 2 ^ k := by
  have hpow : 0 < 2 ^ fraction := Nat.two_pow_pos fraction
  rcases Nat.lt_or_ge m (2 ^ fraction) with hsmall | hlarge
  · obtain rfl : k = 0 := by omega
    rw [Nat.zero_mul, Nat.zero_add, binaryUnits, if_pos hsmall, Nat.pow_zero, Nat.mul_one]
  · obtain ⟨place, rfl⟩ := Nat.exists_eq_add_of_le hlarge
    have hrank : k * 2 ^ fraction + (2 ^ fraction + place) = place + (k + 1) * 2 ^ fraction := by
      ring
    have hge : ¬place + (k + 1) * 2 ^ fraction < 2 ^ fraction := by
      rw [Nat.add_mul]
      omega
    rw [hrank, binaryUnits, if_neg hge, Nat.add_mul_mod_self_right, Nat.add_mul_div_right _ _ hpow]
    rw [Nat.pow_succ] at hm
    rcases Nat.lt_or_ge place (2 ^ fraction) with hplace | hplace
    · rw [Nat.mod_eq_of_lt hplace, Nat.div_eq_of_lt hplace, Nat.zero_add, Nat.add_sub_cancel]
    · -- The end of a run is the beginning of the next one.
      obtain rfl : place = 2 ^ fraction := by omega
      rw [Nat.mod_self, Nat.div_self hpow, Nat.add_sub_cancel_left (n := 1), Nat.pow_succ]
      ring

/-- A larger rank is a larger magnitude. -/
theorem binaryUnits_strictMono (fraction : ℕ) : StrictMono (binaryUnits fraction) := by
  refine strictMono_nat_of_lt_succ fun rank => ?_
  obtain ⟨k, m, rfl, hm, hk⟩ := exists_run fraction rank
  rw [Nat.add_assoc, binaryUnits_run hm.le hk, binaryUnits_run hm (by omega)]
  exact Nat.mul_lt_mul_of_pos_right (Nat.lt_succ_self m) (Nat.two_pow_pos k)

/-- The spacing around a quotient, found from its leading bit, is that of a run. -/
theorem quotient_in_run (fraction n : ℕ) :
    n / 2 ^ (n.log2 - fraction) < 2 ^ (fraction + 1) ∧
      (n.log2 - fraction = 0 ∨ 2 ^ fraction ≤ n / 2 ^ (n.log2 - fraction)) := by
  have hlt : n < 2 ^ (n.log2 + 1) := Nat.lt_log2_self
  rw [Nat.div_lt_iff_lt_mul (Nat.two_pow_pos _), ← Nat.pow_add]
  refine ⟨Nat.lt_of_lt_of_le hlt (Nat.pow_le_pow_right (by decide) (by omega)), ?_⟩
  rw [Nat.le_div_iff_mul_le (Nat.two_pow_pos _), ← Nat.pow_add]
  rcases Nat.lt_or_ge fraction n.log2 with hlog | hlog
  · right
    have hne : n ≠ 0 := by
      rintro rfl
      simp at hlog
    rw [Nat.add_sub_cancel' hlog.le]
    exact Nat.log2_self_le hne
  · exact .inl (by omega)

end Runs

/-- **The magnitude of a rank**, as a quantity. -/
def magnitude (rank : ℕ) : ℚ := units rank / 2 ^ unitExponent

theorem magnitude_strictMono : StrictMono magnitude := by
  intro a b hlt
  have hunits : (units a : ℚ) < units b := Nat.cast_lt.mpr (binaryUnits_strictMono 52 hlt)
  exact div_lt_div_of_pos_right hunits (by positivity)

/-! ### Nearest ranks -/

/-- **A rank is nearest to a quantity**: no magnitude is nearer, and the rank is even if
another magnitude is as near. -/
structure IsNearest (q : ℚ) (rank : ℕ) : Prop where
  le : ∀ other, |q - magnitude rank| ≤ |q - magnitude other|
  even_of_tie : ∀ other, other ≠ rank → |q - magnitude rank| = |q - magnitude other| → Even rank

section Distance

variable {a b q : ℚ}

theorem abs_sub_le_abs_sub_iff_of_lt (h : a < b) : |q - a| ≤ |q - b| ↔ 2 * q ≤ a + b := by
  rw [← sq_le_sq]
  constructor
  · intro hle
    nlinarith
  · intro hle
    nlinarith

theorem abs_sub_le_abs_sub_iff_of_gt (h : a < b) : |q - b| ≤ |q - a| ↔ a + b ≤ 2 * q := by
  rw [← sq_le_sq]
  constructor
  · intro hle
    nlinarith
  · intro hle
    nlinarith

end Distance

namespace IsNearest

variable {q q' : ℚ} {rank rank' : ℕ}

/-- **The larger quantity has the larger nearest rank.** -/
theorem mono (h : IsNearest q rank) (h' : IsNearest q' rank') (hle : q ≤ q') : rank ≤ rank' := by
  by_contra hlt
  have hlt : rank' < rank := Nat.lt_of_not_ge hlt
  have hmagnitude := magnitude_strictMono hlt
  have hlow := (abs_sub_le_abs_sub_iff_of_gt hmagnitude).mp (h.le rank')
  have hhigh := (abs_sub_le_abs_sub_iff_of_lt hmagnitude).mp (h'.le rank)
  -- Both quantities lie half way, so both ranks are even and another one lies between them.
  have htie : |q - magnitude rank| = |q - magnitude rank'| :=
    le_antisymm (h.le rank') ((abs_sub_le_abs_sub_iff_of_lt hmagnitude).mpr (by linarith))
  have htie' : |q' - magnitude rank'| = |q' - magnitude rank| :=
    le_antisymm (h'.le rank) ((abs_sub_le_abs_sub_iff_of_gt hmagnitude).mpr (by linarith))
  have heven := h.even_of_tie rank' hlt.ne htie
  have heven' := h'.even_of_tie rank hlt.ne' htie'
  have hbetween : rank' + 1 < rank := by
    rw [Nat.even_iff] at heven heven'
    omega
  have hlow' := (abs_sub_le_abs_sub_iff_of_gt (magnitude_strictMono hbetween)).mp
    (h.le (rank' + 1))
  have := magnitude_strictMono (Nat.lt_succ_self rank')
  linarith

/-- **There is one nearest rank.** -/
theorem unique (h : IsNearest q rank) (h' : IsNearest q rank') : rank = rank' :=
  Nat.le_antisymm (h.mono h' le_rfl) (h'.mono h le_rfl)

/-- A quantity between two that are rounded to a rank is rounded to it. -/
theorem of_between {a b : ℚ} (ha : IsNearest a rank) (hb : IsNearest b rank)
    (hq : IsNearest q rank') (hle : a ≤ q) (hle' : q ≤ b) : rank' = rank :=
  Nat.le_antisymm (hq.mono hb hle') (ha.mono hq hle)

/-- A rank is nearest if it is so in comparison with any other one. -/
theorem of_compare (h : ∀ other, other ≠ rank → |q - magnitude rank| ≤ |q - magnitude other| ∧
    (|q - magnitude rank| = |q - magnitude other| → Even rank)) : IsNearest q rank := by
  refine ⟨fun other => ?_, fun other hne => (h other hne).2⟩
  by_cases hne : other = rank
  · rw [hne]
  · exact (h other hne).1

/-- In the lower half between two neighbours the lower one is nearest. -/
theorem of_lower_half (hlow : magnitude rank ≤ q)
    (h : 2 * q < magnitude rank + magnitude (rank + 1) ∨
      2 * q = magnitude rank + magnitude (rank + 1) ∧ Even rank) : IsNearest q rank := by
  have hle : 2 * q ≤ magnitude rank + magnitude (rank + 1) := h.elim le_of_lt fun h => h.1.le
  refine of_compare fun other hne => ?_
  rcases Nat.lt_or_gt_of_ne hne with hlt | hgt
  · have hmagnitude := magnitude_strictMono hlt
    refine ⟨(abs_sub_le_abs_sub_iff_of_gt hmagnitude).mpr (by linarith), fun htie => ?_⟩
    have := (abs_sub_le_abs_sub_iff_of_lt hmagnitude).mp htie.ge
    linarith
  · have hmagnitude := magnitude_strictMono hgt
    have hnext : magnitude (rank + 1) ≤ magnitude other := magnitude_strictMono.monotone hgt
    refine ⟨(abs_sub_le_abs_sub_iff_of_lt hmagnitude).mpr (by linarith), fun htie => ?_⟩
    have := (abs_sub_le_abs_sub_iff_of_gt hmagnitude).mp htie.ge
    rcases h with hlt | ⟨-, heven⟩
    · linarith
    · exact heven

/-- In the upper half between two neighbours the upper one is nearest. -/
theorem of_upper_half (hhigh : q ≤ magnitude (rank + 1))
    (h : magnitude rank + magnitude (rank + 1) < 2 * q ∨
      magnitude rank + magnitude (rank + 1) = 2 * q ∧ Even (rank + 1)) :
    IsNearest q (rank + 1) := by
  have hle : magnitude rank + magnitude (rank + 1) ≤ 2 * q := h.elim le_of_lt fun h => h.1.le
  refine of_compare fun other hne => ?_
  rcases Nat.lt_or_gt_of_ne hne with hlt | hgt
  · have hmagnitude := magnitude_strictMono hlt
    have hprevious : magnitude other ≤ magnitude rank :=
      magnitude_strictMono.monotone (Nat.le_of_lt_succ hlt)
    refine ⟨(abs_sub_le_abs_sub_iff_of_gt hmagnitude).mpr (by linarith), fun htie => ?_⟩
    have := (abs_sub_le_abs_sub_iff_of_lt hmagnitude).mp htie.ge
    rcases h with hlt | ⟨-, heven⟩
    · linarith
    · exact heven
  · have hmagnitude := magnitude_strictMono hgt
    refine ⟨(abs_sub_le_abs_sub_iff_of_lt hmagnitude).mpr (by linarith), fun htie => ?_⟩
    have := (abs_sub_le_abs_sub_iff_of_gt hmagnitude).mp htie.ge
    linarith

end IsNearest

/-- **A magnitude is rounded to its own rank.** -/
theorem isNearest_magnitude (rank : ℕ) : IsNearest (magnitude rank) rank := by
  refine .of_compare fun other hne => ?_
  rw [sub_self, abs_zero]
  refine ⟨abs_nonneg _, fun htie => ?_⟩
  rw [eq_comm, abs_eq_zero, sub_eq_zero] at htie
  exact absurd (magnitude_strictMono.injective htie).symm hne

/-! ### The nearest rank is computed -/

/-- The nearest whole number is the quotient without its rest, or the one after it. -/
theorem divNearest_cases (num den : ℕ) :
    (divNearest num den = num / den ∧
      (2 * (num % den) < den ∨ 2 * (num % den) = den ∧ Even (num / den))) ∨
    (divNearest num den = num / den + 1 ∧
      (den < 2 * (num % den) ∨ den = 2 * (num % den) ∧ Even (num / den + 1))) := by
  simp only [divNearest, Nat.even_iff]
  split
  · omega
  split
  · omega
  split <;> omega

section Rest

/-! A quotient lies between two neighbours of a run: it is `m` spacings, and a rest that is
a part of one. The rest decides which of the two is nearest. -/

variable {den k m rest : ℕ}

/-- The magnitudes of a run are multiples of its spacing. -/
theorem magnitude_run (hm : m ≤ 2 ^ 53) (hrun : k = 0 ∨ 2 ^ 52 ≤ m) :
    magnitude (k * 2 ^ 52 + m) = m * 2 ^ k / 2 ^ unitExponent := by
  rw [magnitude, units, binaryUnits_run hm hrun, Nat.cast_mul, Nat.cast_pow, Nat.cast_ofNat]

theorem magnitude_run_succ (hden : 0 < den) (hm : m < 2 ^ 53) (hrun : k = 0 ∨ 2 ^ 52 ≤ m) :
    magnitude (k * 2 ^ 52 + m + 1) =
      magnitude (k * 2 ^ 52 + m) + (den * 2 ^ k : ℕ) / (den * 2 ^ unitExponent) := by
  rw [Nat.add_assoc, magnitude_run hm (by omega), magnitude_run hm.le hrun]
  push_cast
  have hdenominator : (den : ℚ) ≠ 0 := Nat.cast_ne_zero.mpr hden.ne'
  field_simp

theorem quotient_eq_magnitude_add (hden : 0 < den) (hm : m < 2 ^ 53)
    (hrun : k = 0 ∨ 2 ^ 52 ≤ m) :
    ((den * 2 ^ k * m + rest : ℕ) / den / 2 ^ unitExponent : ℚ) =
      magnitude (k * 2 ^ 52 + m) + rest / (den * 2 ^ unitExponent) := by
  rw [magnitude_run hm.le hrun]
  push_cast
  have hdenominator : (den : ℚ) ≠ 0 := Nat.cast_ne_zero.mpr hden.ne'
  field_simp

/-- The spacing of a run is even in ranks, so the parity of a rank is that of its place. -/
theorem even_run : Even (k * 2 ^ 52 + m) ↔ Even m := by
  rw [Nat.even_add, iff_true_left ((by decide : Even (2 ^ 52)).mul_left k)]

theorem IsNearest.of_small_rest (hden : 0 < den) (hm : m < 2 ^ 53) (hrun : k = 0 ∨ 2 ^ 52 ≤ m)
    (h : 2 * rest < den * 2 ^ k ∨ 2 * rest = den * 2 ^ k ∧ Even m) :
    IsNearest ((den * 2 ^ k * m + rest : ℕ) / den / 2 ^ unitExponent) (k * 2 ^ 52 + m) := by
  have hscale : (0 : ℚ) < den * 2 ^ unitExponent := by positivity
  have hnext := magnitude_run_succ hden hm hrun
  rw [quotient_eq_magnitude_add hden hm hrun]
  refine .of_lower_half (le_add_of_nonneg_right (by positivity)) ?_
  rw [hnext]
  refine h.imp (fun hlt => ?_) fun htie => ⟨?_, even_run.mpr htie.2⟩
  · have hpart : (2 * rest : ℕ) / (den * 2 ^ unitExponent : ℚ) <
        (den * 2 ^ k : ℕ) / (den * 2 ^ unitExponent) :=
      div_lt_div_of_pos_right (Nat.cast_lt.mpr hlt) hscale
    rw [Nat.cast_mul, mul_div_assoc, Nat.cast_ofNat] at hpart
    linarith
  · rw [← htie.1, Nat.cast_mul, mul_div_assoc, Nat.cast_ofNat]
    ring

theorem IsNearest.of_large_rest (hden : 0 < den) (hm : m < 2 ^ 53) (hrun : k = 0 ∨ 2 ^ 52 ≤ m)
    (hrest : rest < den * 2 ^ k)
    (h : den * 2 ^ k < 2 * rest ∨ den * 2 ^ k = 2 * rest ∧ Even (m + 1)) :
    IsNearest ((den * 2 ^ k * m + rest : ℕ) / den / 2 ^ unitExponent) (k * 2 ^ 52 + m + 1) := by
  have hscale : (0 : ℚ) < den * 2 ^ unitExponent := by positivity
  have hnext := magnitude_run_succ hden hm hrun
  have hbelow : (rest : ℚ) / (den * 2 ^ unitExponent) ≤
      (den * 2 ^ k : ℕ) / (den * 2 ^ unitExponent) :=
    div_le_div_of_nonneg_right (Nat.cast_le.mpr hrest.le) hscale.le
  rw [quotient_eq_magnitude_add hden hm hrun]
  refine .of_upper_half (by linarith) ?_
  rw [hnext]
  refine h.imp (fun hlt => ?_) fun htie => ⟨?_, ?_⟩
  · have hpart : (den * 2 ^ k : ℕ) / (den * 2 ^ unitExponent : ℚ) <
        (2 * rest : ℕ) / (den * 2 ^ unitExponent) :=
      div_lt_div_of_pos_right (Nat.cast_lt.mpr hlt) hscale
    rw [Nat.cast_mul 2, mul_div_assoc, Nat.cast_ofNat] at hpart
    linarith
  · rw [htie.1, Nat.cast_mul, mul_div_assoc, Nat.cast_ofNat]
    ring
  · rw [Nat.add_assoc]
    exact even_run.mpr htie.2

end Rest

/-- **The rank computed for a quotient is the nearest one.** -/
theorem isNearest_nearestRank (num : ℕ) {den : ℕ} (hden : 0 < den) :
    IsNearest (num / den / 2 ^ unitExponent) (nearestRank num den) := by
  obtain ⟨hm, hrun⟩ := quotient_in_run 52 (num / den)
  rw [nearestRank, binaryNearest]
  -- The spacing was found by dividing twice; from here on it is one division with a rest.
  generalize (num / den).log2 - 52 = k at *
  rw [Nat.div_div_eq_div_mul] at hm hrun
  have hrest := Nat.mod_lt num (Nat.mul_pos hden (Nat.two_pow_pos k))
  have hcases := divNearest_cases num (den * 2 ^ k)
  nth_rewrite 1 [← Nat.div_add_mod num (den * 2 ^ k)]
  rcases hcases with ⟨hnearest, hhalf⟩ | ⟨hnearest, hhalf⟩
  · rw [hnearest]
    exact .of_small_rest hden hm hrun hhalf
  · rw [hnearest, ← Nat.add_assoc]
    exact .of_large_rest hden hm hrun hrest hhalf

/-- The rank computed for a quotient is known by being nearest. -/
theorem nearestRank_eq_iff {num den rank : ℕ} (hden : 0 < den) :
    nearestRank num den = rank ↔ IsNearest (num / den / 2 ^ unitExponent) rank := by
  have hnearest := isNearest_nearestRank num hden
  constructor
  · rintro rfl
    exact hnearest
  · exact hnearest.unique

/-! ### Signs -/

/-- A quantity with a sign. -/
def signed (negative : Bool) (q : ℚ) : ℚ := if negative then -q else q

theorem signed_signed (negative : Bool) (q : ℚ) : signed negative (signed negative q) = q := by
  cases negative <;> simp [signed]

theorem abs_signed (negative : Bool) (q : ℚ) : |signed negative q| = |q| := by
  cases negative <;> simp [signed]

theorem abs_signed_sub_signed (negative : Bool) (a b : ℚ) :
    |signed negative a - signed negative b| = |a - b| := by
  cases negative with
  | false => rfl
  | true => rw [signed, signed, if_pos rfl, if_pos rfl, neg_sub_neg, abs_sub_comm]

theorem abs_signed_sub_signed_not (negative : Bool) (a b : ℚ) :
    |signed negative a - signed (!negative) b| = |a + b| := by
  cases negative with
  | false => simp [signed]
  | true =>
    rw [← abs_neg (a + b)]
    simp [signed, sub_eq_add_neg, add_comm]

/-- **A quantity is rounded to a finite number**, given by its sign and its rank: no
number of either sign is nearer, and the rank is even if another number is as near. -/
structure RoundsTo (q : ℚ) (negative : Bool) (rank : ℕ) : Prop where
  le : ∀ sign other,
    |q - signed negative (magnitude rank)| ≤ |q - signed sign (magnitude other)|
  even_of_tie : ∀ sign other, signed sign (magnitude other) ≠ signed negative (magnitude rank) →
    |q - signed negative (magnitude rank)| = |q - signed sign (magnitude other)| → Even rank

theorem magnitude_zero : magnitude 0 = 0 := by
  have hunits : units 0 = 0 := rfl
  rw [magnitude, hunits, Nat.cast_zero, zero_div]

theorem magnitude_nonneg (rank : ℕ) : 0 ≤ magnitude rank :=
  magnitude_zero ▸ magnitude_strictMono.monotone (Nat.zero_le rank)

/-- What is rounded to a positive magnitude is positive. -/
theorem IsNearest.pos {q : ℚ} {rank : ℕ} (h : IsNearest q rank) (hrank : 0 < rank) : 0 < q := by
  have hmagnitude := magnitude_strictMono hrank
  have hle := (abs_sub_le_abs_sub_iff_of_gt hmagnitude).mp (h.le 0)
  rw [magnitude_zero] at hmagnitude hle
  linarith

/-- **Rounding keeps the sign**: the numbers of the other sign are no nearer than zero. -/
theorem roundsTo_signed_iff {q : ℚ} {negative : Bool} {rank : ℕ} (hrank : 0 < rank) :
    RoundsTo (signed negative q) negative rank ↔ IsNearest q rank := by
  constructor
  · rintro ⟨hle, heven⟩
    refine ⟨fun other => ?_, fun other hne htie => heven negative other ?_ ?_⟩
    · simpa only [abs_signed_sub_signed] using hle negative other
    · intro heq
      have hzero := abs_signed_sub_signed negative (magnitude other) (magnitude rank)
      rw [heq, sub_self, abs_zero, eq_comm, abs_eq_zero, sub_eq_zero] at hzero
      exact hne (magnitude_strictMono.injective hzero)
    · simpa only [abs_signed_sub_signed] using htie
  · intro h
    have hpos := h.pos hrank
    -- Zero is nearer than any quantity of the other sign.
    have hfar (other : ℕ) : |q - magnitude 0| ≤ |q + magnitude other| := by
      have hnonneg := magnitude_nonneg other
      rw [magnitude_zero, sub_zero, abs_of_pos hpos, abs_of_pos (by linarith)]
      linarith
    refine ⟨fun sign other => ?_, fun sign other hne htie => ?_⟩
    · rw [abs_signed_sub_signed]
      rcases Bool.eq_or_eq_not sign negative with rfl | rfl
      · rw [abs_signed_sub_signed]
        exact h.le other
      · rw [abs_signed_sub_signed_not]
        exact (h.le 0).trans (hfar other)
    · rw [abs_signed_sub_signed] at htie
      rcases Bool.eq_or_eq_not sign negative with rfl | rfl
      · rw [abs_signed_sub_signed] at htie
        refine h.even_of_tie other ?_ htie
        rintro rfl
        exact hne rfl
      · rw [abs_signed_sub_signed_not] at htie
        exact h.even_of_tie 0 hrank.ne (le_antisymm (h.le 0) (htie ▸ hfar other))

end Stencil
