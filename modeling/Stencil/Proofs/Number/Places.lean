import Stencil.Number.Display
import Stencil.Proofs.Number.Fewest

/-!
# The places of the shortest digits

Where the shortest digits of a magnitude stand, seen from the magnitude. The place of the
leading digit tells on which side of a power of ten the magnitude lies
(`Stencil.le_exponent_iff`), although the digits are only near to the magnitude, and the
power of ten need not be a magnitude. The digits end before the point if the magnitude is
a whole number, and only then (`Stencil.isWhole_significant_iff`): on a grid finer than
the whole numbers the search meets the magnitude itself, and a whole number below
`2 ^ 53` is a magnitude.
-/

namespace Stencil

/-! ### The quantity of the digits -/

/-- The decimal of significant digits at their place. -/
def Significant.decimal (s : Significant) : Decimal :=
  ⟨Decimal.ofDigits s.digits, s.point - s.digits.length⟩

/-- The significant digits are those of the shortest decimal without the zeros at
their end, and the point stays where it was. -/
theorem significant_eq (rank : Nat) :
    significant rank =
      ⟨((Decimal.digitsOf (shortest rank).1).reverse.dropWhile (· == '0')).reverse,
        ((Decimal.digitsOf (shortest rank).1).length + (shortest rank).2 : Nat) -
          (unitExponent : Int)⟩ :=
  rfl

/-- The shortest decimal is the significant digits and zeros behind them. -/
theorem exists_digitsOf_shortest (rank : ℕ) :
    ∃ z, Decimal.digitsOf (shortest rank).1 =
      (significant rank).digits ++ List.replicate z '0' :=
  exists_trailing_zeros _

theorem exponent_significant (rank : ℕ) : (significant rank).exponent =
    (Decimal.digitsOf (shortest rank).1).length + ((shortest rank).2 - unitExponent : ℤ) - 1 := by
  rw [Significant.exponent, significant_eq]
  push_cast
  ring

/-- **The significant digits have the quantity of the shortest decimal.** -/
theorem quantity_significant (rank : ℕ) :
    (significant rank).decimal.quantity = shortestQuantity rank := by
  obtain ⟨z, hz⟩ := exists_digitsOf_shortest rank
  have hcoefficient : (shortest rank).1 =
      Decimal.ofDigits (significant rank).digits * 10 ^ z := by
    rw [← Decimal.ofDigits_append_zeros, ← hz, Decimal.ofDigits_digitsOf]
  have hlength : (Decimal.digitsOf (shortest rank).1).length =
      (significant rank).digits.length + z := by
    rw [hz, List.length_append, List.length_replicate]
  have hexponent : (significant rank).point - (significant rank).digits.length =
      z + ((shortest rank).2 - unitExponent : ℤ) := by
    have := exponent_significant rank
    rw [Significant.exponent] at this
    omega
  rw [shortestQuantity, stepsQuantity_mul_pow, Significant.decimal, Decimal.quantity, hexponent,
    hcoefficient, Nat.cast_mul, Nat.cast_pow, Nat.cast_ofNat, zpow_add₀ (by norm_num),
    zpow_natCast, mul_assoc]

variable {rank : ℕ}

theorem shortest_pos (hrank : 0 < rank) : 0 < (shortest rank).1 := by
  have hpos := (isNearest_shortestQuantity rank).pos hrank
  rw [Nat.pos_iff_ne_zero]
  intro hzero
  simp [shortestQuantity, stepsQuantity, hzero] at hpos

/-! ### The leading digit -/

/-- The leading digit stands at the place of a power of ten or above it if the shortest
decimal is not below that power. -/
theorem le_exponent_iff_pow_le (hrank : 0 < rank) (p : ℤ) :
    p ≤ (significant rank).exponent ↔ 10 ^ p ≤ shortestQuantity rank := by
  have hlow := pow_length_digitsOf_le (shortest_pos hrank)
  have hhigh := lt_pow_length_digitsOf (shortest rank).1
  have hlength : 0 < (Decimal.digitsOf (shortest rank).1).length := Nat.length_toDigits_pos
  rw [exponent_significant, shortestQuantity, stepsQuantity_mul_pow]
  generalize (Decimal.digitsOf (shortest rank).1).length = count at *
  generalize (shortest rank).1 = c at *
  generalize ((shortest rank).2 - unitExponent : ℤ) = e at *
  have hten : (10 : ℚ) ≠ 0 := by norm_num
  have hscale : (0 : ℚ) < 10 ^ e := by positivity
  constructor
  · intro hle
    calc (10 : ℚ) ^ p ≤ 10 ^ (((count - 1 : ℕ) : ℤ) + e) :=
          zpow_le_zpow_right₀ (by norm_num) (by omega)
      _ = (10 ^ (count - 1) : ℕ) * 10 ^ e := by
          rw [zpow_add₀ hten, zpow_natCast, Nat.cast_pow, Nat.cast_ofNat]
      _ ≤ c * 10 ^ e := mul_le_mul_of_nonneg_right (Nat.cast_le.mpr hlow) hscale.le
  · intro hle
    have hlt : (10 : ℚ) ^ p < 10 ^ ((count : ℤ) + e) :=
      calc (10 : ℚ) ^ p ≤ c * 10 ^ e := hle
        _ < (10 ^ count : ℕ) * 10 ^ e := mul_lt_mul_of_pos_right (Nat.cast_lt.mpr hhigh) hscale
        _ = 10 ^ ((count : ℤ) + e) := by
            rw [zpow_add₀ hten, zpow_natCast, Nat.cast_pow, Nat.cast_ofNat]
    have := (zpow_lt_zpow_iff_right₀ (by norm_num)).mp hlt
    omega

/-- **The leading digit stands at the place of a power of ten or above it if the magnitude
is not below the one that the power is rounded to.** At that magnitude itself one digit is
enough, and the next decimal below with one digit is rounded to a smaller magnitude. -/
theorem le_exponent_iff {p : ℤ} {bound nine : ℕ} (hrank : 0 < rank)
    (hbound : IsNearest (10 ^ p) bound) (hnine : IsNearest (9 * 10 ^ (p - 1)) nine)
    (hlt : nine < bound) : p ≤ (significant rank).exponent ↔ bound ≤ rank := by
  have hnearest := isNearest_shortestQuantity rank
  rw [le_exponent_iff_pow_le hrank]
  constructor
  · exact hbound.mono hnearest
  · intro hle
    by_contra hbelow
    have hbelow := lt_of_not_ge hbelow
    obtain rfl : bound = rank := Nat.le_antisymm hle (hnearest.mono hbound hbelow.le)
    have hone : HasDigits 1 ((10 : ℚ) ^ p) := ⟨1, p, by decide, by simp⟩
    obtain ⟨c, e, hpos, hc, hq⟩ :=
      (hasDigits_shortestQuantity hrank hbound hone).exists_nat (hnearest.pos hrank)
    have hscale : (0 : ℚ) < 10 ^ e := by positivity
    have hplace : (10 : ℚ) ^ e < 10 ^ p := by
      calc (10 : ℚ) ^ e = (1 : ℕ) * 10 ^ e := by rw [Nat.cast_one, one_mul]
        _ ≤ c * 10 ^ e := mul_le_mul_of_nonneg_right (Nat.cast_le.mpr hpos) hscale.le
        _ < 10 ^ p := hq ▸ hbelow
    have hplace := (zpow_lt_zpow_iff_right₀ (by norm_num)).mp hplace
    have hsmall : shortestQuantity bound ≤ 9 * 10 ^ (p - 1) := by
      calc shortestQuantity bound = c * 10 ^ e := hq
        _ ≤ (9 : ℕ) * 10 ^ e :=
            mul_le_mul_of_nonneg_right (Nat.cast_le.mpr (by omega)) hscale.le
        _ ≤ 9 * 10 ^ (p - 1) := by
            rw [Nat.cast_ofNat]
            exact mul_le_mul_of_nonneg_left
              (zpow_le_zpow_right₀ (by norm_num) (by omega)) (by norm_num)
    exact absurd (hnearest.mono hnine hsmall) (by omega)

/-! ### Whole numbers -/

/-- The magnitude of a rank in a run is a whole number if its spacing is one. -/
theorem magnitude_run_of_mul_eq {k m : ℕ} (hm : m ≤ 2 ^ 53) (hm' : 2 ^ 52 ≤ m) (N : ℕ)
    (h : m * 2 ^ k = N * 2 ^ unitExponent) : magnitude (k * 2 ^ 52 + m) = N := by
  have hcast : (m * 2 ^ k : ℚ) = N * 2 ^ unitExponent := by exact_mod_cast h
  rw [magnitude_run hm (.inr hm'), hcast, mul_div_assoc, div_self (by positivity), mul_one]

/-- A whole number below `2 ^ 53` is a magnitude. -/
theorem exists_magnitude_eq {N : ℕ} (h : N < 2 ^ 53) : ∃ rank, magnitude rank = N := by
  rcases Nat.eq_zero_or_pos N with rfl | hpos
  · exact ⟨0, by rw [magnitude_zero, Nat.cast_zero]⟩
  have hlog : N.log2 < 53 := (Nat.log2_lt hpos.ne').mpr h
  have hlow : 2 ^ N.log2 ≤ N := Nat.log2_self_le hpos.ne'
  have hhigh : N < 2 ^ (N.log2 + 1) := Nat.lt_log2_self
  generalize N.log2 = l at *
  refine ⟨(1022 + l) * 2 ^ 52 + N * 2 ^ (52 - l), magnitude_run_of_mul_eq ?_ ?_ N ?_⟩
  · calc N * 2 ^ (52 - l) ≤ 2 ^ (l + 1) * 2 ^ (52 - l) := Nat.mul_le_mul_right _ hhigh.le
      _ = 2 ^ 53 := by
          rw [← Nat.pow_add]
          congr 1
          omega
  · calc 2 ^ 52 = 2 ^ l * 2 ^ (52 - l) := by
          rw [← Nat.pow_add]
          congr 1
          omega
      _ ≤ N * 2 ^ (52 - l) := Nat.mul_le_mul_right _ hlow
  · rw [Nat.mul_assoc, ← Nat.pow_add]
    congr 2
    have : unitExponent = 1074 := rfl
    omega

/-- From the rank of `2 ^ 52` on all magnitudes are whole numbers. -/
theorem exists_eq_magnitude_of_le (h : 1075 * 2 ^ 52 ≤ rank) : ∃ N : ℕ, magnitude rank = N := by
  obtain ⟨k, m, rfl, hm, hk⟩ := exists_run 52 rank
  have hspacing : unitExponent ≤ k := by
    by_contra hlt
    have hle : k * 2 ^ 52 ≤ 1073 * 2 ^ 52 :=
      Nat.mul_le_mul_right _ (Nat.le_of_lt_succ (Nat.lt_of_not_ge hlt))
    omega
  have hrun : 2 ^ 52 ≤ m := by
    rcases hk with rfl | hrun
    · exact absurd hspacing (by decide)
    · exact hrun
  refine ⟨m * 2 ^ (k - unitExponent), magnitude_run_of_mul_eq hm.le hrun _ ?_⟩
  rw [Nat.mul_assoc, ← Nat.pow_add, Nat.sub_add_cancel hspacing]

/-- The first rank from which on magnitudes are a whole number apart is that of `2 ^ 52`. -/
theorem magnitude_spacing_one :
    magnitude (unitExponent * 2 ^ 52 + 2 ^ 52) = (2 ^ 52 : ℕ) :=
  magnitude_run_of_mul_eq (by decide) le_rfl _ rfl

/-- On a grid that the magnitude lies on, the search meets the magnitude. -/
theorem gridNeighbour?_of_dvd {k : ℕ} (h : 10 ^ k ∣ expansion rank) :
    gridNeighbour? rank k = some (expansion rank / 10 ^ k) := by
  have hexact : readsBack rank (expansion rank / 10 ^ k * 10 ^ k) = true := by
    rw [Nat.div_mul_cancel h]
    exact readsBack_iff.mpr (isNearest_expansion rank)
  have hrest : expansion rank % 10 ^ k = 0 := Nat.mod_eq_zero_of_dvd h
  simp [gridNeighbour?, hexact, hrest]

/-- **The shortest decimal is a whole number if the magnitude is one**, and only then. -/
theorem exists_eq_shortestQuantity_iff :
    (∃ N : ℕ, shortestQuantity rank = N) ↔ ∃ N : ℕ, magnitude rank = N := by
  constructor
  · rintro ⟨N, hN⟩
    rcases Nat.lt_or_ge rank (1075 * 2 ^ 52) with hsmall | hlarge
    · -- Whole numbers of this size are magnitudes, and there is one nearest rank.
      have hnearest := hN ▸ isNearest_shortestQuantity rank
      have hN : N < 2 ^ 53 := by
        by_contra hge
        have hle : magnitude (unitExponent * 2 ^ 52 + 2 ^ 52) ≤ N := by
          rw [magnitude_spacing_one]
          exact Nat.cast_le.mpr (by omega)
        exact absurd ((isNearest_magnitude _).mono hnearest hle) (Nat.not_le.mpr hsmall)
      obtain ⟨rank', hrank'⟩ := exists_magnitude_eq hN
      have hnearest' := hrank' ▸ isNearest_magnitude rank'
      obtain rfl := hnearest.unique hnearest'
      exact ⟨N, hrank'⟩
    · exact exists_eq_magnitude_of_le hlarge
  · rintro ⟨N, hN⟩
    obtain ⟨i, c, -, hshortest, hfound, -⟩ := exists_shortest rank
    rw [shortestQuantity, hshortest]
    generalize (Decimal.digitsOf (expansion rank)).length - (i + 1) = k at *
    rcases Nat.lt_or_ge k unitExponent with hfine | hcoarse
    · -- The grid is finer than the whole numbers.
      have hexpansion : expansion rank = N * 10 ^ unitExponent := by
        have hquantity := (stepsQuantity_expansion rank).trans hN
        rw [stepsQuantity, div_eq_iff (by positivity)] at hquantity
        exact_mod_cast hquantity
      have hdvd : 10 ^ k ∣ expansion rank :=
        hexpansion ▸ Dvd.dvd.mul_left (pow_dvd_pow 10 hfine.le) N
      obtain rfl : _ = c := Option.some.inj ((gridNeighbour?_of_dvd hdvd).symm.trans hfound)
      refine ⟨N, ?_⟩
      rw [Nat.div_mul_cancel hdvd, stepsQuantity_expansion, hN]
    · refine ⟨c * 10 ^ (k - unitExponent), ?_⟩
      rw [stepsQuantity_mul_pow, ← Nat.cast_sub hcoarse, zpow_natCast, Nat.cast_mul, Nat.cast_pow,
        Nat.cast_ofNat]

/-! ### The first and the last digit -/

/-- **Digits without idle zeros**: there is one, and neither the first nor the last is
zero. -/
structure Significant.Proper (s : Significant) : Prop where
  ne_nil : s.digits ≠ []
  all_isDigit : ∀ c ∈ s.digits, c.isDigit = true
  head?_ne : s.digits.head? ≠ some '0'
  getLast?_ne : s.digits.getLast? ≠ some '0'

/-- The significant digits of a magnitude are digits. -/
theorem isDigit_of_mem_significant {rank : Nat} {c : Char}
    (hc : c ∈ (significant rank).digits) : c.isDigit = true := by
  rw [significant_eq] at hc
  have hdrop := (List.dropWhile_sublist (· == '0')).mem (List.mem_reverse.mp hc)
  exact Nat.isDigit_of_mem_toDigits (by decide) (by decide) (List.mem_reverse.mp hdrop)

/-- A positive magnitude has a significant digit. -/
theorem significant_digits_ne_nil (hrank : 0 < rank) : (significant rank).digits ≠ [] := by
  intro hnil
  obtain ⟨z, hz⟩ := exists_digitsOf_shortest rank
  have hpos := shortest_pos hrank
  rw [← Decimal.ofDigits_digitsOf (shortest rank).1, hz, Decimal.ofDigits_append_zeros,
    hnil] at hpos
  simp [Decimal.ofDigits] at hpos

/-- **The shortest digits have no idle zeros.** -/
theorem significant_proper (hrank : 0 < rank) : (significant rank).Proper where
  ne_nil := significant_digits_ne_nil hrank
  all_isDigit _ hc := isDigit_of_mem_significant hc
  head?_ne := by
    obtain ⟨z, hz⟩ := exists_digitsOf_shortest rank
    rw [← List.head?_append_of_ne_nil _ (significant_digits_ne_nil hrank), ← hz]
    exact head?_digitsOf_ne (shortest_pos hrank)
  getLast?_ne := by
    rw [significant_eq]
    exact getLast?_dropWhile_zero_ne _

/-- Digits end before the point if their quantity is a whole number. -/
theorem Significant.Proper.isWhole_iff {s : Significant} (h : s.Proper) :
    s.isWhole = true ↔ ∃ N : ℕ, s.decimal.quantity = N := by
  rw [isWhole, decide_eq_true_eq, Decimal.quantity, decimal]
  constructor
  · intro hle
    obtain ⟨z, hz⟩ : ∃ z : ℕ, s.point - s.digits.length = z :=
      ⟨_, (Int.toNat_of_nonneg (by omega)).symm⟩
    refine ⟨Decimal.ofDigits s.digits * 10 ^ z, ?_⟩
    rw [hz, zpow_natCast, Nat.cast_mul, Nat.cast_pow, Nat.cast_ofNat]
  · rintro ⟨N, hN⟩
    by_contra hlt
    obtain ⟨z, hz⟩ : ∃ z : ℕ, s.point - s.digits.length = -(z + 1 : ℕ) :=
      ⟨(s.digits.length - s.point - 1).toNat, by omega⟩
    rw [hz, zpow_neg, zpow_natCast, mul_inv_eq_iff_eq_mul₀ (by positivity)] at hN
    have hdvd : Decimal.ofDigits s.digits = 10 * (N * 10 ^ z) := by
      have : Decimal.ofDigits s.digits = N * 10 ^ (z + 1) := by exact_mod_cast hN
      rw [this, Nat.pow_succ]
      ring
    exact Decimal.not_ten_dvd_ofDigits h.ne_nil h.all_isDigit h.getLast?_ne ⟨_, hdvd⟩

/-- **The shortest digits end before the point if the magnitude is a whole number.** -/
theorem isWhole_significant_iff (hrank : 0 < rank) :
    (significant rank).isWhole = true ↔ ∃ N : ℕ, magnitude rank = N := by
  rw [(significant_proper hrank).isWhole_iff, quantity_significant, exists_eq_shortestQuantity_iff]

end Stencil
