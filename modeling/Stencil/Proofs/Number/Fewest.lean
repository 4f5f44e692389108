import Stencil.Number.Shortest
import Stencil.Proofs.Number.Digits
import Stencil.Proofs.Number.Nearest
import Mathlib.Algebra.Order.Field.Power

/-!
# The fewest digits

No decimal with fewer digits than the shortest one is rounded to its magnitude
(`Stencil.hasDigits_shortestQuantity`). Two facts carry the proof.

* A grid of decimals that has any point which reads back has a neighbour of the magnitude
  that does, since everything between the point and the magnitude reads back too.
* A decimal with few digits lies on the grid that the search tries for their number, or
  else so far below the magnitude that a power of ten stands between the two.

The search tries the grids in turn, fewest digits first, so the first one with a neighbour
that reads back is the coarsest that will do.
-/

namespace Stencil

/-! ### Quantities with few digits -/

/-- A quantity can be written with a number of significant digits. -/
def HasDigits (k : ℕ) (q : ℚ) : Prop := ∃ c e : ℤ, |c| < 10 ^ k ∧ q = c * 10 ^ e

theorem HasDigits.mono {k k' : ℕ} {q : ℚ} (h : HasDigits k q) (hle : k ≤ k') :
    HasDigits k' q := by
  obtain ⟨c, e, hc, hq⟩ := h
  exact ⟨c, e, hc.trans_le (pow_le_pow_right₀ (by decide) hle), hq⟩

theorem HasDigits.signed {k : ℕ} {q : ℚ} (h : HasDigits k q) (negative : Bool) :
    HasDigits k (signed negative q) := by
  obtain ⟨c, e, hc, rfl⟩ := h
  cases negative with
  | false => exact ⟨c, e, hc, rfl⟩
  | true => exact ⟨-c, e, by rwa [abs_neg], by simp [Stencil.signed]⟩

/-- The digits of a positive quantity are those of a natural number. -/
theorem HasDigits.exists_nat {k : ℕ} {q : ℚ} (h : HasDigits k q) (hq : 0 < q) :
    ∃ (c : ℕ) (e : ℤ), 0 < c ∧ c < 10 ^ k ∧ q = c * 10 ^ e := by
  obtain ⟨c, e, hc, rfl⟩ := h
  have hpos : 0 < c := by
    have hpower : (0 : ℚ) < 10 ^ e := by positivity
    exact_mod_cast pos_of_mul_pos_left hq hpower.le
  lift c to ℕ using hpos.le
  rw [Nat.abs_cast] at hc
  exact ⟨c, e, by exact_mod_cast hpos, by exact_mod_cast hc, by push_cast; rfl⟩

/-- **The exact quantity of a decimal.** -/
def Decimal.quantity (d : Decimal) : ℚ := d.coefficient * 10 ^ d.exponent

/-! ### Steps that read back -/

theorem fivePower_pos : 0 < fivePower := Nat.pow_pos (by decide)

/-- A unit of `2 ^ -1074` is `Stencil.fivePower` steps of `10 ^ -1074`. -/
theorem two_pow_mul_fivePower : 2 ^ unitExponent * fivePower = 10 ^ unitExponent := by
  rw [fivePower, ← Nat.mul_pow]

/-- A number of steps of `10 ^ -1074`, as a quantity. -/
def stepsQuantity (steps : ℕ) : ℚ := steps / 10 ^ unitExponent

theorem stepsQuantity_mono : Monotone stepsQuantity := by
  intro a b hle
  exact div_le_div_of_nonneg_right (Nat.cast_le.mpr hle) (by positivity)

theorem stepsQuantity_mul_pow (c k : ℕ) :
    stepsQuantity (c * 10 ^ k) = c * 10 ^ ((k : ℤ) - unitExponent) := by
  rw [stepsQuantity, zpow_sub₀ (by norm_num), zpow_natCast, zpow_natCast, ← mul_div_assoc]
  push_cast
  rfl

/-- **Steps read back as a magnitude** if it is the nearest one. -/
theorem readsBack_iff {rank steps : ℕ} :
    readsBack rank steps = true ↔ IsNearest (stepsQuantity steps) rank := by
  have hquantity : stepsQuantity steps = steps / fivePower / 2 ^ unitExponent := by
    have hpower : (fivePower * 2 ^ unitExponent : ℚ) = 10 ^ unitExponent := by
      rw [mul_comm]
      exact_mod_cast two_pow_mul_fivePower
    rw [stepsQuantity, ← hpower, div_div]
  rw [hquantity, ← nearestRank_eq_iff fivePower_pos, readsBack, beq_iff_eq]

/-- Steps between two quantities that are rounded to a magnitude read back as it. -/
theorem readsBack_of_between {rank steps : ℕ} {a b : ℚ} (ha : IsNearest a rank)
    (hb : IsNearest b rank) (hle : a ≤ stepsQuantity steps) (hle' : stepsQuantity steps ≤ b) :
    readsBack rank steps = true := by
  have hsteps := readsBack_iff.mp (beq_self_eq_true (nearestRank steps fivePower))
  exact beq_iff_eq.mpr (ha.of_between hb hsteps hle hle')

/-- The expansion of a magnitude is its exact quantity. -/
theorem stepsQuantity_expansion (rank : ℕ) : stepsQuantity (expansion rank) = magnitude rank := by
  have hfive : (fivePower : ℚ) ≠ 0 := Nat.cast_ne_zero.mpr fivePower_pos.ne'
  have hpower : (10 : ℚ) ^ unitExponent = 2 ^ unitExponent * fivePower := by
    exact_mod_cast two_pow_mul_fivePower.symm
  rw [stepsQuantity, expansion, magnitude, hpower, Nat.cast_mul, mul_div_mul_right _ _ hfive]

theorem isNearest_expansion (rank : ℕ) : IsNearest (stepsQuantity (expansion rank)) rank :=
  stepsQuantity_expansion rank ▸ isNearest_magnitude rank

/-! ### Grids -/

/-- A neighbour on a grid is only taken if it reads back. -/
theorem readsBack_of_gridNeighbour? {rank k c : Nat} (h : gridNeighbour? rank k = some c) :
    readsBack rank (c * 10 ^ k) = true := by
  simp only [gridNeighbour?] at h
  split at h
  · rename_i hlow
    obtain rfl : _ = c := Option.some.inj h
    exact (Bool.and_eq_true _ _ ▸ hlow).1
  · split at h
    · rename_i hhigh
      obtain rfl : _ = c := Option.some.inj h
      exact hhigh
    · exact absurd h (by simp)

theorem gridNeighbour?_eq_some {rank k c : ℕ} (h : gridNeighbour? rank k = some c) :
    c = expansion rank / 10 ^ k ∨ c = expansion rank / 10 ^ k + 1 := by
  simp only [gridNeighbour?] at h
  split at h
  · exact .inl (Option.some.inj h).symm
  · split at h
    · exact .inr (Option.some.inj h).symm
    · cases h

/-- **A grid with a point that reads back has a neighbour that does.** -/
theorem exists_gridNeighbour? {rank k j : ℕ} (h : readsBack rank (j * 10 ^ k) = true) :
    ∃ c, gridNeighbour? rank k = some c := by
  have hpoint := readsBack_iff.mp h
  have hexact := isNearest_expansion rank
  have hpower : 0 < 10 ^ k := Nat.pow_pos (by decide)
  have hreads : readsBack rank (expansion rank / 10 ^ k * 10 ^ k) = true ∨
      readsBack rank ((expansion rank / 10 ^ k + 1) * 10 ^ k) = true := by
    rcases Nat.lt_or_ge (expansion rank / 10 ^ k) j with hlt | hge
    · -- The point lies above the magnitude, and the upper neighbour between the two.
      refine .inr (readsBack_of_between hexact hpoint (stepsQuantity_mono ?_)
        (stepsQuantity_mono (Nat.mul_le_mul_right _ hlt)))
      exact (Nat.lt_mul_of_div_lt (Nat.lt_succ_self _) hpower).le
    · exact .inl (readsBack_of_between hpoint hexact
        (stepsQuantity_mono (Nat.mul_le_mul_right _ hge))
        (stepsQuantity_mono (Nat.div_mul_le_self _ _)))
  simp only [gridNeighbour?]
  split
  · exact ⟨_, rfl⟩
  split
  · exact ⟨_, rfl⟩
  · next hlow hhigh =>
    rcases hreads with h | h
    · simp [h, hhigh] at hlow
    · exact absurd h hhigh

/-! ### The search -/

/-- What is found first in a range is found at a place before which there is nothing. -/
theorem exists_of_findSome?_range {β : Type} {n : ℕ} {f : ℕ → Option β} {b : β}
    (h : (List.range n).findSome? f = some b) : ∃ i < n, f i = some b ∧ ∀ j < i, f j = none := by
  obtain ⟨before, i, after, hrange, hi, hbefore⟩ := List.findSome?_eq_some_iff.mp h
  have hlt : i < n := List.mem_range.mp (by simp [hrange])
  refine ⟨i, hlt, hi, fun j hj => hbefore j ?_⟩
  have hsorted : (before ++ i :: after).Pairwise (· < ·) := hrange ▸ List.pairwise_lt_range
  have hafter := (List.pairwise_cons.mp (List.pairwise_append.mp hsorted).2.1).1
  have hmem : j ∈ before ++ i :: after := hrange ▸ List.mem_range.mpr (hj.trans hlt)
  simp only [List.mem_append, List.mem_cons] at hmem
  rcases hmem with hmem | rfl | hmem
  · exact hmem
  · exact absurd hj (lt_irrefl j)
  · exact absurd (hafter j hmem) (by omega)

/-- **The shortest decimal lies on the first grid that has one.** -/
theorem exists_shortest (rank : ℕ) :
    ∃ i c, i < (Decimal.digitsOf (expansion rank)).length ∧
      shortest rank = (c, (Decimal.digitsOf (expansion rank)).length - (i + 1)) ∧
      gridNeighbour? rank ((Decimal.digitsOf (expansion rank)).length - (i + 1)) = some c ∧
      ∀ j < i, gridNeighbour? rank ((Decimal.digitsOf (expansion rank)).length - (j + 1)) =
        none := by
  have hcount : 0 < (Decimal.digitsOf (expansion rank)).length := Nat.length_toDigits_pos
  simp only [shortest]
  generalize (Decimal.digitsOf (expansion rank)).length = count at hcount ⊢
  cases hfound : (List.range count).findSome? fun i =>
      (gridNeighbour? rank (count - (i + 1))).map fun c => (c, count - (i + 1)) with
  | none =>
    -- The grid of the steps themselves has the expansion on it.
    have hexact : readsBack rank (expansion rank * 10 ^ 0) = true := by
      simpa using readsBack_iff.mpr (isNearest_expansion rank)
    obtain ⟨c, hc⟩ := exists_gridNeighbour? hexact
    have hlast := List.findSome?_eq_none_iff.mp hfound (count - 1)
      (List.mem_range.mpr (Nat.sub_lt hcount Nat.one_pos))
    rw [Nat.sub_add_cancel hcount, Nat.sub_self, hc] at hlast
    cases hlast
  | some ck =>
    obtain ⟨i, hi, hfirst, hnone⟩ := exists_of_findSome?_range hfound
    obtain ⟨c, hc, rfl⟩ := Option.map_eq_some_iff.mp hfirst
    refine ⟨i, c, hi, ?_, hc, fun j hj => Option.map_eq_none_iff.mp (hnone j hj)⟩
    rw [Option.getD_some]

/-! ### The fewest digits -/

theorem expansion_pos {rank : ℕ} (hrank : 0 < rank) : 0 < expansion rank := by
  have hunits : units 0 < units rank := binaryUnits_strictMono 52 hrank
  exact Nat.mul_pos (Nat.zero_lt_of_lt hunits) fivePower_pos

/-- **A decimal with few digits that reads back gives a point of the grid for their number
that does.** It is a point of the grid itself, or else a power of ten lies between it and
the magnitude. -/
theorem exists_grid_point {rank m c : ℕ} {e : ℤ} (hrank : 0 < rank)
    (hm : m ≤ (Decimal.digitsOf (expansion rank)).length) (hpos : 0 < c) (hc : c < 10 ^ m)
    (h : IsNearest (c * 10 ^ e) rank) :
    ∃ j, readsBack rank (j * 10 ^ ((Decimal.digitsOf (expansion rank)).length - m)) = true := by
  have hpower := pow_length_digitsOf_le (expansion_pos hrank)
  generalize (Decimal.digitsOf (expansion rank)).length = count at hm hpower ⊢
  have hdigit : 0 < m := by
    by_contra hzero
    rw [Nat.eq_zero_of_not_pos hzero, Nat.pow_zero] at hc
    omega
  have hten : (10 : ℚ) ≠ 0 := by norm_num
  rcases le_or_gt ((count - m : ℕ) : ℤ) (e + unitExponent) with hfine | hcoarse
  · -- The grid is fine enough, and the quantity itself lies on it.
    obtain ⟨d, hd⟩ : ∃ d : ℕ, e + unitExponent = (count - m : ℕ) + d :=
      ⟨(e + unitExponent - (count - m : ℕ)).toNat, by omega⟩
    refine ⟨c * 10 ^ d, readsBack_iff.mpr ?_⟩
    have hexponent : (d : ℤ) + ((count - m : ℕ) - unitExponent) = e := by omega
    rw [stepsQuantity_mul_pow, Nat.cast_mul, Nat.cast_pow, Nat.cast_ofNat, mul_assoc,
      ← zpow_natCast, ← zpow_add₀ hten, hexponent]
    exact h
  · -- The quantity ends below the grid, so it is less than the power of ten that leads the
    -- magnitude. That power lies on the grid, between the two.
    refine ⟨10 ^ (m - 1), ?_⟩
    have hproduct : 10 ^ (m - 1) * 10 ^ (count - m) = 1 * 10 ^ (count - 1) := by
      rw [← Nat.pow_add, Nat.one_mul]
      congr 1
      omega
    rw [hproduct]
    refine readsBack_of_between h (isNearest_expansion rank) ?_ (stepsQuantity_mono ?_)
    · calc (c : ℚ) * 10 ^ e ≤ 10 ^ (m : ℤ) * 10 ^ e := by
            have hle : (c : ℚ) ≤ 10 ^ m := by exact_mod_cast hc.le
            rw [zpow_natCast]
            exact mul_le_mul_of_nonneg_right hle (by positivity)
        _ = 10 ^ (m + e) := (zpow_add₀ hten _ _).symm
        _ ≤ 10 ^ (((count - 1 : ℕ) : ℤ) - unitExponent) :=
            zpow_le_zpow_right₀ (by norm_num) (by omega)
        _ = stepsQuantity (1 * 10 ^ (count - 1)) := by
            rw [stepsQuantity_mul_pow, Nat.cast_one, one_mul]
    · rwa [Nat.one_mul]

/-- The quantity of the shortest decimal of a magnitude. -/
def shortestQuantity (rank : ℕ) : ℚ :=
  stepsQuantity ((shortest rank).1 * 10 ^ (shortest rank).2)

/-- **The shortest decimal is rounded to its magnitude.** -/
theorem isNearest_shortestQuantity (rank : ℕ) : IsNearest (shortestQuantity rank) rank := by
  obtain ⟨i, c, -, hshortest, hfound, -⟩ := exists_shortest rank
  rw [shortestQuantity, hshortest]
  exact readsBack_iff.mp (readsBack_of_gridNeighbour? hfound)

/-- A neighbour on a grid has no more digits than the grid is for. -/
theorem hasDigits_of_gridNeighbour? {rank i c : ℕ}
    (hi : i < (Decimal.digitsOf (expansion rank)).length)
    (h : gridNeighbour? rank ((Decimal.digitsOf (expansion rank)).length - (i + 1)) = some c) :
    HasDigits (i + 1)
      (stepsQuantity (c * 10 ^ ((Decimal.digitsOf (expansion rank)).length - (i + 1)))) := by
  have hneighbour := gridNeighbour?_eq_some h
  have hlt := lt_pow_length_digitsOf (expansion rank)
  generalize (Decimal.digitsOf (expansion rank)).length = count at hi hlt hneighbour ⊢
  have hlow : expansion rank / 10 ^ (count - (i + 1)) < 10 ^ (i + 1) := by
    rwa [Nat.div_lt_iff_lt_mul (Nat.pow_pos (by decide)), ← Nat.pow_add, Nat.add_sub_cancel' hi]
  rw [stepsQuantity_mul_pow]
  rcases Nat.lt_or_ge c (10 ^ (i + 1)) with hc | hc
  · exact ⟨c, _, by rw [Nat.abs_cast]; exact_mod_cast hc, by push_cast; rfl⟩
  · -- The upper neighbour may be a power of ten, which has one digit.
    obtain rfl : c = 10 ^ (i + 1) := by omega
    refine ⟨1, (i + 1 : ℕ) + (((count - (i + 1) : ℕ) : ℤ) - unitExponent), ?_, ?_⟩
    · rw [abs_one]
      exact one_lt_pow₀ (by decide) (Nat.succ_ne_zero i)
    · rw [zpow_add₀ (by norm_num), zpow_natCast, Int.cast_one, one_mul, Nat.cast_pow,
        Nat.cast_ofNat]

/-- **No decimal with fewer digits than the shortest is rounded to its magnitude**: the
digits that one of them has are enough for the shortest. -/
theorem hasDigits_shortestQuantity {rank k : ℕ} {q : ℚ} (hrank : 0 < rank)
    (hq : IsNearest q rank) (hdigits : HasDigits k q) : HasDigits k (shortestQuantity rank) := by
  obtain ⟨i, c, hi, hshortest, hfound, hnone⟩ := exists_shortest rank
  obtain ⟨c', e', hpos, hc', rfl⟩ := hdigits.exists_nat (hq.pos hrank)
  have hle : i + 1 ≤ k := by
    by_contra hfew
    -- Fewer digits are those of a grid that was tried before.
    obtain ⟨j, hj⟩ := exists_grid_point hrank (m := k) (by omega) hpos hc' hq
    obtain ⟨c'', hc''⟩ := exists_gridNeighbour? hj
    have hdigit : k ≠ 0 := by
      rintro rfl
      omega
    have hbefore := hnone (k - 1) (by omega)
    rw [Nat.sub_add_cancel (Nat.pos_of_ne_zero hdigit), hc''] at hbefore
    cases hbefore
  rw [shortestQuantity, hshortest]
  exact (hasDigits_of_gridNeighbour? hi hfound).mono hle

end Stencil
