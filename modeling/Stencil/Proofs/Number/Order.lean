import Stencil.Proofs.Number.Nearest
import Mathlib.Order.Compare
import Mathlib.Order.WithBot

/-!
# The order of numbers

A number stands for a point of the line of quantities, which has an end on either side for
the infinities; not-a-number stands for none (`Stencil.Number.quantity?`). The order of
numbers was defined by places, which count ranks instead of measuring quantities. It is the
order of the line nevertheless (`Stencil.Number.order_eq_cmp`), since a larger rank is a
larger magnitude.

With not-a-number put above all places the whole order is that of the integers
(`Stencil.Number.order_eq_compare`), and so it is a total order up to the numbers that share
a place: it is transitive, and turning a comparison round reverses it. Equality of numbers
as quantities is to have one place on the line, which not-a-number has not
(`Stencil.Number.same_iff`).
-/

namespace Stencil

/-! ### Quantities at places -/

/-- The quantity at a place between the ends of the line. -/
def atPlace (z : ℤ) : ℚ := signed (decide (z < 0)) (magnitude z.natAbs)

theorem atPlace_of_nonneg {z : ℤ} (h : 0 ≤ z) : atPlace z = magnitude z.natAbs := by
  rw [atPlace, decide_eq_false h.not_gt, signed, if_neg Bool.false_ne_true]

theorem atPlace_of_nonpos {z : ℤ} (h : z ≤ 0) : atPlace z = -magnitude z.natAbs := by
  rcases h.lt_or_eq with h | rfl
  · rw [atPlace, decide_eq_true h, signed, if_pos rfl]
  · rw [atPlace_of_nonneg le_rfl, Int.natAbs_zero, magnitude_zero, neg_zero]

/-- **A larger place is a larger quantity.** -/
theorem atPlace_lt_atPlace {z w : ℤ} : atPlace z < atPlace w ↔ z < w := by
  refine StrictMono.lt_iff_lt fun z w hlt => ?_
  rcases lt_or_ge z 0 with hz | hz
  · rw [atPlace_of_nonpos hz.le]
    rcases lt_or_ge w 0 with hw | hw
    · rw [atPlace_of_nonpos hw.le]
      exact neg_lt_neg (magnitude_strictMono (by omega))
    · rw [atPlace_of_nonneg hw]
      have hpos := magnitude_strictMono (show 0 < z.natAbs by omega)
      rw [magnitude_zero] at hpos
      linarith [magnitude_nonneg w.natAbs]
  · rw [atPlace_of_nonneg hz, atPlace_of_nonneg (hz.trans hlt.le)]
    exact magnitude_strictMono (by omega)

theorem atPlace_signed (negative : Bool) (rank : ℕ) :
    atPlace (if negative then -rank else rank) = signed negative (magnitude rank) := by
  cases negative with
  | false => exact atPlace_of_nonneg (Int.natCast_nonneg rank)
  | true =>
    rw [if_pos rfl, atPlace_of_nonpos (by omega), Int.natAbs_neg, Int.natAbs_natCast, signed,
      if_pos rfl]

/-! ### The line -/

/-- **The line of quantities**, with its two ends. -/
abbrev Line := WithBot (WithTop ℚ)

/-- A quantity as a point of the line. -/
abbrev Line.point (q : ℚ) : Line := ((q : WithTop ℚ) : WithBot (WithTop ℚ))

theorem Line.point_lt_point {p q : ℚ} : point p < point q ↔ p < q := by
  rw [WithBot.coe_lt_coe, WithTop.coe_lt_coe]

theorem Line.point_nonpos {q : ℚ} : point q ≤ 0 ↔ q ≤ 0 := by
  rw [← not_lt, ← not_lt]
  exact not_congr point_lt_point

namespace Number

/-- **The exact quantity of a number**; not-a-number has none. -/
def quantity? : Number → Option Line
  | nan => none
  | infinite negative => some (if negative then ⊥ else ⊤)
  | finite negative rank => some (.point (signed negative (magnitude rank)))

variable {a b : Number} {x y : Line}

/-- The place of a number is between the ends of the line, or it is one of them. -/
theorem quantity?_eq_some (h : a.quantity? = some x) :
    (a.place = -rankCount ∧ x = ⊥) ∨ (a.place = rankCount ∧ x = ⊤) ∨
      (-rankCount < a.place ∧ a.place < rankCount ∧ x = .point (atPlace a.place)) := by
  cases a with
  | nan => cases h
  | infinite negative =>
    obtain rfl := Option.some.inj h
    cases negative with
    | false => exact .inr (.inl ⟨rfl, rfl⟩)
    | true => exact .inl ⟨rfl, rfl⟩
  | finite negative rank =>
    obtain rfl := Option.some.inj h
    have hrank := rank.isLt
    refine .inr (.inr ⟨?_, ?_, ?_⟩)
    · cases negative <;> simp only [place, if_true, Bool.false_eq_true, if_false] <;> omega
    · cases negative <;> simp only [place, if_true, Bool.false_eq_true, if_false] <;> omega
    · rw [place, atPlace_signed]

/-- **Numbers are placed as their quantities lie on the line.** -/
theorem place_lt_place_iff (ha : a.quantity? = some x) (hb : b.quantity? = some y) :
    a.place < b.place ↔ x < y := by
  have hcount : (0 : ℤ) < rankCount := by decide
  rcases quantity?_eq_some ha with ⟨hplace, rfl⟩ | ⟨hplace, rfl⟩ | ⟨hlow, hhigh, rfl⟩
  · rcases quantity?_eq_some hb with ⟨hplace', rfl⟩ | ⟨hplace', rfl⟩ | ⟨hlow', hhigh', rfl⟩
    · simp [hplace, hplace']
    · exact iff_of_true (by omega) bot_lt_top
    · exact iff_of_true (by omega) (WithBot.bot_lt_coe _)
  · refine iff_of_false ?_ not_top_lt
    rcases quantity?_eq_some hb with ⟨hplace', -⟩ | ⟨hplace', -⟩ | ⟨-, hhigh', -⟩ <;> omega
  · rcases quantity?_eq_some hb with ⟨hplace', rfl⟩ | ⟨hplace', rfl⟩ | ⟨hlow', hhigh', rfl⟩
    · exact iff_of_false (by omega) not_lt_bot
    · exact iff_of_true (by omega) (WithBot.coe_lt_coe.mpr (WithTop.coe_lt_top _))
    · rw [Line.point_lt_point, atPlace_lt_atPlace]

/-! ### The order -/

/-- A place for every number: not-a-number stands above the line. -/
def height : Number → ℤ
  | nan => rankCount + 1
  | a => a.place

theorem quantity?_eq_none_iff : a.quantity? = none ↔ a = nan := by
  cases a <;> simp [quantity?]

theorem ne_nan_of_quantity? (h : a.quantity? = some x) : a ≠ nan := by
  rintro rfl
  cases h

theorem height_of_ne (h : a ≠ nan) : a.height = a.place := by
  cases a with
  | nan => exact absurd rfl h
  | infinite negative => rfl
  | finite negative rank => rfl

theorem height_lt_height_nan (h : a ≠ nan) : a.height < nan.height := by
  obtain ⟨x, hx⟩ := Option.ne_none_iff_exists'.mp (mt quantity?_eq_none_iff.mp h)
  rw [height_of_ne h, height]
  rcases quantity?_eq_some hx with ⟨hplace, -⟩ | ⟨hplace, -⟩ | ⟨-, hhigh, -⟩ <;> omega

/-- Not-a-number is above everything else. -/
theorem order_nan_left (h : b ≠ nan) : nan.order b = .gt := by
  cases b with
  | nan => exact absurd rfl h
  | infinite negative => rfl
  | finite negative rank => rfl

theorem order_nan_right (h : a ≠ nan) : a.order nan = .lt := by
  cases a with
  | nan => exact absurd rfl h
  | infinite negative => rfl
  | finite negative rank => rfl

theorem order_of_ne (ha : a ≠ nan) (hb : b ≠ nan) : a.order b = compare a.place b.place := by
  cases a with
  | nan => exact absurd rfl ha
  | infinite | finite =>
    cases b with
    | nan => exact absurd rfl hb
    | infinite | finite => rfl

/-- **The order of numbers is that of heights.** -/
theorem order_eq_compare (a b : Number) : a.order b = compare a.height b.height := by
  by_cases ha : a = nan
  · subst ha
    by_cases hb : b = nan
    · subst hb
      exact (Int.compare_eq_eq.mpr rfl).symm
    · rw [order_nan_left hb, Int.compare_eq_gt.mpr (height_lt_height_nan hb)]
  · by_cases hb : b = nan
    · subst hb
      rw [order_nan_right ha, Int.compare_eq_lt.mpr (height_lt_height_nan ha)]
    · rw [order_of_ne ha hb, height_of_ne ha, height_of_ne hb]

/-- **The order of numbers is oriented and transitive.** -/
instance : Std.TransCmp order where
  eq_swap := by
    intro a b
    rw [order_eq_compare, order_eq_compare, Int.compare_swap]
  isLE_trans := by
    intro a b c
    simp only [order_eq_compare, Int.isLE_compare]
    exact le_trans

/-- **On the line, the order of numbers is that of their quantities.** -/
theorem order_eq_cmp (ha : a.quantity? = some x) (hb : b.quantity? = some y) :
    a.order b = cmp x y := by
  have hlt := place_lt_place_iff ha hb
  have hgt := place_lt_place_iff hb ha
  rw [order_of_ne (ne_nan_of_quantity? ha) (ne_nan_of_quantity? hb)]
  rcases lt_trichotomy x y with h | rfl | h
  · rw [(cmp_eq_lt_iff x y).mpr h, Int.compare_eq_lt.mpr (hlt.mpr h)]
  · rw [cmp_self_eq_eq, Int.compare_eq_eq]
    simp only [lt_irrefl, iff_false] at hlt hgt
    omega
  · rw [(cmp_eq_gt_iff x y).mpr h, Int.compare_eq_gt.mpr (hgt.mpr h)]

/-- **Equality of numbers as quantities** is to have one place on the line. -/
theorem same_iff (a b : Number) : a.same b = true ↔ a.order b = .eq ∧ a ≠ nan := by
  by_cases ha : a = nan
  · simp [ha, same]
  by_cases hb : b = nan
  · subst hb
    rw [order_nan_right ha]
    cases a <;> simp [same]
  have hcount : (0 : ℤ) < rankCount := by decide
  rw [order_of_ne ha hb, Int.compare_eq_eq, and_iff_left ha]
  cases a with
  | nan => exact absurd rfl ha
  | infinite s =>
    cases b with
    | nan => exact absurd rfl hb
    | infinite t => cases s <;> cases t <;> simp [same, place] <;> omega
    | finite t q => cases s <;> cases t <;> simp [same, place] <;> omega
  | finite s r =>
    cases b with
    | nan => exact absurd rfl hb
    | infinite t => cases s <;> cases t <;> simp [same, place] <;> omega
    | finite t q => cases s <;> cases t <;> simp [same, place, Fin.ext_iff] <;> omega

theorem below_of_ne (ha : a ≠ nan) (hb : b ≠ nan) : a.below b = decide (a.place < b.place) := by
  cases a with
  | nan => exact absurd rfl ha
  | infinite | finite =>
    cases b with
    | nan => exact absurd rfl hb
    | infinite | finite => rfl

/-- To be below a number is to lie below it on the line. -/
theorem below_iff (ha : a.quantity? = some x) (hb : b.quantity? = some y) :
    a.below b = true ↔ x < y := by
  rw [below_of_ne (ne_nan_of_quantity? ha) (ne_nan_of_quantity? hb), decide_eq_true_iff,
    place_lt_place_iff ha hb]

/-- To be at most a number is to have at most its place. -/
theorem atMost_iff_place_le (ha : a ≠ nan) (hb : b ≠ nan) :
    a.atMost b = true ↔ a.place ≤ b.place := by
  have hsame : (a == b) = true ↔ a.place = b.place := by
    refine (same_iff a b).trans ?_
    rw [order_of_ne ha hb, Int.compare_eq_eq, and_iff_left ha]
  rw [atMost, Bool.or_eq_true, below_of_ne ha hb, decide_eq_true_iff, hsame, le_iff_lt_or_eq]

end Number

end Stencil
