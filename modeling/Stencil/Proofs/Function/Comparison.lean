import Stencil.Proofs.Function.Safety
import Stencil.Proofs.Number.Order

/-!
# The comparisons are one order

Six of the built-in functions compare two values. Two numbers and two texts have an order
(`Stencil.Ordered`), and four of the functions test it; the other two compare any values for
equality. On numbers these are different notions, since not-a-number has a place in the
order and yet equals nothing.

`Stencil.Registry.comparisons_consistent` says that the orders are total, that the order of
numbers is that of their exact quantities, that the six functions agree with each other as
far as not-a-number allows, and which error the four of them report for values without an
order.
-/

namespace Stencil

/-! ### Values that have an order -/

/-- **A total order**: of two things one is at most the other, turning a comparison round
reverses it, and what is at most a second thing is at most whatever that is at most. -/
structure IsTotalOrder {α : Type} (order : α → α → Ordering) : Prop where
  total : ∀ a b, (order a b).isLE = true ∨ (order b a).isLE = true
  swap : ∀ a b, order b a = (order a b).swap
  trans : ∀ a b c, (order a b).isLE = true → (order b c).isLE = true → (order a c).isLE = true

theorem isTotalOrder_of_transCmp {α : Type} (order : α → α → Ordering) [Std.TransCmp order] :
    IsTotalOrder order := by
  have hswap : ∀ a b, order b a = (order a b).swap := fun a b => Std.OrientedCmp.eq_swap
  refine ⟨fun a b => ?_, hswap, fun a b c => Std.TransCmp.isLE_trans⟩
  rw [hswap a b]
  cases order a b <;> simp

/-- The order of texts is the one of the library. -/
theorem textOrder_eq_compare : textOrder = compare := rfl

instance : Std.TransCmp textOrder := inferInstanceAs (Std.TransOrd String)

/-- **Two values that have an order**, and which: two numbers or two texts. -/
inductive Ordered : Value → Value → Ordering → Prop
  | numbers (a b : Number) : Ordered (.number a) (.number b) (a.order b)
  | texts (a b : String) : Ordered (.string a) (.string b) (textOrder a b)

/-- The kinds of values that may have an order. -/
def orderedKinds : List Kind := [.number, .string]

variable {v w : Value} {o : Ordering}

theorem Ordered.compareValues_eq (h : Ordered v w o) (name : String) :
    compareValues name v w = .ok o := by
  cases h <;> rfl

/-- Values without an order are told apart by the first kind that has none. -/
theorem compareValues_of_not_ordered (h : ¬∃ o, Ordered v w o) (name : String) :
    compareValues name v w =
      .error (.unsupported name (if v.kind ∈ orderedKinds then w.kind else v.kind)) := by
  cases v with
  | number a =>
    cases w with
    | number b => exact absurd ⟨_, .numbers a b⟩ h
    | null | bool | string | list | map | record => rfl
  | string a =>
    cases w with
    | string b => exact absurd ⟨_, .texts a b⟩ h
    | null | bool | number | list | map | record => rfl
  | null | bool | list | map | record => rfl

/-- **Equality and order agree**, but for two that are not-a-number. -/
theorem Ordered.same_iff (h : Ordered v w o) :
    v.same w = true ↔ o = .eq ∧ ¬(v = .number .nan ∧ w = .number .nan) := by
  cases h with
  | numbers a b =>
    rw [Value.same]
    refine (Number.same_iff a b).trans (and_congr_right fun hequal => ?_)
    have hboth : a = .nan → b = .nan := by
      rintro rfl
      by_contra hb
      rw [Number.order_nan_left hb] at hequal
      cases hequal
    simp only [Value.number.injEq]
    tauto
  | texts a b =>
    rw [Value.same, textOrder_eq_compare, Std.compare_eq_iff_eq, beq_iff_eq]
    simp

/-! ### Calls -/

/-- The truth values of the six comparisons of two values. -/
structure Comparisons where
  lt : Bool
  le : Bool
  gt : Bool
  ge : Bool
  eq : Bool
  ne : Bool

namespace Registry

/-- **What the six functions say about two values**, in a registry. -/
structure Compares (r : Registry) (v w : Value) (c : Comparisons) : Prop where
  lt : r.call "lt" [v, w] = .quiet (.ok (.bool c.lt))
  le : r.call "le" [v, w] = .quiet (.ok (.bool c.le))
  gt : r.call "gt" [v, w] = .quiet (.ok (.bool c.gt))
  ge : r.call "ge" [v, w] = .quiet (.ok (.bool c.ge))
  eq : r.call "eq" [v, w] = .quiet (.ok (.bool c.eq))
  ne : r.call "ne" [v, w] = .quiet (.ok (.bool c.ne))

variable (actions : List RegistryAction)

/-- A built-in function of any two values runs on them. -/
theorem call_pair {name : String} {run : List Value → Except FunctionError Value}
    (h : builtins.get? name = some (.plain name [.any, .any] false run)) (v w : Value) :
    (built true actions).call name [v, w] = .quiet (run [v, w]) := by
  refine call_eq_run (get?_built_of_builtins h actions) rfl ?_
  refine Entry.coerceFrom_of_any (fun i _ => ?_) [v, w]
  rcases i with _ | _ | i <;> rfl

/-- A function that tests the order. -/
theorem call_comparison {name : String} {test : Ordering → Bool}
    (h : builtins.get? name = some (.plain name [.any, .any] false (comparison name test)))
    (v w : Value) :
    (built true actions).call name [v, w] =
      .quiet ((compareValues name v w).map fun o => .bool (test o)) :=
  call_pair actions h v w

/-- The names of the functions that test the order. -/
def orderNames : List String := ["lt", "le", "gt", "ge"]

theorem exists_test {name : String} (h : name ∈ orderNames) : ∃ test,
    builtins.get? name = some (.plain name [.any, .any] false (comparison name test)) := by
  simp only [orderNames, List.mem_cons, List.not_mem_nil, or_false] at h
  rcases h with rfl | rfl | rfl | rfl <;> exact ⟨_, rfl⟩

variable {v w : Value} {o : Ordering}

/-- The six functions on two values that have an order. -/
theorem compares_of_ordered (h : Ordered v w o) :
    (built true actions).Compares v w
      ⟨o == .lt, o != .gt, o == .gt, o != .lt, v.same w, !v.same w⟩ where
  lt := by rw [call_comparison actions rfl, h.compareValues_eq]; rfl
  le := by rw [call_comparison actions rfl, h.compareValues_eq]; rfl
  gt := by rw [call_comparison actions rfl, h.compareValues_eq]; rfl
  ge := by rw [call_comparison actions rfl, h.compareValues_eq]; rfl
  eq := by rw [call_pair actions rfl]; rfl
  ne := by rw [call_pair actions rfl]; rfl

/-- **The comparisons are one order**, whatever was registered besides. Numbers and texts
are totally ordered. The order of two numbers is that of their exact quantities, and
not-a-number is equal to itself and above all others. On two numbers or two texts exactly
one of `lt` and `ge` is true and exactly one of `gt` and `le`, and `le` is true if `lt` is
or the two have one place in the order. Then `ne` is the negation of `eq`, and `eq` is true
if both `le` and `ge` are, but for two that are not-a-number: they are not equal. On any
other two values the four functions of the order report the kind of the second one if the
first may have an order, and the kind of the first one otherwise. -/
theorem comparisons_consistent (actions : List RegistryAction) :
    let r := built true actions
    IsTotalOrder Number.order ∧ IsTotalOrder textOrder ∧
    (∀ a b x y, Number.quantity? a = some x → Number.quantity? b = some y →
      a.order b = cmp x y) ∧
    Number.nan.order .nan = .eq ∧ (∀ a, a ≠ Number.nan → Number.nan.order a = .gt) ∧
    (∀ v w o, Ordered v w o → ∃ c, r.Compares v w c ∧
      c.lt = (o == .lt) ∧ c.gt = (o == .gt) ∧ c.ge = !c.lt ∧ c.le = !c.gt ∧
      c.le = (c.lt || o == .eq) ∧ c.ne = !c.eq ∧
      (v = .number .nan ∧ w = .number .nan → c.eq = false ∧ c.le = true ∧ c.ge = true) ∧
      (¬(v = .number .nan ∧ w = .number .nan) → c.eq = (c.le && c.ge))) ∧
    ∀ v w, (¬∃ o, Ordered v w o) → ∀ name ∈ orderNames, r.call name [v, w] =
      .quiet (.error (.unsupported name (if v.kind ∈ orderedKinds then w.kind else v.kind))) := by
  intro r
  refine ⟨isTotalOrder_of_transCmp _, isTotalOrder_of_transCmp _,
    fun a b x y => Number.order_eq_cmp, rfl, fun a => Number.order_nan_left,
    fun v w o h => ⟨_, compares_of_ordered actions h, rfl, rfl, rfl, ?_, ?_, rfl, ?_, ?_⟩,
    fun v w h name hname => ?_⟩
  · cases o <;> rfl
  · cases o <;> rfl
  · intro hnan
    refine ⟨Bool.eq_false_iff.mpr fun hsame => (h.same_iff.mp hsame).2 hnan, ?_⟩
    obtain ⟨rfl, rfl⟩ := hnan
    cases h
    exact ⟨rfl, rfl⟩
  · intro hnan
    rw [Bool.eq_iff_iff]
    refine h.same_iff.trans ?_
    cases o <;> simp [hnan]
  · obtain ⟨test, htest⟩ := exists_test hname
    rw [call_comparison actions htest, compareValues_of_not_ordered h]
    rfl

end Registry

end Stencil
