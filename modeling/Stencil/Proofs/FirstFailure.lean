import Mathlib.Data.List.Forall2

/-!
# Passes that stop at the first failure

Operands, commands, nodes, files and templates are all taken from left to right, and
the first that fails decides: what comes behind it is not looked at, and what came
before it does not matter to the failure. Such a pass may carry something along from
one item to the next, a library or a program that grows; whether and how it fails
does not depend on that (`Stencil.StopsAtFirst.eq_error_iff`).
-/

namespace Stencil

variable {α γ β ε σ : Type}

/-- **The first failure among items**: an item fails in this way, and all items before
it are in order. -/
def FirstFailure (inOrder : α → Prop) (fails : α → ε → Prop) (items : List α) (e : ε) : Prop :=
  ∃ before item after, items = before ++ item :: after ∧ (∀ x ∈ before, inOrder x) ∧ fails item e

theorem not_firstFailure_nil {inOrder : α → Prop} {fails : α → ε → Prop} {e : ε} :
    ¬FirstFailure inOrder fails [] e := by
  rintro ⟨before, item, after, hitems, -⟩
  simp at hitems

/-- The first item fails, or it is in order and the first failure is behind it. -/
theorem firstFailure_cons {inOrder : α → Prop} {fails : α → ε → Prop} {item : α}
    {rest : List α} {e : ε} :
    FirstFailure inOrder fails (item :: rest) e ↔
      fails item e ∨ inOrder item ∧ FirstFailure inOrder fails rest e := by
  constructor
  · rintro ⟨_ | ⟨x, before⟩, found, after, hitems, hbefore, hfails⟩
    · rw [List.nil_append, List.cons.injEq] at hitems
      exact .inl (hitems.1 ▸ hfails)
    · rw [List.cons_append, List.cons.injEq] at hitems
      obtain ⟨hfirst, hothers⟩ := List.forall_mem_cons.mp hbefore
      exact .inr ⟨hitems.1 ▸ hfirst, before, found, after, hitems.2, hothers, hfails⟩
  · rintro (hfails | ⟨hfirst, before, found, after, rfl, hbefore, hfails⟩)
    · exact ⟨[], item, rest, rfl, by simp, hfails⟩
    · exact ⟨item :: before, found, after, rfl, List.forall_mem_cons.mpr ⟨hfirst, hbefore⟩, hfails⟩

/-- **A pass over a list that stops at the first failure** of a step. It may carry
something along, which has no part in how it fails. -/
structure StopsAtFirst (step : α → Except ε γ) (pass : σ → List α → Except ε β) : Prop where
  nil (s : σ) : ∃ b, pass s [] = .ok b
  failed (s : σ) {x : α} (rest : List α) {e : ε} (h : step x = .error e) :
    pass s (x :: rest) = .error e
  passed (s : σ) {x : α} (rest : List α) {a : γ} (h : step x = .ok a) :
    ∃ s', ∀ e, pass s (x :: rest) = .error e ↔ pass s' rest = .error e

namespace StopsAtFirst

variable {step : α → Except ε γ} {pass : σ → List α → Except ε β} {inOrder : α → Prop}
  {fails : α → ε → Prop}

/-- **A pass fails as the first item that fails.** -/
theorem eq_error_iff (h : StopsAtFirst step pass) (hok : ∀ x, (∃ a, step x = .ok a) ↔ inOrder x)
    (herror : ∀ x e, step x = .error e ↔ fails x e) {s : σ} {items : List α} {e : ε} :
    pass s items = .error e ↔ FirstFailure inOrder fails items e := by
  induction items generalizing s with
  | nil =>
    obtain ⟨b, hb⟩ := h.nil s
    simp [hb, not_firstFailure_nil]
  | cons x rest ih =>
    rw [firstFailure_cons, ← herror, ← hok]
    cases hstep : step x with
    | error e' => simp [h.failed s rest hstep]
    | ok a =>
      obtain ⟨s', hs'⟩ := h.passed s rest hstep
      simp [hs', ih]

/-- **A pass succeeds if no item fails.** -/
theorem exists_ok_iff (h : StopsAtFirst step pass) {s : σ} {items : List α} :
    (∃ b, pass s items = .ok b) ↔ ∀ x ∈ items, ∃ a, step x = .ok a := by
  induction items generalizing s with
  | nil => simpa using h.nil s
  | cons x rest ih =>
    rw [List.forall_mem_cons]
    cases hstep : step x with
    | error e => simp [h.failed s rest hstep]
    | ok a =>
      obtain ⟨s', hs'⟩ := h.passed s rest hstep
      have hsame : (∃ b, pass s (x :: rest) = .ok b) ↔ ∃ b, pass s' rest = .ok b := by
        cases hpass : pass s (x :: rest) with
        | error e => simp [(hs' e).mp hpass]
        | ok b =>
          cases hpass' : pass s' rest with
          | error e =>
            rw [(hs' e).mpr hpass'] at hpass
            cases hpass
          | ok b' => simp
      rw [hsame, ih]
      simp

end StopsAtFirst

/-! ### Collecting results -/

section Collect

variable {step : α → Except ε γ} {items : List α}

/-- Collecting the results of a step stops at the first failure. -/
theorem stopsAtFirst_mapM (step : α → Except ε γ) :
    StopsAtFirst step fun _ : Unit => List.mapM step where
  nil _ := ⟨[], rfl⟩
  failed _ _ _ _ h := by simp [h, bind, Except.bind]
  passed _ _ rest _ h := by
    refine ⟨(), fun e => ?_⟩
    cases hrest : rest.mapM step <;> simp [h, hrest, bind, Except.bind, pure, Except.pure]

/-- The results are those of the items, one by one. -/
theorem mapM_eq_ok_iff {results : List γ} :
    items.mapM step = .ok results ↔ List.Forall₂ (fun x a => step x = .ok a) items results := by
  induction items generalizing results with
  | nil => cases results <;> simp [pure, Except.pure]
  | cons x rest ih =>
    rw [List.mapM_cons, List.forall₂_cons_left_iff]
    simp only [← ih]
    cases step x with
    | error e => simp [bind, Except.bind]
    | ok a => cases rest.mapM step <;> simp [bind, Except.bind, pure, Except.pure, eq_comm]

end Collect

end Stencil
