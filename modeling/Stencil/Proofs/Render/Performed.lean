import Stencil.Proofs.Function.Safety
import Stencil.Proofs.Render.Transcript

/-!
# The calls that a rendering performs

A rendering fails with the error of a function only where it comes to a call that gives
this error. `Stencil.Chain.Performs` says which calls the evaluation of a chain comes
to, and on which arguments; `Stencil.Step.renderAll_eq_function_error_iff` adds the
steps. With what is known of the built-in functions this settles when a rendering gives
up as a whole: `Stencil.Template.abort_iff_overreachingCall`.
-/

namespace Stencil

section

variable (registry : Registry) (data : Value)

/-- **A chain performs a call**: the call is its head, or it is a stage and what comes
before it has a value, which is then its first argument. Either way the terms of the
call have values. -/
inductive Chain.Performs (c : Chain) : String → List Value → Prop
  | head {call : Call} {args : List Value} (hhead : c.head = .call call)
      (hargs : Term.evalAll data call.args = .ok args) : c.Performs call.name args
  | stage {done later : List Call} {call : Call} {v : Value} {args : List Value}
      (hstages : c.stages = done ++ call :: later)
      (hv : (Chain.eval registry data ⟨c.head, done⟩).value = .ok v)
      (hargs : Term.evalAll data call.args = .ok args) : c.Performs call.name (v :: args)

/-- A call that is evaluated fails if its terms have values and the function fails. -/
theorem Call.eval_eq_function_error_iff {c : Call} {first : List Value} {e : FunctionError} :
    (c.eval registry data first).value = .error (.function e) ↔
      ∃ args, Term.evalAll data c.args = .ok args ∧
        (registry.call c.name (first ++ args)).value = .error e := by
  rw [Call.eval]
  cases Term.evalAll data c.args with
  | error access => simp [Logged.quiet]
  | ok args =>
    simp only [Except.ok.injEq, exists_eq_left']
    cases (registry.call c.name (first ++ args)).value <;> simp [asRender]

theorem evalStages_cons_value (v : Value) (c : Call) (rest : List Call) :
    (evalStages registry data v (c :: rest)).value =
      match (c.eval registry data [v]).value with
      | .error e => .error e
      | .ok w => (evalStages registry data w rest).value := by
  rw [evalStages]
  cases (c.eval registry data [v]).value <;> rfl

/-- Stages fail in one of them: those before it have a value, and the call on it fails. -/
theorem evalStages_eq_function_error_iff {stages : List Call} {v : Value} {e : FunctionError} :
    (evalStages registry data v stages).value = .error (.function e) ↔
      ∃ done call later w args, stages = done ++ call :: later ∧
        (evalStages registry data v done).value = .ok w ∧
        Term.evalAll data call.args = .ok args ∧
        (registry.call call.name (w :: args)).value = .error e := by
  induction stages generalizing v with
  | nil =>
    constructor
    · intro h
      cases h
    · rintro ⟨done, call, later, w, args, hstages, -⟩
      simp at hstages
  | cons c rest ih =>
    -- Either the first stage is the one that fails, or it is done and another one is.
    rw [evalStages_cons_value]
    constructor
    · intro h
      cases hc : (c.eval registry data [v]).value with
      | error e' =>
        rw [hc] at h
        obtain rfl : e' = .function e := Except.error.inj h
        obtain ⟨args, hargs, hcall⟩ := (Call.eval_eq_function_error_iff registry data).mp hc
        exact ⟨[], c, rest, v, args, rfl, rfl, hargs, hcall⟩
      | ok w =>
        rw [hc] at h
        obtain ⟨done, call, later, w', args, rfl, hdone, hargs, hcall⟩ := ih.mp h
        refine ⟨c :: done, call, later, w', args, rfl, ?_, hargs, hcall⟩
        rw [evalStages_cons_value, hc]
        exact hdone
    · rintro ⟨_ | ⟨first, done⟩, call, later, w, args, hstages, hdone, hargs, hcall⟩
      · obtain ⟨rfl, rfl⟩ := List.cons.inj hstages
        obtain rfl : v = w := Except.ok.inj hdone
        rw [(Call.eval_eq_function_error_iff registry data).mpr ⟨args, hargs, hcall⟩]
      · obtain ⟨rfl, rfl⟩ := List.cons.inj hstages
        rw [evalStages_cons_value] at hdone
        cases hc : (c.eval registry data [v]).value with
        | error e' =>
          rw [hc] at hdone
          cases hdone
        | ok w' =>
          rw [hc] at hdone
          exact ih.mpr ⟨done, call, later, w, args, rfl, hdone, hargs, hcall⟩

theorem Chain.eval_value (c : Chain) :
    (c.eval registry data).value =
      match (c.head.eval registry data).value with
      | .error e => .error e
      | .ok v => (evalStages registry data v c.stages).value := by
  rw [Chain.eval]
  cases (c.head.eval registry data).value <;> rfl

/-- **A chain fails with the error of a function that it performs a call of.** -/
theorem Chain.eval_eq_function_error_iff {c : Chain} {e : FunctionError} :
    (c.eval registry data).value = .error (.function e) ↔
      ∃ name args, c.Performs registry data name args ∧
        (registry.call name args).value = .error e := by
  obtain ⟨head, stages⟩ := c
  constructor
  · intro h
    rw [Chain.eval_value] at h
    cases hhead : (head.eval registry data).value with
    | error e' =>
      simp only [hhead] at h
      obtain rfl : e' = .function e := Except.error.inj h
      cases head with
      | term t =>
        -- What a term fails with is an error of access.
        rw [Head.eval] at hhead
        split at hhead <;> cases hhead
      | call call =>
        obtain ⟨args, hargs, hcall⟩ := (Call.eval_eq_function_error_iff registry data).mp hhead
        exact ⟨call.name, args, .head rfl hargs, hcall⟩
    | ok v =>
      simp only [hhead] at h
      obtain ⟨done, call, later, w, args, hstages, hdone, hargs, hcall⟩ :=
        (evalStages_eq_function_error_iff registry data).mp h
      refine ⟨call.name, w :: args, .stage hstages ?_ hargs, hcall⟩
      rw [Chain.eval_value, hhead]
      exact hdone
  · rintro ⟨name, args, hperforms, hcall⟩
    rw [Chain.eval_value]
    cases hperforms with
    | @head call _ hhead hargs =>
      obtain rfl : head = .call call := hhead
      have hfails : (call.eval registry data []).value = .error (.function e) :=
        (Call.eval_eq_function_error_iff registry data).mpr ⟨args, hargs, hcall⟩
      simp only [Head.eval, hfails]
    | @stage done later call v args hstages hv hargs =>
      rw [Chain.eval_value] at hv
      cases hhead : (head.eval registry data).value with
      | error e' =>
        rw [hhead] at hv
        cases hv
      | ok u =>
        rw [hhead] at hv
        exact (evalStages_eq_function_error_iff registry data).mpr
          ⟨done, call, later, v, args, hstages, hv, hargs, hcall⟩

/-- **A run fails with the error of a function in one step**: those before it succeed, and
what it has to write cannot be evaluated. -/
theorem Step.renderAll_eq_function_error_iff {template : String} {sink : Sink}
    {steps : List Step} {e : FunctionError} :
    (renderAll registry data template sink steps).value.outcome = .error (.function e) ↔
      ∃ (done : List Step) (s : Step) (later : List Step), steps = done ++ s :: later ∧
        (renderAll registry data template sink done).value.outcome = .ok () ∧
        (s.output.eval registry data).value = .error (.function e) := by
  constructor
  · intro h
    obtain ⟨done, s, later, hsteps, hdone, hfailed, -⟩ := exists_failed_step registry data h
    refine ⟨done, s, later, hsteps, hdone, ?_⟩
    rw [← hfailed, render_value] at h
    cases heval : (s.output.eval registry data).value with
    | error e' =>
      rw [heval] at h
      obtain rfl : e' = .function e := Except.error.inj h
      rfl
    | ok text =>
      -- A text that was evaluated can only be refused by the sink.
      rw [heval, Rendering.ofResult, Rendering.ofText] at h
      split at h <;> cases h
  · rintro ⟨done, s, later, rfl, hdone, hs⟩
    rcases hvalue : (renderAll registry data template sink done).value with ⟨sink', outcome⟩
    obtain rfl : outcome = .ok () := by
      rw [hvalue] at hdone
      exact hdone
    simp only [renderAll_append, hvalue, Logged.after, renderAll_cons_value, render_value, hs,
      Rendering.ofResult]

end

namespace Template

/-- **The built-in functions give up on a call that reaches too far, and only there.** A
call gives up if it is one of `printf` whose format has a directive `%.Nf` that takes a
number and asks for more places than can be printed. A compiled template gives up if it
comes to a step that performs such a call; whatever else happens, a rendering ends with a
result or with an error of its own. -/
theorem abort_iff_overreachingCall (surface : Bool) :
    (∀ name args, ((Registry.builtins.withSurface surface).call name args).value =
      .error .aborted ↔ OverreachingCall name args) ∧
    ∀ name steps data sink,
      let render steps :=
        (Template.render (Registry.builtins.withSurface surface) data sink ⟨name, .steps steps⟩).value
      (render steps).outcome = .error (.function .aborted) ↔
        ∃ done s later c function args, steps = done ++ s :: later ∧
          (render done).outcome = .ok () ∧ s.output = .chain c ∧
          c.Performs (Registry.builtins.withSurface surface) data function args ∧
          OverreachingCall function args := by
  refine ⟨Registry.call_builtins_eq_aborted_iff surface, fun name steps data sink => ?_⟩
  simp only [Template.render, Step.renderAll_eq_function_error_iff]
  constructor
  · rintro ⟨done, ⟨line, output⟩, later, hsteps, hdone, heval⟩
    cases output with
    | text s => cases heval
    | chain c =>
      have hchain : (c.eval (Registry.builtins.withSurface surface) data).value =
          .error (.function .aborted) := by
        rw [Output.eval] at heval
        cases hc : (c.eval (Registry.builtins.withSurface surface) data).value <;>
          simp_all [Except.map]
      obtain ⟨function, args, hperforms, hcall⟩ :=
        (Chain.eval_eq_function_error_iff _ data).mp hchain
      exact ⟨done, _, later, c, function, args, hsteps, hdone, rfl, hperforms,
        (Registry.call_builtins_eq_aborted_iff surface function args).mp hcall⟩
  · rintro ⟨done, ⟨line, _⟩, later, c, function, args, hsteps, hdone, rfl, hperforms, hcall⟩
    refine ⟨done, _, later, hsteps, hdone, ?_⟩
    have hchain := (Chain.eval_eq_function_error_iff _ data).mpr ⟨function, args, hperforms,
      (Registry.call_builtins_eq_aborted_iff surface function args).mpr hcall⟩
    simp [Output.eval, hchain, Except.map]

end Template

end Stencil
