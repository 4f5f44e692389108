import Stencil.Proofs.Render.Transcript

/-!
# Strict and lenient dispatch

A registry either surfaces the failure that a function reports beside its value, or
discards it and goes on with the value. The two ways are compared run by run. As long
as the lenient run discards nothing, both are the same run. At the first failure that
it discards, the strict run ends with that failure, and what it has written is what
the lenient run had written when the step began.

`Stencil.Surfaces` says this of two computations. It passes from a call to the stages
of a chain, from there to a step, and by induction to all steps of a template:
`Stencil.Template.render_strict`.
-/

namespace Stencil

/-! ### Discarded failures -/

/-- The failures that a log shows as discarded, in order: the function and its
message. -/
def discards (events : List LogEvent) : List (String × String) :=
  events.filterMap fun
    | .discarded function message => some (function, message)
    | _ => none

@[simp] theorem discards_append (events more : List LogEvent) :
    discards (events ++ more) = discards events ++ discards more := by
  simp [discards]

/-- A step that failed is not a failure that was discarded. -/
@[simp] theorem discards_failure (template : String) (s : Step) (e : RenderError) :
    discards (s.failure template e) = [] := by
  unfold Step.failure
  split <;> simp [discards]

/-- **A strict computation beside a lenient one**: they are the same if the lenient
one discards nothing, and else the strict one ends with the first failure that is
discarded. -/
def Surfaces {α : Type} (lenient strict : Logged (Except RenderError α)) : Prop :=
  match discards lenient.events with
  | [] => strict = lenient
  | (function, message) :: _ => strict.value = .error (.function (.failed function message))

namespace Surfaces

variable {α β : Type} {lenient strict : Logged (Except RenderError α)}

theorem of_eq (h : discards lenient.events = []) (heq : strict = lenient) :
    Surfaces lenient strict := by
  simpa [Surfaces, h] using heq

theorem eq_of_nil (h : Surfaces lenient strict) (hnil : discards lenient.events = []) :
    strict = lenient := by
  simpa [Surfaces, hnil] using h

theorem value_of_cons (h : Surfaces lenient strict) {function message : String}
    {others : List (String × String)}
    (hcons : discards lenient.events = (function, message) :: others) :
    strict.value = .error (.function (.failed function message)) := by
  simpa [Surfaces, hcons] using h

theorem of_cons {function message : String} {others : List (String × String)}
    (hcons : discards lenient.events = (function, message) :: others)
    (h : strict.value = .error (.function (.failed function message))) :
    Surfaces lenient strict := by
  simpa [Surfaces, hcons] using h

end Surfaces

/-- One computation after another that succeeded; the events of both are kept. -/
def Logged.thenOk {α β : Type} (x : Logged (Except RenderError α))
    (f : α → Logged (Except RenderError β)) : Logged (Except RenderError β) :=
  match x.value with
  | .error e => ⟨.error e, x.events⟩
  | .ok a => (f a).after x.events

/-- What was discarded first stays first. -/
theorem Logged.discards_thenOk {α β : Type} {x : Logged (Except RenderError α)}
    {first : String × String} {others : List (String × String)}
    (h : discards x.events = first :: others) (f : α → Logged (Except RenderError β)) :
    ∃ others', discards (x.thenOk f).events = first :: others' := by
  unfold thenOk
  cases x.value with
  | error e => exact ⟨others, h⟩
  | ok a => exact ⟨others ++ discards (f a).events, by simp [Logged.after, h]⟩

/-- **What holds of two computations holds of them with what comes after.** -/
theorem Surfaces.thenOk {α β : Type} {x y : Logged (Except RenderError α)}
    {f g : α → Logged (Except RenderError β)} (h : Surfaces x y)
    (hnext : ∀ a, Surfaces (f a) (g a)) : Surfaces (x.thenOk f) (y.thenOk g) := by
  cases hx : discards x.events with
  | nil =>
    obtain rfl := h.eq_of_nil hx
    obtain ⟨value, events⟩ := y
    cases value with
    | error e => exact .of_eq hx rfl
    | ok a =>
      have ha := hnext a
      have hevents : discards ((f a).after events).events = discards (f a).events := by
        simpa [Logged.after] using hx
      cases hf : discards (f a).events with
      | nil => exact .of_eq (hevents.trans hf) (congrArg (Logged.after events) (ha.eq_of_nil hf))
      | cons first others => exact .of_cons (hevents.trans hf) (ha.value_of_cons hf)
  | cons first others =>
    obtain ⟨others', hothers⟩ := Logged.discards_thenOk hx f
    exact .of_cons hothers (by rw [Logged.thenOk, h.value_of_cons hx])

/-! ### Calls and chains -/

section

variable (registry : Registry) (data : Value)

/-- The registry that discards secondary failures. -/
abbrev Registry.lenient : Registry := registry.withSurface false

/-- The registry that surfaces secondary failures. -/
abbrev Registry.strict : Registry := registry.withSurface true

/-- **A call.** Only a function with a secondary failure can tell the two registries
apart. -/
theorem surfaces_call (name : String) (args : List Value) :
    Surfaces
      ⟨asRender (registry.lenient.call name args).value, (registry.lenient.call name args).events⟩
      ⟨asRender (registry.strict.call name args).value,
        (registry.strict.call name args).events⟩ := by
  have hget : ∀ surface, (registry.withSurface surface).get? name = registry.get? name :=
    fun _ => rfl
  simp only [Registry.call, hget]
  cases registry.get? name with
  | none => exact .of_eq rfl rfl
  | some e =>
    dsimp only
    split
    · cases e.coerce args with
      | error error => exact .of_eq rfl rfl
      | ok coerced =>
        simp only [Registry.run]
        cases e.callable with
        | plain f => exact .of_eq rfl rfl
        | fallible f =>
          dsimp only
          rcases f coerced with ⟨value, _ | message⟩
          · exact .of_eq rfl rfl
          · exact .of_cons rfl rfl
    · exact .of_eq rfl rfl

theorem surfaces_callEval (first : List Value) (c : Call) :
    Surfaces (c.eval registry.lenient data first) (c.eval registry.strict data first) := by
  unfold Call.eval
  cases Term.evalAll data c.args with
  | error e => exact .of_eq rfl rfl
  | ok args => exact surfaces_call registry c.name (first ++ args)

theorem surfaces_headEval (h : Head) :
    Surfaces (h.eval registry.lenient data) (h.eval registry.strict data) := by
  cases h with
  | term t =>
    simp only [Head.eval]
    cases t.eval data with
    | error e => exact .of_eq rfl rfl
    | ok v => exact .of_eq rfl rfl
  | call c => exact surfaces_callEval registry data [] c

theorem evalStages_cons (v : Value) (c : Call) (rest : List Call) :
    evalStages registry data v (c :: rest) =
      (c.eval registry data [v]).thenOk fun w => evalStages registry data w rest := by
  rw [evalStages, Logged.thenOk]
  cases (c.eval registry data [v]).value <;> rfl

theorem Chain.eval_eq_thenOk (c : Chain) :
    c.eval registry data =
      (c.head.eval registry data).thenOk fun v => evalStages registry data v c.stages := by
  rw [Chain.eval, Logged.thenOk]
  cases (c.head.eval registry data).value <;> rfl

theorem surfaces_evalStages (v : Value) (stages : List Call) :
    Surfaces (evalStages registry.lenient data v stages)
      (evalStages registry.strict data v stages) := by
  induction stages generalizing v with
  | nil => exact .of_eq rfl rfl
  | cons c rest ih =>
    rw [evalStages_cons, evalStages_cons]
    exact (surfaces_callEval registry data [v] c).thenOk ih

theorem surfaces_chainEval (c : Chain) :
    Surfaces (c.eval registry.lenient data) (c.eval registry.strict data) := by
  rw [Chain.eval_eq_thenOk, Chain.eval_eq_thenOk]
  exact (surfaces_headEval registry data c.head).thenOk fun v =>
    surfaces_evalStages registry data v c.stages

/-- **A step.** -/
theorem surfaces_outputEval (o : Output) :
    Surfaces (o.eval registry.lenient data) (o.eval registry.strict data) := by
  cases o with
  | text s => exact .of_eq rfl rfl
  | chain c =>
    have hchain := surfaces_chainEval registry data c
    cases hc : discards (c.eval registry.lenient data).events with
    | nil =>
      refine .of_eq hc ?_
      simp only [Output.eval, hchain.eq_of_nil hc]
    | cons first others =>
      refine .of_cons hc ?_
      simp only [Output.eval, hchain.value_of_cons hc]
      rfl

/-! ### Runs -/

namespace Step

/-- A run only adds to the sink. -/
theorem exists_written_append (template : String) (sink : Sink) (steps : List Step) :
    ∃ more, (renderAll registry data template sink steps).value.sink.written =
      sink.written ++ more := by
  refine ⟨sink.kept (transcript registry data steps).bytes, ?_⟩
  rw [renderAll_value_eq, Sink.receive]
  rcases hwrite : sink.write (transcript registry data steps).bytes with ⟨sink', room⟩
  have hsink := congrArg (·.1.written) hwrite
  cases room <;> exact hsink.symm

/-- A step that discards nothing is the same in both registries. -/
theorem render_strict_eq {s : Step}
    (h : discards (s.output.eval registry.lenient data).events = []) (sink : Sink) :
    s.render registry.strict data sink = s.render registry.lenient data sink := by
  unfold render
  rw [(surfaces_outputEval registry data s.output).eq_of_nil h]

theorem events_render (s : Step) (sink : Sink) :
    (s.render registry data sink).events = (s.output.eval registry data).events := by
  simp only [render]
  split <;> rfl

variable {registry data} {template : String} {sink : Sink} {steps : List Step}

/-- **A run that discards nothing** is the same in both registries. -/
theorem renderAll_strict_eq
    (h : discards (renderAll registry.lenient data template sink steps).events = []) :
    renderAll registry.strict data template sink steps =
      renderAll registry.lenient data template sink steps := by
  induction steps generalizing sink with
  | nil => rfl
  | cons s rest ih =>
    have hfirst : discards (s.output.eval registry.lenient data).events = [] := by
      rw [renderAll] at h
      split at h <;>
        simp only [Logged.after, discards_append, events_render, List.append_eq_nil_iff] at h <;>
        exact h.1
    rw [renderAll, renderAll, render_strict_eq registry data hfirst]
    rw [renderAll] at h
    split
    · rfl
    · next hok =>
      simp only [hok, Logged.after, discards_append, List.append_eq_nil_iff] at h
      rw [ih h.2]

/-- **A run that discards something** fails in the strict registry, at the step that
discards first and with what it discards first. -/
theorem renderAll_strict_failed {function message : String} {others : List (String × String)}
    (h : discards (renderAll registry.lenient data template sink steps).events =
      (function, message) :: others) :
    ∃ (done : List Step) (s : Step) (later : List Step), steps = done ++ s :: later ∧
      (renderAll registry.lenient data template sink done).value.outcome = .ok () ∧
      discards (renderAll registry.lenient data template sink done).events = [] ∧
      (discards (s.output.eval registry.lenient data).events).head? = some (function, message) ∧
      (renderAll registry.strict data template sink steps).value =
        ⟨(renderAll registry.lenient data template sink done).value.sink,
          .error (.function (.failed function message))⟩ := by
  induction steps generalizing sink with
  | nil => cases h
  | cons s rest ih =>
    cases hfirst : discards (s.output.eval registry.lenient data).events with
    | cons first others' =>
      -- The first step discards something, and the strict run does not get past it.
      have heq : first = (function, message) := by
        rw [renderAll] at h
        split at h <;>
          simp only [Logged.after, discards_append, events_render, hfirst, List.cons_append,
            List.cons.injEq] at h <;>
          exact h.1
      subst heq
      refine ⟨[], s, rest, rfl, rfl, rfl, by rw [hfirst]; rfl, ?_⟩
      have hvalue := (surfaces_outputEval registry data s.output).value_of_cons hfirst
      simp [renderAll, render, hvalue, Logged.quiet]
    | nil =>
      have hrender := render_strict_eq registry data hfirst sink
      rw [renderAll] at h
      rcases hdone : (s.render registry.lenient data sink).value with ⟨sink', e | u⟩
      · simp [hdone, events_render, hfirst] at h
      · simp only [hdone, Logged.after, discards_append, events_render, hfirst,
          List.nil_append] at h
        obtain ⟨done, t, later, rfl, hok, hnone, hhead, hstrict⟩ := ih h
        refine ⟨s :: done, t, later, rfl, ?_, ?_, hhead, ?_⟩
        · simpa [renderAll, hdone, Logged.after] using hok
        · simpa [renderAll, hdone, Logged.after, events_render, hfirst] using hnone
        · simpa [renderAll, hrender, hdone, Logged.after] using hstrict

end Step

end

end Stencil
