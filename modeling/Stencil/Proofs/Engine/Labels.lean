import Stencil.Proofs.Engine.Rejection
import Stencil.Proofs.Program.Content
import Stencil.Proofs.Render.Concatenation
import Stencil.Proofs.Render.Strictness
import Stencil.Proofs.Source.Lines
import Stencil.Proofs.Source.WellFormed

/-!
# The lines that steps are labelled with

A step has the line that its node starts on. For an action this is the line of its left
delimiter; for a text it is the line of the first character that is kept, which blanks
that were trimmed off may have moved down (`Stencil.Step.LabelledBy`). Comments have no
step, so the steps belong one by one to the nodes that are no comments.

The label shows in two places: in the comment that a routine has for each step, and in
the log, where a run that fails leaves one record, of the step that failed
(`Stencil.Step.stepFailures_renderAll`). Both show the line of the step itself, so they
agree: `Stencil.Engine.labels_agree`.
-/

namespace Stencil

/-! ### Steps and nodes -/

/-- Whether a node is a comment. -/
def Node.isComment : Node → Bool
  | comment _ => true
  | _ => false

/-- **A node stands in a source** at its position: a text as it is, and not empty, and
any other node between delimiters. -/
def Node.StandsIn (delimiters : Delimiters) (source : String) : Node → Prop
  | text pos s => s ≠ "" ∧ StandsAt source pos s.toList
  | node => ∃ inside, StandsAt source node.pos (delimiters.around inside)

/-- **A step is labelled by a node**: the node stands in the source, the step writes what
the node says, and its line is one more than the number of line feeds before the node. -/
inductive Step.LabelledBy (delimiters : Delimiters) (source : String) : Node → Step → Prop
  | text {pos : Nat} {s : String} (hne : s ≠ "") (hat : StandsAt source pos s.toList) :
      LabelledBy delimiters source (.text pos s) ⟨newlinesBefore source pos + 1, .text s⟩
  | action {pos : Nat} {p : Pipeline Operand} {c : Chain} {inside : List Char}
      (hat : StandsAt source pos (delimiters.around inside)) (hc : c.SpelledBy p) :
      LabelledBy delimiters source (.action pos p) ⟨newlinesBefore source pos + 1, .chain c⟩

variable {delimiters : Delimiters} {source : String} {nodes : List Node} {steps : List Step}

theorem WellFormed.standsIn (h : WellFormed delimiters source nodes) :
    ∀ node ∈ nodes, node.StandsIn delimiters source := by
  intro node hnode
  cases node with
  | text pos s => exact h.texts pos s hnode
  | action | comment | control =>
    obtain ⟨inside, ⟨-, hat, -⟩, -⟩ := h.items _ hnode rfl
    exact ⟨inside, hat⟩

namespace Step

/-- **Steps are labelled by the nodes that are no comments**, one by one. -/
theorem SpelledBy.labelledBy (h : SpelledBy (.ofSource source) steps nodes)
    (hstands : ∀ node ∈ nodes, node.StandsIn delimiters source) :
    List.Forall₂ (LabelledBy delimiters source) (nodes.filter (!·.isComment)) steps := by
  induction h with
  | nil => exact .nil
  | text _ ih =>
    obtain ⟨⟨hne, hat⟩, hrest⟩ := List.forall_mem_cons.mp hstands
    rw [List.filter_cons_of_pos rfl, LineIndex.lineAt_ofSource]
    exact .cons (.text hne hat) (ih hrest)
  | comment _ ih =>
    rw [List.filter_cons_of_neg (by simp [Node.isComment])]
    exact ih (List.forall_mem_cons.mp hstands).2
  | action hc _ ih =>
    obtain ⟨⟨inside, hat⟩, hrest⟩ := List.forall_mem_cons.mp hstands
    rw [List.filter_cons_of_pos rfl, LineIndex.lineAt_ofSource]
    exact .cons (.action hat hc) (ih hrest)

/-- The labels of steps, read off the nodes. -/
theorem map_line_of_labelledBy (h : List.Forall₂ (LabelledBy delimiters source) nodes steps) :
    steps.map Step.line = nodes.map fun node => newlinesBefore source node.pos + 1 := by
  induction h with
  | nil => rfl
  | cons hfirst _ ih =>
    rw [List.map_cons, List.map_cons, ih]
    cases hfirst <;> rfl

end Step

theorem newlinesBefore_mono (source : String) {a b : Nat} (h : a ≤ b) :
    newlinesBefore source a ≤ newlinesBefore source b :=
  ((List.take_prefix_take_left h).sublist).count_le 10

/-- **Labels do not decrease.** -/
theorem Step.pairwise_line (h : List.Forall₂ (LabelledBy delimiters source) nodes steps)
    (hincreasing : nodes.Pairwise (·.pos < ·.pos)) :
    (steps.map Step.line).Pairwise (· ≤ ·) := by
  rw [map_line_of_labelledBy h, List.pairwise_map]
  exact hincreasing.imp fun hlt => Nat.succ_le_succ (newlinesBefore_mono source hlt.le)

/-! ### The log -/

/-- Whether an event is the record of a step that failed. -/
def LogEvent.isStepFailure : LogEvent → Bool
  | stepFailed .. => true
  | _ => false

/-- The records of failed steps in a log. -/
def stepFailures (events : List LogEvent) : List LogEvent := events.filter (·.isStepFailure)

@[simp] theorem stepFailures_append (events more : List LogEvent) :
    stepFailures (events ++ more) = stepFailures events ++ stepFailures more :=
  List.filter_append ..

@[simp] theorem stepFailures_failure (template : String) (s : Step) (e : RenderError) :
    stepFailures (s.failure template e) = s.failure template e := by
  unfold Step.failure
  split <;> rfl

section

variable (registry : Registry) (data : Value)

/-- A call can only discard something. -/
theorem stepFailures_call (name : String) (args : List Value) :
    stepFailures (registry.call name args).events = [] := by
  unfold Registry.call Registry.run
  repeat' split
  all_goals rfl

theorem stepFailures_thenOk {α β : Type} {x : Logged (Except RenderError α)}
    {f : α → Logged (Except RenderError β)} (hx : stepFailures x.events = [])
    (hf : ∀ a, stepFailures (f a).events = []) : stepFailures (x.thenOk f).events = [] := by
  unfold Logged.thenOk
  cases x.value with
  | error e => exact hx
  | ok a => simp [Logged.after, hx, hf a]

theorem stepFailures_callEval (first : List Value) (c : Call) :
    stepFailures (c.eval registry data first).events = [] := by
  unfold Call.eval
  cases Term.evalAll data c.args with
  | error e => rfl
  | ok args => exact stepFailures_call registry c.name (first ++ args)

theorem stepFailures_evalStages (v : Value) (stages : List Call) :
    stepFailures (evalStages registry data v stages).events = [] := by
  induction stages generalizing v with
  | nil => rfl
  | cons c rest ih =>
    rw [evalStages_cons]
    exact stepFailures_thenOk (stepFailures_callEval registry data [v] c) ih

theorem stepFailures_headEval (h : Head) :
    stepFailures (h.eval registry data).events = [] := by
  cases h with
  | term t =>
    simp only [Head.eval]
    cases t.eval data <;> rfl
  | call c => exact stepFailures_callEval registry data [] c

/-- **What a step does is not recorded as a failure**; only how it ends is. -/
theorem Step.stepFailures_render (s : Step) (sink : Sink) :
    stepFailures (s.render registry data sink).events = [] := by
  rw [events_render]
  cases s.output with
  | text text => rfl
  | chain c =>
    change stepFailures (c.eval registry data).events = []
    rw [Chain.eval_eq_thenOk]
    exact stepFailures_thenOk (stepFailures_headEval registry data c.head) fun v =>
      stepFailures_evalStages registry data v c.stages

end

namespace Step

variable {registry : Registry} {data : Value} {template : String} {sink : Sink}

/-- A run that succeeds records no failure. -/
theorem stepFailures_renderAll_of_ok
    (h : (renderAll registry data template sink steps).value.outcome = .ok ()) :
    stepFailures (renderAll registry data template sink steps).events = [] := by
  induction steps generalizing sink with
  | nil => rfl
  | cons s rest ih =>
    rw [renderAll] at h ⊢
    rcases hfirst : (s.render registry data sink).value with ⟨sink', e | u⟩
    · simp [hfirst] at h
    · simp only [hfirst] at h ⊢
      rw [Logged.after, stepFailures_append, stepFailures_render, ih h, List.append_nil]

/-- **A run that fails records the step that failed**, and no other. -/
theorem stepFailures_renderAll {error : RenderError}
    (h : (renderAll registry data template sink steps).value.outcome = .error error) :
    ∃ (done : List Step) (s : Step) (later : List Step), steps = done ++ s :: later ∧
      (renderAll registry data template sink done).value.outcome = .ok () ∧
      (renderAll registry data template sink steps).value =
        (s.render registry data (renderAll registry data template sink done).value.sink).value ∧
      stepFailures (renderAll registry data template sink steps).events =
        s.failure template error := by
  obtain ⟨done, s, later, rfl, hdone, hfailed, -⟩ := exists_failed_step registry data h
  refine ⟨done, s, later, rfl, hdone, hfailed.symm, ?_⟩
  rw [← hfailed] at h
  have hbefore := stepFailures_renderAll_of_ok hdone
  rw [renderAll_append]
  rcases hvalue : (renderAll registry data template sink done).value with ⟨sink', e | u⟩
  · rw [hvalue] at hdone
    cases hdone
  · rw [hvalue] at h
    dsimp only at h ⊢
    simp only [renderAll, h, Logged.after, stepFailures_append, hbefore, stepFailures_render,
      stepFailures_failure, List.nil_append]

end Step

/-! ### Emitted routines -/

/-- Related lists are related at every place. -/
theorem exists_getElem?_of_forall₂ {α β : Type} {R : α → β → Prop} {xs : List α} {ys : List β}
    {k : Nat} {x : α} (h : List.Forall₂ R xs ys) (hx : xs[k]? = some x) :
    ∃ y, ys[k]? = some y ∧ R x y := by
  obtain ⟨hk, rfl⟩ := List.getElem?_eq_some_iff.mp hx
  have hlength : k < ys.length := h.length_eq ▸ hk
  exact ⟨ys[k], List.getElem?_eq_getElem hlength, h.get hk hlength⟩

namespace Engine

variable {e : Engine} {p q : Program} {moduleName : Option String}
  {sources : List (String × String)} {added : List (String × List Step)}

/-- **A source compiles to steps** under its name. -/
def CompilesTo (e : Engine) (s : String × String) (a : String × List Step) : Prop :=
  a.1 = s.1 ∧ (e.compile s.1 s.2).value = .ok ⟨s.1, .steps a.2⟩

/-- Emitting goes on with the program that has the steps of the first source. -/
theorem exists_addSteps_of_emitInto {name source : String} {rest : List (String × String)}
    (h : (e.emitInto p ((name, source) :: rest)).value = .ok q) :
    ∃ steps, e.CompilesTo (name, source) (name, steps) ∧
      (e.emitInto (p.addSteps name steps) rest).value = .ok q := by
  rw [emitInto, parse] at h
  cases hparse : Stencil.parse e.delimiters source with
  | error error =>
    rw [hparse] at h
    cases h
  | ok nodes =>
    rw [hparse] at h
    dsimp only at h
    unfold Program.add at h
    cases hsteps : Step.ofNodes name nodes (.ofSource source) with
    | error error =>
      simp only [hsteps] at h
      cases h
    | ok steps =>
      simp only [hsteps] at h
      refine ⟨steps, ⟨rfl, ?_⟩, h⟩
      simp only [compile_value, hparse, hsteps]

/-- **Emitting registers the steps of the sources**, in their order. -/
theorem registers_emitInto (h : p.Registers moduleName added)
    (hemit : (e.emitInto p sources).value = .ok q) :
    ∃ more, q.Registers moduleName (added ++ more) ∧
      List.Forall₂ e.CompilesTo sources more := by
  induction sources generalizing p added with
  | nil =>
    cases hemit
    exact ⟨[], by rwa [List.append_nil], .nil⟩
  | cons s rest ih =>
    obtain ⟨steps, hsteps, hrest⟩ := exists_addSteps_of_emitInto hemit
    obtain ⟨more, hmore, hothers⟩ := ih (h.addSteps s.1 steps) hrest
    rw [List.append_assoc] at hmore
    exact ⟨(s.1, steps) :: more, hmore, .cons hsteps hothers⟩

theorem registers_emit (hemit : (e.emit sources moduleName).value = .ok p) :
    ∃ added, p.Registers moduleName added ∧ p.Named ∧
      List.Forall₂ e.CompilesTo sources added := by
  have hstart : (∀ name ∈ moduleName, Program.isModuleName name = true) ∧
      (e.emitInto ⟨moduleName, []⟩ sources).value = .ok p := by
    unfold emit Program.start at hemit
    cases moduleName with
    | none => exact ⟨by simp, hemit⟩
    | some name =>
      cases hname : Program.isModuleName name with
      | true =>
        simp only [hname, if_true] at hemit
        exact ⟨by simpa using hname, hemit⟩
      | false =>
        simp only [hname] at hemit
        cases hemit
  obtain ⟨added, hadded, hsources⟩ :=
    registers_emitInto (Program.registers_start moduleName) hstart.2
  exact ⟨added, hadded, hadded.named hstart.1, hsources⟩

/-- The steps that a source compiles to are all that it compiles to. -/
theorem CompilesTo.eq {name source : String} {a : String × List Step} {steps : List Step}
    (h : e.CompilesTo (name, source) a)
    (hcompile : (e.compile name source).value = .ok ⟨name, .steps steps⟩) : a = (name, steps) := by
  obtain ⟨hname, hvalue⟩ := h
  rw [hcompile] at hvalue
  cases hvalue
  exact Prod.ext hname rfl

/-- **The comments of a routine** are those of the steps that its source compiles to. -/
theorem exists_routine_of_emit {name source : String} {steps : List Step} {k : Nat}
    (hcompile : (e.compile name source).value = .ok ⟨name, .steps steps⟩)
    (hemit : (e.emit sources moduleName).value = .ok p)
    (hk : sources[k]? = some (name, source)) :
    ∃ routine, p.routines[k]? = some (name, routine) ∧
      remarkLines routine.lines = steps.map fun s => indentation ++ remarkOf name s := by
  obtain ⟨added, hadded, hnamed, hsources⟩ := registers_emit hemit
  obtain ⟨a, ha, hsteps⟩ := exists_getElem?_of_forall₂ hsources hk
  obtain rfl := hsteps.eq hcompile
  have hbody := congrArg (·[k]?) hadded.bodies
  simp only [List.getElem?_map, ha, Option.map_some, Option.map_eq_some_iff] at hbody
  obtain ⟨⟨name', routine⟩, hroutine, hentry⟩ := hbody
  obtain ⟨rfl, hstatements⟩ := Prod.mk.inj hentry
  refine ⟨routine, hroutine, ?_⟩
  rw [Routine.remarkLines_lines (hnamed.routines _ (List.mem_of_getElem? hroutine)), hstatements,
    Step.remarkLines_statements, indentLines, List.map_map]
  refine List.map_congr_left fun step _ => indentLine_of_ne ?_
  simpa using remarkOf_ne_empty "" name' step

/-- **The comments of a program** with one routine: the first line of the text, and the
comments of the steps. -/
theorem exists_emit_remarkLines {name source : String} {steps : List Step}
    (hcompile : (e.compile name source).value = .ok ⟨name, .steps steps⟩)
    (hname : ∀ name ∈ moduleName, Program.isModuleName name = true) :
    ∃ p, (e.emit [(name, source)] moduleName).value = .ok p ∧
      remarkLines (textLines p.text) =
        Program.header :: steps.map fun s => margin moduleName ++ remarkOf name s := by
  have haccepts : ∀ s ∈ [(name, source)], Accepts e.delimiters s :=
    List.forall_mem_singleton.mpr (exists_compile_iff.mp ⟨_, hcompile⟩)
  obtain ⟨p, hemit⟩ := (e.settledBy_emit [(name, source)] hname).ok.mpr haccepts
  obtain ⟨added, hadded, hnamed, hsources⟩ := registers_emit hemit
  obtain ⟨a, others, hsteps, hothers, rfl⟩ := List.forall₂_cons_left_iff.mp hsources
  obtain rfl := hsteps.eq hcompile
  obtain rfl := List.forall₂_nil_left_iff.mp hothers
  exact ⟨p, hemit, by simpa using (hadded.laidOut hnamed).remarks⟩

/-! ### The main result -/

/-- **Steps, routines and the log have the same labels.** What compiles has a step for
each node that is no comment, with one more than the number of line feeds before the
node as its line; so the lines do not decrease. In every program that the source is
emitted into, its routine has one comment for each step, with the name and the line of
the step, and it can be emitted on its own. A rendering that returns an error logs one
step, under the name of the template: the one that failed, with its line. One that
succeeds, or is aborted on the way, logs none. -/
theorem labels_agree (e : Engine) (name source : String) (t : Template)
    (h : (e.compile name source).value = .ok t) :
    ∃ nodes steps, Stencil.parse e.delimiters source = .ok nodes ∧ t = ⟨name, .steps steps⟩ ∧
      List.Forall₂ (Step.LabelledBy e.delimiters source) (nodes.filter (!·.isComment)) steps ∧
      (steps.map Step.line).Pairwise (· ≤ ·) ∧
      (∀ (sources : List (String × String)) (moduleName : Option String) (p : Program) (k : Nat),
        (e.emit sources moduleName).value = .ok p → sources[k]? = some (name, source) →
        ∃ routine, p.routines[k]? = some (name, routine) ∧
          remarkLines routine.lines = steps.map fun s => indentation ++ remarkOf name s) ∧
      (∀ moduleName : Option String, (∀ name ∈ moduleName, Program.isModuleName name = true) →
        ∃ p, (e.emit [(name, source)] moduleName).value = .ok p ∧
          remarkLines (textLines p.text) =
            Program.header :: steps.map fun s => margin moduleName ++ remarkOf name s) ∧
      ∀ registry data sink,
        ((t.render registry data sink).value.outcome = .ok () →
          stepFailures (t.render registry data sink).events = []) ∧
        ∀ error, (t.render registry data sink).value.outcome = .error error →
          ∃ done s later, steps = done ++ s :: later ∧
            (Step.renderAll registry data name sink done).value.outcome = .ok () ∧
            (t.render registry data sink).value =
              (s.render registry data
                (Step.renderAll registry data name sink done).value.sink).value ∧
            stepFailures (t.render registry data sink).events =
              if error.isAbort then [] else [.stepFailed name s.line error.message] := by
  obtain ⟨nodes, steps, hparse, hsteps, rfl⟩ := compile_value_eq_ok_iff.mp h
  have hwell := wellFormed_of_parse hparse
  have hlabels := (Step.listOfNodes_eq_ok_iff.mp hsteps).labelledBy hwell.standsIn
  refine ⟨nodes, steps, hparse, rfl, hlabels, ?_, ?_, ?_, ?_⟩
  · exact Step.pairwise_line hlabels (hwell.increasing.filter _)
  · exact fun _ _ _ _ hemit hk => exists_routine_of_emit h hemit hk
  · exact fun _ hname => exists_emit_remarkLines h hname
  · intro registry data sink
    exact ⟨Step.stepFailures_renderAll_of_ok, fun _ => Step.stepFailures_renderAll⟩

/-- A comment that takes off the blanks behind it, a text that starts two lines further
down for that reason, and a call of a function that is not there. -/
def labelledSource : String := "\x7b\x7b/* c */ -\x7d\x7d\n\n a\n\x7b\x7bf\x7d\x7d"

/-- The text is on the third line and the call on the fourth, in the comments as in the
log. -/
theorem labels_agree_comment :
    let steps : List Step := [⟨3, .text "a\n"⟩, ⟨4, .chain ⟨.call ⟨"f", []⟩, []⟩⟩]
    (standard.compile "t" labelledSource).value = .ok ⟨"t", .steps steps⟩ ∧
    (∃ p, (standard.emit [("t", labelledSource)] none).value = .ok p ∧
      remarkLines (textLines p.text) = [Program.header, "    // t:3", "    // t:4"]) ∧
    stepFailures (Template.render .empty .null .unlimited ⟨"t", .steps steps⟩).events =
      [.stepFailed "t" 4 "\"f\" is not defined"] := by
  intro steps
  have hread : ((Stencil.parse .standard labelledSource).toOption.bind fun nodes =>
      (Step.listOfNodes (.ofSource labelledSource) nodes).toOption) = some steps := by
    decide +kernel
  have h : (standard.compile "t" labelledSource).value = .ok ⟨"t", .steps steps⟩ := by
    cases hparse : Stencil.parse .standard labelledSource with
    | error error =>
      rw [hparse] at hread
      cases hread
    | ok nodes =>
      rw [hparse] at hread
      refine compile_value_eq_ok_iff.mpr ⟨nodes, steps, hparse, ?_, rfl⟩
      cases hsteps : Step.listOfNodes (.ofSource labelledSource) nodes with
      | error error =>
        simp only [Except.toOption, Option.bind_some, hsteps] at hread
        cases hread
      | ok found =>
        simp only [Except.toOption, Option.bind_some, hsteps] at hread
        rw [Option.some.inj hread]
  obtain ⟨nodes, steps', -, ht, -, -, -, hemit, hrender⟩ := labels_agree _ _ _ _ h
  cases ht
  refine ⟨h, ?_, ?_⟩
  · obtain ⟨p, hp, hremarks⟩ := hemit none (by simp)
    exact ⟨p, hp, hremarks.trans (by decide +kernel)⟩
  · obtain ⟨-, hfails⟩ := hrender .empty .null .unlimited
    obtain ⟨done, s, later, hsteps, -, hfailed, hlog⟩ := hfails (.function (.notFound "f")) rfl
    rcases done with _ | ⟨first, _ | ⟨second, others⟩⟩
    · -- The text alone does not fail.
      obtain ⟨rfl, -⟩ := List.cons.inj hsteps
      have houtcome : Except.error _ = Except.ok () := congrArg Rendering.outcome hfailed
      cases houtcome
    · obtain ⟨-, hbehind⟩ := List.cons.inj hsteps
      obtain ⟨rfl, -⟩ := List.cons.inj hbehind
      exact hlog
    · simp [steps] at hsteps

end Engine

end Stencil
