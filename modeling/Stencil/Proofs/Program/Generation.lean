import Stencil.Proofs.Program.Registration
import Stencil.Proofs.Text.Lines

/-!
# What a generator has done

To add a template, a generator takes a name, writes a routine, reports and registers
it, in this order; but before all that it makes sure that the template can be compiled
(`Stencil.Generator.add_apply`). So an addition that fails leaves nothing behind. A
generator on which additions were attempted, some of them in vain, is the same as one on
which only the others were made, in the same order: it has the same text, the same rows
and the same names in use (`Stencil.Generator.failures_leave_no_trace`).

A generator goes in step with the program that is made of the same templates
(`Stencil.Generator.Writes`).
-/

namespace Stencil

/-- An attempt as a computation on a generator. -/
def Attempt.add (a : Attempt) : Generation Unit := Generator.add a.template a.nodes a.lines

namespace Generator

variable {g g' : Generator} {p : Program}

/-! ### One addition -/

/-- The generator with a routine for the steps of a template. -/
def addSteps (g : Generator) (template : String) (steps : List Step) : Generator :=
  let name := routineName g.used template
  { g with
    rows := g.rows ++ [(template, name)]
    body := g.body ++ joinLines (Routine.lines ⟨name, Step.statements template steps⟩)
    used := g.used ++ [name]
    log := g.log ++ [.emitted name template] }

/-- **What an addition does**: all of its effects, or none. -/
theorem add_apply (a : Attempt) (g : Generator) : a.add g =
    match Step.ofNodes a.template a.nodes a.lines with
    | .ok steps => .ok () (g.addSteps a.template steps)
    | .error e => .error e g := by
  unfold Attempt.add add steps
  cases Step.ofNodes a.template a.nodes a.lines <;> rfl

/-- An addition that fails leaves the generator as it was. -/
theorem eq_of_add_error {a : Attempt} {e : CompileError} (h : a.add g = .error e g') : g' = g := by
  rw [add_apply] at h
  cases hsteps : Step.ofNodes a.template a.nodes a.lines with
  | ok steps =>
    rw [hsteps] at h
    cases h
  | error e' =>
    rw [hsteps] at h
    cases h
    rfl

/-! ### Many attempts -/

/-- **The generator after attempts**, made one after the other whatever they come to. -/
def attemptAll (g : Generator) : List Attempt → Generator
  | [] => g
  | a :: rest => (g.attempt a.template a.nodes a.lines).2.attemptAll rest

/-- **The attempts that succeed**, when all are made one after the other. -/
def succeeding (g : Generator) : List Attempt → List Attempt
  | [] => []
  | a :: rest =>
    let (result, g') := g.attempt a.template a.nodes a.lines
    if result.isOk then a :: g'.succeeding rest else g'.succeeding rest

/-- An attempt adds the steps of its template, if there are any. -/
theorem attempt_eq (g : Generator) (a : Attempt) :
    g.attempt a.template a.nodes a.lines =
      match Step.ofNodes a.template a.nodes a.lines with
      | .ok steps => (.ok (), g.addSteps a.template steps)
      | .error e => (.error e, g) := by
  have happly := add_apply a g
  rw [Attempt.add] at happly
  rw [attempt, happly]
  cases Step.ofNodes a.template a.nodes a.lines <;> rfl

/-- Whether an attempt succeeds is a matter of the template alone. -/
theorem succeeding_eq_filter (g : Generator) (attempts : List Attempt) :
    g.succeeding attempts = attempts.filter fun a => a.added?.isSome := by
  induction attempts generalizing g with
  | nil => rfl
  | cons a rest ih =>
    rw [succeeding, attempt_eq, List.filter_cons]
    cases hsteps : Step.ofNodes a.template a.nodes a.lines with
    | ok steps => simp [Attempt.added?, hsteps, Except.isOk, Except.toBool, ih]
    | error e => simp [Attempt.added?, hsteps, Except.isOk, Except.toBool, ih]

/-- Making only the additions that succeed leads to the same generator. -/
theorem forM_succeeding (g : Generator) (attempts : List Attempt) :
    (g.succeeding attempts).forM Attempt.add g = .ok () (g.attemptAll attempts) := by
  induction attempts generalizing g with
  | nil => rfl
  | cons a rest ih =>
    have happly := add_apply a g
    rw [succeeding, attemptAll, attempt_eq]
    cases hsteps : Step.ofNodes a.template a.nodes a.lines with
    | ok steps =>
      rw [hsteps] at happly
      change EStateM.bind a.add (fun _ => (Generator.succeeding _ rest).forM Attempt.add) g = _
      rw [EStateM.bind, happly]
      exact ih _
    | error e => exact ih g

/-- **Additions that fail leave no trace.** One addition that fails leaves a generator as
it was, in whatever state it is. So of all the attempts, in their order, those matter
that succeed, and these are the ones whose templates can be compiled: made alone, they
all succeed again and lead to the same routines, the same rows, the same names in use,
and the same text at the end. -/
theorem failures_leave_no_trace (g : Generator) (attempts : List Attempt) :
    (∀ (a : Attempt) (e : CompileError) (before after : Generator),
      a.add before = .error e after → after = before) ∧
    g.succeeding attempts = attempts.filter (fun a => a.added?.isSome) ∧
    ∃ g', (g.succeeding attempts).forM Attempt.add g = .ok () g' ∧
      (g.attemptAll attempts).body = g'.body ∧ (g.attemptAll attempts).rows = g'.rows ∧
      (g.attemptAll attempts).used = g'.used ∧ (g.attemptAll attempts).finish = g'.finish := by
  refine ⟨fun a e before after h => eq_of_add_error h, g.succeeding_eq_filter attempts, ?_⟩
  exact ⟨g.attemptAll attempts, g.forM_succeeding attempts, rfl, rfl, rfl, rfl⟩

-- The template in the middle would have taken the name of the last one.
example : ((Generator.mk none [] "" [] []).attemptAll [⟨"a.b", [], ⟨[]⟩⟩,
    ⟨"a b", [.control 0 .endWord], ⟨[]⟩⟩, ⟨"a_b", [], ⟨[]⟩⟩]).rows =
      [("a.b", "render_a_b"), ("a_b", "render_a_b_2")] := by
  decide +kernel

/-! ### Generators and programs -/

/-- **A generator writes a program**: its text, its rows and its names are those of the
program so far. -/
structure Writes (g : Generator) (p : Program) : Prop where
  moduleName : g.moduleName = p.moduleName
  rows : g.rows = p.table
  body : g.body = joinLines (p.functions.flatMap Routine.lines)
  used : g.used = p.routineNames

theorem writes_start (moduleName : Option String) (log : List LogEvent) :
    Writes ⟨moduleName, [], "", [], log⟩ ⟨moduleName, []⟩ :=
  ⟨rfl, rfl, rfl, rfl⟩

/-- **One template more.** -/
theorem Writes.addSteps (h : g.Writes p) (template : String) (steps : List Step) :
    (g.addSteps template steps).Writes (p.addSteps template steps) := by
  refine ⟨h.moduleName, ?_, ?_, ?_⟩
  · simp [Generator.addSteps, Program.addSteps, Program.table, h.rows, h.used]
  · simp [Generator.addSteps, Program.addSteps, Program.functions, h.body, h.used,
      joinLines_append]
  · simp [Generator.addSteps, Program.routineNames_addSteps, h.used]

/-- **All attempts**, in their order. -/
theorem Writes.attemptAll (h : g.Writes p) (attempts : List Attempt) :
    (g.attemptAll attempts).Writes (attempts.foldl Program.attempt p) := by
  induction attempts generalizing g p with
  | nil => exact h
  | cons a rest ih =>
    rw [Generator.attemptAll, Generator.attempt_eq, List.foldl_cons, Program.attempt_eq,
      Attempt.added?]
    cases Step.ofNodes a.template a.nodes a.lines with
    | ok steps => exact ih (h.addSteps a.template steps)
    | error e => exact ih h

/-- **The text of a generator is the text of the program**, if no line of the program
has a line break in it. Otherwise cutting the text into lines would not give back the
lines it was made of. -/
theorem Writes.finish_eq (h : g.Writes p) (hlines : ∀ line ∈ p.itemLines, Unbroken line.toList) :
    g.finish = p.text := by
  have hbody : g.body ++ joinLines (Program.tableFrame (g.rows.map Program.rowLine)) =
      joinLines p.itemLines := by
    rw [h.body, h.rows, ← joinLines_append, p.itemLines_eq]
  rw [finish, hbody, textLines_joinLines hlines, h.moduleName, p.itemLines_eq, ← p.lines_eq]
  rfl

end Generator

end Stencil
