import Mathlib.Data.List.Induction
import Mathlib.Data.Option.Defs
import Stencil.Engine
import Stencil.Proofs.Program.Emitted
import Stencil.Proofs.Program.Meaning
import Stencil.Proofs.Program.RoundTrip

/-!
# Compiled templates and emitted programs agree

There are two ways to get from sources to output: to compile them and run the steps,
or to emit a program, write it down, and have its text read and run. Both give the
same: `Stencil.Engine.exists_emit_render_eq`. Whatever compiles is emitted too; the
text of the program can be read; and every template of the program that was read
writes the same bytes with the same outcome as the compiled one, for all functions,
data and sinks, and has the same name.

The proof follows the two passes over the sources in step. Before and after every
source the library compiled so far and the library of the program emitted so far
hold templates of the same names and the same output
(`Stencil.Library.Alike`), and the program can be written.
-/

namespace Stencil

/-! ### Templates with the same output -/

/-- **Two templates have the same output**: the same bytes and the same outcome, for
all functions, data and sinks. -/
def Template.Alike (t t' : Template) : Prop :=
  ∀ registry data sink, (t.render registry data sink).value = (t'.render registry data sink).value

theorem Template.Alike.refl (t : Template) : t.Alike t := fun _ _ _ => rfl

/-- A routine of statements has the output of the steps they were made from. -/
theorem Template.alike_statements (routineName template : String) (steps : List Step) :
    Template.Alike ⟨template, .routine ⟨routineName, Step.statements template steps⟩⟩
      ⟨template, .steps steps⟩ :=
  fun registry data sink =>
    Routine.render_statements registry data sink routineName template template steps

/-- A routine has the output of the routine without comment lines. -/
theorem Template.alike_bare (template : String) (r : Routine) :
    Template.Alike ⟨template, .routine r.bare⟩ ⟨template, .routine r⟩ :=
  fun registry data sink => congrArg Logged.value (r.render_bare registry data sink)

namespace Library

/-- **Two libraries are alike**: under every name they have templates with the same
output, or none. -/
def Alike (l l' : Library) : Prop :=
  ∀ name, Option.Rel Template.Alike (l.get? name) (l'.get? name)

variable {l l' l'' : Library}

theorem Alike.refl (l : Library) : l.Alike l := by
  intro name
  cases l.get? name with
  | none => exact .none
  | some t => exact .some (.refl t)

theorem Alike.trans (h : l.Alike l') (h' : l'.Alike l'') : l.Alike l'' := by
  intro name
  have hfirst := h name
  have hsecond := h' name
  generalize l.get? name = first at hfirst ⊢
  generalize l'.get? name = second at hfirst hsecond
  generalize l''.get? name = third at hsecond ⊢
  cases hfirst with
  | none => exact hsecond
  | some ht =>
    cases hsecond with
    | some ht' =>
      exact .some fun registry data sink => (ht registry data sink).trans (ht' registry data sink)

/-- Templates with the same output may be inserted on both sides. -/
theorem Alike.insert (h : l.Alike l') {t t' : Template} (hname : t.name = t'.name)
    (ht : t.Alike t') : (l.insert t).Alike (l'.insert t') := by
  intro name
  rw [get?_insert, get?_insert, hname]
  split
  · exact .some ht
  · exact h name

/-- **Libraries that are alike render alike**, if they have the same functions. -/
theorem Alike.render_eq (h : l.Alike l') (hfunctions : l.functions = l'.functions)
    (name : String) (data : Value) (sink : Sink) :
    (l.render name data sink).value = (l'.render name data sink).value := by
  have hname := h name
  unfold Library.render
  generalize l.get? name = found at hname ⊢
  generalize l'.get? name = found' at hname ⊢
  cases hname with
  | none => rfl
  | some ht =>
    rw [← hfunctions]
    exact ht l.functions data sink

end Library

/-! ### The library of a program -/

namespace Program

theorem library_functions (p : Program) (registry : Registry) :
    (p.library registry).functions = registry := by
  unfold library
  induction p.routines using List.reverseRecOn with
  | nil => rfl
  | append_singleton others entry ih =>
    rw [List.foldl_append]
    exact ih

theorem library_addSteps (p : Program) (template : String) (steps : List Step)
    (registry : Registry) : (p.addSteps template steps).library registry =
      (p.library registry).insert ⟨template, .routine
        ⟨routineName p.routineNames template, Step.statements template steps⟩⟩ := by
  simp only [library, addSteps, List.foldl_append, List.foldl_cons, List.foldl_nil]

/-- Comment lines make no difference to the library of a program. -/
theorem library_bare (p : Program) (registry : Registry) :
    (p.bare.library registry).Alike (p.library registry) := by
  unfold library bare
  dsimp only
  induction p.routines using List.reverseRecOn with
  | nil => exact .refl _
  | append_singleton others entry ih =>
    rw [List.map_append, List.foldl_append, List.foldl_append]
    exact ih.insert rfl (Template.alike_bare entry.1 entry.2)

end Program

/-! ### The two passes -/

namespace Engine

/-- What holds between two sources of the library compiled so far and of the program
emitted so far. -/
structure InStep (l : Library) (p : Program) : Prop where
  writable : p.Writable
  alike : ∀ registry, (p.library registry).Alike l

variable {e : Engine} {l l' : Library} {p : Program}

theorem InStep.start {moduleName : Option String} {functions : Registry}
    (h : Program.start moduleName = .ok p) : InStep (.empty functions) p := by
  refine ⟨Program.writable_start h, fun registry name => ?_⟩
  have hroutines : p.routines = [] := by
    unfold Program.start at h
    repeat' split at h
    all_goals cases h
    all_goals rfl
  have hlibrary : p.library registry = .empty registry := by
    rw [Program.library, hroutines, List.foldl_nil]
  rw [hlibrary]
  exact .none

/-- **One source**: what compiles is emitted, and the two stay in step. -/
theorem InStep.step (h : InStep l p) {name source : String} {t : Template}
    (hcompile : (e.compile name source).value = .ok t) :
    ∃ nodes steps, e.parse name source = .ok nodes ∧
      Step.ofNodes name nodes (.ofSource source) = .ok steps ∧
      InStep (l.insert t) (p.addSteps name steps) := by
  unfold Engine.compile at hcompile
  split at hcompile
  · cases hcompile
  · next nodes hparse =>
    unfold Template.ofNodes at hcompile
    cases hsteps : Step.ofNodes name nodes (.ofSource source) with
    | error error =>
      simp only [hsteps] at hcompile
      cases hcompile
    | ok steps =>
      simp only [hsteps] at hcompile
      cases hcompile
      have hsource : Stencil.parse e.delimiters source = .ok nodes := by
        unfold Engine.parse at hparse
        split at hparse
        · next hsource =>
          cases hparse
          exact hsource
        · cases hparse
      refine ⟨nodes, steps, hparse, hsteps, ?_, fun registry => ?_⟩
      · exact h.writable.addSteps (Step.proper_of_ofNodes hsource hsteps) name
      · rw [Program.library_addSteps]
        exact (h.alike registry).insert rfl (Template.alike_statements _ name steps)

/-- **All sources**: what compiles is emitted, and the two stay in step. -/
theorem InStep.run (h : InStep l p) {sources : List (String × String)}
    (hcompile : (e.compileInto l sources).value = .ok l') :
    ∃ p', (e.emitInto p sources).value = .ok p' ∧ InStep l' p' := by
  induction sources generalizing l p with
  | nil =>
    cases hcompile
    exact ⟨p, rfl, h⟩
  | cons first rest ih =>
    obtain ⟨name, source⟩ := first
    unfold compileInto at hcompile
    dsimp only at hcompile
    split at hcompile
    · cases hcompile
    · next t ht =>
      obtain ⟨nodes, steps, hparse, hsteps, hstep⟩ := h.step ht
      obtain ⟨p', hp', hend⟩ := ih hstep hcompile
      refine ⟨p', ?_, hend⟩
      rw [emitInto, hparse]
      simp only [Program.add, hsteps]
      exact hp'

/-- **Compiled templates and emitted programs agree.** If sources compile, they are
emitted as a program, in any module that can be named. The text of the program is
read as a program, and that program and the compiled library render every name to
the same bytes with the same outcome, for all functions, data and sinks. -/
theorem exists_emit_render_eq {sources : List (String × String)} {moduleName : Option String}
    (hname : ∀ name ∈ moduleName, Program.isModuleName name = true)
    (hcompile : (e.compileAll sources).value = .ok l) :
    ∃ p q, (e.emit sources moduleName).value = .ok p ∧ Program.read? p.text = some q ∧
      ∀ registry name data sink, ((q.library registry).render name data sink).value =
        ({ l with functions := registry }.render name data sink).value := by
  obtain ⟨first, hfirst⟩ : ∃ first, Program.start moduleName = .ok first := by
    cases moduleName with
    | none => exact ⟨_, rfl⟩
    | some name => exact ⟨_, if_pos (hname name rfl)⟩
  obtain ⟨p, hp, hend⟩ := InStep.run (.start hfirst) hcompile
  refine ⟨p, p.bare, ?_, hend.writable.read?_text, fun registry name data sink => ?_⟩
  · rw [Engine.emit, hfirst]
    exact hp
  · have halike : (p.bare.library registry).Alike { l with functions := registry } :=
      (p.library_bare registry).trans (hend.alike registry)
    exact halike.render_eq (p.bare.library_functions registry) name data sink

/-- Two templates of one name, a number, a text with a quote, and a module. -/
theorem exists_emit_render_eq_page : ∃ l p q,
    (Engine.standard.compileAll [("page", "x"), ("head", "\x7b\x7b.T\x7d\x7d"),
      ("page", "a\x7b\x7b- .N | f -1.5e3 \"\\\"\" nil -\x7d\x7d b")]).value = .ok l ∧
    (Engine.standard.emit [("page", "x"), ("head", "\x7b\x7b.T\x7d\x7d"),
      ("page", "a\x7b\x7b- .N | f -1.5e3 \"\\\"\" nil -\x7d\x7d b")] (some "views")).value =
        .ok p ∧
    Program.read? p.text = some q ∧
    ∀ registry name data sink, ((q.library registry).render name data sink).value =
      ({ l with functions := registry }.render name data sink).value := by
  have hok : (Engine.standard.compileAll [("page", "x"), ("head", "\x7b\x7b.T\x7d\x7d"),
      ("page", "a\x7b\x7b- .N | f -1.5e3 \"\\\"\" nil -\x7d\x7d b")]).value.isOk = true := by
    decide +kernel
  have hviews : ∀ name ∈ some "views", Program.isModuleName name = true := by decide
  cases hcompile : (Engine.standard.compileAll [("page", "x"), ("head", "\x7b\x7b.T\x7d\x7d"),
      ("page", "a\x7b\x7b- .N | f -1.5e3 \"\\\"\" nil -\x7d\x7d b")]).value with
  | error d =>
    rw [hcompile] at hok
    cases hok
  | ok l =>
    obtain ⟨p, q, hp, hq, hrender⟩ := exists_emit_render_eq hviews hcompile
    exact ⟨l, p, q, rfl, hp, hq, hrender⟩

end Engine

end Stencil
