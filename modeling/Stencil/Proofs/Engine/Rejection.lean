import Stencil.Engine
import Stencil.Proofs.FirstFailure

/-!
# All ways to compile reject alike

A list of templates can be compiled into a library, emitted as a program, or compiled
one by one. These are three passes over the list, and each stops at the first template
that cannot be read or cannot be run. What is wrong with a template depends on the
delimiters, its name and its source alone (`Stencil.Rejects`), not on what the pass has
collected so far. So the three fail with the same diagnostic, that of the first
template that is rejected (`Stencil.FirstRejection`), and succeed on the same lists:
the sources settle the result (`Stencil.SettledBy`).
-/

namespace Stencil

/-! ### Sources that are accepted and rejected -/

/-- **A source is accepted**: it can be read, and what was read can be run. -/
def Accepts (delimiters : Delimiters) (s : String × String) : Prop :=
  ∃ nodes steps, parse delimiters s.2 = .ok nodes ∧
    Step.ofNodes s.1 nodes (.ofSource s.2) = .ok steps

/-- **A source is rejected with a diagnostic**: it cannot be read, or it can be read and
cannot be run. The diagnostic has what is wrong, the name and the source. -/
inductive Rejects (delimiters : Delimiters) : String × String → Diagnostic → Prop
  | source {name source : String} {error : SourceError}
    (hparse : parse delimiters source = .error error) :
    Rejects delimiters (name, source) ⟨.source error, name, source⟩
  | compile {name source : String} {nodes : List Node} {error : CompileError}
    (hparse : parse delimiters source = .ok nodes)
    (hsteps : Step.ofNodes name nodes (.ofSource source) = .error error) :
    Rejects delimiters (name, source) ⟨.compile error, name, source⟩

/-- **The first source that is rejected**, with its diagnostic: all sources before it
are accepted. -/
def FirstRejection (delimiters : Delimiters) : List (String × String) → Diagnostic → Prop :=
  FirstFailure (Accepts delimiters) (Rejects delimiters)

/-- **A result is settled by the sources**: it is the diagnostic of the first source
that is rejected, and no diagnostic if all are accepted. -/
structure SettledBy {β : Type} (delimiters : Delimiters) (sources : List (String × String))
    (result : Except Diagnostic β) : Prop where
  error (d : Diagnostic) : result = .error d ↔ FirstRejection delimiters sources d
  ok : (∃ b, result = .ok b) ↔ ∀ s ∈ sources, Accepts delimiters s

namespace Engine

variable {e : Engine} {name source : String} {s : String × String} {d : Diagnostic}

/-! ### One template -/

/-- Compiling a template is reading it and making steps of what was read. -/
theorem compile_value (e : Engine) (name source : String) : (e.compile name source).value =
    match Stencil.parse e.delimiters source with
    | .error error => .error ⟨.source error, name, source⟩
    | .ok nodes =>
      match Step.ofNodes name nodes (.ofSource source) with
      | .error error => .error ⟨.compile error, name, source⟩
      | .ok steps => .ok ⟨name, .steps steps⟩ := by
  unfold compile parse
  cases Stencil.parse e.delimiters source with
  | error error => rfl
  | ok nodes =>
    dsimp only
    unfold Template.ofNodes
    cases Step.ofNodes name nodes (.ofSource source) <;> rfl

theorem exists_compile_iff :
    (∃ t, (e.compile s.1 s.2).value = .ok t) ↔ Accepts e.delimiters s := by
  rw [compile_value, Accepts]
  cases Stencil.parse e.delimiters s.2 with
  | error error => simp
  | ok nodes => cases hsteps : Step.ofNodes s.1 nodes (.ofSource s.2) <;> simp [hsteps]

theorem compile_eq_error_iff :
    (e.compile s.1 s.2).value = .error d ↔ Rejects e.delimiters s d := by
  obtain ⟨name, source⟩ := s
  rw [compile_value]
  constructor
  · intro h
    cases hparse : Stencil.parse e.delimiters source with
    | error error =>
      rw [hparse] at h
      cases h
      exact .source hparse
    | ok nodes =>
      rw [hparse] at h
      cases hsteps : Step.ofNodes name nodes (.ofSource source) with
      | error error =>
        simp only [hsteps] at h
        cases h
        exact .compile hparse hsteps
      | ok steps =>
        simp only [hsteps] at h
        cases h
  · rintro (hparse | ⟨hparse, hsteps⟩)
    · rw [hparse]
    · simp only [hparse, hsteps]

/-- A program takes a template in that compiles, and refuses one that does not, for the
same reason. -/
theorem emitInto_cons (e : Engine) (p : Program) (s : String × String)
    (rest : List (String × String)) :
    match (e.compile s.1 s.2).value with
    | .error d => (e.emitInto p (s :: rest)).value = .error d
    | .ok _ => ∃ p', (e.emitInto p (s :: rest)).value = (e.emitInto p' rest).value := by
  obtain ⟨name, source⟩ := s
  rw [compile_value, emitInto, parse]
  cases Stencil.parse e.delimiters source with
  | error error => rfl
  | ok nodes =>
    dsimp only
    unfold Program.add
    cases Step.ofNodes name nodes (.ofSource source) with
    | error error => rfl
    | ok steps => exact ⟨p.addSteps name steps, rfl⟩

/-! ### The passes -/

theorem compileInto_cons (e : Engine) (l : Library) (s : String × String)
    (rest : List (String × String)) : (e.compileInto l (s :: rest)).value =
      match (e.compile s.1 s.2).value with
      | .error d => .error d
      | .ok t => (e.compileInto (l.insert t) rest).value := by
  obtain ⟨name, source⟩ := s
  rw [compileInto]
  dsimp only
  cases (e.compile name source).value <;> rfl

/-- Compiling into a library stops at the first template that does not compile. -/
theorem stopsAtFirst_compileInto (e : Engine) :
    StopsAtFirst (fun s : String × String => (e.compile s.1 s.2).value)
      fun l sources => (e.compileInto l sources).value where
  nil l := ⟨l, rfl⟩
  failed l s rest d h := by rw [compileInto_cons, h]
  passed l s rest t h := ⟨l.insert t, fun d => by rw [compileInto_cons, h]⟩

/-- Emitting stops at the first template that does not compile. -/
theorem stopsAtFirst_emitInto (e : Engine) :
    StopsAtFirst (fun s : String × String => (e.compile s.1 s.2).value)
      fun p sources => (e.emitInto p sources).value where
  nil p := ⟨p, rfl⟩
  failed p s rest d h := by
    have hcons := e.emitInto_cons p s rest
    rw [h] at hcons
    exact hcons
  passed p s rest t h := by
    have hcons := e.emitInto_cons p s rest
    rw [h] at hcons
    obtain ⟨p', hp'⟩ := hcons
    exact ⟨p', fun d => by rw [hp']⟩

variable {sources : List (String × String)} {moduleName : Option String}

/-- A pass that stops at the first template that does not compile is settled by the
sources. -/
theorem settledBy_of_stopsAtFirst {β σ : Type}
    {pass : σ → List (String × String) → Except Diagnostic β}
    (h : StopsAtFirst (fun s : String × String => (e.compile s.1 s.2).value) pass) (state : σ) :
    SettledBy e.delimiters sources (pass state sources) where
  error _ := h.eq_error_iff (fun _ => exists_compile_iff) fun _ _ => compile_eq_error_iff
  ok := by
    rw [h.exists_ok_iff]
    simp only [exists_compile_iff]

theorem settledBy_compileAll (e : Engine) (sources : List (String × String)) :
    SettledBy e.delimiters sources (e.compileAll sources).value :=
  settledBy_of_stopsAtFirst e.stopsAtFirst_compileInto _

theorem settledBy_mapM_compile (e : Engine) (sources : List (String × String)) :
    SettledBy e.delimiters sources (sources.mapM fun s => (e.compile s.1 s.2).value) := by
  have hpass := stopsAtFirst_mapM fun s : String × String => (e.compile s.1 s.2).value
  exact settledBy_of_stopsAtFirst hpass ()

/-- Emitting in a module that can be named. -/
theorem settledBy_emit (e : Engine) (sources : List (String × String))
    (hname : ∀ name ∈ moduleName, Program.isModuleName name = true) :
    SettledBy e.delimiters sources (e.emit sources moduleName).value := by
  obtain ⟨p, hp⟩ : ∃ p, Program.start moduleName = .ok p := by
    cases moduleName with
    | none => exact ⟨_, rfl⟩
    | some name => exact ⟨_, if_pos (hname name rfl)⟩
  rw [emit, hp]
  exact settledBy_of_stopsAtFirst e.stopsAtFirst_emitInto p

end Engine

end Stencil
