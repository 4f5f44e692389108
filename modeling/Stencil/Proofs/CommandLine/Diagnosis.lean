import Stencil.Proofs.CommandLine.Steps
import Stencil.Proofs.Engine.Rejection

/-!
# All tasks report the same diagnostic

Whatever is to be done with the templates, they are compiled first, by one of three
passes that reject alike. Everything else that can go wrong in a run is not about the
templates and is reported in other words: a file that cannot be created, data that is
not JSON, a function that fails. So a run fails with a diagnostic exactly if a template
is rejected, and the diagnostic is that of the first (`Stencil.CommandLine.reject_alike`).
-/

namespace Stencil

namespace CommandLine

/-! ### Sessions that end with a diagnostic -/

namespace Session

variable {α β : Type} {x : Session α} {f : α → Session β} {w : World} {d : Diagnostic}
  {shown : Option (String × String)} {sources : List (String × String)}
  {work : Logged (Except Diagnostic α)}

/-- **A session ends with a diagnostic**, and a file is shown with it. -/
def Diagnoses (x : Session α) (w : World) (d : Diagnostic) (shown : Option (String × String)) :
    Prop :=
  ∃ w', x w = .error (.diagnostic d shown) w'

/-- A session that does not end with a diagnostic in any world. -/
def NeverDiagnoses (x : Session α) : Prop := ∀ w d shown, ¬x.Diagnoses w d shown

theorem bind_diagnoses_iff : (x >>= f).Diagnoses w d shown ↔
    x.Diagnoses w d shown ∨ ∃ a w', x w = .ok a w' ∧ (f a).Diagnoses w' d shown := by
  constructor
  · rintro ⟨w'', hrun⟩
    rcases bind_eq_error_iff.mp hrun with hx | ⟨a, w', hx, ha⟩
    · exact .inl ⟨w'', hx⟩
    · exact .inr ⟨a, w', hx, w'', ha⟩
  · rintro (⟨w'', hx⟩ | ⟨a, w', hx, w'', ha⟩)
    · exact ⟨w'', bind_eq_error_iff.mpr (.inl hx)⟩
    · exact ⟨w'', bind_eq_error_iff.mpr (.inr ⟨a, w', hx, ha⟩)⟩

theorem NeverDiagnoses.bind (h : x.NeverDiagnoses) (hf : ∀ a, (f a).NeverDiagnoses) :
    (x >>= f).NeverDiagnoses := by
  intro w d shown hrun
  rcases bind_diagnoses_iff.mp hrun with hx | ⟨a, w', -, ha⟩
  · exact h w d shown hx
  · exact hf a w' d shown ha

theorem look_neverDiagnoses {see : World → Except Failure α}
    (h : ∀ w d shown, see w ≠ .error (.diagnostic d shown)) : (look see).NeverDiagnoses := by
  rintro w d shown ⟨w', hrun⟩
  exact h w d shown (look_eq_error_iff.mp hrun).1

theorem throw_neverDiagnoses {failure : Failure} (h : ∀ d shown, failure ≠ .diagnostic d shown) :
    (throw failure : Session α).NeverDiagnoses := by
  rintro w d shown ⟨w', hrun⟩
  exact h d shown (throw_eq_error_iff.mp hrun).1

theorem record_neverDiagnoses (events : List LogEvent) : (record events).NeverDiagnoses := by
  rintro w d shown ⟨w', hrun⟩
  cases hrun

/-- Work on templates ends with its own diagnostic, shown with the first file of the
name. -/
theorem compiling_diagnoses_iff : (compiling sources work).Diagnoses w d shown ↔
    work.value = .error d ∧ shown = sources.find? fun s => s.1 = d.template := by
  constructor
  · rintro ⟨w', hrun⟩
    obtain ⟨d', hwork, hfailure, -⟩ := compiling_eq_error_iff.mp hrun
    cases hfailure
    exact ⟨hwork, rfl⟩
  · rintro ⟨hwork, rfl⟩
    exact ⟨_, compiling_eq_error_iff.mpr ⟨d, hwork, rfl, rfl⟩⟩

/-- What comes after the work on templates is not diagnosed. -/
theorem compiling_bind_diagnoses_iff (hf : ∀ a, (f a).NeverDiagnoses) :
    (compiling sources work >>= f).Diagnoses w d shown ↔
      work.value = .error d ∧ shown = sources.find? fun s => s.1 = d.template := by
  rw [bind_diagnoses_iff, compiling_diagnoses_iff]
  refine or_iff_left ?_
  rintro ⟨a, w', -, ha⟩
  exact hf a w' d shown ha

end Session

/-! ### What is not about the templates -/

open Session

theorem writeOutput_neverDiagnoses (output : Option String) (bytes : ByteArray) :
    (writeOutput output bytes).NeverDiagnoses := by
  rintro w d shown ⟨w', hrun⟩
  obtain ⟨path, e, -, -, hfailure, -⟩ := writeOutput_eq_error_iff.mp hrun
  cases hfailure

theorem readData_ne_diagnostic (tree : FileTree) (input : ByteArray) (path? : Option String)
    (d : Diagnostic) (shown : Option (String × String)) :
    readData tree input path? ≠ .error (.diagnostic d shown) := by
  intro h
  unfold readData at h
  split at h
  · next failure htext =>
    cases h
    unfold dataText at htext
    repeat' split at htext
    all_goals cases htext
  · repeat' split at h
    all_goals cases h

theorem Failure.render_ne_diagnostic (e : RenderError) (d : Diagnostic)
    (shown : Option (String × String)) : Failure.render e ≠ .diagnostic d shown := by
  intro h
  unfold Failure.render at h
  split at h
  all_goals cases h

/-! ### The tasks -/

variable {engine : Engine} {sources items : List (String × String)} {request : Request}
  {w : World} {d : Diagnostic} {shown : Option (String × String)}

theorem generate_diagnoses_iff {moduleName output : Option String} :
    (generate engine sources moduleName output).Diagnoses w d shown ↔
      (engine.emit sources moduleName).value = .error d ∧
        shown = sources.find? fun s => s.1 = d.template :=
  compiling_bind_diagnoses_iff fun _ => writeOutput_neverDiagnoses _ _

theorem render_diagnoses_iff {template : String} {data output : Option String} :
    (render engine sources template data output).Diagnoses w d shown ↔
      (engine.compileAll sources).value = .error d ∧
        shown = sources.find? fun s => s.1 = d.template := by
  refine compiling_bind_diagnoses_iff fun library => ?_
  split
  · refine (look_neverDiagnoses fun w => readData_ne_diagnostic w.tree w.input data).bind
      fun v => (record_neverDiagnoses _).bind fun _ => ?_
    split
    · exact throw_neverDiagnoses (Failure.render_ne_diagnostic _)
    · exact writeOutput_neverDiagnoses _ _
  · exact throw_neverDiagnoses (by rintro d shown ⟨⟩)

/-- Checking one by one goes on after a template that is accepted, and ends with the
first that is rejected. -/
theorem check_diagnoses_iff : (check engine sources items).Diagnoses w d shown ↔
    FirstRejection engine.delimiters items d ∧
      shown = sources.find? fun s => s.1 = d.template := by
  induction items generalizing w with
  | nil =>
    constructor
    · rintro ⟨w', hrun⟩
      cases hrun
    · rintro ⟨hfirst, -⟩
      exact absurd hfirst not_firstFailure_nil
  | cons s rest ih =>
    -- The rest is checked in a later world, so the induction is for all worlds.
    have hrest : (∃ t w', compiling sources (engine.compile s.1 s.2) w = .ok t w' ∧
        (record [.checked s.1] >>= fun _ => check engine sources rest).Diagnoses w' d shown) ↔
          Accepts engine.delimiters s ∧ FirstRejection engine.delimiters rest d ∧
            shown = sources.find? fun s => s.1 = d.template := by
      rw [← Engine.exists_compile_iff]
      constructor
      · rintro ⟨t, w', hcompile, hrun⟩
        rcases bind_diagnoses_iff.mp hrun with hrecord | ⟨_, w'', -, hcheck⟩
        · exact absurd hrecord (record_neverDiagnoses _ _ _ _)
        · exact ⟨⟨t, (compiling_eq_ok_iff.mp hcompile).1⟩, ih.mp hcheck⟩
      · rintro ⟨⟨t, hcompile⟩, hfirst⟩
        exact ⟨t, _, compiling_eq_ok_iff.mpr ⟨hcompile, rfl⟩, bind_diagnoses_iff.mpr
          (.inr ⟨(), _, record_eq_ok_iff.mpr rfl, ih.mpr hfirst⟩)⟩
    have hcons : (check engine sources (s :: rest)).Diagnoses w d shown ↔
        Rejects engine.delimiters s d ∧ (shown = sources.find? fun s => s.1 = d.template) ∨
          Accepts engine.delimiters s ∧ FirstRejection engine.delimiters rest d ∧
            shown = sources.find? fun s => s.1 = d.template := by
      rw [← hrest, ← Engine.compile_eq_error_iff, ← compiling_diagnoses_iff]
      exact bind_diagnoses_iff
    rw [hcons, FirstRejection, firstFailure_cons, or_and_right, and_assoc]

/-- The module name that a task is given. -/
def Task.moduleName : Task → Option String
  | .generate moduleName _ => moduleName
  | .render .. => none
  | .check => none

/-- A task ends with a diagnostic if a template is rejected. -/
theorem perform_diagnoses_iff
    (hname : ∀ name ∈ request.task.moduleName, Program.isModuleName name = true) :
    (perform request sources).Diagnoses w d shown ↔
      FirstRejection request.delimiters sources d ∧
        shown = sources.find? fun s => s.1 = d.template := by
  obtain ⟨task, delimiters, files, verbosity⟩ := request
  cases task with
  | generate moduleName output =>
    have hemit := (engineOf delimiters false).settledBy_emit sources hname
    exact generate_diagnoses_iff.trans (and_congr_left' (hemit.error d))
  | render template data strict output =>
    have hcompile := (engineOf delimiters strict).settledBy_compileAll sources
    exact render_diagnoses_iff.trans (and_congr_left' (hcompile.error d))
  | check => exact check_diagnoses_iff

/-! ### The main result -/

/-- **All ways to compile accept and reject alike.** Compiling sources into a library,
emitting them and compiling them one by one fail with the same diagnostic, that of the
first source that is rejected, and succeed if all sources are accepted. And on files
that are read as these sources every task ends with this diagnostic, shown with the
same file, or with none. -/
theorem reject_alike (e : Engine) (sources : List (String × String)) (moduleName : Option String)
    (hname : ∀ name ∈ moduleName, Program.isModuleName name = true) :
    SettledBy e.delimiters sources (e.compileAll sources).value ∧
    SettledBy e.delimiters sources (e.emit sources moduleName).value ∧
    SettledBy e.delimiters sources (sources.mapM fun s => (e.compile s.1 s.2).value) ∧
    ∀ (task : Task) (files : List String) (verbosity : Verbosity) (w : World),
      (∀ name ∈ task.moduleName, Program.isModuleName name = true) →
      ReadsAs w.tree files sources →
      ∀ d shown, (run ⟨task, e.delimiters, files, verbosity⟩).Diagnoses w d shown ↔
        FirstRejection e.delimiters sources d ∧
          shown = sources.find? fun s => s.1 = d.template := by
  refine ⟨e.settledBy_compileAll sources, e.settledBy_emit sources hname,
    e.settledBy_mapM_compile sources, ?_⟩
  intro task files verbosity w htask hread d shown
  rw [Diagnoses, run_of_readsAs hread]
  exact perform_diagnoses_iff htask

/-- Two templates of one name, and one between them that cannot be run. The last cannot
be read. -/
def mixedSources : List (String × String) :=
  [("a.html", "x\x7b\x7b.T\x7d\x7d"), ("b.html", "x\n\x7b\x7bif .X\x7d\x7d"), ("a.html", "\x7b\x7b")]

/-- The first and the second in the current directory, the last in the root. -/
def mixedTree : FileTree where
  directories := [["t"]]
  files := [(["t", "a.html"], "x\x7b\x7b.T\x7d\x7d".toUTF8),
    (["t", "b.html"], "x\n\x7b\x7bif .X\x7d\x7d".toUTF8), (["a.html"], "\x7b\x7b".toUTF8)]
  current := ["t"]

/-- What is wrong with the second. -/
def mixedDiagnostic : Diagnostic :=
  ⟨.compile (.unsupported "if" "b.html" 2), "b.html", "x\n\x7b\x7bif .X\x7d\x7d"⟩

/-- The second template is reported by all, though the last is rejected too. -/
theorem reject_alike_mixed :
    (Engine.standard.compileAll mixedSources).value = .error mixedDiagnostic ∧
    (Engine.standard.emit mixedSources (some "views")).value = .error mixedDiagnostic ∧
    (mixedSources.mapM fun s => (Engine.standard.compile s.1 s.2).value) =
      .error mixedDiagnostic ∧
    ∀ task ∈ [Task.check, .generate (some "views") none, .render "a.html" none false none],
      (run ⟨task, .standard, ["a.html", "./b.html", "/a.html"], .off⟩).Diagnoses
        (.start mixedTree ByteArray.empty) mixedDiagnostic
        (some ("b.html", "x\n\x7b\x7bif .X\x7d\x7d")) := by
  have hfirst : FirstRejection Engine.standard.delimiters mixedSources mixedDiagnostic := by
    refine ⟨[_], _, _, rfl, List.forall_mem_singleton.mpr (Engine.exists_compile_iff.mp ?_),
      Engine.compile_eq_error_iff.mp ?_⟩
    · have hok : (Engine.standard.compile "a.html" "x\x7b\x7b.T\x7d\x7d").value.isOk = true := by
        decide +kernel
      cases hcompile : (Engine.standard.compile "a.html" "x\x7b\x7b.T\x7d\x7d").value with
      | ok t => exact ⟨t, rfl⟩
      | error d =>
        rw [hcompile] at hok
        cases hok
    · with_unfolding_all rfl
  have hread : ReadsAs mixedTree ["a.html", "./b.html", "/a.html"] mixedSources :=
    .cons ⟨by decide +kernel, FileTree.readText_of_find rfl⟩
      (.cons ⟨by decide +kernel, FileTree.readText_of_find rfl⟩
        (.cons ⟨by decide +kernel, FileTree.readText_of_find rfl⟩ .nil))
  obtain ⟨hcompile, hemit, hone, hrun⟩ :=
    reject_alike Engine.standard mixedSources (some "views") (by decide)
  refine ⟨(hcompile.error _).mpr hfirst, (hemit.error _).mpr hfirst, (hone.error _).mpr hfirst,
    fun task htask => ?_⟩
  refine (hrun task _ .off (.start mixedTree ByteArray.empty) ?_ hread mixedDiagnostic _).mpr
    ⟨hfirst, by decide +kernel⟩
  rcases List.mem_cons.mp htask with rfl | htask
  · simp [Task.moduleName]
  rcases List.mem_cons.mp htask with rfl | htask
  · decide
  · rw [List.mem_singleton.mp htask]
    simp [Task.moduleName]

end CommandLine

end Stencil
