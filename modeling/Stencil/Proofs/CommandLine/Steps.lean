import Stencil.CommandLine.Run
import Stencil.Proofs.CommandLine.Session
import Stencil.Proofs.FileTree
import Stencil.Proofs.FirstFailure

/-!
# The steps of a run

A run reads the template files, then the data if it renders, and writes at last. The
files are read if each has a base name and a text (`Stencil.CommandLine.ReadsAs`). Only
creating a file can fail when the output is written, and then nothing has been written
(`Stencil.CommandLine.writeOutput_some`).
-/

namespace Stencil

namespace CommandLine

variable {tree : FileTree} {files : List String} {sources : List (String × String)}
  {w w' : World} {request : Request} {failure : Failure}

/-! ### Reading -/

/-- **Files are read as templates**: the base name of each is the name and its text is
the source. -/
def ReadsAs (tree : FileTree) (files : List String) (sources : List (String × String)) : Prop :=
  List.Forall₂ (fun path s => baseName? path = some s.1 ∧ tree.readText path = .ok s.2)
    files sources

theorem readTemplate_eq_ok_iff {path : String} {s : String × String} :
    readTemplate tree path = .ok s ↔
      baseName? path = some s.1 ∧ tree.readText path = .ok s.2 := by
  obtain ⟨name, text⟩ := s
  unfold readTemplate
  by_cases hexists : tree.pathExists path = true
  · rw [if_pos hexists]
    cases baseName? path with
    | none => simp
    | some name' => cases tree.readText path <;> simp
  · rw [if_neg hexists]
    have hunread : tree.readText path ≠ .ok text :=
      fun h => hexists (FileTree.pathExists_of_readText h)
    simp [hunread]

theorem readTemplates_eq_mapM (tree : FileTree) (files : List String) :
    readTemplates tree files = files.mapM (readTemplate tree) := by
  induction files with
  | nil => rfl
  | cons path rest ih =>
    rw [readTemplates, List.mapM_cons, ih]
    cases readTemplate tree path with
    | error f => rfl
    | ok s => cases rest.mapM (readTemplate tree) <;> rfl

theorem readTemplates_eq_ok_iff :
    readTemplates tree files = .ok sources ↔ ReadsAs tree files sources := by
  rw [readTemplates_eq_mapM, mapM_eq_ok_iff]
  simp only [readTemplate_eq_ok_iff, ReadsAs]

/-- When the files are read, the task remains to be done. -/
theorem run_of_readsAs (h : ReadsAs w.tree request.files sources) :
    run request w = perform request sources w := by
  have hlook : Session.look (fun w => readTemplates w.tree request.files) w = .ok sources w :=
    Session.look_eq_ok_iff.mpr ⟨readTemplates_eq_ok_iff.mpr h, rfl⟩
  change EStateM.bind _ (perform request) w = _
  rw [EStateM.bind, hlook]

/-! ### Writing -/

open Session

theorem writeOutput_none (bytes : ByteArray) :
    writeOutput none bytes w = .ok () { w with output := w.output ++ bytes } := rfl

/-- Writing to a file sets its contents, unless there is no place for it. -/
theorem writeOutput_some (path : String) (bytes : ByteArray) :
    writeOutput (some path) bytes w =
      match w.tree.newPlace path with
      | .error e => .error (.file e) w
      | .ok place => .ok () { w with tree := w.tree.setContents place bytes } := by
  have hlook := look_apply (fun w => (w.tree.newPlace path).mapError Failure.file) w
  change EStateM.bind (EStateM.bind (look _) _) _ w = _
  rw [EStateM.bind, EStateM.bind, hlook]
  cases w.tree.newPlace path with
  | error e => rfl
  | ok place =>
    -- The contents are set twice: to nothing at all, and to the bytes.
    change EStateM.Result.ok () { w with
      tree := (w.tree.setContents place ByteArray.empty).setContents place bytes } = _
    rw [FileTree.setContents_setContents]

theorem writeOutput_eq_error_iff {output : Option String} {bytes : ByteArray} :
    writeOutput output bytes w = .error failure w' ↔
      ∃ path e, output = some path ∧ w.tree.newPlace path = .error e ∧
        .file e = failure ∧ w = w' := by
  cases output with
  | none => simp [writeOutput_none]
  | some path =>
    rw [writeOutput_some]
    cases hplace : w.tree.newPlace path <;> simp [hplace]

end CommandLine

end Stencil
