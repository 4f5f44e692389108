import Stencil.Proofs.CommandLine.Steps
import Stencil.Proofs.Engine.Rejection

/-!
# A run writes all or nothing

Every step of a run but the last is quiet, and the last writes the output in full or
fails before it writes. So a run that fails has written nothing
(`Stencil.CommandLine.run_failsQuietly`), and a run that succeeds has written what the
task is about and nothing else (`Stencil.CommandLine.Achieved`). It fails only if there
is nothing that the task could have achieved
(`Stencil.CommandLine.run_all_or_nothing`).
-/

namespace Stencil

/-! ### The last source of a name -/

/-- **The last source of a name** in a list. -/
def LastOf (sources : List (String × String)) (name source : String) : Prop :=
  ∃ before after, sources = before ++ (name, source) :: after ∧ ∀ s ∈ after, s.1 ≠ name

theorem LastOf.cons {sources : List (String × String)} {name source : String}
    (h : LastOf sources name source) (s : String × String) : LastOf (s :: sources) name source := by
  obtain ⟨before, after, rfl, hafter⟩ := h
  exact ⟨s :: before, after, rfl, hafter⟩

namespace Engine

variable {e : Engine} {l l' : Library} {sources : List (String × String)} {name source : String}
  {t : Template}

theorem name_of_compile (h : (e.compile name source).value = .ok t) : t.name = name := by
  rw [compile_value] at h
  split at h
  · cases h
  · split at h
    · cases h
    · cases h
      rfl

/-- A template in a library is that of the last source of its name, or it was there
before. -/
theorem lastOf_of_compileInto (h : (e.compileInto l sources).value = .ok l')
    (ht : l'.get? name = some t) :
    (∃ source, LastOf sources name source ∧ (e.compile name source).value = .ok t) ∨
      (∀ s ∈ sources, s.1 ≠ name) ∧ l.get? name = some t := by
  induction sources generalizing l with
  | nil =>
    cases h
    exact .inr ⟨by simp, ht⟩
  | cons s rest ih =>
    obtain ⟨first, text⟩ := s
    rw [compileInto_cons] at h
    cases hcompile : (e.compile first text).value with
    | error d =>
      rw [hcompile] at h
      cases h
    | ok t' =>
      rw [hcompile] at h
      -- A later source of the name goes first; without one the new template decides.
      rcases ih h with ⟨source, hlast, hsource⟩ | ⟨hrest, hget⟩
      · exact .inl ⟨source, hlast.cons _, hsource⟩
      · rw [Library.get?_insert, name_of_compile hcompile] at hget
        by_cases hname : name = first
        · subst hname
          rw [if_pos rfl] at hget
          cases hget
          exact .inl ⟨text, ⟨[], rest, rfl, hrest⟩, hcompile⟩
        · rw [if_neg hname] at hget
          exact .inr ⟨List.forall_mem_cons.mpr ⟨Ne.symm hname, hrest⟩, hget⟩

/-- **Of several sources of one name the last is in the library.** -/
theorem lastOf_of_compileAll (h : (e.compileAll sources).value = .ok l)
    (ht : l.get? name = some t) :
    ∃ source, LastOf sources name source ∧ (e.compile name source).value = .ok t := by
  rcases lastOf_of_compileInto h ht with hlast | ⟨-, hempty⟩
  · exact hlast
  · cases hempty

end Engine

/-- **A file was written**: the path leads to a file with these bytes, and all other
files and the directories are as before. -/
structure FileTree.Wrote (path : String) (bytes : ByteArray) (t t' : FileTree) : Prop where
  found : t'.find path = .ok (.file bytes)
  others : ∃ place, t.newPlace path = .ok place ∧
    ∀ q, t'.contents? q = if q = place then some bytes else t.contents? q
  directories : t'.directories = t.directories
  current : t'.current = t.current

theorem FileTree.wrote_setContents {t : FileTree} {path : String} {place : Place}
    (h : t.newPlace path = .ok place) (bytes : ByteArray) :
    Wrote path bytes t (t.setContents place bytes) where
  found := find_setContents h bytes
  others := ⟨place, h, fun q => contents?_setContents t place q bytes⟩
  directories := rfl
  current := rfl

namespace CommandLine

open Session

variable {w w' w'' : World} {output data moduleName : Option String} {bytes : ByteArray}
  {engine : Engine} {sources items : List (String × String)} {template : String}
  {request : Request}

/-! ### The output -/

/-- **The output was delivered**, to the file if one is given and to standard output
otherwise. -/
def Delivered (output : Option String) (bytes : ByteArray) (w w' : World) : Prop :=
  match output with
  | none => w'.tree = w.tree ∧ w'.output = w.output ++ bytes
  | some path => FileTree.Wrote path bytes w.tree w'.tree ∧ w'.output = w.output

theorem delivered_congr (h : w.Agrees w') :
    Delivered output bytes w' w'' ↔ Delivered output bytes w w'' := by
  unfold Delivered
  rw [h.tree, h.output]

theorem delivered_of_writeOutput (h : writeOutput output bytes w = .ok () w') :
    Delivered output bytes w w' := by
  cases output with
  | none =>
    cases h
    exact ⟨rfl, rfl⟩
  | some path =>
    rw [writeOutput_some] at h
    cases hplace : w.tree.newPlace path with
    | error e =>
      rw [hplace] at h
      cases h
    | ok place =>
      rw [hplace] at h
      cases h
      exact ⟨FileTree.wrote_setContents hplace bytes, rfl⟩

theorem exists_writeOutput_of_delivered (h : Delivered output bytes w w'') :
    ∃ w', writeOutput output bytes w = .ok () w' := by
  cases output with
  | none => exact ⟨_, writeOutput_none bytes⟩
  | some path =>
    obtain ⟨place, hplace, -⟩ := h.1.others
    exact ⟨_, by rw [writeOutput_some, hplace]⟩

theorem writeOutput_failsQuietly (output : Option String) (bytes : ByteArray) :
    FailsQuietly (writeOutput output bytes) := by
  intro w w' failure h
  obtain ⟨-, -, -, -, -, rfl⟩ := writeOutput_eq_error_iff.mp h
  exact .refl w

/-! ### Emitting -/

/-- What emitting templates achieves. -/
def Generated (engine : Engine) (sources : List (String × String))
    (moduleName output : Option String) (w w' : World) : Prop :=
  ∃ p, (engine.emit sources moduleName).value = .ok p ∧ Delivered output p.text.toUTF8 w w'

theorem generated_of_generate (h : generate engine sources moduleName output w = .ok () w') :
    Generated engine sources moduleName output w w' := by
  obtain ⟨p, w₁, hemit, hwrite⟩ := bind_eq_ok_iff.mp h
  have hagrees := (quiet_compiling _ _).ok hemit
  exact ⟨p, (compiling_eq_ok_iff.mp hemit).1,
    (delivered_congr hagrees).mp (delivered_of_writeOutput hwrite)⟩

theorem exists_generate_of_generated (h : Generated engine sources moduleName output w w'') :
    ∃ w', generate engine sources moduleName output w = .ok () w' := by
  obtain ⟨p, hemit, hdelivered⟩ := h
  obtain ⟨w', hwrite⟩ := exists_writeOutput_of_delivered
    ((delivered_congr (w.agrees_report (engine.emit sources moduleName).events)).mpr hdelivered)
  exact ⟨w', bind_eq_ok_iff.mpr ⟨p, _, compiling_eq_ok_iff.mpr ⟨hemit, rfl⟩, hwrite⟩⟩

theorem generate_failsQuietly (engine : Engine) (sources : List (String × String))
    (moduleName output : Option String) :
    FailsQuietly (generate engine sources moduleName output) :=
  (quiet_compiling _ _).bind_failsQuietly fun _ => writeOutput_failsQuietly _ _

/-! ### Rendering -/

/-- What rendering a template achieves. The template is that of the last file of the
name, and the output is all that it writes with the data. -/
def Rendered (engine : Engine) (sources : List (String × String)) (template : String)
    (data output : Option String) (w w' : World) : Prop :=
  ∃ library source t v, (engine.compileAll sources).value = .ok library ∧
    LastOf sources template source ∧ (engine.compile template source).value = .ok t ∧
    library.get? template = some t ∧ readData w.tree w.input data = .ok v ∧
    (library.render template v .unlimited).value.outcome = .ok () ∧
    Delivered output (library.render template v .unlimited).value.sink.written w w'

theorem rendered_of_render (h : render engine sources template data output w = .ok () w') :
    Rendered engine sources template data output w w' := by
  obtain ⟨library, w₁, hcompile, hrest⟩ := bind_eq_ok_iff.mp h
  have hagrees := (quiet_compiling _ _).ok hcompile
  have hlibrary := (compiling_eq_ok_iff.mp hcompile).1
  split at hrest
  · next hcontains =>
    obtain ⟨t, ht⟩ := Option.isSome_iff_exists.mp hcontains
    obtain ⟨source, hlast, hsource⟩ := Engine.lastOf_of_compileAll hlibrary ht
    obtain ⟨v, w₂, hlook, hrest⟩ := bind_eq_ok_iff.mp hrest
    obtain ⟨hread, rfl⟩ := look_eq_ok_iff.mp hlook
    -- The data is read after compiling, which has changed nothing but the log.
    rw [hagrees.tree, hagrees.input] at hread
    obtain ⟨_, w₃, hrecord, hrest⟩ := bind_eq_ok_iff.mp hrest
    have hagrees' := hagrees.trans ((quiet_record _).ok hrecord)
    cases houtcome : (library.render template v .unlimited).value.outcome with
    | error e =>
      simp only [houtcome] at hrest
      cases hrest
    | ok u =>
      simp only [houtcome] at hrest
      exact ⟨library, source, t, v, hlibrary, hlast, hsource, ht, hread, houtcome,
        (delivered_congr hagrees').mp (delivered_of_writeOutput hrest)⟩
  · cases hrest

theorem exists_render_of_rendered (h : Rendered engine sources template data output w w'') :
    ∃ w', render engine sources template data output w = .ok () w' := by
  obtain ⟨library, source, t, v, hlibrary, -, -, ht, hread, houtcome, hdelivered⟩ := h
  have hagrees := (w.agrees_report (engine.compileAll sources).events).trans
    (World.agrees_report _ (library.render template v .unlimited).events)
  obtain ⟨w', hwrite⟩ := exists_writeOutput_of_delivered ((delivered_congr hagrees).mpr hdelivered)
  refine ⟨w', bind_eq_ok_iff.mpr ⟨library, _, compiling_eq_ok_iff.mpr ⟨hlibrary, rfl⟩, ?_⟩⟩
  have hcontains : library.contains template = true := Option.isSome_iff_exists.mpr ⟨t, ht⟩
  rw [if_pos hcontains]
  refine bind_eq_ok_iff.mpr ⟨v, _, look_eq_ok_iff.mpr ⟨hread, rfl⟩, ?_⟩
  refine bind_eq_ok_iff.mpr ⟨(), _, record_eq_ok_iff.mpr rfl, ?_⟩
  rw [houtcome]
  exact hwrite

theorem render_failsQuietly (engine : Engine) (sources : List (String × String))
    (template : String) (data output : Option String) :
    FailsQuietly (render engine sources template data output) := by
  refine (quiet_compiling _ _).bind_failsQuietly fun library => ?_
  split
  · refine (quiet_look _).bind_failsQuietly fun v =>
      (quiet_record _).bind_failsQuietly fun _ => ?_
    split
    · exact (quiet_throw _).failsQuietly
    · exact writeOutput_failsQuietly _ _
  · exact (quiet_throw _).failsQuietly

/-! ### Checking -/

/-- What checking templates achieves: that all are accepted is known, and nothing is
written. -/
def Checked (engine : Engine) (sources : List (String × String)) (w w' : World) : Prop :=
  (∀ s ∈ sources, Accepts engine.delimiters s) ∧ w'.tree = w.tree ∧ w'.output = w.output

theorem quiet_check (engine : Engine) (sources items : List (String × String)) :
    Quiet (check engine sources items) := by
  induction items with
  | nil => exact quiet_pure ()
  | cons s rest ih =>
    exact (quiet_compiling _ _).bind fun _ => (quiet_record _).bind fun _ => ih

/-- Checking succeeds if all templates are accepted. -/
theorem exists_check_iff : (∃ w', check engine sources items w = .ok () w') ↔
    ∀ s ∈ items, Accepts engine.delimiters s := by
  induction items generalizing w with
  | nil => exact iff_of_true ⟨w, rfl⟩ (by simp)
  | cons s rest ih =>
    rw [List.forall_mem_cons, ← Engine.exists_compile_iff]
    constructor
    · rintro ⟨w', h⟩
      obtain ⟨t, w₁, hcompile, h⟩ := bind_eq_ok_iff.mp h
      obtain ⟨_, w₂, -, h⟩ := bind_eq_ok_iff.mp h
      exact ⟨⟨t, (compiling_eq_ok_iff.mp hcompile).1⟩, ih.mp ⟨w', h⟩⟩
    · rintro ⟨⟨t, hcompile⟩, hrest⟩
      obtain ⟨w', h⟩ := ih.mpr hrest
      exact ⟨w', bind_eq_ok_iff.mpr ⟨t, _, compiling_eq_ok_iff.mpr ⟨hcompile, rfl⟩,
        bind_eq_ok_iff.mpr ⟨(), _, record_eq_ok_iff.mpr rfl, h⟩⟩⟩

theorem checked_of_check (h : check engine sources sources w = .ok () w') :
    Checked engine sources w w' := by
  have hagrees := (quiet_check engine sources sources).ok h
  exact ⟨exists_check_iff.mp ⟨w', h⟩, hagrees.tree, hagrees.output⟩

/-! ### Runs -/

/-- **What a request is to achieve** between two worlds, on the files as they are read. -/
def Achieved (request : Request) (w w' : World) : Prop :=
  ∃ sources, ReadsAs w.tree request.files sources ∧
    match request.task with
    | .generate moduleName output =>
      Generated (engineOf request.delimiters false) sources moduleName output w w'
    | .render template data strict output =>
      Rendered (engineOf request.delimiters strict) sources template data output w w'
    | .check => Checked (engineOf request.delimiters false) sources w w'

theorem perform_failsQuietly (request : Request) (sources : List (String × String)) :
    FailsQuietly (perform request sources) := by
  unfold perform
  split
  · exact generate_failsQuietly _ _ _ _
  · exact render_failsQuietly _ _ _ _ _
  · exact (quiet_check _ _ _).failsQuietly

/-- **A run that fails has written nothing.** -/
theorem run_failsQuietly (request : Request) : FailsQuietly (run request) :=
  (quiet_look _).bind_failsQuietly fun _ => perform_failsQuietly request _

/-- **A run that succeeds has achieved what was requested.** -/
theorem achieved_of_run (h : run request w = .ok () w') : Achieved request w w' := by
  obtain ⟨sources, w₁, hlook, hperform⟩ := bind_eq_ok_iff.mp h
  obtain ⟨hread, rfl⟩ := look_eq_ok_iff.mp hlook
  refine ⟨sources, readTemplates_eq_ok_iff.mp hread, ?_⟩
  obtain ⟨task, delimiters, files, verbosity⟩ := request
  cases task with
  | generate moduleName output => exact generated_of_generate hperform
  | render template data strict output => exact rendered_of_render hperform
  | check => exact checked_of_check hperform

/-- What can be achieved is achieved by the run. -/
theorem exists_run_of_achieved (h : Achieved request w w'') : ∃ w', run request w = .ok () w' := by
  obtain ⟨sources, hread, hachieved⟩ := h
  rw [run_of_readsAs hread]
  obtain ⟨task, delimiters, files, verbosity⟩ := request
  cases task with
  | generate moduleName output => exact exists_generate_of_generated hachieved
  | render template data strict output => exact exists_render_of_rendered hachieved
  | check => exact exists_check_iff.mpr hachieved.1

/-- **A run writes all or nothing.** It succeeds, and then it has achieved what was
requested and nothing else; or it fails, and then nothing has been written, to no file
and not to standard output, and what was requested could not have been achieved. -/
theorem run_all_or_nothing (request : Request) (w : World) :
    (∃ w', run request w = .ok () w' ∧ Achieved request w w') ∨
    (∃ failure w', run request w = .error failure w' ∧ w'.tree = w.tree ∧
      w'.output = w.output ∧ ∀ w'', ¬Achieved request w w'') := by
  cases hrun : run request w with
  | ok u w' => exact .inl ⟨w', rfl, achieved_of_run hrun⟩
  | error failure w' =>
    have hagrees := run_failsQuietly request hrun
    refine .inr ⟨failure, w', rfl, hagrees.tree, hagrees.output, fun w'' hachieved => ?_⟩
    -- What could be achieved in any world, the run would have achieved.
    obtain ⟨w₁, hok⟩ := exists_run_of_achieved hachieved
    cases hrun.symm.trans hok

end CommandLine

end Stencil
