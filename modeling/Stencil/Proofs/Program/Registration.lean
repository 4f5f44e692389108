import Stencil.Program.Generator
import Stencil.Proofs.Program.Names
import Stencil.Proofs.Program.Reader

/-!
# The registration of routines

A program is made by adding templates one after the other. Some cannot be added, and
leave the program as it is; the others get a routine each, under a name of its own, and
a row in the table that pairs the template with the name. The table does not hold the
routines themselves, so a name has to lead back to the right one. It does, whatever the
templates are called, because all names are different
(`Stencil.Program.routine_names_never_clash`).
-/

namespace Stencil

/-! ### Attempts -/

/-- **An attempt to add a template** to a program. -/
structure Attempt where
  template : String
  nodes : List Node
  lines : LineIndex

/-- What an attempt adds, if it succeeds: the name of the template, and its steps. -/
def Attempt.added? (a : Attempt) : Option (String × List Step) :=
  match Step.ofNodes a.template a.nodes a.lines with
  | .ok steps => some (a.template, steps)
  | .error _ => none

namespace Program

/-- The program after an attempt; one that fails leaves it as it is. -/
def attempt (p : Program) (a : Attempt) : Program :=
  match (p.add a.template a.nodes a.lines).value with
  | .ok p' => p'
  | .error _ => p

theorem attempt_eq (p : Program) (a : Attempt) : p.attempt a =
    match a.added? with
    | some (template, steps) => p.addSteps template steps
    | none => p := by
  unfold attempt add Attempt.added?
  cases Step.ofNodes a.template a.nodes a.lines <;> rfl

/-! ### Functions and rows -/

/-- The routines of a program, as functions with a name. -/
def functions (p : Program) : List Routine := p.routines.map Prod.snd

/-- **The table of a program**: for each template the name of its routine. -/
def table (p : Program) : List (String × String) := p.routines.map fun e => (e.1, e.2.name)

theorem itemLines_eq (p : Program) :
    p.itemLines = p.functions.flatMap Routine.lines ++ tableFrame (p.table.map rowLine) := by
  rw [itemLines, functions, table, List.flatMap_map, List.map_map]
  rfl

/-- **The text of a program** has its functions, and then the rows of its table. -/
theorem lines_eq (p : Program) : p.lines =
    framed p.moduleName
      (p.functions.flatMap Routine.lines ++ tableFrame (p.table.map rowLine)) := by
  rw [← p.itemLines_eq]
  unfold lines framed
  cases p.moduleName <;> rfl

/-! ### All attempts -/

/-- **A program has registered templates**, in a module or not: all its functions have
names of their own, those of the routines in their form; and each template has the
routine with its own statements. -/
structure Registers (p : Program) (moduleName : Option String)
    (added : List (String × List Step)) : Prop where
  moduleName : p.moduleName = moduleName
  nodup : ("templates" :: "with_functions" :: p.routineNames).Nodup
  shaped : ∀ name ∈ p.routineNames, IsRoutineName name
  bodies : (p.routines.map fun e => (e.1, e.2.body)) =
    added.map fun s => (s.1, Step.statements s.1 s.2)

variable {p : Program} {moduleName : Option String} {added : List (String × List Step)}

theorem registers_start (moduleName : Option String) :
    Registers ⟨moduleName, []⟩ moduleName [] := by
  refine ⟨rfl, ?_, ?_, rfl⟩
  · simp [routineNames]
  · simp [routineNames]

/-- **One template more.** -/
theorem Registers.addSteps (h : p.Registers moduleName added) (template : String)
    (steps : List Step) :
    (p.addSteps template steps).Registers moduleName (added ++ [(template, steps)]) := by
  refine ⟨h.moduleName, nodup_names_addSteps h.nodup template steps, fun name hname => ?_, ?_⟩
  · rw [routineNames_addSteps] at hname
    rcases List.mem_append.mp hname with hname | hname
    · exact h.shaped name hname
    · rw [List.mem_singleton.mp hname]
      exact isRoutineName_routineName _ _
  · rw [List.map_append, ← h.bodies]
    simp [Program.addSteps]

/-- **One attempt**, successful or not. -/
theorem Registers.attempt (h : p.Registers moduleName added) (a : Attempt) :
    (p.attempt a).Registers moduleName (added ++ a.added?.toList) := by
  rw [attempt_eq]
  cases a.added? with
  | none =>
    rw [Option.toList_none, List.append_nil]
    exact h
  | some found => exact h.addSteps found.1 found.2

/-- **All attempts**, in their order. -/
theorem Registers.foldl (h : p.Registers moduleName added) (attempts : List Attempt) :
    (attempts.foldl Program.attempt p).Registers moduleName
      (added ++ attempts.filterMap Attempt.added?) := by
  induction attempts generalizing p added with
  | nil =>
    rw [List.filterMap_nil, List.append_nil]
    exact h
  | cons a rest ih =>
    have hrest := ih (h.attempt a)
    rw [List.append_assoc] at hrest
    rw [List.foldl_cons, List.filterMap_cons]
    cases ha : a.added? with
    | none => simpa [ha] using hrest
    | some found => simpa [ha] using hrest

/-- **The names of routines never clash.** The search for a name takes the first that is
free, after at most as many tries as there are names in use, and one more. So whatever
templates are added, and whichever of them cannot be, all routines have different names,
made of small letters, digits and underscores, which are identifiers and not the names
of the two functions that register them; and the table of the text, whose rows are in
the order of the templates that were added, leads from each of them to the routine with
its own statements. -/
theorem routine_names_never_clash (moduleName : Option String) (attempts : List Attempt) :
    (∀ used template, ∃ n ≤ used.length,
      routineName used template = routineCandidate template n ∧
        routineCandidate template n ∉ used ∧ ∀ m < n, routineCandidate template m ∈ used) ∧
    let p := attempts.foldl Program.attempt ⟨moduleName, []⟩
    p.routineNames.Nodup ∧
    (∀ name ∈ p.routineNames, IsRoutineName name ∧ (∃ i : Identifier, i.text = name) ∧
      name ≠ "templates" ∧ name ≠ "with_functions") ∧
    p.lines = framed moduleName
      (p.functions.flatMap Routine.lines ++ tableFrame (p.table.map rowLine)) ∧
    ∃ routines, resolve? (p.functions, p.table) = some routines ∧
      (routines.map fun e => (e.1, e.2.body)) =
        (attempts.filterMap Attempt.added?).map fun s => (s.1, Step.statements s.1 s.2) := by
  refine ⟨routineName_search, ?_⟩
  intro p
  have hp : p.Registers moduleName (attempts.filterMap Attempt.added?) := by
    have hall := (registers_start moduleName).foldl attempts
    rwa [List.nil_append] at hall
  refine ⟨hp.nodup.of_cons.of_cons, fun name hname => ?_, ?_, p.routines, ?_, hp.bodies⟩
  · have hroutine := hp.shaped name hname
    exact ⟨hroutine, hroutine.exists_identifier, hroutine.ne (by decide), hroutine.ne (by decide)⟩
  · rw [p.lines_eq, hp.moduleName]
  · exact resolve?_table hp.nodup

/-- Names that differ in case and in punctuation, one that looks like another with a
number, one that is there twice, and a template that cannot be added. -/
theorem routine_names_never_clash_alike :
    let p := [Attempt.mk "a.b" [] ⟨[]⟩, ⟨"A_B", [], ⟨[]⟩⟩, ⟨"a b", [.control 0 .endWord], ⟨[]⟩⟩,
      ⟨"a_b_2", [], ⟨[]⟩⟩, ⟨"a.b", [], ⟨[]⟩⟩].foldl Program.attempt ⟨none, []⟩
    p.table = [("a.b", "render_a_b"), ("A_B", "render_a_b_2"), ("a_b_2", "render_a_b_2_2"),
      ("a.b", "render_a_b_3")] ∧ p.routineNames.Nodup := by
  refine ⟨by decide +kernel, ?_⟩
  exact (routine_names_never_clash none _).2.1

end Program

end Stencil
