import Stencil.CommandLine.Session

/-!
# What a session does to the world

A session is taken apart from its end: if it succeeds, every step did
(`Stencil.CommandLine.Session.bind_eq_ok_iff`), and if it fails, some step did
(`Stencil.CommandLine.Session.bind_eq_error_iff`). A step that looks, reports or works
on templates is quiet: nothing but the log changes. So a session of quiet steps and
one last step that fails quietly fails quietly
(`Stencil.CommandLine.Session.Quiet.bind_failsQuietly`).
-/

namespace Stencil

namespace CommandLine

/-- **Two worlds agree**: nothing but the log is different. -/
structure World.Agrees (w w' : World) : Prop where
  tree : w'.tree = w.tree
  input : w'.input = w.input
  output : w'.output = w.output

theorem World.Agrees.refl (w : World) : w.Agrees w := ⟨rfl, rfl, rfl⟩

theorem World.Agrees.trans {w w' w'' : World} (h : w.Agrees w') (h' : w'.Agrees w'') :
    w.Agrees w'' :=
  ⟨h'.tree.trans h.tree, h'.input.trans h.input, h'.output.trans h.output⟩

theorem World.agrees_report (w : World) (events : List LogEvent) : w.Agrees (w.report events) :=
  ⟨rfl, rfl, rfl⟩

namespace Session

variable {α β : Type} {x : Session α} {f : α → Session β} {w w' w'' : World}

/-! ### Taking sessions apart -/

theorem pure_eq_ok_iff {a b : α} : (pure a : Session α) w = .ok b w' ↔ a = b ∧ w = w' := by
  change EStateM.Result.ok a w = .ok b w' ↔ _
  simp

theorem throw_eq_error_iff {failure failure' : Failure} :
    (throw failure : Session α) w = .error failure' w' ↔ failure = failure' ∧ w = w' := by
  change EStateM.Result.error failure w = .error failure' w' ↔ _
  simp

/-- A session succeeds if its first part and its second do. -/
theorem bind_eq_ok_iff {b : β} :
    (x >>= f) w = .ok b w'' ↔ ∃ a w', x w = .ok a w' ∧ f a w' = .ok b w'' := by
  change EStateM.bind x f w = _ ↔ _
  unfold EStateM.bind
  cases x w <;> simp [and_assoc]

/-- A session fails if its first part does, or its second. -/
theorem bind_eq_error_iff {failure : Failure} :
    (x >>= f) w = .error failure w'' ↔
      x w = .error failure w'' ∨ ∃ a w', x w = .ok a w' ∧ f a w' = .error failure w'' := by
  change EStateM.bind x f w = _ ↔ _
  unfold EStateM.bind
  cases x w <;> simp [and_assoc]

section Steps

variable {see : World → Except Failure α} {events : List LogEvent}
  {sources : List (String × String)} {work : Logged (Except Diagnostic α)} {failure : Failure}

theorem look_apply (see : World → Except Failure α) (w : World) : look see w =
    match see w with
    | .ok a => .ok a w
    | .error failure => .error failure w := by
  change (match see w with | .ok a => pure a | .error failure => throw failure : Session α) w = _
  cases see w <;> rfl

theorem look_eq_ok_iff {a : α} : look see w = .ok a w' ↔ see w = .ok a ∧ w = w' := by
  rw [look_apply]
  cases see w <;> simp

theorem look_eq_error_iff : look see w = .error failure w' ↔ see w = .error failure ∧ w = w' := by
  rw [look_apply]
  cases see w <;> simp

theorem record_eq_ok_iff {a : Unit} : record events w = .ok a w' ↔ w.report events = w' := by
  change EStateM.Result.ok () (w.report events) = .ok a w' ↔ _
  simp

theorem compiling_apply : compiling sources work w =
    match work.value with
    | .ok a => .ok a (w.report work.events)
    | .error d => .error (.template sources d) (w.report work.events) := by
  change (match work.value with | .ok a => pure a | .error d => throw (.template sources d) :
    Session α) (w.report work.events) = _
  cases work.value <;> rfl

theorem compiling_eq_ok_iff {a : α} : compiling sources work w = .ok a w' ↔
    work.value = .ok a ∧ w.report work.events = w' := by
  rw [compiling_apply]
  cases work.value <;> simp

theorem compiling_eq_error_iff : compiling sources work w = .error failure w' ↔
    ∃ d, work.value = .error d ∧ .template sources d = failure ∧ w.report work.events = w' := by
  rw [compiling_apply]
  cases work.value <;> simp

end Steps

/-! ### Quiet sessions -/

/-- **A session is quiet**: however it ends, the world agrees with the world before. -/
structure Quiet (x : Session α) : Prop where
  ok {w w' : World} {a : α} (h : x w = .ok a w') : w.Agrees w'
  error {w w' : World} {failure : Failure} (h : x w = .error failure w') : w.Agrees w'

/-- **A session fails quietly**: if it fails, the world agrees with the world before. -/
def FailsQuietly (x : Session α) : Prop :=
  ∀ {w w' : World} {failure : Failure}, x w = .error failure w' → w.Agrees w'

theorem Quiet.failsQuietly (h : Quiet x) : FailsQuietly x := h.error

/-- What comes after a quiet session decides whether a failure is quiet. -/
theorem Quiet.bind_failsQuietly (h : Quiet x) (hf : ∀ a, FailsQuietly (f a)) :
    FailsQuietly (x >>= f) := by
  intro w w'' failure hrun
  rcases bind_eq_error_iff.mp hrun with hx | ⟨a, w', hx, ha⟩
  · exact h.error hx
  · exact (h.ok hx).trans (hf a ha)

theorem Quiet.bind (h : Quiet x) (hf : ∀ a, Quiet (f a)) : Quiet (x >>= f) where
  ok hrun := by
    obtain ⟨a, w', hx, ha⟩ := bind_eq_ok_iff.mp hrun
    exact (h.ok hx).trans ((hf a).ok ha)
  error hrun := h.bind_failsQuietly (fun a => (hf a).failsQuietly) hrun

theorem quiet_pure (a : α) : Quiet (pure a) where
  ok h := (pure_eq_ok_iff.mp h).2 ▸ .refl _
  error h := by cases h

theorem quiet_throw (failure : Failure) : Quiet (throw failure : Session α) where
  ok h := by cases h
  error h := (throw_eq_error_iff.mp h).2 ▸ .refl _

theorem quiet_look (see : World → Except Failure α) : Quiet (look see) where
  ok h := (look_eq_ok_iff.mp h).2 ▸ .refl _
  error h := (look_eq_error_iff.mp h).2 ▸ .refl _

theorem quiet_record (events : List LogEvent) : Quiet (record events) where
  ok h := record_eq_ok_iff.mp h ▸ World.agrees_report _ events
  error h := by cases h

theorem quiet_compiling (sources : List (String × String))
    (work : Logged (Except Diagnostic α)) : Quiet (compiling sources work) where
  ok h := (compiling_eq_ok_iff.mp h).2 ▸ World.agrees_report _ work.events
  error h := by
    obtain ⟨d, -, -, rfl⟩ := compiling_eq_error_iff.mp h
    exact World.agrees_report _ work.events

end Session

end CommandLine

end Stencil
