import Stencil.Proofs.Render.Transcript

/-!
# A sink that closes cuts the output and changes nothing else

Rendering a compiled template into a sink with a limit is compared with rendering it
into a sink without one. The first keeps as much of the output of the second as it
takes, ends in the same way if it takes all of it, and with a refused writing
otherwise: `Stencil.Template.render_limited`.
-/

namespace Stencil

/-! ### The two sinks -/

theorem Sink.receive_unlimited (t : Transcript) :
    Sink.unlimited.receive t = ⟨⟨none, t.bytes⟩, t.outcome⟩ := by
  simp [receive, unlimited, write, kept, hasRoom]

theorem Sink.receive_limited (limit : Nat) (t : Transcript) :
    (Sink.limited limit).receive t =
      ⟨⟨some limit, t.bytes.extract 0 (min limit t.bytes.size)⟩,
        if t.bytes.size ≤ limit then t.outcome else .error (.write Sink.refusal)⟩ := by
  have hwrite : (Sink.limited limit).write t.bytes =
      (⟨some limit, t.bytes.extract 0 limit⟩, decide (t.bytes.size ≤ limit)) := by
    simp only [limited, write, kept, hasRoom, ByteArray.empty_append, ByteArray.size_empty,
      Nat.zero_add, Nat.sub_zero, Prod.mk.injEq, true_and]
    grind
  have htwice := ByteArray.extract_extract (a := t.bytes) (i := 0) (j := t.bytes.size) (k := 0)
    (l := limit)
  rw [ByteArray.extract_zero_size, Nat.zero_add, Nat.zero_add] at htwice
  rw [receive, hwrite, htwice]
  by_cases hsize : t.bytes.size ≤ limit
  · simp only [hsize, decide_true, if_true]
  · simp only [hsize, decide_false, if_false]

/-! ### Templates -/

namespace Template

/-- An evaluation that fails leaves behind the output of the steps before it. -/
theorem exists_failed_eval {registry : Registry} {data : Value} {name : String}
    {steps : List Step} {e : RenderError}
    (h : (Template.render registry data .unlimited ⟨name, .steps steps⟩).value.outcome = .error e) :
    ∃ (done : List Step) (s : Step) (later : List Step), steps = done ++ s :: later ∧
      (s.output.eval registry data).value = .error e ∧
      (Template.render registry data .unlimited ⟨name, .steps done⟩).value =
        ⟨(Template.render registry data .unlimited ⟨name, .steps steps⟩).value.sink, .ok ()⟩ := by
  obtain ⟨done, s, later, hsteps, hdone, hfailed, -⟩ := Step.exists_failed_step registry data h
  have hsink : ∃ bytes, (Step.renderAll registry data name .unlimited done).value =
      ⟨⟨none, bytes⟩, .ok ()⟩ := by
    rw [Step.renderAll_value_eq, Sink.receive_unlimited] at hdone ⊢
    exact ⟨_, congrArg _ hdone⟩
  obtain ⟨bytes, hsink⟩ := hsink
  simp only [Template.render] at h ⊢
  rw [Step.render_value, hsink] at hfailed
  refine ⟨done, s, later, hsteps, ?_⟩
  rw [hsink, ← hfailed]
  rw [← hfailed] at h
  cases heval : (s.output.eval registry data).value with
  | error e' =>
    rw [heval] at h
    cases h
    exact ⟨rfl, rfl⟩
  | ok text =>
    -- A text that was evaluated is written, and that does not fail.
    rw [heval] at h
    simp [Rendering.ofResult, Rendering.ofText, Sink.write, Sink.hasRoom] at h

theorem renderText_insert (l : Library) (t : Template) (data : Value) :
    ((l.insert t).renderText t.name data).value =
      (t.render l.functions data .unlimited).value.outcome.map fun _ =>
        (String.fromUTF8? (t.render l.functions data .unlimited).value.sink.written).getD "" := by
  rw [Library.renderText, Library.render, Library.get?, Library.insert, lookupEntry_insertEntry,
    if_pos rfl]
  rfl

/-- **A sink that closes cuts the output and changes nothing else.** Let `full` be
what rendering a compiled template into a sink without limit leaves behind, and `cut`
what it comes to with a limit. The limited sink holds the first bytes of the output.
The outcome is that of the full rendering if all its bytes fit, and a refused writing
otherwise. If it is a failure, the steps behind the one that failed play no part. If
the full rendering fails, it has written the output of the steps before the one that
cannot be evaluated. Rendering to a text succeeds exactly when the full rendering
does, and gives its bytes. -/
theorem render_limited (l : Library) (name : String) (steps : List Step) (data : Value)
    (limit : Nat) :
    let full := (Template.render l.functions data .unlimited ⟨name, .steps steps⟩).value
    let cut := Template.render l.functions data (.limited limit) ⟨name, .steps steps⟩
    cut.value.sink.written = full.sink.written.extract 0 (min limit full.sink.written.size) ∧
    cut.value.outcome =
      (if full.sink.written.size ≤ limit then full.outcome else .error (.write Sink.refusal)) ∧
    (∀ e, cut.value.outcome = .error e → ∃ done s later, steps = done ++ s :: later ∧
      (Template.render l.functions data (.limited limit) ⟨name, .steps done⟩).value.outcome =
        .ok () ∧
      ∀ later', Template.render l.functions data (.limited limit)
        ⟨name, .steps (done ++ s :: later')⟩ = cut) ∧
    (∀ e, full.outcome = .error e → ∃ done s later, steps = done ++ s :: later ∧
      (s.output.eval l.functions data).value = .error e ∧
      (Template.render l.functions data .unlimited ⟨name, .steps done⟩).value =
        ⟨full.sink, .ok ()⟩) ∧
    ∀ text, ((l.insert ⟨name, .steps steps⟩).renderText name data).value = .ok text ↔
      full.outcome = .ok () ∧ text.toUTF8 = full.sink.written := by
  intro full cut
  have hfull : full = ⟨⟨none, (Step.transcript l.functions data steps).bytes⟩,
      (Step.transcript l.functions data steps).outcome⟩ := by
    rw [← Sink.receive_unlimited]
    exact Step.renderAll_value_eq l.functions data name .unlimited steps
  have hcut : cut.value = (Sink.limited limit).receive (Step.transcript l.functions data steps) :=
    Step.renderAll_value_eq l.functions data name (.limited limit) steps
  refine ⟨?_, ?_, ?_, fun e he => exists_failed_eval he, fun text => ?_⟩
  · rw [hcut, Sink.receive_limited, hfull]
  · rw [hcut, Sink.receive_limited, hfull]
  · intro e he
    obtain ⟨done, s, later, hsteps, hdone, -, hlater⟩ :=
      Step.exists_failed_step l.functions data he
    exact ⟨done, s, later, hsteps, hdone, hlater⟩
  · rw [renderText_insert l ⟨name, .steps steps⟩ data]
    change (full.outcome.map fun _ => (String.fromUTF8? full.sink.written).getD "") = _ ↔ _
    obtain ⟨written, hwritten⟩ := Step.exists_toUTF8_eq_transcript l.functions data steps
    have hread : String.fromUTF8? written.toUTF8 = some written := by
      simpa [String.fromUTF8?] using ⟨written.isValidUTF8, rfl⟩
    rw [hfull, ← hwritten]
    cases (Step.transcript l.functions data steps).outcome with
    | error e => simp [Except.map]
    | ok u =>
      simp only [Except.map, hread, Option.getD_some, Except.ok.injEq, true_and]
      exact ⟨fun h => h ▸ rfl, fun h => (String.toByteArray_inj.mp h).symm⟩

end Template

end Stencil
