import Stencil.Proofs.Program.Meaning

/-!
# Transcripts

What steps have to write does not depend on the sink they write to. The transcript
of a list of steps is all of it: the bytes of the texts up to the first step that
cannot be evaluated, and how that ends. Running the steps one after the other leaves
behind what writing the transcript in one piece does
(`Stencil.Step.renderAll_value_eq`), for every sink and whatever it holds already,
because a sink cannot tell two writings from one of both texts.

The log is not part of a transcript. What it shows of a run is in
`Stencil.Step.renderAll_append` and `Stencil.Step.exists_failed_step`: the steps
behind the one that failed have no part in it.
-/

namespace Stencil

/-! ### Writing in pieces -/

namespace Sink

/-- Writing nothing succeeds. -/
theorem write_empty (s : Sink) : s.write .empty = (s, true) := by
  obtain ⟨limit, written⟩ := s
  cases limit with
  | none => simp [write, kept, hasRoom]
  | some limit =>
    have hkept : ByteArray.empty.extract 0 (limit - written.size) = .empty := by
      rw [ByteArray.extract_eq_empty_iff]
      simp
    simp [write, kept, hasRoom, hkept]

theorem write_append_of_room {s : Sink} {bytes : ByteArray} (h : s.hasRoom bytes.size = true)
    (more : ByteArray) : s.write (bytes ++ more) = (s.write bytes).1.write more := by
  obtain ⟨limit, written⟩ := s
  cases limit with
  | none => simp [write, kept, hasRoom, ByteArray.append_assoc]
  | some limit =>
    have hroom : written.size + bytes.size ≤ limit ∨ bytes.size = 0 := by simpa [hasRoom] using h
    -- The first text is kept whole, and the second finds the room that is left.
    have hkept : bytes.extract 0 (limit - written.size) = bytes := by
      rw [← ByteArray.extract_zero_size (b := bytes), ByteArray.extract_extract]
      congr 1
      omega
    simp only [write, kept, hasRoom, ByteArray.extract_append, hkept, ByteArray.size_append,
      ByteArray.append_assoc, Nat.zero_sub, Nat.sub_sub, Prod.mk.injEq, true_and]
    grind

/-- What is written after a text that does not fit is lost. -/
theorem write_append_of_no_room {s : Sink} {bytes : ByteArray} (h : s.hasRoom bytes.size = false)
    (more : ByteArray) : s.write (bytes ++ more) = s.write bytes := by
  obtain ⟨limit, written⟩ := s
  cases limit with
  | none => simp [hasRoom] at h
  | some limit =>
    have hroom : limit < written.size + bytes.size ∧ bytes.size ≠ 0 := by simpa [hasRoom] using h
    have hlost : more.extract (0 - bytes.size) (limit - written.size - bytes.size) = .empty := by
      rw [ByteArray.extract_eq_empty_iff]
      omega
    simp only [write, kept, hasRoom, ByteArray.extract_append, hlost, ByteArray.append_empty,
      ByteArray.size_append, Prod.mk.injEq, true_and]
    grind

end Sink

/-! ### Transcripts -/

/-- **What is to be written, and how it ends.** -/
structure Transcript where
  bytes : ByteArray
  outcome : Except RenderError Unit

namespace Transcript

/-- The transcript of nothing. -/
def empty : Transcript := ⟨.empty, .ok ()⟩

/-- One transcript after another; the other is reached if the first ends well. -/
def append (t t' : Transcript) : Transcript :=
  match t.outcome with
  | .ok () => ⟨t.bytes ++ t'.bytes, t'.outcome⟩
  | .error _ => t

theorem empty_append (t : Transcript) : empty.append t = t := by
  simp [append, empty]

theorem append_assoc (t t' t'' : Transcript) :
    (t.append t').append t'' = t.append (t'.append t'') := by
  obtain ⟨bytes, _ | _⟩ := t <;> obtain ⟨bytes', _ | _⟩ := t' <;>
    simp [append, ByteArray.append_assoc]

/-- The transcript of an evaluation. -/
def ofResult : Except RenderError String → Transcript
  | .ok text => ⟨text.toUTF8, .ok ()⟩
  | .error e => ⟨.empty, .error e⟩

end Transcript

/-- **A transcript is written in one piece.** -/
def Sink.receive (sink : Sink) (t : Transcript) : Rendering :=
  match sink.write t.bytes with
  | (sink', true) => ⟨sink', t.outcome⟩
  | (sink', false) => ⟨sink', .error (.write Sink.refusal)⟩

namespace Sink

theorem receive_empty (sink : Sink) : sink.receive .empty = ⟨sink, .ok ()⟩ := by
  simp only [receive, Transcript.empty, write_empty]

theorem receive_ofResult (sink : Sink) (result : Except RenderError String) :
    sink.receive (.ofResult result) = .ofResult sink result := by
  cases result with
  | ok text => rfl
  | error e => simp only [receive, Transcript.ofResult, write_empty, Rendering.ofResult]

/-- **A sink cannot tell two writings from one.** -/
theorem receive_append (sink : Sink) (t t' : Transcript) :
    sink.receive (t.append t') =
      match sink.receive t with
      | ⟨sink', .ok ()⟩ => sink'.receive t'
      | ⟨sink', .error e⟩ => ⟨sink', .error e⟩ := by
  obtain ⟨bytes, outcome⟩ := t
  cases outcome with
  | error e =>
    simp only [receive, Transcript.append]
    split <;> rfl
  | ok u =>
    rcases hwrite : sink.write bytes with ⟨sink', room⟩
    obtain rfl : sink.hasRoom bytes.size = room := congrArg Prod.snd hwrite
    cases hroom : sink.hasRoom bytes.size with
    | true =>
      simp only [receive, Transcript.append, write_append_of_room hroom, hwrite, hroom]
    | false =>
      simp only [receive, Transcript.append, write_append_of_no_room hroom, hwrite, hroom]

end Sink

/-! ### The transcript of steps -/

namespace Step

variable (registry : Registry) (data : Value)

/-- **The transcript of a list of steps.** -/
def transcript : List Step → Transcript
  | [] => .empty
  | s :: rest => (Transcript.ofResult (s.output.eval registry data).value).append (transcript rest)

theorem transcript_append (steps more : List Step) :
    transcript registry data (steps ++ more) =
      (transcript registry data steps).append (transcript registry data more) := by
  induction steps with
  | nil => exact (Transcript.empty_append _).symm
  | cons s rest ih => rw [List.cons_append, transcript, transcript, ih, Transcript.append_assoc]

/-- Steps with the same outputs have the same transcript, whatever lines they come
from. -/
theorem transcript_eq_of_outputs {steps steps' : List Step}
    (h : steps.map Step.output = steps'.map Step.output) :
    transcript registry data steps = transcript registry data steps' := by
  induction steps generalizing steps' with
  | nil =>
    obtain rfl : steps' = [] := by simpa using h.symm
    rfl
  | cons s rest ih =>
    cases steps' with
    | nil => simp at h
    | cons s' rest' =>
      simp only [List.map_cons, List.cons.injEq] at h
      rw [transcript, transcript, h.1, ih h.2]

/-- **Running steps writes their transcript.** -/
theorem renderAll_value_eq (template : String) (sink : Sink) (steps : List Step) :
    (renderAll registry data template sink steps).value =
      sink.receive (transcript registry data steps) := by
  induction steps generalizing sink with
  | nil => exact (sink.receive_empty).symm
  | cons s rest ih =>
    rw [renderAll_cons_value, render_value, transcript, Sink.receive_append,
      Sink.receive_ofResult]
    rcases Rendering.ofResult sink (s.output.eval registry data).value with ⟨sink', e | u⟩
    · rfl
    · exact ih sink'

/-- A transcript is a text. -/
theorem exists_toUTF8_eq_transcript (steps : List Step) :
    ∃ text : String, text.toUTF8 = (transcript registry data steps).bytes := by
  induction steps with
  | nil => exact ⟨"", by simp [transcript, Transcript.empty]⟩
  | cons s rest ih =>
    obtain ⟨text, htext⟩ := ih
    rw [transcript]
    cases (s.output.eval registry data).value with
    | ok first => exact ⟨first ++ text, by simp [Transcript.ofResult, Transcript.append, ← htext]⟩
    | error e => exact ⟨"", by simp [Transcript.ofResult, Transcript.append]⟩

/-! ### Runs in pieces -/

/-- Running steps and then others: the others only run if the first succeed. -/
theorem renderAll_append (template : String) (sink : Sink) (steps more : List Step) :
    renderAll registry data template sink (steps ++ more) =
      match (renderAll registry data template sink steps).value with
      | ⟨_, .error _⟩ => renderAll registry data template sink steps
      | ⟨sink', .ok ()⟩ => (renderAll registry data template sink' more).after
          (renderAll registry data template sink steps).events := by
  induction steps generalizing sink with
  | nil => rfl
  | cons s rest ih =>
    rw [List.cons_append, renderAll, renderAll]
    rcases hfirst : (s.render registry data sink).value with ⟨sink', e | u⟩
    · rfl
    · rcases hrest : (renderAll registry data template sink' rest).value with ⟨sink'', e | u'⟩
      · simp only [ih, Logged.after, hrest]
      · simp only [ih, Logged.after, hrest, List.append_assoc]

/-- **A run that fails ends in one step**: those before it succeed, and those behind
it might be any others. -/
theorem exists_failed_step {template : String} {sink : Sink} {steps : List Step} {e : RenderError}
    (h : (renderAll registry data template sink steps).value.outcome = .error e) :
    ∃ (done : List Step) (s : Step) (later : List Step), steps = done ++ s :: later ∧
      (renderAll registry data template sink done).value.outcome = .ok () ∧
      (s.render registry data (renderAll registry data template sink done).value.sink).value =
        (renderAll registry data template sink steps).value ∧
      ∀ later', renderAll registry data template sink (done ++ s :: later') =
        renderAll registry data template sink steps := by
  induction steps generalizing sink with
  | nil => cases h
  | cons s rest ih =>
    rw [renderAll] at h
    rcases hfirst : (s.render registry data sink).value with ⟨sink', e' | u⟩
    · -- The first step fails.
      refine ⟨[], s, rest, rfl, rfl, ?_, fun later' => ?_⟩
      · simp [renderAll, hfirst, Logged.quiet]
      · simp [renderAll, hfirst]
    · simp only [hfirst] at h
      obtain ⟨done, t, later, rfl, hdone, hfailed, hlater⟩ := ih h
      refine ⟨s :: done, t, later, rfl, ?_, ?_, fun later' => ?_⟩
      · simpa [renderAll, hfirst, Logged.after] using hdone
      · simpa [renderAll, hfirst, Logged.after] using hfailed
      · simp only [List.cons_append, renderAll, hfirst, hlater later']

end Step

end Stencil
