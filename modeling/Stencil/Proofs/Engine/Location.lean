import Stencil.Proofs.Engine.Rejection
import Stencil.Proofs.Source.Lines
import Stencil.Proofs.Source.Progress
import Stencil.Proofs.Source.WellFormed

/-!
# Diagnostics point at what they describe

A template that does not compile is rejected at an offset of its source. That offset is
always a place of the source, so nothing is lost where a diagnostic keeps it within the
source, and its line is the number of line ends before it, and one more.

What stands at the offset depends on what is wrong, and is said here in terms of the
source alone, for all delimiters: `Stencil.SourceError.PointsAt` for a source that cannot
be read, `Stencil.Node.Holds` for one that cannot be run.
-/

namespace Stencil

open Cursor

/-! ### What errors point at -/

/-- **What comes behind a trim marker**, where a minus sign and a blank stand; or behind
none, where they do not. -/
def PastMarker (behind rest : List Char) : Prop :=
  OpensTrimmed behind ∧ behind = '-' :: rest ∨ ¬OpensTrimmed behind ∧ behind = rest

/-- **What an error of a source points at.** An action that is not closed has its left
delimiter there and no right delimiter behind it and its trim marker; a comment that is
not closed has its left delimiter and its beginning there; a bar or a right delimiter
stands where a command is missing; and a character that is not expected stands where it
is said to, or the source ends there. -/
def SourceError.PointsAt (delimiters : Delimiters) (source : String) : SourceError → Prop
  | unclosedAction o => ∃ before behind rest,
      source.toList = before ++ (delimiters.left.toList ++ behind) ∧ byteLength before = o ∧
        PastMarker behind rest ∧ ¬delimiters.right.toList <:+: rest
  | unclosedComment o => ∃ margin : Margin,
      StandsAt source o (delimiters.left.toList ++ (margin.opening ++ ['/', '*']))
  | emptyCommand o => StandsAt source o ['|'] ∨ StandsAt source o delimiters.right.toList
  | unexpectedInput o found => (found = "EOF" ↔ o = source.utf8ByteSize) ∧
      (o < source.utf8ByteSize → ∃ x, StandsAt source o [x] ∧ found = String.singleton x)

/-- **A node holds an offset**: it falls on the item that the node occupies. -/
def Node.Holds (node : Node) (delimiters : Delimiters) (source : String) (nodes : List Node)
    (o : Nat) : Prop :=
  ∃ inside, node.Occupies delimiters source nodes inside ∧
    o ∈ charOffsets node.pos (delimiters.around inside)

/-- **What the cause of a diagnostic points at.** A template that can be read and cannot
be run has a first node that cannot be run, and that node holds the offset. -/
def Cause.PointsAt (delimiters : Delimiters) (source : String) : Cause → Prop
  | .source error => error.PointsAt delimiters source
  | .compile error => ∃ nodes kind template, parse delimiters source = .ok nodes ∧
      error = .unsupported kind template error.offset ∧
      FirstFailure Node.IsSupported
        (fun node o => node.Offends ⟨kind, o⟩ ∧ node.Holds delimiters source nodes o)
        nodes error.offset

/-! ### Sources that cannot be read -/

variable {delimiters : Delimiters} {source : String}

theorem pastMarker_openingTrim (c : Cursor) : PastMarker c.rest c.openingTrim.2.rest := by
  rcases c.openingTrim_eq with ⟨body, hopens, hminus, htrim⟩ | ⟨hnot, htrim⟩
  · rw [htrim]
    exact Or.inl ⟨hopens, hminus.1⟩
  · rw [htrim]
    exact Or.inr ⟨hnot, rfl⟩

theorem pointsAt_unexpectedAt {place : Cursor} (h : (start source).Reaches place) :
    (SourceError.unexpectedAt place).PointsAt delimiters source := by
  obtain ⟨before, hbefore⟩ := h
  have hoffset : place.offset = byteLength before := by
    rw [hbefore.2]
    exact Nat.zero_add _
  have hsize : source.utf8ByteSize = byteLength before + byteLength place.rest := by
    rw [← byteLength_toList, ← byteLength_append, ← hbefore.1]
    rfl
  unfold SourceError.unexpectedAt
  cases hrest : place.rest with
  | nil =>
    rw [hrest] at hsize
    have hend : place.offset = source.utf8ByteSize := hoffset.trans hsize.symm
    exact ⟨iff_of_true rfl hend, fun hlt => absurd hend hlt.ne⟩
  | cons x rest =>
    have hpos := byteLength_pos (List.cons_ne_nil x rest)
    rw [hrest] at hsize
    refine ⟨iff_of_false (fun heof => ?_) (by omega), fun _ =>
      ⟨x, ⟨before, rest, ?_, hoffset.symm⟩, rfl⟩⟩
    · have hlength := congrArg String.length heof
      rw [String.length_singleton] at hlength
      exact absurd hlength (by decide)
    · rw [List.singleton_append, ← hrest]
      exact hbefore.1

/-- **A source that cannot be read is rejected where its error says.** -/
theorem Stopped.pointsAt {e : SourceError}
    (h : Stopped delimiters.left.toList delimiters.right.toList (start source) e) :
    e.PointsAt delimiters source := by
  obtain ⟨opening, inside, hopening, hleft, hitem⟩ := h
  have hbody := (hopening.trans hleft.reaches).trans inside.reaches_openingTrim
  cases hitem with
  | unclosed hright =>
    obtain ⟨before, hbefore⟩ := hopening
    refine ⟨before, inside.rest, inside.openingTrim.2.rest, ?_, ?_, pastMarker_openingTrim inside,
      hright⟩
    · rw [← hleft.1, ← hbefore.1]
      rfl
    · rw [hbefore.2]
      exact (Nat.zero_add _).symm
  | comment hopens =>
    have htrim : inside.openingTrim = (inside.openingTrim.1, inside.openingTrim.2) := rfl
    obtain ⟨margin, -, hmargin⟩ := Margin.exists_of_openingTrim htrim
    exact ⟨margin, hopening.standsAt (hleft.append (hmargin.append hopens))⟩
  | missing hplace hmark hpasses =>
    have hstands := (hbody.trans hplace).standsAt hpasses
    rcases hmark with rfl | rfl
    · exact Or.inl hstands
    · exact Or.inr hstands
  | unexpected hplace => exact pointsAt_unexpectedAt (hbody.trans hplace)

/-! ### Templates that cannot be run -/

/-- What is wrong with a well-formed node is wrong at its position, or inside its item. -/
theorem Node.WellFormed.offset_mem {places : Set Nat} {node : Node} {offence : Offence}
    (h : node.WellFormed places) (hoffends : node.Offends offence) :
    offence.offset = node.pos ∨ offence.offset ∈ places := by
  cases hoffends with
  | control pos keyword => exact Or.inl rfl
  | @action pos p _ hoffends =>
    have hshape : p.Shaped places := h.1.shaped
    refine Or.inr ?_
    cases hoffends with
    | declaration => exact hshape.pos_mem
    | empty => exact hshape.pos_mem
    | @head first rest kind _ hcommands => exact hshape.commands_mem first (by simp [hcommands])
    | @stage first rest _ _ hcommands _ hrest =>
      obtain ⟨before, command, behind, rfl, -, -, hoffset⟩ := hrest
      rw [hoffset]
      exact hshape.commands_mem command (by simp [hcommands])

theorem WellFormed.holds {nodes : List Node} (h : WellFormed delimiters source nodes) {node : Node}
    (hnode : node ∈ nodes) {offence : Offence} (hoffends : node.Offends offence) :
    node.Holds delimiters source nodes offence.offset := by
  obtain ⟨inside, hoccupies, hinside⟩ := h.items node hnode hoffends.isText_eq_false
  refine ⟨inside, hoccupies, ?_⟩
  rcases hinside.offset_mem hoffends with hpos | hmem
  · rw [hpos]
    refine self_mem_charOffsets _ ?_
    simp [Delimiters.around, hoccupies.1]
  · exact charOffsets_back rfl (charOffsets_front rfl hmem)

theorem Node.Holds.isBoundary {node : Node} {nodes : List Node} {o : Nat}
    (h : node.Holds delimiters source nodes o) : IsBoundary source o := by
  obtain ⟨inside, ⟨-, hstands, -⟩, ho⟩ := h
  exact hstands.isBoundary_of_mem ho

/-! ### Diagnostics -/

/-- **What a rejected source points at**, and that it is a place of the source. -/
theorem Rejects.pointsAt {name : String} {d : Diagnostic}
    (h : Rejects delimiters (name, source) d) :
    d.source = source ∧ IsBoundary source d.cause.offset ∧ d.cause.PointsAt delimiters source := by
  cases h with
  | source hparse =>
    have hstopped := stopped_of_parse hparse
    obtain ⟨place, hplace, hoffset⟩ := hstopped.exists_place
    have hboundary : IsBoundary source place.offset := hplace.isBoundary
    rw [← hoffset] at hboundary
    exact ⟨rfl, hboundary, hstopped.pointsAt⟩
  | @compile _ _ nodes _ hparse hsteps =>
    have hwell := wellFormed_of_parse hparse
    obtain ⟨offence, ⟨before, node, behind, rfl, hbefore, hoffends⟩, rfl⟩ :=
      Step.exists_firstFailure_of_ofNodes hsteps
    have hholds := hwell.holds (by simp) hoffends
    refine ⟨rfl, hholds.isBoundary, _, offence.kind, name, hparse, rfl, ?_⟩
    exact ⟨before, node, behind, rfl, hbefore, hoffends, hholds⟩

/-- **Diagnostics point at what they describe.** If a template does not compile, the
offset of the cause is a place of the source, and the diagnostic has that offset: one
byte there, or none at the end of the source, on the line that the line ends before it
make. And what is wrong is wrong there. -/
theorem Engine.compile_error_location (e : Engine) (name source : String) (d : Diagnostic)
    (h : (e.compile name source).value = .error d) :
    d.cause.offset ≤ source.utf8ByteSize ∧ IsBoundary source d.cause.offset ∧
    d.offset = d.cause.offset ∧
    d.length = (if d.cause.offset < source.utf8ByteSize then 1 else 0) ∧
    d.line = newlinesBefore source d.cause.offset + 1 ∧
    d.cause.PointsAt e.delimiters source := by
  have hrejects : Rejects e.delimiters (name, source) d := Engine.compile_eq_error_iff.mp h
  obtain ⟨hsource, hboundary, hpoints⟩ := hrejects.pointsAt
  have hoffset : d.offset = d.cause.offset := by
    rw [Diagnostic.offset, hsource]
    exact Nat.min_eq_left hboundary.le_size
  refine ⟨hboundary.le_size, hboundary, hoffset, ?_, ?_, hpoints⟩
  · rw [Diagnostic.length, hoffset, hsource]
  · rw [Diagnostic.line, hoffset, hsource]
    exact LineIndex.lineAt_ofSource source d.cause.offset

/-- A nested pipeline on the second line, behind a letter of two bytes. -/
theorem Engine.compile_error_location_nested : ∃ d,
    (Engine.standard.compile "page" "é\n\x7b\x7b.A | (f)\x7d\x7d").value = .error d ∧
    d.cause = .compile (.unsupported "parenthesized pipeline" "page" 10) ∧
    IsBoundary "é\n\x7b\x7b.A | (f)\x7d\x7d" 10 ∧ d.offset = 10 ∧ d.length = 1 ∧ d.line = 2 ∧
    d.cause.PointsAt .standard "é\n\x7b\x7b.A | (f)\x7d\x7d" := by
  have hcause : (tryCatch
      ((Engine.standard.compile "page" "é\n\x7b\x7b.A | (f)\x7d\x7d").value.map fun _ => none)
      fun d => .ok (some d.cause)).toOption =
        some (some (.compile (.unsupported "parenthesized pipeline" "page" 10))) := by
    decide +kernel
  cases h : (Engine.standard.compile "page" "é\n\x7b\x7b.A | (f)\x7d\x7d").value with
  | ok t =>
    rw [h] at hcause
    cases hcause
  | error d =>
    rw [h] at hcause
    have hcause := Option.some.inj (Option.some.inj hcause)
    have hoffset : d.cause.offset = 10 := congrArg Cause.offset hcause
    obtain ⟨-, hboundary, hplace, hlength, hline, hpoints⟩ :=
      Engine.compile_error_location .standard "page" "é\n\x7b\x7b.A | (f)\x7d\x7d" d h
    rw [hoffset] at hboundary hplace hlength hline
    exact ⟨d, rfl, hcause, hboundary, hplace, hlength.trans (by decide +kernel),
      hline.trans (by decide +kernel), hpoints⟩

end Stencil
