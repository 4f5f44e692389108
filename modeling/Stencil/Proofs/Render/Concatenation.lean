import Stencil.Engine
import Stencil.Proofs.Render.Transcript
import Stencil.Proofs.Source.Recovered
import Stencil.Proofs.Source.Shift
import Stencil.Proofs.Text.Bytes

/-!
# Sources one after the other

A source that ends right behind an item can be continued by any other: no item looks
beyond its right delimiter, and what follows is read as if it stood alone, only further
behind (`Stencil.TemplateText.readNodes_of_passes`). An item at the end that trims would
reach into what follows, so the last one must not.

Steps know nothing of where they come from but a line for the log. So the two sources
in one write what the two templates write one after the other, into every sink, and
the second only if the first succeeds: `Stencil.parse_append`.
-/

namespace Stencil

open Cursor

/-! ### Sources that end behind an item -/

/-- **A source whose last item trims** what follows: behind it there are only blanks. -/
def EndsTrimmed (source : List Char) : Prop :=
  ∃ before blanks, ClosesTrimmed before ∧ (∀ x ∈ blanks, isBlank x = true) ∧
    source = before ++ (closeBraces ++ blanks)

theorem EndsTrimmed.append {source : List Char} (h : EndsTrimmed source) (before : List Char) :
    EndsTrimmed (before ++ source) := by
  obtain ⟨inner, blanks, ⟨x, hx, hsuffix⟩, hblanks, rfl⟩ := h
  refine ⟨before ++ inner, blanks, ⟨x, hx, ?_⟩, hblanks, by simp⟩
  exact hsuffix.trans (List.suffix_append before inner)

namespace TemplateText

/-- **A template that can be continued**: nothing stands behind its last item, and
that item does not trim. -/
def EndsOpen {left right : List Char} : {trim : Bool} → TemplateText left right trim → Prop
  | trim, last text _ => trim = false ∧ text.chars = []
  | _, item _ _ _ others => others.EndsOpen

theorem endsOpen_of_eq_nil (t : TemplateText openBraces closeBraces false) (h : t.chars = []) :
    t.EndsOpen := by
  cases t with
  | last text _ => exact ⟨rfl, h⟩
  | item i text _ others => simp [chars, openBraces] at h

/-- A template whose last node is no text can be continued, unless its last item
trims. -/
theorem endsOpen_of_last {trim : Bool} (t : TemplateText openBraces closeBraces trim)
    (offset : Nat)
    (hlast : ∀ pos text, (t.nodes offset).getLast? ≠ some (.text pos text))
    (hblank : trim = true → ¬∀ x ∈ t.chars, isBlank x = true) (htrim : ¬EndsTrimmed t.chars) :
    t.EndsOpen := by
  induction t generalizing offset with
  | @last trim text h =>
    have hkept : text.kept = [] := by
      by_contra hne
      refine hlast (offset + byteLength text.lead.chars) (String.ofList text.kept) ?_
      rw [nodes, TextPart.nodes, if_neg hne, List.getLast?_singleton]
    -- All that can be left are blanks that an item in front has taken off.
    have hchars : text.chars = text.lead.chars := by
      rw [TextPart.chars, hkept, text.trail_eq_nil rfl, List.append_nil, List.append_nil]
    cases trim with
    | true =>
      refine absurd ?_ (hblank rfl)
      rw [chars, hchars]
      exact text.lead.areBlank
    | false => exact ⟨rfl, hchars.trans (text.lead_eq_nil rfl)⟩
  | @item trim i text h others ih =>
    have hothers : ∀ pos s, (others.nodes (offset + byteLength text.chars + byteLength openBraces +
        byteLength (i.chars ++ closeBraces))).getLast? ≠ some (.text pos s) := by
      intro pos s hsome
      refine hlast pos s ?_
      rw [nodes, List.getLast?_append, List.getLast?_cons, hsome]
      rfl
    refine ih _ hothers ?_ ?_
    · -- An item that trims, with only blanks behind it, would be the last.
      intro htrims hblanks
      refine htrim ⟨text.chars ++ (openBraces ++ i.chars), others.chars, ?_, hblanks, ?_⟩
      · have hcloses := (i.content.closesTrimmed_iff
          (text.chars ++ (openBraces ++ i.margin.opening))).mpr htrims
        simpa [ItemText.chars] using hcloses
      · simp [chars]
    · intro hends
      refine htrim ?_
      have hends := hends.append (text.chars ++ (openBraces ++ (i.chars ++ closeBraces)))
      simpa [chars] using hends

/-- **What is read behind a template that can be continued** is read as if it stood
alone. -/
theorem readNodes_of_passes {trim : Bool} (t : TemplateText openBraces closeBraces trim)
    (hopen : t.EndsOpen) {c d : Cursor} (h : c.Passes t.chars d) :
    readNodes openBraces closeBraces trim c =
      (readNodes openBraces closeBraces false d).map (t.nodes c.offset ++ ·) := by
  induction t generalizing c with
  | @last trim text _ =>
    obtain ⟨rfl, hchars⟩ := hopen
    have hkept : text.kept = [] := by
      rw [TextPart.chars, List.append_eq_nil_iff, List.append_eq_nil_iff] at hchars
      exact hchars.2.1
    rw [chars, hchars] at h
    rw [h.eq_of_nil, nodes, TextPart.nodes, if_pos hkept]
    cases readNodes openBraces closeBraces false c <;> rfl
  | item i text hnone others ih =>
    have hsplit : c.Passes
        ((text.chars ++ (openBraces ++ (i.chars ++ closeBraces))) ++ others.chars) d := by
      simpa [chars] using h
    -- The item in front reads no further than its delimiter, whatever comes behind `d`.
    obtain ⟨e, hsegment, hothers⟩ := hsplit.split
    rw [readNodes_segment i text hnone hsegment, ih hopen hothers, nodes]
    have hoffset : e.offset = c.offset + byteLength text.chars + byteLength openBraces +
        byteLength (i.chars ++ closeBraces) := by
      rw [hsegment.2, byteLength_append, byteLength_append, Nat.add_assoc, Nat.add_assoc]
    rw [hoffset]
    cases readNodes openBraces closeBraces false d with
    | error e => rfl
    | ok nodes => simp [Except.map]

end TemplateText

theorem parse_append_of_endsOpen {first : String} {t : TemplateText openBraces closeBraces false}
    (hchars : t.chars = first.toList) (hopen : t.EndsOpen) (second : String) :
    parse .standard (first ++ second) =
      (shiftResult (List.map (.shift first.utf8ByteSize)) first.utf8ByteSize
        (parse .standard second)).map (t.nodes 0 ++ ·) := by
  have hpasses : (start (first ++ second)).Passes t.chars
      ((start second).shift first.utf8ByteSize) := by
    refine ⟨?_, ?_⟩
    · rw [hchars, start, String.toList_append]
      rfl
    · rw [hchars, byteLength_toList]
      rfl
  rw [parse_standard, t.readNodes_of_passes hopen hpasses, readNodes_shift, parse_standard]
  rfl

/-! ### Steps of moved nodes -/

/-- An offence with its offset moved. -/
def Offence.shift (k : Nat) (e : Offence) : Offence := ⟨e.kind, e.offset + k⟩

section

variable (k : Nat)

theorem Term.ofOperand_shift (pos : Nat) (o : Operand) :
    Term.ofOperand (pos + k) (o.shift k) = (Term.ofOperand pos o).mapError (.shift k) := by
  cases o <;> rfl

theorem Term.ofOperands_shift (pos : Nat) (os : List Operand) :
    Term.ofOperands (pos + k) (os.map (.shift k)) =
      (Term.ofOperands pos os).mapError (.shift k) := by
  induction os with
  | nil => rfl
  | cons o os ih =>
    rw [List.map_cons, Term.ofOperands, Term.ofOperand_shift, ih, Term.ofOperands]
    rcases Term.ofOperand pos o with e | t
    · rfl
    · rcases Term.ofOperands pos os with e | ts <;> rfl

theorem Call.ofOperands_shift (pos : Nat) (name : String) (os : List Operand) :
    Call.ofOperands (pos + k) name (os.map (.shift k)) =
      (Call.ofOperands pos name os).mapError (.shift k) := by
  rw [Call.ofOperands, Term.ofOperands_shift, Call.ofOperands]
  rcases Term.ofOperands pos os with e | ts <;> rfl

theorem Head.ofCommand_shift (c : Command Operand) :
    Head.ofCommand (c.shift k) = (Head.ofCommand c).mapError (.shift k) := by
  obtain ⟨pos, _ | ⟨o, os⟩⟩ := c
  · rfl
  · cases o with
    | identifier name =>
      have hcall := Call.ofOperands_shift k pos name os
      simp only [Head.ofCommand, Command.shift, List.map_cons, Operand.shift, hcall]
      rcases Call.ofOperands pos name os with e | call <;> rfl
    | _ => cases os <;> rfl

theorem Call.ofCommand_shift (c : Command Operand) :
    Call.ofCommand (c.shift k) = (Call.ofCommand c).mapError (.shift k) := by
  obtain ⟨pos, _ | ⟨o, os⟩⟩ := c
  · rfl
  · cases o with
    | identifier name => exact Call.ofOperands_shift k pos name os
    | _ => rfl

theorem Call.ofCommands_shift (cs : List (Command Operand)) :
    Call.ofCommands (cs.map (.shift k)) = (Call.ofCommands cs).mapError (.shift k) := by
  induction cs with
  | nil => rfl
  | cons c cs ih =>
    rw [List.map_cons, Call.ofCommands, Call.ofCommand_shift, ih, Call.ofCommands]
    rcases Call.ofCommand c with e | call
    · rfl
    · rcases Call.ofCommands cs with e | calls <;> rfl

theorem Chain.ofPipeline_shift (p : Pipeline Operand) :
    Chain.ofPipeline (p.shift k) = (Chain.ofPipeline p).mapError (.shift k) := by
  obtain ⟨pos, _ | ⟨name, names⟩, _ | ⟨c, cs⟩⟩ := p
  · rfl
  · simp only [Chain.ofPipeline, Pipeline.shift, List.map_cons, Head.ofCommand_shift,
      Call.ofCommands_shift]
    rcases Head.ofCommand c with e | head
    · rfl
    · rcases Call.ofCommands cs with e | calls <;> rfl
  · rfl
  · rfl

theorem Output.ofNode?_shift (node : Node) :
    Output.ofNode? (node.shift k) = (Output.ofNode? node).mapError (.shift k) := by
  cases node with
  | action pos p =>
    rw [Node.shift, Output.ofNode?, Chain.ofPipeline_shift, Output.ofNode?]
    rcases Chain.ofPipeline p with e | c <;> rfl
  | _ => rfl

end

/-- What nodes write, in order, or the first offence among them. -/
def Output.ofNodes : List Node → Except Offence (List Output)
  | [] => .ok []
  | node :: rest =>
    match Output.ofNode? node with
    | .error e => .error e
    | .ok output? => (Output.ofNodes rest).map (output?.toList ++ ·)

/-- The steps of nodes write what the nodes write. -/
theorem Step.listOfNodes_map_output (lines : LineIndex) (nodes : List Node) :
    (Step.listOfNodes lines nodes).map (List.map Step.output) = Output.ofNodes nodes := by
  induction nodes with
  | nil => rfl
  | cons node rest ih =>
    rw [Step.listOfNodes, Output.ofNodes, ← ih]
    rcases Output.ofNode? node with e | (_ | output)
    · rfl
    · rcases Step.listOfNodes lines rest with e | steps <;> rfl
    · rcases Step.listOfNodes lines rest with e | steps <;> rfl

theorem Output.ofNodes_shift (k : Nat) (nodes : List Node) :
    Output.ofNodes (nodes.map (.shift k)) = (Output.ofNodes nodes).mapError (.shift k) := by
  induction nodes with
  | nil => rfl
  | cons node rest ih =>
    rw [List.map_cons, Output.ofNodes, Output.ofNode?_shift, ih, Output.ofNodes]
    rcases Output.ofNode? node with e | output?
    · rfl
    · rcases Output.ofNodes rest with e | outputs <;> rfl

theorem Output.ofNodes_append {nodes more : List Node} {outputs outputs' : List Output}
    (h : Output.ofNodes nodes = .ok outputs) (h' : Output.ofNodes more = .ok outputs') :
    Output.ofNodes (nodes ++ more) = .ok (outputs ++ outputs') := by
  induction nodes generalizing outputs with
  | nil =>
    cases h
    exact h'
  | cons node rest ih =>
    rw [Output.ofNodes] at h
    rw [List.cons_append, Output.ofNodes]
    rcases hnode : Output.ofNode? node with e | output?
    · rw [hnode] at h
      cases h
    rcases hrest : Output.ofNodes rest with e | others
    · rw [hnode, hrest] at h
      cases h
    · rw [hnode, hrest] at h
      cases h
      simp only [ih hrest, Except.map, List.append_assoc]

/-- The steps of nodes and of others moved behind them write what both write, whatever
the lines. -/
theorem Step.exists_listOfNodes_append {lines lines' : LineIndex} {nodes more : List Node}
    {steps steps' : List Step} (h : Step.listOfNodes lines nodes = .ok steps)
    (h' : Step.listOfNodes lines' more = .ok steps') (index : LineIndex) (k : Nat) :
    ∃ whole, Step.listOfNodes index (nodes ++ more.map (.shift k)) = .ok whole ∧
      whole.map Step.output = (steps ++ steps').map Step.output := by
  have hnodes : Output.ofNodes nodes = .ok (steps.map Step.output) := by
    rw [← Step.listOfNodes_map_output lines, h]
    rfl
  have hmore : Output.ofNodes (more.map (.shift k)) = .ok (steps'.map Step.output) := by
    rw [Output.ofNodes_shift, ← Step.listOfNodes_map_output lines', h']
    rfl
  have hwhole := Output.ofNodes_append hnodes hmore
  rw [← Step.listOfNodes_map_output index] at hwhole
  rcases hsteps : Step.listOfNodes index (nodes ++ more.map (.shift k)) with e | whole
  · rw [hsteps] at hwhole
    cases hwhole
  · rw [hsteps] at hwhole
    exact ⟨whole, hsteps, (Except.ok.inj hwhole).trans List.map_append.symm⟩

/-! ### Compiled templates -/

/-- A compiled template runs the steps of what was read. -/
theorem Engine.compile_value_eq_ok_iff {e : Engine} {name source : String} {t : Template} :
    (e.compile name source).value = .ok t ↔ ∃ nodes steps,
      Stencil.parse e.delimiters source = .ok nodes ∧
      Step.listOfNodes (.ofSource source) nodes = .ok steps ∧ t = ⟨name, .steps steps⟩ := by
  rw [compile, Engine.parse]
  rcases Stencil.parse e.delimiters source with error | nodes
  · simp [Logged.quiet]
  rcases hsteps : Step.listOfNodes (.ofSource source) nodes with offence | steps
  · simp [Template.ofNodes, Step.ofNodes, hsteps, Logged.quiet]
  · simp [Template.ofNodes, Step.ofNodes, hsteps, eq_comm]

/-- Steps that write what two lists of steps write do so one after the other. -/
theorem Template.render_value_of_outputs {steps first second : List Step}
    (h : steps.map Step.output = (first ++ second).map Step.output)
    (name nameFirst nameSecond : String) (registry : Registry) (data : Value) (sink : Sink) :
    (Template.render registry data sink ⟨name, .steps steps⟩).value =
      match (Template.render registry data sink ⟨nameFirst, .steps first⟩).value with
      | ⟨sink', .ok ()⟩ =>
        (Template.render registry data sink' ⟨nameSecond, .steps second⟩).value
      | ⟨sink', .error e⟩ => ⟨sink', .error e⟩ := by
  rcases hfirst : sink.receive (Step.transcript registry data first) with ⟨sink', e | u⟩ <;>
    simp only [Template.render, Step.renderAll_value_eq,
      Step.transcript_eq_of_outputs registry data h, Step.transcript_append, Sink.receive_append,
      hfirst]

/-- **Templates compose at item boundaries.** A source that is empty or whose last
node is no text, and whose last item does not trim what follows, may be continued by
any other. What is read, or the error, is that of the other source, with all positions
moved by the bytes of the first; and what is written is what the first writes and
then, if it succeeds, what the second writes. -/
theorem parse_append {first : String} {nodes : List Node}
    (hparse : parse .standard first = .ok nodes)
    (hlast : first = "" ∨
      ∃ node, nodes.getLast? = some node ∧ ∀ pos text, node ≠ .text pos text)
    (htrim : ¬EndsTrimmed first.toList) (second : String) :
    (∀ more, parse .standard second = .ok more → parse .standard (first ++ second) =
      .ok (nodes ++ more.map (.shift first.utf8ByteSize))) ∧
    (∀ error, parse .standard second = .error error → parse .standard (first ++ second) =
      .error (error.shift first.utf8ByteSize)) ∧
    ∀ (e : Engine) (name nameFirst nameSecond : String) (t t' : Template),
      e.delimiters = .standard → (e.compile nameFirst first).value = .ok t →
      (e.compile nameSecond second).value = .ok t' →
      ∃ whole, (e.compile name (first ++ second)).value = .ok whole ∧
        ∀ registry data sink, (whole.render registry data sink).value =
          match (t.render registry data sink).value with
          | ⟨sink', .ok ()⟩ => (t'.render registry data sink').value
          | ⟨sink', .error error⟩ => ⟨sink', .error error⟩ := by
  obtain ⟨template, hchars, rfl⟩ := TemplateText.exists_of_parse hparse
  have hopen : template.EndsOpen := by
    rcases hlast with rfl | ⟨node, hnode, htext⟩
    · exact template.endsOpen_of_eq_nil hchars
    · refine template.endsOpen_of_last 0 ?_ nofun (hchars ▸ htrim)
      intro pos text hsome
      exact htext pos text (Option.some.inj (hnode.symm.trans hsome))
  have hwhole := parse_append_of_endsOpen hchars hopen second
  refine ⟨?_, ?_, ?_⟩
  · intro more hmore
    rw [hwhole, hmore]
    rfl
  · intro error herror
    rw [hwhole, herror]
    rfl
  · intro e name nameFirst nameSecond t t' hstandard hfirst hsecond
    obtain ⟨nodes, steps, hnodes, hsteps, rfl⟩ := Engine.compile_value_eq_ok_iff.mp hfirst
    obtain ⟨more, steps', hmore, hsteps', rfl⟩ := Engine.compile_value_eq_ok_iff.mp hsecond
    rw [hstandard] at hnodes hmore
    obtain rfl : template.nodes 0 = nodes := Except.ok.inj (hparse.symm.trans hnodes)
    obtain ⟨whole, hsteps'', houtputs⟩ := Step.exists_listOfNodes_append hsteps hsteps'
      (.ofSource (first ++ second)) first.utf8ByteSize
    refine ⟨⟨name, .steps whole⟩, ?_, ?_⟩
    · refine Engine.compile_value_eq_ok_iff.mpr ⟨_, whole, ?_, hsteps'', rfl⟩
      rw [hstandard, hwhole, hmore]
      rfl
    · intro registry data sink
      exact Template.render_value_of_outputs houtputs name nameFirst nameSecond registry data sink

theorem parse_append_dots :
    ∃ nodes, parse .standard "\x7b\x7b.\x7d\x7d" = .ok nodes ∧
      ¬EndsTrimmed "\x7b\x7b.\x7d\x7d".toList ∧
      parse .standard ("\x7b\x7b.\x7d\x7d" ++ "\x7b\x7b.\x7d\x7d") =
        .ok (nodes ++ [.action 5 ⟨7, [], [⟨7, [.dot]⟩]⟩]) ∧
      ∃ t whole, (Engine.standard.compile "dot" "\x7b\x7b.\x7d\x7d").value = .ok t ∧
        (Engine.standard.compile "dots" ("\x7b\x7b.\x7d\x7d" ++ "\x7b\x7b.\x7d\x7d")).value =
          .ok whole ∧
        ∀ registry data sink, (whole.render registry data sink).value =
          match (t.render registry data sink).value with
          | ⟨sink', .ok ()⟩ => (t.render registry data sink').value
          | ⟨sink', .error error⟩ => ⟨sink', .error error⟩ := by
  have hparse : parse .standard "\x7b\x7b.\x7d\x7d" =
      .ok [.action 0 ⟨2, [], [⟨2, [.dot]⟩]⟩] := by
    with_unfolding_all rfl
  have htrim : ¬EndsTrimmed "\x7b\x7b.\x7d\x7d".toList := by
    rintro ⟨before, blanks, ⟨x, -, hsuffix⟩, -, hsource⟩
    have hminus : '-' ∈ "\x7b\x7b.\x7d\x7d".toList := by
      rw [hsource]
      exact List.mem_append_left _ (hsuffix.subset (by simp))
    exact absurd hminus (by decide)
  have hcompile : (Engine.standard.compile "dot" "\x7b\x7b.\x7d\x7d").value =
      .ok ⟨"dot", .steps [⟨1, .chain ⟨.term .dot, []⟩⟩]⟩ :=
    Engine.compile_value_eq_ok_iff.mpr ⟨_, _, hparse, by decide, rfl⟩
  obtain ⟨hread, -, hrender⟩ :=
    parse_append hparse (.inr ⟨_, rfl, by simp⟩) htrim "\x7b\x7b.\x7d\x7d"
  obtain ⟨whole, hwhole, houtput⟩ := hrender .standard "dots" "dot" "dot" _ _ rfl hcompile hcompile
  exact ⟨_, hparse, htrim, hread _ hparse, _, whole, hcompile, hwhole, houtput⟩

end Stencil
