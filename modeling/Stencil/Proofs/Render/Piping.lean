import Stencil.Proofs.Render.Spelling
import Stencil.Proofs.Source.Lines
import Stencil.Proofs.Step.Fragment

/-!
# Piping into a function is calling it

An action may pipe a term into a function, or call the function with the term in front
of the other arguments. The two are read along different ways, and they become different
steps: in one the term is the head of the chain and the call its first stage, in the
other the call is the head. They come to the same thing
(`Stencil.Chain.eval_piped`): the term is evaluated before the arguments in both, so
that the same value is found, or the same of several errors.

Actions that can be run are given here as they are written, with all blanks, and with
the chain they say (`Stencil.TermText`, `Stencil.CallText`, `Stencil.StageText`). The
main statement is `Stencil.Engine.piped_renders_as_called`.
-/

namespace Stencil

open Cursor

/-! ### Written calls -/

/-- **A term as it is written**: a path, the dot or a literal, and the term it says. -/
structure TermText where
  leaf : LeafText
  term : Term
  operand_eq : leaf.operand = term.operand

/-- An argument of a call: a term with a gap before it. -/
structure ArgumentText where
  gap : Gap
  written : TermText

def ArgumentText.chars (a : ArgumentText) : List Char := a.gap.chars ++ a.written.leaf.chars

/-- **A call as it is written**: a name that is no value of its own, and arguments. -/
structure CallText where
  name : Identifier
  isName : name.text ∉ ["true", "false", "nil"]
  args : List ArgumentText

namespace CallText

/-- The arguments of a call as they are written. -/
def argsChars (c : CallText) : List Char := c.args.flatMap ArgumentText.chars

def chars (c : CallText) : List Char := c.name.chars ++ c.argsChars

/-- The terms that the arguments say. -/
def terms (c : CallText) : List Term := c.args.map fun a => a.written.term

/-- What a call says. -/
def call (c : CallText) : Call := ⟨c.name.text, c.terms⟩

end CallText

/-- **A stage as it is written**: a call behind a bar with blanks around it. -/
structure StageText where
  before : Blanks
  after : Blanks
  written : CallText

namespace StageText

def chars (s : StageText) : List Char :=
  s.before.chars ++ '|' :: (s.after.chars ++ s.written.chars)

/-- What a stage says. -/
def call (s : StageText) : Call := s.written.call

end StageText

/-! ### Written chains -/

/-- A leaf with arguments behind it. -/
def LeafText.applied (l : LeafText) : List ArgumentText → CommandText
  | [] => .last (.leaf l)
  | a :: others => .more (.leaf l) a.gap (a.written.leaf.applied others)

namespace LeafText

theorem chars_applied (l : LeafText) (args : List ArgumentText) :
    (l.applied args).chars = l.chars ++ args.flatMap ArgumentText.chars := by
  induction args generalizing l with
  | nil => simp [applied, CommandText.chars, OperandText.chars]
  | cons a others ih =>
    simp [applied, CommandText.chars, OperandText.chars, ih, ArgumentText.chars]

theorem operands_applied (l : LeafText) (args : List ArgumentText) (offset : Nat) :
    (l.applied args).operands offset =
      l.operand :: args.map fun a => a.written.term.operand := by
  induction args generalizing l offset with
  | nil => simp [applied, CommandText.operands, OperandText.operand]
  | cons a others ih =>
    simp [applied, CommandText.operands, OperandText.operand, ih, a.written.operand_eq]

theorem first_applied (l : LeafText) (args : List ArgumentText) :
    (l.applied args).first = .leaf l := by
  cases args <;> rfl

end LeafText

/-- The name of a call as a leaf. -/
def CallText.leaf (c : CallText) : LeafText := .identifier c.name c.isName

/-- A call as a command. -/
def CallText.command (c : CallText) : CommandText := c.leaf.applied c.args

theorem CallText.operands_command (c : CallText) (offset : Nat) :
    c.command.operands offset = c.call.operands := by
  rw [command, LeafText.operands_applied]
  simp [leaf, LeafText.operand, call, terms, Call.operands]

/-- A command with stages behind it. -/
def CommandText.passed (t : CommandText) : List StageText → CommandsText
  | [] => .last t
  | s :: others => .more t s.before s.after (s.written.command.passed others)

namespace CommandText

theorem chars_passed (t : CommandText) (stages : List StageText) :
    (t.passed stages).chars = t.chars ++ stages.flatMap StageText.chars := by
  induction stages generalizing t with
  | nil => simp [passed, CommandsText.chars]
  | cons s others ih =>
    simp [passed, CommandsText.chars, ih, StageText.chars, CallText.command, CallText.chars,
      CallText.argsChars, CallText.leaf, LeafText.chars_applied, LeafText.chars]

theorem operands_passed (t : CommandText) (stages : List StageText) (offset : Nat) :
    ((t.passed stages).commands offset).map Command.operands =
      t.operands offset :: (stages.map StageText.call).map Call.operands := by
  induction stages generalizing t offset with
  | nil => rfl
  | cons s others ih =>
    rw [passed, CommandsText.commands, List.map_cons, ih, CallText.operands_command]
    rfl

theorem first_passed (t : CommandText) (stages : List StageText) :
    (t.passed stages).first = t := by
  cases stages <;> rfl

end CommandText

/-! ### An action alone -/

/-- No text, whatever would be trimmed of it. -/
def TextPart.nothing (trimStart trimEnd : Bool) : TextPart trimStart trimEnd :=
  ⟨TextPart.empty.lead, [], TextPart.empty.trail, fun _ => rfl, fun _ => rfl,
    fun _ => stops_nil, fun _ => stops_nil⟩

namespace CommandsText

variable (t : CommandsText) (m m' : Margin)

/-- **The source of an action** between double braces. -/
def actionSource : String :=
  String.ofList (openBraces ++ (m.opening ++ (t.chars ++ (m'.closing ++ closeBraces))))

/-- The template that consists of an action. -/
def template (h : t.first.first.keyword? = none) : TemplateText openBraces closeBraces false :=
  .item ⟨m, .action (.plain t) h m'⟩ (.nothing _ _) (noneInside_nil _ _)
    (.last (.nothing _ _) (by simp [TextPart.nothing, TextPart.empty, TextPart.chars, openBraces]))

/-- An action alone is read as the pipeline it says. -/
theorem parse_actionSource (h : t.first.first.keyword? = none) :
    ∃ offset, parse .standard (t.actionSource m m') =
      .ok [.action 0 ⟨offset, [], t.commands offset⟩] := by
  have hrest : (start (t.actionSource m m')).rest = (t.template m m' h).chars := by
    simp [start, actionSource, template, TemplateText.chars, TextPart.chars, TextPart.nothing,
      TextPart.empty, ItemText.chars, ContentText.chars, PipelineText.chars]
  rw [parse_standard, (t.template m m' h).readNodes_chars hrest]
  exact ⟨_, rfl⟩

/-- **An action alone compiles to the chain it says.** -/
theorem compile_actionSource {e : Engine} (hstandard : e.delimiters = .standard) (name : String)
    (h : t.first.first.keyword? = none) {c : Chain}
    (hoperands : ∀ offset, (t.commands offset).map Command.operands =
      c.head.operands :: c.stages.map Call.operands) :
    (e.compile name (t.actionSource m m')).value = .ok ⟨name, .steps [⟨1, .chain c⟩]⟩ := by
  obtain ⟨offset, hparse⟩ := t.parse_actionSource m m' h
  rw [← hstandard] at hparse
  have hline : (LineIndex.ofSource (t.actionSource m m')).lineAt 0 = 1 := by
    rw [LineIndex.lineAt_ofSource, newlinesBefore, List.take_zero, List.count_nil]
  refine Engine.compile_value_eq_ok_iff.mpr ⟨_, _, hparse, ?_, rfl⟩
  rw [Step.listOfNodes_eq_ok_iff, ← hline]
  exact .action ⟨rfl, hoperands offset⟩ .nil

end CommandsText

/-! ### Evaluation -/

/-- **A value that is piped into a function** is its first argument. -/
theorem Chain.eval_piped (registry : Registry) (data : Value) (t : Term) (c : Call)
    (stages : List Call) :
    Chain.eval registry data ⟨.term t, c :: stages⟩ =
      Chain.eval registry data ⟨.call ⟨c.name, t :: c.args⟩, stages⟩ := by
  simp only [Chain.eval, Head.eval, evalStages, Call.eval, Term.evalAll]
  cases t.eval data with
  | error e => rfl
  | ok v =>
    cases Term.evalAll data c.args with
    | error e => rfl
    | ok vs =>
      simp only [Logged.quiet, List.singleton_append, List.nil_append]
      cases asRender (registry.call c.name (v :: vs)).value with
      | error e => rfl
      | ok w => rfl

section Failure

variable {registry : Registry} {data : Value} {c : Call}

/-- A call with a term that cannot be evaluated fails with the first of them. -/
theorem Chain.eval_call_of_access {error : AccessError}
    (h : Term.evalAll data c.args = .error error) (stages : List Call) :
    (Chain.eval registry data ⟨.call c, stages⟩).value = .error (.access error) := by
  simp only [Chain.eval, Head.eval, Call.eval, h, Logged.quiet]

/-- A call that fails on its arguments is the failure of the chain. -/
theorem Chain.eval_call_of_failed {values : List Value} {error : FunctionError}
    (h : Term.evalAll data c.args = .ok values)
    (hcall : (registry.call c.name values).value = .error error) (stages : List Call) :
    (Chain.eval registry data ⟨.call c, stages⟩).value = .error (.function error) := by
  simp only [Chain.eval, Head.eval, Call.eval, h, List.nil_append, hcall, asRender]

/-- A chain that fails leaves the sink as it was. -/
theorem Step.renderAll_chain_of_failed {c : Chain} {error : RenderError}
    (h : (c.eval registry data).value = .error error) (name : String) (sink : Sink) (line : Nat) :
    (renderAll registry data name sink [⟨line, .chain c⟩]).value = ⟨sink, .error error⟩ := by
  simp only [renderAll, Step.render, Output.eval, h, Except.map]

end Failure

/-- The rendering of an action alone is that of its chain. -/
theorem Step.renderAll_chain (registry : Registry) (data : Value) (name : String) (sink : Sink)
    (line : Nat) {c c' : Chain} (h : c.eval registry data = c'.eval registry data) :
    renderAll registry data name sink [⟨line, .chain c⟩] =
      renderAll registry data name sink [⟨line, .chain c'⟩] := by
  simp only [renderAll, Step.render, Output.eval, Step.failure, h]

/-! ### The two ways to write it -/

section Piping

variable (a : ArgumentText) (f : StageText) (stages : List StageText) (m m' : Margin)

/-- **A term piped into a function**, and further stages. -/
def pipedSource : String :=
  String.ofList (openBraces ++ (m.opening ++ (a.written.leaf.chars ++ (f.chars ++
    (stages.flatMap StageText.chars ++ (m'.closing ++ closeBraces))))))

/-- **A function called with a term** in front of its arguments, and further stages. -/
def calledSource : String :=
  String.ofList (openBraces ++ (m.opening ++ (f.written.name.chars ++ (a.chars ++
    (f.written.argsChars ++ (stages.flatMap StageText.chars ++ (m'.closing ++ closeBraces)))))))

/-- The chain of a term that is piped into a function. -/
def pipedChain : Chain := ⟨.term a.written.term, f.call :: stages.map StageText.call⟩

/-- The chain of a function that is called with a term in front. -/
def calledChain : Chain :=
  ⟨.call ⟨f.written.name.text, a.written.term :: f.written.terms⟩, stages.map StageText.call⟩

/-- A term is no keyword. -/
theorem TermText.keyword?_leaf (t : TermText) : t.leaf.keyword? = none := by
  obtain ⟨leaf, term, hoperands⟩ := t
  cases leaf with
  | identifier name h => rcases term with path | _ | (_ | b | n | s) <;> cases hoperands
  | _ => rfl

theorem Keyword.ofText?_eq_none {s : String} (h : ∀ k : Keyword, s ≠ k.text) :
    Keyword.ofText? s = none :=
  List.find?_eq_none.mpr fun k _ => by simpa using (h k).symm

theorem pipedSource_eq : pipedSource a f stages m m' =
    ((a.written.leaf.applied []).passed (f :: stages)).actionSource m m' := by
  rw [pipedSource, CommandsText.actionSource, CommandText.chars_passed, LeafText.chars_applied]
  simp

theorem calledSource_eq : calledSource a f stages m m' =
    ((f.written.leaf.applied (a :: f.written.args)).passed stages).actionSource m m' := by
  rw [calledSource, CommandsText.actionSource, CommandText.chars_passed, LeafText.chars_applied]
  simp [CallText.leaf, CallText.argsChars, LeafText.chars]

variable {e : Engine} (hstandard : e.delimiters = .standard) (name : String)

include hstandard

theorem compile_pipedSource :
    (e.compile name (pipedSource a f stages m m')).value =
      .ok ⟨name, .steps [⟨1, .chain (pipedChain a f stages)⟩]⟩ := by
  rw [pipedSource_eq]
  refine CommandsText.compile_actionSource _ m m' hstandard name ?_ fun offset => ?_
  · rw [CommandText.first_passed, LeafText.first_applied]
    exact a.written.keyword?_leaf
  · rw [CommandText.operands_passed, LeafText.operands_applied, a.written.operand_eq]
    rfl

theorem compile_calledSource (hf : ∀ k : Keyword, f.written.name.text ≠ k.text) :
    (e.compile name (calledSource a f stages m m')).value =
      .ok ⟨name, .steps [⟨1, .chain (calledChain a f stages)⟩]⟩ := by
  rw [calledSource_eq]
  refine CommandsText.compile_actionSource _ m m' hstandard name ?_ fun offset => ?_
  · rw [CommandText.first_passed, LeafText.first_applied]
    exact Keyword.ofText?_eq_none hf
  · rw [CommandText.operands_passed, LeafText.operands_applied]
    simp [CallText.leaf, LeafText.operand, calledChain, Head.operands, Call.operands,
      CallText.terms]

end Piping

/-- **Piping into a function is calling it with the piped value first.** Let `a` be a
path, the dot or a literal, `f` a call of a function whose name is no keyword, and
`stages` any further stages. Piping `a` into `f` and calling `f` with `a` before its
other arguments both compile, and leave behind the same in every rendering: the same
bytes, the same outcome and the same log. Of several terms that cannot be evaluated it
is the first in the order of the call that is reported, and if all can, then what is
wrong with the call. -/
theorem Engine.piped_renders_as_called {e : Engine} (hstandard : e.delimiters = .standard)
    (name : String) (a : ArgumentText) (f : StageText)
    (hf : ∀ k : Keyword, f.written.name.text ≠ k.text) (stages : List StageText)
    (m m' : Margin) :
    ∃ piped called : Template,
      (e.compile name (pipedSource a f stages m m')).value = .ok piped ∧
      (e.compile name (calledSource a f stages m m')).value = .ok called ∧
      ∀ registry data sink,
        piped.render registry data sink = called.render registry data sink ∧
        (∀ error, Term.evalAll data (a.written.term :: f.written.terms) = .error error →
          (piped.render registry data sink).value = ⟨sink, .error (.access error)⟩) ∧
        ∀ values error, Term.evalAll data (a.written.term :: f.written.terms) = .ok values →
          (registry.call f.written.name.text values).value = .error error →
          (piped.render registry data sink).value = ⟨sink, .error (.function error)⟩ := by
  refine ⟨_, _, compile_pipedSource a f stages m m' hstandard name,
    compile_calledSource a f stages m m' hstandard name hf, fun registry data sink => ?_⟩
  have heval : (pipedChain a f stages).eval registry data =
      (calledChain a f stages).eval registry data := Chain.eval_piped ..
  have hrender := Step.renderAll_chain registry data name sink 1 heval
  refine ⟨hrender, fun error herror => ?_, fun values error hvalues herror => ?_⟩
  · refine Step.renderAll_chain_of_failed ?_ name sink 1
    rw [heval]
    exact Chain.eval_call_of_access herror _
  · refine Step.renderAll_chain_of_failed ?_ name sink 1
    rw [heval]
    exact Chain.eval_call_of_failed hvalues herror _

/-- One blank. -/
def Gap.space : Gap := ⟨⟨[' '], List.all_eq_true.mp rfl⟩, by decide⟩

/-- An identifier of one letter. -/
def Identifier.letter (c : Char) (h : isIdentifierStart c = true) : Identifier :=
  ⟨c, [], h, List.forall_mem_nil _⟩

/-- A path piped into a function with the dot for its other argument, and a further
stage. -/
theorem Engine.piped_renders_as_called_path :
    Engine.standard.delimiters = .standard ∧ (∀ k : Keyword, "f" ≠ k.text) ∧
    ∃ piped called : Template,
      (Engine.standard.compile "t" "\x7b\x7b.A | f . | g\x7d\x7d").value = .ok piped ∧
      (Engine.standard.compile "t" "\x7b\x7bf .A . | g\x7d\x7d").value = .ok called ∧
      ∀ registry data sink, piped.render registry data sink = called.render registry data sink := by
  have hf : ∀ k : Keyword, "f" ≠ k.text := by
    intro k
    cases k <;> decide
  obtain ⟨piped, called, hpiped, hcalled, hrender⟩ := Engine.piped_renders_as_called
    (e := .standard) rfl "t"
    ⟨.space, ⟨.field (.letter 'A' rfl) [], .field ⟨["A"], by decide⟩, rfl⟩⟩
    ⟨Gap.space.toBlanks, Gap.space.toBlanks,
      ⟨.letter 'f' rfl, by decide, [⟨.space, ⟨.dot, .dot, rfl⟩⟩]⟩⟩ hf
    [⟨Gap.space.toBlanks, Gap.space.toBlanks, ⟨.letter 'g' rfl, by decide, []⟩⟩] .empty .empty
  exact ⟨rfl, hf, piped, called, hpiped, hcalled, fun registry data sink =>
    (hrender registry data sink).1⟩

end Stencil
