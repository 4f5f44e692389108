import Stencil.Proofs.FirstFailure
import Stencil.Step.Basic

/-!
# The fragment that can be run

Which nodes can be run, what they become and what is wrong with the others is said
here without the functions that turn nodes into steps. Three sides are given.

* What can be run: `Stencil.Node.IsSupported`.
* What it becomes. A term, a call and the head of a chain each have the operands that
  spell them, and a list of steps belongs to a list of nodes if every chain is spelled
  by the commands of its action (`Stencil.Step.SpelledBy`). A spelling has one meaning,
  so nothing can be dropped or altered on the way.
* What is wrong, and where: `Stencil.Node.Offends`.

The main statement is `Stencil.Step.ofNodes_eq_ok_or_first_offence`: the steps of a
template are those that its nodes spell, and there are some unless a node offends; then
the error is the offence of the first such node.
-/

namespace Stencil

/-! ### What can be run -/

/-- An operand that stands for a value by itself: a field, the dot or a literal. -/
inductive Operand.IsTerm : Operand → Prop
  | field (path : FieldPath) : IsTerm (.field path)
  | dot : IsTerm .dot
  | bool (b : Bool) : IsTerm (.bool b)
  | number (n : Number) : IsTerm (.number n)
  | string (s : String) : IsTerm (.string s)
  | nil : IsTerm .nil

/-- A command that calls a function: its name, then terms. -/
def Command.IsCall (c : Command Operand) : Prop :=
  ∃ name args, c.operands = .identifier name :: args ∧ ∀ o ∈ args, o.IsTerm

/-- A command that a pipeline can start with: a lone term, or a call. -/
def Command.IsHead (c : Command Operand) : Prop :=
  (∃ o, c.operands = [o] ∧ o.IsTerm) ∨ c.IsCall

/-- **A pipeline that can be run** declares nothing, and its commands are a head and
calls. -/
def Pipeline.IsSupported (p : Pipeline Operand) : Prop :=
  p.declarations = [] ∧
    ∃ first rest, p.commands = first :: rest ∧ first.IsHead ∧ ∀ c ∈ rest, c.IsCall

/-- **A node that can be run**: anything but a control item, and of the actions those
with a pipeline that can be run. -/
def Node.IsSupported : Node → Prop
  | text .. => True
  | comment _ => True
  | control .. => False
  | action _ p => p.IsSupported

/-! ### What it becomes -/

/-- The operand that spells a constant. -/
def Constant.operand : Constant → Operand
  | null => .nil
  | bool b => .bool b
  | number n => .number n
  | string s => .string s

/-- The operand that spells a term. -/
def Term.operand : Term → Operand
  | field path => .field path
  | dot => .dot
  | constant c => c.operand

/-- The operands that spell a call. -/
def Call.operands (c : Call) : List Operand := .identifier c.name :: c.args.map Term.operand

/-- The operands that spell the head of a chain. -/
def Head.operands : Head → List Operand
  | term t => [t.operand]
  | call c => c.operands

/-- **A pipeline spells a chain**: it declares nothing, its first command spells the
head, and the others spell the stages. -/
def Chain.SpelledBy (c : Chain) (p : Pipeline Operand) : Prop :=
  p.declarations = [] ∧
    p.commands.map Command.operands = c.head.operands :: c.stages.map Call.operands

/-- **Nodes spell steps**: every text is a step that writes it, every action one that
writes the chain it spells, and a comment is none. -/
inductive Step.SpelledBy (lines : LineIndex) : List Step → List Node → Prop
  | nil : SpelledBy lines [] []
  | text {pos : Nat} {s : String} {steps : List Step} {rest : List Node}
      (h : SpelledBy lines steps rest) :
      SpelledBy lines (⟨lines.lineAt pos, .text s⟩ :: steps) (.text pos s :: rest)
  | comment {pos : Nat} {steps : List Step} {rest : List Node} (h : SpelledBy lines steps rest) :
      SpelledBy lines steps (.comment pos :: rest)
  | action {pos : Nat} {p : Pipeline Operand} {c : Chain} {steps : List Step} {rest : List Node}
      (hc : c.SpelledBy p) (h : SpelledBy lines steps rest) :
      SpelledBy lines (⟨lines.lineAt pos, .chain c⟩ :: steps) (.action pos p :: rest)

/-! ### What is wrong -/

/-- What is wrong with an argument of a call. -/
inductive Operand.OffendsAsArgument : Operand → String → Prop
  | identifier (name : String) : OffendsAsArgument (.identifier name) "nested function call"
  | variableRef (name : String) : OffendsAsArgument (.variableRef name) "variable"
  | parenthesized (p : Pipeline Operand) :
      OffendsAsArgument (.parenthesized p) "parenthesized pipeline"

/-- What is wrong with the operands of a first command. -/
inductive OffendsAsHead : List Operand → String → Prop
  | empty : OffendsAsHead [] "empty command"
  | argument {name : String} {args : List Operand} {kind : String}
      (h : FirstFailure Operand.IsTerm Operand.OffendsAsArgument args kind) :
      OffendsAsHead (.identifier name :: args) kind
  | method {path : FieldPath} {args : List Operand} (hargs : args ≠ []) :
      OffendsAsHead (.field path :: args) "method call"
  | applied {o : Operand} {args : List Operand} (ho : o.IsTerm) (hfield : ∀ path, o ≠ .field path)
      (hargs : args ≠ []) : OffendsAsHead (o :: args) "arguments to non-function"
  | variableRef {name : String} {args : List Operand} :
      OffendsAsHead (.variableRef name :: args) "variable"
  | parenthesized {p : Pipeline Operand} {args : List Operand} :
      OffendsAsHead (.parenthesized p :: args) "parenthesized pipeline"

/-- What is wrong with the operands of a later command. -/
inductive OffendsAsStage : List Operand → String → Prop
  | empty : OffendsAsStage [] "empty command"
  | argument {name : String} {args : List Operand} {kind : String}
      (h : FirstFailure Operand.IsTerm Operand.OffendsAsArgument args kind) :
      OffendsAsStage (.identifier name :: args) kind
  | term {o : Operand} {args : List Operand} (ho : o.IsTerm) :
      OffendsAsStage (o :: args) (o.kind ++ " in non-initial pipe stage")
  | variableRef {name : String} {args : List Operand} :
      OffendsAsStage (.variableRef name :: args) "variable"
  | parenthesized {p : Pipeline Operand} {args : List Operand} :
      OffendsAsStage (.parenthesized p :: args) "parenthesized pipeline"

/-- What is wrong with a later command, at its position. -/
def Command.Offends (c : Command Operand) (e : Offence) : Prop :=
  OffendsAsStage c.operands e.kind ∧ e.offset = c.pos

/-- **What is wrong with a pipeline**: its declarations, else its lack of commands, else
its first command, else the first of the others that is no call. -/
inductive Pipeline.Offends (p : Pipeline Operand) : Offence → Prop
  | declaration (h : p.declarations ≠ []) : p.Offends ⟨"variable declaration", p.pos⟩
  | empty (hnone : p.declarations = []) (h : p.commands = []) : p.Offends ⟨"empty pipeline", p.pos⟩
  | head {first : Command Operand} {rest : List (Command Operand)} {kind : String}
      (hnone : p.declarations = []) (hcommands : p.commands = first :: rest)
      (h : OffendsAsHead first.operands kind) : p.Offends ⟨kind, first.pos⟩
  | stage {first : Command Operand} {rest : List (Command Operand)} {e : Offence}
      (hnone : p.declarations = []) (hcommands : p.commands = first :: rest) (hfirst : first.IsHead)
      (h : FirstFailure Command.IsCall Command.Offends rest e) : p.Offends e

/-- **What is wrong with a node**: it is a control item, or its pipeline offends. -/
inductive Node.Offends : Node → Offence → Prop
  | control (pos : Nat) (keyword : Keyword) : Offends (.control pos keyword) ⟨keyword.text, pos⟩
  | action {pos : Nat} {p : Pipeline Operand} {e : Offence} (h : p.Offends e) :
      Offends (.action pos p) e

/-! ### Terms -/

namespace Term

theorem ofOperand_operand (pos : Nat) (t : Term) : ofOperand pos t.operand = .ok t := by
  rcases t with path | _ | (_ | b | n | s) <;> rfl

theorem ofOperand_eq_ok_iff {pos : Nat} {o : Operand} {t : Term} :
    ofOperand pos o = .ok t ↔ o = t.operand := by
  constructor
  · intro h
    cases o <;> cases h <;> rfl
  · rintro rfl
    exact ofOperand_operand pos t

theorem exists_ofOperand_iff (pos : Nat) {o : Operand} :
    (∃ t, ofOperand pos o = .ok t) ↔ o.IsTerm := by
  constructor
  · rintro ⟨t, h⟩
    cases o <;> cases h <;> constructor
  · rintro (path | _ | b | n | s | _) <;> exact ⟨_, rfl⟩

theorem ofOperand_eq_error_iff {pos : Nat} {o : Operand} {e : Offence} :
    ofOperand pos o = .error e ↔ o.OffendsAsArgument e.kind ∧ e.offset = pos := by
  constructor
  · intro h
    cases o <;> cases h <;> exact ⟨by constructor, rfl⟩
  · obtain ⟨kind, offset⟩ := e
    rintro ⟨h, rfl⟩
    cases h <;> rfl

theorem ofOperands_eq_mapM (pos : Nat) (operands : List Operand) :
    ofOperands pos operands = operands.mapM (ofOperand pos) := by
  induction operands with
  | nil => rfl
  | cons o rest ih =>
    rw [ofOperands, ih, List.mapM_cons]
    cases ofOperand pos o with
    | error e => rfl
    | ok t => cases rest.mapM (ofOperand pos) <;> rfl

theorem ofOperands_eq_ok_iff {pos : Nat} {operands : List Operand} {ts : List Term} :
    ofOperands pos operands = .ok ts ↔ operands = ts.map operand := by
  simp only [ofOperands_eq_mapM, mapM_eq_ok_iff, ofOperand_eq_ok_iff]
  rw [← List.forall₂_map_right_iff, List.forall₂_eq_eq_eq]

theorem exists_ofOperands_iff (pos : Nat) {operands : List Operand} :
    (∃ ts, ofOperands pos operands = .ok ts) ↔ ∀ o ∈ operands, o.IsTerm := by
  simp only [ofOperands_eq_mapM, ← exists_ofOperand_iff pos]
  exact (stopsAtFirst_mapM (ofOperand pos)).exists_ok_iff (s := ())

theorem ofOperands_eq_error_iff {pos : Nat} {operands : List Operand} {e : Offence} :
    ofOperands pos operands = .error e ↔
      FirstFailure Operand.IsTerm Operand.OffendsAsArgument operands e.kind ∧ e.offset = pos := by
  rw [ofOperands_eq_mapM, (stopsAtFirst_mapM (ofOperand pos)).eq_error_iff (s := ())
    (fun _ => exists_ofOperand_iff pos) (fun _ _ => ofOperand_eq_error_iff)]
  constructor
  · rintro ⟨before, o, after, hoperands, hbefore, ho, hpos⟩
    exact ⟨⟨before, o, after, hoperands, hbefore, ho⟩, hpos⟩
  · rintro ⟨⟨before, o, after, hoperands, hbefore, ho⟩, hpos⟩
    exact ⟨before, o, after, hoperands, hbefore, ho, hpos⟩

end Term

/-! ### Commands -/

namespace Call

section

variable {pos : Nat} {name : String} {operands : List Operand}

theorem ofOperands_eq_ok_iff {c : Call} :
    ofOperands pos name operands = .ok c ↔ .identifier name :: operands = c.operands := by
  have hmap : ofOperands pos name operands = .ok c ↔
      ∃ ts, Term.ofOperands pos operands = .ok ts ∧ ⟨name, ts⟩ = c := by
    rw [ofOperands]
    cases Term.ofOperands pos operands <;> simp [Except.map]
  simp only [hmap, Term.ofOperands_eq_ok_iff, Call.operands, List.cons.injEq,
    Operand.identifier.injEq]
  constructor
  · rintro ⟨ts, rfl, rfl⟩
    exact ⟨rfl, rfl⟩
  · rintro ⟨rfl, hargs⟩
    exact ⟨c.args, hargs, rfl⟩

theorem exists_ofOperands_iff (pos : Nat) :
    (∃ c, ofOperands pos name operands = .ok c) ↔ ∀ o ∈ operands, o.IsTerm := by
  rw [← Term.exists_ofOperands_iff pos, ofOperands]
  cases Term.ofOperands pos operands <;> simp [Except.map]

theorem ofOperands_eq_error_iff {e : Offence} :
    ofOperands pos name operands = .error e ↔
      FirstFailure Operand.IsTerm Operand.OffendsAsArgument operands e.kind ∧ e.offset = pos := by
  rw [← Term.ofOperands_eq_error_iff, ofOperands]
  cases Term.ofOperands pos operands <;> simp [Except.map]

end

variable {c : Command Operand}

theorem ofCommand_eq_ok_iff {call : Call} :
    ofCommand c = .ok call ↔ c.operands = call.operands := by
  obtain ⟨pos, _ | ⟨o, rest⟩⟩ := c
  · simp [ofCommand, Call.operands]
  · cases o with
    | identifier name => exact ofOperands_eq_ok_iff
    | _ => simp [ofCommand, Call.operands]

theorem exists_ofCommand_iff : (∃ call, ofCommand c = .ok call) ↔ c.IsCall := by
  obtain ⟨pos, _ | ⟨o, rest⟩⟩ := c
  · simp [ofCommand, Command.IsCall]
  · cases o with
    | identifier name =>
      simpa [ofCommand, Command.IsCall] using exists_ofOperands_iff pos
    | _ => simp [ofCommand, Command.IsCall]

theorem ofCommand_eq_error_iff {e : Offence} : ofCommand c = .error e ↔ c.Offends e := by
  obtain ⟨pos, operands⟩ := c
  constructor
  · intro h
    rcases operands with _ | ⟨o, rest⟩
    · cases h
      exact ⟨.empty, rfl⟩
    · cases o with
      | identifier name =>
        obtain ⟨hargs, hpos⟩ := ofOperands_eq_error_iff.mp h
        exact ⟨.argument hargs, hpos⟩
      | variableRef name =>
        cases h
        exact ⟨.variableRef, rfl⟩
      | parenthesized p =>
        cases h
        exact ⟨.parenthesized, rfl⟩
      | _ =>
        cases h
        exact ⟨.term (by constructor), rfl⟩
  · obtain ⟨kind, offset⟩ := e
    rintro ⟨h, rfl⟩
    cases h with
    | argument hargs => exact ofOperands_eq_error_iff.mpr ⟨hargs, rfl⟩
    | term ho => cases ho <;> rfl
    | empty | variableRef | parenthesized => rfl

theorem ofCommands_eq_mapM (commands : List (Command Operand)) :
    ofCommands commands = commands.mapM ofCommand := by
  induction commands with
  | nil => rfl
  | cons c rest ih =>
    rw [ofCommands, ih, List.mapM_cons]
    cases ofCommand c with
    | error e => rfl
    | ok call => cases rest.mapM ofCommand <;> rfl

theorem ofCommands_eq_ok_iff {commands : List (Command Operand)} {calls : List Call} :
    ofCommands commands = .ok calls ↔
      commands.map Command.operands = calls.map Call.operands := by
  simp only [ofCommands_eq_mapM, mapM_eq_ok_iff, ofCommand_eq_ok_iff]
  rw [← List.forall₂_eq_eq_eq (α := List Operand), List.forall₂_map_left_iff,
    List.forall₂_map_right_iff]

theorem exists_ofCommands_iff {commands : List (Command Operand)} :
    (∃ calls, ofCommands commands = .ok calls) ↔ ∀ c ∈ commands, c.IsCall := by
  simp only [ofCommands_eq_mapM, ← exists_ofCommand_iff]
  exact (stopsAtFirst_mapM ofCommand).exists_ok_iff (s := ())

theorem ofCommands_eq_error_iff {commands : List (Command Operand)} {e : Offence} :
    ofCommands commands = .error e ↔
      FirstFailure Command.IsCall Command.Offends commands e := by
  rw [ofCommands_eq_mapM]
  exact (stopsAtFirst_mapM ofCommand).eq_error_iff (s := ()) (fun _ => exists_ofCommand_iff)
    (fun _ _ => ofCommand_eq_error_iff)

end Call

namespace Head

variable {c : Command Operand}

theorem ofCommand_eq_ok_iff {h : Head} : ofCommand c = .ok h ↔ c.operands = h.operands := by
  obtain ⟨pos, operands⟩ := c
  constructor
  · intro hok
    rcases operands with _ | ⟨o, rest⟩
    · cases hok
    · cases o with
      | identifier name =>
        cases hcall : Call.ofOperands pos name rest with
        | error e => simp [ofCommand, hcall, Except.map] at hok
        | ok call =>
          obtain rfl : Head.call call = h := by simpa [ofCommand, hcall, Except.map] using hok
          exact Call.ofOperands_eq_ok_iff.mp hcall
      | _ => cases rest <;> cases hok <;> rfl
  · rintro hoperands
    obtain rfl : operands = h.operands := hoperands
    cases h with
    | term t => rcases t with path | _ | (_ | b | n | s) <;> rfl
    | call call =>
      have hcall : Call.ofOperands pos call.name (call.args.map Term.operand) = .ok call :=
        Call.ofOperands_eq_ok_iff.mpr rfl
      simp [ofCommand, operands, Call.operands, hcall, Except.map]

theorem exists_ofCommand_iff : (∃ h, ofCommand c = .ok h) ↔ c.IsHead := by
  simp only [ofCommand_eq_ok_iff, Command.IsHead, ← Call.exists_ofCommand_iff,
    Call.ofCommand_eq_ok_iff, ← Term.exists_ofOperand_iff c.pos, Term.ofOperand_eq_ok_iff]
  constructor
  · rintro ⟨t | call, h⟩
    · exact .inl ⟨t.operand, h, t, rfl⟩
    · exact .inr ⟨call, h⟩
  · rintro (⟨_, h, t, rfl⟩ | ⟨call, h⟩)
    · exact ⟨.term t, h⟩
    · exact ⟨.call call, h⟩

theorem ofCommand_eq_error_iff {e : Offence} :
    ofCommand c = .error e ↔ OffendsAsHead c.operands e.kind ∧ e.offset = c.pos := by
  obtain ⟨pos, operands⟩ := c
  have hcall (name : String) (rest : List Operand) :
      ofCommand ⟨pos, .identifier name :: rest⟩ = .error e ↔
        Call.ofOperands pos name rest = .error e := by
    simp only [ofCommand]
    cases Call.ofOperands pos name rest <;> simp [Except.map]
  constructor
  · intro h
    rcases operands with _ | ⟨o, rest⟩
    · cases h
      exact ⟨.empty, rfl⟩
    · cases o with
      | identifier name =>
        obtain ⟨hargs, hpos⟩ := Call.ofOperands_eq_error_iff.mp ((hcall name rest).mp h)
        exact ⟨.argument hargs, hpos⟩
      | variableRef name =>
        cases rest <;> cases h <;> exact ⟨.variableRef, rfl⟩
      | parenthesized p =>
        cases rest <;> cases h <;> exact ⟨.parenthesized, rfl⟩
      | field path =>
        -- Alone it is a term; only with operands behind it is there something wrong.
        cases rest <;> cases h
        exact ⟨.method (by simp), rfl⟩
      | _ =>
        cases rest <;> cases h
        exact ⟨.applied (by constructor) (by simp) (by simp), rfl⟩
  · obtain ⟨kind, offset⟩ := e
    rintro ⟨h, rfl⟩
    cases h with
    | argument hargs => exact (hcall _ _).mpr (Call.ofOperands_eq_error_iff.mpr ⟨hargs, rfl⟩)
    | empty => rfl
    | @method path args hargs =>
      cases args with
      | nil => exact absurd rfl hargs
      | cons => rfl
    | @applied o args ho hfield hargs =>
      cases args with
      | nil => exact absurd rfl hargs
      | cons =>
        cases ho with
        | field path => exact absurd rfl (hfield path)
        | _ => rfl
    | @variableRef _ args | @parenthesized _ args => cases args <;> rfl

end Head

/-! ### Pipelines and nodes -/

namespace Chain

variable {p : Pipeline Operand}

theorem ofPipeline_eq_ok_iff {c : Chain} : ofPipeline p = .ok c ↔ c.SpelledBy p := by
  obtain ⟨pos, _ | ⟨name, names⟩, _ | ⟨first, rest⟩⟩ := p
  · simp [ofPipeline, SpelledBy]
  · have hcons : ofPipeline ⟨pos, [], first :: rest⟩ = .ok c ↔
        Head.ofCommand first = .ok c.head ∧ Call.ofCommands rest = .ok c.stages := by
      simp only [ofPipeline]
      cases Head.ofCommand first with
      | error e => simp
      | ok head =>
        obtain ⟨head', stages⟩ := c
        cases Call.ofCommands rest <;> simp [Except.map]
    rw [hcons, Head.ofCommand_eq_ok_iff, Call.ofCommands_eq_ok_iff]
    simp [SpelledBy]
  · simp [ofPipeline, SpelledBy]
  · simp [ofPipeline, SpelledBy]

theorem exists_ofPipeline_iff : (∃ c, ofPipeline p = .ok c) ↔ p.IsSupported := by
  simp only [ofPipeline_eq_ok_iff, Pipeline.IsSupported, ← Head.exists_ofCommand_iff,
    ← Call.exists_ofCommands_iff, Head.ofCommand_eq_ok_iff, Call.ofCommands_eq_ok_iff]
  constructor
  · rintro ⟨c, hnone, hcommands⟩
    obtain ⟨first, rest, hp, hhead, hstages⟩ := List.map_eq_cons_iff.mp hcommands
    exact ⟨hnone, first, rest, hp, ⟨c.head, hhead⟩, c.stages, hstages⟩
  · rintro ⟨hnone, first, rest, hp, ⟨head, hhead⟩, stages, hstages⟩
    exact ⟨⟨head, stages⟩, hnone, by rw [hp, List.map_cons, hhead, hstages]⟩

theorem ofPipeline_eq_error_iff {e : Offence} : ofPipeline p = .error e ↔ p.Offends e := by
  constructor
  · intro h
    obtain ⟨pos, _ | ⟨name, names⟩, _ | ⟨first, rest⟩⟩ := p
    · cases h
      exact .empty rfl rfl
    · simp only [ofPipeline] at h
      cases hhead : Head.ofCommand first with
      | error e' =>
        rw [hhead] at h
        cases h
        obtain ⟨hkind, hpos⟩ := Head.ofCommand_eq_error_iff.mp hhead
        obtain ⟨kind, offset⟩ := e
        obtain rfl : offset = first.pos := hpos
        exact .head rfl rfl hkind
      | ok head =>
        cases hstages : Call.ofCommands rest with
        | ok calls => simp [hhead, hstages, Except.map] at h
        | error e' =>
          obtain rfl : e' = e := by simpa [hhead, hstages, Except.map] using h
          exact .stage rfl rfl (Head.exists_ofCommand_iff.mp ⟨head, hhead⟩)
            (Call.ofCommands_eq_error_iff.mp hstages)
    · cases h
      exact .declaration (by simp)
    · cases h
      exact .declaration (by simp)
  · obtain ⟨pos, declarations, commands⟩ := p
    intro h
    cases h with
    | declaration h => cases declarations <;> simp_all [ofPipeline]
    | empty hnone h =>
      obtain rfl : declarations = [] := hnone
      obtain rfl : commands = [] := h
      rfl
    | @head first rest kind hnone hcommands h =>
      obtain rfl : declarations = [] := hnone
      obtain rfl : commands = first :: rest := hcommands
      have hhead : Head.ofCommand first = .error ⟨kind, first.pos⟩ :=
        Head.ofCommand_eq_error_iff.mpr ⟨h, rfl⟩
      simp [ofPipeline, hhead]
    | @stage first rest _ hnone hcommands hfirst h =>
      obtain rfl : declarations = [] := hnone
      obtain rfl : commands = first :: rest := hcommands
      obtain ⟨head, hhead⟩ := Head.exists_ofCommand_iff.mpr hfirst
      simp [ofPipeline, hhead, Call.ofCommands_eq_error_iff.mpr h, Except.map]

end Chain

namespace Output

variable {node : Node}

theorem exists_ofNode?_iff : (∃ output, ofNode? node = .ok output) ↔ node.IsSupported := by
  cases node with
  | text pos s => simp [ofNode?, Node.IsSupported]
  | comment pos => simp [ofNode?, Node.IsSupported]
  | control pos keyword => simp [ofNode?, Node.IsSupported]
  | action pos p =>
    rw [ofNode?, Node.IsSupported, ← Chain.exists_ofPipeline_iff]
    cases Chain.ofPipeline p <;> simp [Except.map]

theorem ofNode?_eq_error_iff {e : Offence} : ofNode? node = .error e ↔ node.Offends e := by
  constructor
  · intro h
    cases node with
    | text | comment => cases h
    | control pos keyword =>
      cases h
      exact .control pos keyword
    | action pos p =>
      refine .action (Chain.ofPipeline_eq_error_iff.mp ?_)
      rw [ofNode?] at h
      cases hp : Chain.ofPipeline p <;> simp_all [Except.map]
  · intro h
    cases h with
    | control pos keyword => rfl
    | action h => simp [ofNode?, Chain.ofPipeline_eq_error_iff.mpr h, Except.map]

end Output

/-! ### Templates -/

namespace Step

variable {lines : LineIndex}

theorem stopsAtFirst_listOfNodes (lines : LineIndex) :
    StopsAtFirst Output.ofNode? fun _ : Unit => listOfNodes lines where
  nil _ := ⟨[], rfl⟩
  failed _ _ _ _ h := by simp only [listOfNodes, h]
  passed _ _ rest _ h := by
    refine ⟨(), fun e => ?_⟩
    simp only [listOfNodes, h]
    cases listOfNodes lines rest <;> simp

/-- **The steps of nodes are those that the nodes spell.** -/
theorem listOfNodes_eq_ok_iff {nodes : List Node} {steps : List Step} :
    listOfNodes lines nodes = .ok steps ↔ SpelledBy lines steps nodes := by
  constructor
  · intro h
    induction nodes generalizing steps with
    | nil =>
      cases h
      exact .nil
    | cons node rest ih =>
      rw [listOfNodes] at h
      -- The other nodes first: without their steps there are none, whatever the node is.
      cases hrest : listOfNodes lines rest with
      | error e => rcases hnode : Output.ofNode? node with e' | output <;> simp_all
      | ok others =>
        cases node with
        | text pos s =>
          obtain rfl : ⟨lines.lineAt pos, .text s⟩ :: others = steps := by
            simpa [Output.ofNode?, hrest, Node.pos] using h
          exact .text (ih hrest)
        | comment pos =>
          obtain rfl : others = steps := by simpa [Output.ofNode?, hrest] using h
          exact .comment (ih hrest)
        | control pos keyword => cases h
        | action pos p =>
          cases hp : Chain.ofPipeline p with
          | error e => simp [Output.ofNode?, hp, Except.map] at h
          | ok c =>
            obtain rfl : ⟨lines.lineAt pos, .chain c⟩ :: others = steps := by
              simpa [Output.ofNode?, hp, hrest, Except.map, Node.pos] using h
            exact .action (Chain.ofPipeline_eq_ok_iff.mp hp) (ih hrest)
  · intro h
    induction h with
    | nil => rfl
    | text h ih => simp [listOfNodes, Output.ofNode?, ih, Node.pos]
    | comment h ih => simp [listOfNodes, Output.ofNode?, ih]
    | action hc h ih =>
      have hchain := Chain.ofPipeline_eq_ok_iff.mpr hc
      simp [listOfNodes, Output.ofNode?, hchain, ih, Except.map, Node.pos]

/-- An error is about the first node that cannot be run. -/
theorem exists_firstFailure_of_ofNodes {template : String} {nodes : List Node} {e : CompileError}
    (h : ofNodes template nodes lines = .error e) :
    ∃ offence, FirstFailure Node.IsSupported Node.Offends nodes offence ∧
      e = .unsupported offence.kind template offence.offset := by
  unfold ofNodes at h
  split at h
  · cases h
  · next offence hlist =>
    cases h
    refine ⟨offence, ?_, rfl⟩
    exact ((stopsAtFirst_listOfNodes lines).eq_error_iff (s := ())
      (fun _ => Output.exists_ofNode?_iff) fun _ _ => Output.ofNode?_eq_error_iff).mp hlist

/-- **The fragment that can be run is exact.** Nodes have steps if all of them can be
run, and then the steps are those that they spell: one for every text, with that text,
one for every action, with the chain that its commands spell, and none for a comment.
Otherwise the error names what is wrong with the first node that cannot be run, and
where. -/
theorem ofNodes_eq_ok_or_first_offence (template : String) (nodes : List Node)
    (lines : LineIndex) :
    ((∃ steps, ofNodes template nodes lines = .ok steps) ↔ ∀ node ∈ nodes, node.IsSupported) ∧
    (∀ steps, ofNodes template nodes lines = .ok steps ↔ SpelledBy lines steps nodes) ∧
    ∀ e, ofNodes template nodes lines = .error e ↔
      ∃ offence, FirstFailure Node.IsSupported Node.Offends nodes offence ∧
        e = .unsupported offence.kind template offence.offset := by
  have hstops := stopsAtFirst_listOfNodes lines
  have hok : ∀ steps, ofNodes template nodes lines = .ok steps ↔
      listOfNodes lines nodes = .ok steps := by
    intro steps
    rw [ofNodes]
    cases listOfNodes lines nodes <;> simp
  refine ⟨?_, fun steps => (hok steps).trans listOfNodes_eq_ok_iff, fun e => ?_⟩
  · simp only [hok, ← Output.exists_ofNode?_iff]
    exact hstops.exists_ok_iff (s := ())
  · have hfirst : ∀ offence, listOfNodes lines nodes = .error offence ↔
        FirstFailure Node.IsSupported Node.Offends nodes offence := fun offence =>
      hstops.eq_error_iff (s := ()) (fun _ => Output.exists_ofNode?_iff)
        (fun _ _ => Output.ofNode?_eq_error_iff)
    simp only [← hfirst]
    rw [ofNodes]
    cases listOfNodes lines nodes <;> simp [eq_comm]

end Step

end Stencil
