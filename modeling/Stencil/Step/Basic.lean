import Stencil.Source.Lines
import Stencil.Tree

/-!
# Steps

A template that can be run is a list of steps, each with the line it comes from: a
text to write, or a chain to evaluate and write. A chain starts from a term or a
call and passes its value through further calls, each of which takes the value as
its first argument. There are no variables, no nesting and no control.

`Stencil.Step.ofNodes` accepts exactly this much of the template language and
names the first thing that goes beyond it.
-/

namespace Stencil

/-! ### The type -/

/-- A value written in the template itself. -/
inductive Constant where
  | null
  | bool (b : Bool)
  | number (n : Number)
  | string (s : String)
  deriving DecidableEq

/-- The value of a constant. -/
def Constant.toValue : Constant → Value
  | null => .null
  | bool b => .bool b
  | number n => .number n
  | string s => .string s

/-- A value known from the template or read from the data. -/
inductive Term where
  | field (path : FieldPath)
  | dot
  | constant (c : Constant)
  deriving DecidableEq

/-- A function by name, with the arguments written in the template. -/
structure Call where
  name : String
  args : List Term
  deriving DecidableEq

/-- Where a chain gets its first value from. -/
inductive Head where
  | term (t : Term)
  | call (c : Call)
  deriving DecidableEq

/-- **A chain**: a first value, and the calls it passes through. -/
structure Chain where
  head : Head
  stages : List Call
  deriving DecidableEq

/-- What a step writes. -/
inductive Output where
  | text (s : String)
  | chain (c : Chain)
  deriving DecidableEq

/-- **A step**: what to write, and the line it comes from. -/
structure Step where
  line : Nat
  output : Output
  deriving DecidableEq

/-! ### Errors -/

/-- **Why a template cannot be compiled.** -/
inductive CompileError where
  /-- The template uses something that cannot be run. -/
  | unsupported (kind template : String) (offset : Nat)
  /-- The emitted program cannot have this module name. -/
  | invalidModuleName (name : String)
  deriving DecidableEq

namespace CompileError

/-- The offset an error is about. -/
def offset : CompileError → Nat
  | unsupported _ _ offset => offset
  | invalidModuleName _ => 0

/-- What was rejected. -/
def kind : CompileError → String
  | unsupported kind _ _ => kind
  | invalidModuleName _ => "module name"

/-- The wording of an error. -/
def message : CompileError → String
  | unsupported kind template _ => "Unsupported " ++ kind ++ " in template \"" ++ template ++ "\""
  | invalidModuleName name => "Invalid module name \"" ++ name ++ "\""

end CompileError

/-! ### From trees to steps -/

/-- Something a template cannot use, and where it stands. -/
structure Offence where
  kind : String
  offset : Nat
  deriving DecidableEq

/-- The term of an operand of the command at `pos`. -/
def Term.ofOperand (pos : Nat) : Operand → Except Offence Term
  | .field path => .ok (.field path)
  | .dot => .ok .dot
  | .bool b => .ok (.constant (.bool b))
  | .number n => .ok (.constant (.number n))
  | .string s => .ok (.constant (.string s))
  | .nil => .ok (.constant .null)
  | .identifier _ => .error ⟨"nested function call", pos⟩
  | .variableRef name => .error ⟨(Operand.variableRef name).kind, pos⟩
  | .parenthesized p => .error ⟨(Operand.parenthesized p).kind, pos⟩

/-- The terms of operands, from left to right. -/
def Term.ofOperands (pos : Nat) : List Operand → Except Offence (List Term)
  | [] => .ok []
  | operand :: rest =>
    match Term.ofOperand pos operand with
    | .error e => .error e
    | .ok t =>
      match Term.ofOperands pos rest with
      | .error e => .error e
      | .ok ts => .ok (t :: ts)

/-- The call of a function with operands. -/
def Call.ofOperands (pos : Nat) (name : String) (operands : List Operand) : Except Offence Call :=
  (Term.ofOperands pos operands).map (⟨name, ·⟩)

/-- The first value of a chain from its first command. -/
def Head.ofCommand (c : Command Operand) : Except Offence Head :=
  match c.operands with
  | [] => .error ⟨"empty command", c.pos⟩
  | .identifier name :: rest => (Call.ofOperands c.pos name rest).map .call
  | [operand] => (Term.ofOperand c.pos operand).map .term
  | .field _ :: _ => .error ⟨"method call", c.pos⟩
  | .variableRef name :: _ => .error ⟨(Operand.variableRef name).kind, c.pos⟩
  | .parenthesized p :: _ => .error ⟨(Operand.parenthesized p).kind, c.pos⟩
  | _ => .error ⟨"arguments to non-function", c.pos⟩

/-- A stage of a chain from a later command. -/
def Call.ofCommand (c : Command Operand) : Except Offence Call :=
  match c.operands with
  | [] => .error ⟨"empty command", c.pos⟩
  | .identifier name :: rest => Call.ofOperands c.pos name rest
  | .variableRef name :: _ => .error ⟨(Operand.variableRef name).kind, c.pos⟩
  | .parenthesized p :: _ => .error ⟨(Operand.parenthesized p).kind, c.pos⟩
  | operand :: _ => .error ⟨operand.kind ++ " in non-initial pipe stage", c.pos⟩

/-- The stages of a chain, from left to right. -/
def Call.ofCommands : List (Command Operand) → Except Offence (List Call)
  | [] => .ok []
  | c :: rest =>
    match Call.ofCommand c with
    | .error e => .error e
    | .ok call =>
      match Call.ofCommands rest with
      | .error e => .error e
      | .ok calls => .ok (call :: calls)

/-- The chain of a pipeline. -/
def Chain.ofPipeline (p : Pipeline Operand) : Except Offence Chain :=
  if p.declarations.isEmpty then
    match p.commands with
    | [] => .error ⟨"empty pipeline", p.pos⟩
    | first :: rest =>
      match Head.ofCommand first with
      | .error e => .error e
      | .ok head => (Call.ofCommands rest).map (⟨head, ·⟩)
  else .error ⟨"variable declaration", p.pos⟩

/-- What a node writes; a comment writes nothing. -/
def Output.ofNode? : Node → Except Offence (Option Output)
  | .text _ s => .ok (some (.text s))
  | .comment _ => .ok none
  | .control pos keyword => .error ⟨keyword.text, pos⟩
  | .action _ pipeline => (Chain.ofPipeline pipeline).map fun c => some (.chain c)

/-- The steps of nodes, or the first offence among them. -/
def Step.listOfNodes (lines : LineIndex) : List Node → Except Offence (List Step)
  | [] => .ok []
  | node :: rest =>
    match Output.ofNode? node with
    | .error e => .error e
    | .ok output? =>
      match Step.listOfNodes lines rest with
      | .error e => .error e
      | .ok steps =>
        .ok <|
          match output? with
          | some output => ⟨lines.lineAt node.pos, output⟩ :: steps
          | none => steps

/-- **The steps of a template**, or the first thing in it that cannot be run. -/
def Step.ofNodes (template : String) (nodes : List Node) (lines : LineIndex) :
    Except CompileError (List Step) :=
  match Step.listOfNodes lines nodes with
  | .ok steps => .ok steps
  | .error e => .error (.unsupported e.kind template e.offset)

end Stencil
