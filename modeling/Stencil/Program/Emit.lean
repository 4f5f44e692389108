import Stencil.Program.Basic

/-!
# Emitting templates

How the steps of a template become the routine of a program. A text and a lone
term are written directly; a longer chain becomes a block that binds the local
name to its first value, binds it again for every stage, and writes it at the end.

Every routine of a program has a name of its own, made from the name of its
template: what cannot stand in an identifier becomes an underscore, and a number
is added where the name is taken.
-/

namespace Stencil

/-! ### Expressions -/

/-- A term as an expression that refers to a value. -/
def Term.reference : Term → Expression
  | field path => .field path.segments
  | dot => .data
  | constant c => .borrow (.constant c)

/-- A term as an expression that is a value. -/
def Term.expression : Term → Expression
  | field path => .clone (.field path.segments)
  | dot => .clone .data
  | constant c => .constant c

/-- A call as an expression, after the arguments in `first`. -/
def Call.expression (first : List Expression) (c : Call) : Expression :=
  .call c.name (first ++ c.args.map Term.expression)

/-- The first value of a chain as an expression. -/
def Head.expression : Head → Expression
  | term t => t.expression
  | call c => c.expression []

/-! ### Statements -/

/-- The statement of a chain. -/
def Chain.statement (c : Chain) : Statement :=
  match c.head, c.stages with
  | .term t, [] => .write t.reference
  | head, stages =>
    .block (.bind head.expression ::
      (stages.map fun stage => .bind (stage.expression [.value])) ++ [.write .value])

/-- The statement of what a step writes. -/
def Output.statement : Output → Statement
  | text s => .writeText s
  | chain c => c.statement

/-- The statements of steps, each after a comment with its line. -/
def Step.statements (template : String) (steps : List Step) : List Statement :=
  steps.flatMap fun s => [.remark template s.line, s.output.statement]

/-! ### Names -/

/-- A character of a template name as it stands in the name of its routine. -/
def routineChar (c : Char) : Char := if c.isAlphanum then c.toLower else '_'

/-- The name a routine gets if it is free. -/
def routineBase (template : String) : String :=
  "render_" ++ String.ofList (template.toList.map routineChar)

/-- **The name of a new routine**: the first free one among the base name and the
base name with the numbers from two on. -/
def routineName (used : List String) (template : String) : String :=
  let base := routineBase template
  if used.contains base then
    let candidates := (List.range used.length).map fun i => base ++ "_" ++ toString (i + 2)
    (candidates.find? fun name => !used.contains name).getD
      (base ++ "_" ++ toString (used.length + 2))
  else base

namespace Program

/-- The names of the routines. -/
def routineNames (p : Program) : List String := p.routines.map (·.2.name)

/-- The program with a routine for the steps of a template. -/
def addSteps (p : Program) (template : String) (steps : List Step) : Program :=
  let routine := ⟨routineName p.routineNames template, Step.statements template steps⟩
  { p with routines := p.routines ++ [(template, routine)] }

/-- **Adds a template.** One that cannot be compiled leaves the program as it
is. -/
def add (p : Program) (template : String) (nodes : List Node) (lines : LineIndex) :
    Logged (Except CompileError Program) :=
  match Step.ofNodes template nodes lines with
  | .error e => .quiet (.error e)
  | .ok steps =>
    ⟨.ok (p.addSteps template steps), [.emitted (routineName p.routineNames template) template]⟩

/-! ### Module names -/

/-- The words of the target language that cannot name a module. -/
def reservedWords : List String := [
  "Self", "abstract", "as", "async", "await", "become", "box", "break", "const", "continue",
  "crate", "do", "dyn", "else", "enum", "extern", "false", "final", "fn", "for", "gen", "if",
  "impl", "in", "let", "loop", "macro", "match", "mod", "move", "mut", "override", "priv", "pub",
  "ref", "return", "self", "static", "struct", "super", "trait", "true", "try", "type", "typeof",
  "unsafe", "unsized", "use", "virtual", "where", "while", "yield"]

/-- Whether a name can name a module. -/
def isModuleName (name : String) : Bool :=
  match name.toList with
  | [] => false
  | c :: cs =>
    (c.isAlpha || c == '_') && cs.all (fun c => c.isAlphanum || c == '_') && name != "_" &&
      !reservedWords.contains name

/-- **The program without routines**, in a module if a name is given. -/
def start (moduleName : Option String) : Except CompileError Program :=
  match moduleName with
  | none => .ok ⟨none, []⟩
  | some name =>
    if isModuleName name then .ok ⟨some name, []⟩ else .error (.invalidModuleName name)

end Program

end Stencil
