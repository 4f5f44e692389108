import Stencil.Library
import Stencil.Function.Builtin
import Stencil.Source.Nodes

/-!
# The engine

An engine reads and compiles templates with its delimiters and for its functions.
Whatever goes wrong with a template is reported as a diagnostic, which knows the
template, its source and the place in it. Compiling a list of templates and
emitting it stop at the first diagnostic.
-/

namespace Stencil

/-! ### Diagnostics -/

/-- What a diagnostic is about. -/
inductive Cause where
  | source (error : SourceError)
  | compile (error : CompileError)
  deriving DecidableEq

namespace Cause

/-- The offset a cause is about. -/
def offset : Cause → Nat
  | source e => e.offset
  | compile e => e.offset

/-- The wording of a cause. -/
def message : Cause → String
  | source e => e.message
  | compile e => e.message

/-- The code of a cause. -/
def code : Cause → String
  | source (.unclosedAction _) => "ParseError::UnclosedAction"
  | source (.unclosedComment _) => "ParseError::UnclosedComment"
  | source (.emptyCommand _) => "ParseError::EmptyCommand"
  | source (.unexpectedInput ..) => "ParseError::UnexpectedInput"
  | compile (.unsupported ..) => "CompileError::Unsupported"
  | compile (.invalidModuleName _) => "CompileError::InvalidModuleName"

/-- What to do about a cause. -/
def help : Cause → String
  | source (.unclosedAction _) =>
    "Close the action with the right delimiter, e.g. \x60\x7d\x7d\x60."
  | source (.unclosedComment _) =>
    "Comments must end with \x60*/\x60 right before the closing delimiter."
  | source (.emptyCommand _) =>
    "Every command of a pipeline needs a field, a literal or a function name."
  | source (.unexpectedInput ..) => "Check for misplaced characters inside the action."
  | compile (.unsupported kind _ _) =>
    "\x60" ++ kind ++
      "\x60 cannot be compiled. Only text, fields and function pipelines are supported."
  | compile (.invalidModuleName _) =>
    "Module names must be Rust identifiers that are not keywords, e.g. \x60views\x60."

end Cause

/-- **A diagnostic**: what is wrong, in which template, and in what source. -/
structure Diagnostic where
  cause : Cause
  template : String
  source : String
  deriving DecidableEq

namespace Diagnostic

/-- The place in the source: the offset of the cause, or the end of the source if
the offset lies beyond it. -/
def offset (d : Diagnostic) : Nat := min d.cause.offset d.source.utf8ByteSize

/-- The length of the place: one byte, or none at the end of the source. -/
def length (d : Diagnostic) : Nat := if d.offset < d.source.utf8ByteSize then 1 else 0

/-- The line of the place, counted from one. -/
def line (d : Diagnostic) : Nat := (LineIndex.ofSource d.source).lineAt d.offset

end Diagnostic

/-! ### Engines -/

/-- **An engine**: delimiters and functions. -/
structure Engine where
  delimiters : Delimiters
  functions : Registry

namespace Engine

/-- The engine with double braces and the built-in functions. -/
def standard : Engine := ⟨.standard, .builtins⟩

instance : Inhabited Engine := ⟨standard⟩

/-- Whether messages of failure beside a value are errors. -/
def surface (e : Engine) : Bool := e.functions.surface

/-- The engine with other functions; whether messages of failure are errors stays
as it was. -/
def withFunctions (e : Engine) (functions : Registry) : Engine :=
  { e with functions := functions.withSurface e.surface }

/-- The engine with other delimiters. -/
def withDelimiters (e : Engine) (delimiters : Delimiters) : Engine := { e with delimiters }

/-- The engine with messages of failure surfaced or not. -/
def withSurface (e : Engine) (surface : Bool) : Engine :=
  { e with functions := e.functions.withSurface surface }

/-- **Reads a template.** -/
def parse (e : Engine) (name source : String) : Except Diagnostic (List Node) :=
  match Stencil.parse e.delimiters source with
  | .ok nodes => .ok nodes
  | .error error => .error ⟨.source error, name, source⟩

/-- **Compiles a template.** -/
def compile (e : Engine) (name source : String) : Logged (Except Diagnostic Template) :=
  match e.parse name source with
  | .error d => .quiet (.error d)
  | .ok nodes =>
    let compiled := Template.ofNodes name nodes (.ofSource source)
    match compiled.value with
    | .ok template => ⟨.ok template, compiled.events⟩
    | .error error => ⟨.error ⟨.compile error, name, source⟩, compiled.events⟩

/-- Compiles templates into a library, up to the first diagnostic. -/
def compileInto (e : Engine) (l : Library) :
    List (String × String) → Logged (Except Diagnostic Library)
  | [] => ⟨.ok l, [.compiledAll l.size]⟩
  | (name, source) :: rest =>
    let compiled := e.compile name source
    match compiled.value with
    | .error d => ⟨.error d, compiled.events⟩
    | .ok template => (e.compileInto (l.insert template) rest).after compiled.events

/-- **Compiles a list of templates** into a library with the engine's functions. -/
def compileAll (e : Engine) (sources : List (String × String)) :
    Logged (Except Diagnostic Library) :=
  e.compileInto (.empty e.functions) sources

/-- Adds templates to a program, up to the first diagnostic. -/
def emitInto (e : Engine) (p : Program) :
    List (String × String) → Logged (Except Diagnostic Program)
  | [] => .quiet (.ok p)
  | (name, source) :: rest =>
    match e.parse name source with
    | .error d => .quiet (.error d)
    | .ok nodes =>
      let added := p.add name nodes (.ofSource source)
      match added.value with
      | .error error => ⟨.error ⟨.compile error, name, source⟩, added.events⟩
      | .ok p' => (e.emitInto p' rest).after added.events

/-- **Emits a list of templates** as a program, in a module if a name is given. -/
def emit (e : Engine) (sources : List (String × String)) (moduleName : Option String) :
    Logged (Except Diagnostic Program) :=
  match Program.start moduleName with
  | .error error => .quiet (.error ⟨.compile error, moduleName.getD "", ""⟩)
  | .ok p => e.emitInto p sources

end Engine

end Stencil
