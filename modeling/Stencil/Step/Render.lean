import Stencil.Function.Basic
import Stencil.Sink
import Stencil.Step.Basic
import Stencil.Value.Display

/-!
# Running steps

A step is evaluated to a text over the data and a registry of functions, and the
text is written to the sink. The first step that fails ends the run: nothing after
it is evaluated, and what was written before it stays written.
-/

namespace Stencil

/-! ### Errors -/

/-- **Why a rendering fails.** -/
inductive RenderError where
  | access (error : AccessError)
  | function (error : FunctionError)
  | templateNotFound (name : String)
  | write (reason : String)
  deriving DecidableEq

namespace RenderError

/-- The wording of a render error. -/
def message : RenderError → String
  | access error => error.message
  | function error => error.message
  | templateNotFound name => "Template \"" ++ name ++ "\" not found"
  | write reason => "Failed to write output: " ++ reason

/-- Whether the error ends the whole run. -/
def isAbort : RenderError → Bool
  | function .aborted => true
  | _ => false

end RenderError

/-! ### Evaluation -/

/-- The value of a term over the data. -/
def Term.eval (data : Value) : Term → Except AccessError Value
  | field path => data.resolve path.segments
  | dot => .ok data
  | constant c => .ok c.toValue

/-- The values of terms, from left to right. -/
def Term.evalAll (data : Value) : List Term → Except AccessError (List Value)
  | [] => .ok []
  | t :: rest =>
    match t.eval data with
    | .error e => .error e
    | .ok v =>
      match Term.evalAll data rest with
      | .error e => .error e
      | .ok vs => .ok (v :: vs)

/-- The result of a call as the result of an evaluation. -/
def asRender {α : Type} : Except FunctionError α → Except RenderError α
  | .ok a => .ok a
  | .error e => .error (.function e)

/-- Evaluates the arguments of a call after those in `first`, and calls. -/
def Call.eval (registry : Registry) (data : Value) (first : List Value) (c : Call) :
    Logged (Except RenderError Value) :=
  match Term.evalAll data c.args with
  | .error e => .quiet (.error (.access e))
  | .ok args =>
    let called := registry.call c.name (first ++ args)
    ⟨asRender called.value, called.events⟩

/-- The first value of a chain. -/
def Head.eval (registry : Registry) (data : Value) : Head → Logged (Except RenderError Value)
  | term t =>
    match t.eval data with
    | .error e => .quiet (.error (.access e))
    | .ok v => .quiet (.ok v)
  | call c => c.eval registry data []

/-- Passes a value through calls. -/
def evalStages (registry : Registry) (data : Value) (v : Value) :
    List Call → Logged (Except RenderError Value)
  | [] => .quiet (.ok v)
  | c :: rest =>
    let called := c.eval registry data [v]
    match called.value with
    | .error e => ⟨.error e, called.events⟩
    | .ok w => (evalStages registry data w rest).after called.events

/-- **The value of a chain.** -/
def Chain.eval (registry : Registry) (data : Value) (c : Chain) :
    Logged (Except RenderError Value) :=
  let first := c.head.eval registry data
  match first.value with
  | .error e => ⟨.error e, first.events⟩
  | .ok v => (evalStages registry data v c.stages).after first.events

/-- The text that a step writes. -/
def Output.eval (registry : Registry) (data : Value) : Output → Logged (Except RenderError String)
  | text s => .quiet (.ok s)
  | chain c =>
    let result := c.eval registry data
    ⟨result.value.map Value.display, result.events⟩

/-! ### Rendering -/

/-- **What a rendering leaves behind**: the sink, and whether it failed. -/
structure Rendering where
  sink : Sink
  outcome : Except RenderError Unit

/-- Writes a text to a sink. -/
def Rendering.ofText (sink : Sink) (text : String) : Rendering :=
  match sink.write text.toUTF8 with
  | (sink', true) => ⟨sink', .ok ()⟩
  | (sink', false) => ⟨sink', .error (.write Sink.refusal)⟩

/-- Runs one step. -/
def Step.render (registry : Registry) (data : Value) (sink : Sink) (s : Step) : Logged Rendering :=
  let evaluated := s.output.eval registry data
  match evaluated.value with
  | .error e => ⟨⟨sink, .error e⟩, evaluated.events⟩
  | .ok text => ⟨Rendering.ofText sink text, evaluated.events⟩

/-- The event of a step that failed, unless the failure ends the whole run. -/
def Step.failure (template : String) (s : Step) (e : RenderError) : List LogEvent :=
  if e.isAbort then [] else [.stepFailed template s.line e.message]

/-- **Runs steps in order** up to the first that fails. -/
def Step.renderAll (registry : Registry) (data : Value) (template : String) (sink : Sink) :
    List Step → Logged Rendering
  | [] => .quiet ⟨sink, .ok ()⟩
  | s :: rest =>
    let done := s.render registry data sink
    match done.value.outcome with
    | .error e => ⟨done.value, done.events ++ s.failure template e⟩
    | .ok () => (Step.renderAll registry data template done.value.sink rest).after done.events

end Stencil
