import Stencil.Program.Text

/-!
# Templates and libraries

A template is a name with something to run: steps, or the routine of an emitted
program. A library holds templates by name together with the functions they call;
of two templates with one name the later replaces the earlier.
-/

namespace Stencil

/-! ### Templates -/

/-- What a template runs. -/
inductive Body where
  | steps (steps : List Step)
  | routine (routine : Routine)

/-- **A template**: a name and what it runs. -/
structure Template where
  name : String
  body : Body

namespace Template

/-- Renders a template into a sink. -/
def render (registry : Registry) (data : Value) (sink : Sink) (t : Template) : Logged Rendering :=
  match t.body with
  | .steps steps => Step.renderAll registry data t.name sink steps
  | .routine routine => routine.render registry data sink

/-- A template in one line. -/
def describe (t : Template) : String :=
  let body := match t.body with
    | .steps steps => toString steps.length ++ " steps"
    | .routine _ => "routine"
  "CompiledTemplate \x7b name: " ++ quoted t.name ++ ", body: " ++ quoted body ++ " \x7d"

/-- **Compiles the nodes of a template.** -/
def ofNodes (name : String) (nodes : List Node) (lines : LineIndex) :
    Logged (Except CompileError Template) :=
  match Step.ofNodes name nodes lines with
  | .error e => .quiet (.error e)
  | .ok steps => ⟨.ok ⟨name, .steps steps⟩, [.compiled name steps.length]⟩

end Template

/-! ### Libraries -/

/-- **Templates by name**, sorted, with the functions they call. -/
structure Library where
  functions : Registry
  templates : List (String × Template)

namespace Library

/-- The library without templates. -/
def empty (functions : Registry) : Library := ⟨functions, []⟩

instance : Inhabited Library := ⟨empty default⟩

/-- The library with a template, in place of one of the same name. -/
def insert (l : Library) (t : Template) : Library :=
  { l with templates := insertEntry t.name t l.templates }

/-- The template of a name. -/
def get? (l : Library) (name : String) : Option Template := lookupEntry name l.templates

theorem get?_insert (l : Library) (t : Template) (name : String) :
    (l.insert t).get? name = if name = t.name then some t else l.get? name :=
  lookupEntry_insertEntry t.name name t l.templates

/-- Whether there is a template of a name. -/
def contains (l : Library) (name : String) : Bool := (l.get? name).isSome

/-- The names of the templates, sorted. -/
def names (l : Library) : List String := l.templates.map (·.1)

/-- The number of templates. -/
def size (l : Library) : Nat := l.templates.length

/-- **Renders a template by name** into a sink. -/
def render (l : Library) (name : String) (data : Value) (sink : Sink) : Logged Rendering :=
  match l.get? name with
  | none => .quiet ⟨sink, .error (.templateNotFound name)⟩
  | some t => (t.render l.functions data sink).after [.rendering name]

/-- Renders a template by name into a text. -/
def renderText (l : Library) (name : String) (data : Value) : Logged (Except RenderError String) :=
  let done := l.render name data .unlimited
  ⟨done.value.outcome.map fun _ => (String.fromUTF8? done.value.sink.written).getD "", done.events⟩

end Library

/-- **The library of an emitted program**: its table read in order. -/
def Program.library (p : Program) (functions : Registry) : Library :=
  p.routines.foldl (fun l entry => l.insert ⟨entry.1, .routine entry.2⟩) (.empty functions)

end Stencil
