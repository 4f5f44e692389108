import Stencil.Step.Render

/-!
# Emitted programs

A template can be emitted as a routine of a small programming language instead of
being run step by step. The language has what routines need: expressions over the
data, calls with their arguments in order, one local name `value` that a later
binding shadows, blocks, and statements that write. An expression that fails ends
the routine.

This file has the programs and their meaning. The meaning is that of the target
language and knows nothing of steps: a routine runs statement by statement in an
environment that holds the local name.
-/

namespace Stencil

/-! ### The language -/

/-- An expression. -/
inductive Expression where
  /-- The data. -/
  | data
  /-- The value at the end of a path into the data. -/
  | field (segments : List String)
  /-- A constant. -/
  | constant (c : Constant)
  /-- A reference to an expression. -/
  | borrow (e : Expression)
  /-- A copy of what an expression refers to. -/
  | clone (e : Expression)
  /-- The local name. -/
  | value
  /-- A function called by name with arguments. -/
  | call (name : String) (args : List Expression)

/-- A statement. -/
inductive Statement where
  /-- A comment line: the template and the line in it. -/
  | remark (template : String) (line : Nat)
  /-- Writes a text. -/
  | writeText (s : String)
  /-- Writes the printed form of an expression. -/
  | write (e : Expression)
  /-- Binds the local name. -/
  | bind (e : Expression)
  /-- Statements whose bindings end with the block. -/
  | block (body : List Statement)

/-- A routine: a name and statements. -/
structure Routine where
  name : String
  body : List Statement

/-- **A program**: an optional module around it, and for each template, in the
order of the table, its name and its routine. -/
structure Program where
  moduleName : Option String
  routines : List (String × Routine)

/-! ### The meaning of expressions -/

mutual

/-- **The value of an expression**, given the data and the local name. A local
name that is not bound has no value, and no program that is emitted uses one. -/
def Expression.eval (registry : Registry) (data : Value) (local? : Option Value) :
    Expression → Logged (Except RenderError Value)
  | .data => .quiet (.ok data)
  | .field segments =>
    match data.resolve segments with
    | .ok v => .quiet (.ok v)
    | .error e => .quiet (.error (.access e))
  | .constant c => .quiet (.ok c.toValue)
  | .borrow e => e.eval registry data local?
  | .clone e => e.eval registry data local?
  | .value =>
    match local? with
    | some v => .quiet (.ok v)
    | none => .quiet (.error (.function .aborted))
  | .call name args =>
    let evaluated := Expression.evalAll registry data local? args
    match evaluated.value with
    | .error e => ⟨.error e, evaluated.events⟩
    | .ok vs =>
      let called := registry.call name vs
      ⟨asRender called.value, evaluated.events ++ called.events⟩

/-- The values of expressions, from left to right. -/
def Expression.evalAll (registry : Registry) (data : Value) (local? : Option Value) :
    List Expression → Logged (Except RenderError (List Value))
  | [] => .quiet (.ok [])
  | e :: rest =>
    let first := e.eval registry data local?
    match first.value with
    | .error error => ⟨.error error, first.events⟩
    | .ok v =>
      let others := Expression.evalAll registry data local? rest
      match others.value with
      | .error error => ⟨.error error, first.events ++ others.events⟩
      | .ok vs => ⟨.ok (v :: vs), first.events ++ others.events⟩

end

/-! ### The meaning of statements -/

/-- The local name and the sink between two statements, or the failure that ended
the routine. -/
structure Machine where
  local? : Option Value
  rendering : Rendering

mutual

/-- **Runs a statement.** -/
def Statement.run (registry : Registry) (data : Value) (local? : Option Value) (sink : Sink) :
    Statement → Logged Machine
  | .remark _ _ => .quiet ⟨local?, ⟨sink, .ok ()⟩⟩
  | .writeText s => .quiet ⟨local?, Rendering.ofText sink s⟩
  | .write e =>
    let evaluated := e.eval registry data local?
    match evaluated.value with
    | .error error => ⟨⟨local?, ⟨sink, .error error⟩⟩, evaluated.events⟩
    | .ok v => ⟨⟨local?, Rendering.ofText sink v.display⟩, evaluated.events⟩
  | .bind e =>
    let evaluated := e.eval registry data local?
    match evaluated.value with
    | .error error => ⟨⟨local?, ⟨sink, .error error⟩⟩, evaluated.events⟩
    | .ok v => ⟨⟨some v, ⟨sink, .ok ()⟩⟩, evaluated.events⟩
  | .block body =>
    let done := Statement.runAll registry data local? sink body
    ⟨⟨local?, done.value.rendering⟩, done.events⟩

/-- Runs statements in order up to the first that fails. -/
def Statement.runAll (registry : Registry) (data : Value) (local? : Option Value) (sink : Sink) :
    List Statement → Logged Machine
  | [] => .quiet ⟨local?, ⟨sink, .ok ()⟩⟩
  | s :: rest =>
    let done := s.run registry data local? sink
    match done.value.rendering.outcome with
    | .error _ => done
    | .ok () =>
      (Statement.runAll registry data done.value.local? done.value.rendering.sink rest).after
        done.events

end

/-- **Runs a routine.** -/
def Routine.render (registry : Registry) (data : Value) (sink : Sink) (r : Routine) :
    Logged Rendering :=
  let done := Statement.runAll registry data none sink r.body
  ⟨done.value.rendering, done.events⟩

end Stencil
