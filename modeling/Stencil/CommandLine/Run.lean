import Stencil.CommandLine.Arguments
import Stencil.CommandLine.Session
import Stencil.Json
import Stencil.Text.WhiteSpace

/-!
# Running a request

A request is carried out in a session. All reading and all work on templates and data
comes before the first writing, so a run that fails has written nothing, and one that
succeeds has written its one output in full.
-/

namespace Stencil

namespace CommandLine

/-! ### Input -/

/-- Reads a template file: its base name and its text. -/
def readTemplate (tree : FileTree) (path : String) : Except Failure (String × String) :=
  if tree.pathExists path then
    match baseName? path with
    | none => .error (.plain ("Invalid template path: " ++ path))
    | some name =>
      match tree.readText path with
      | .error e => .error (.file e)
      | .ok text => .ok (name, text)
  else .error (.plain ("File not found: " ++ path))

/-- Reads template files in order. -/
def readTemplates (tree : FileTree) : List String → Except Failure (List (String × String))
  | [] => .ok []
  | path :: rest =>
    match readTemplate tree path with
    | .error f => .error f
    | .ok source =>
      match readTemplates tree rest with
      | .error f => .error f
      | .ok sources => .ok (source :: sources)

/-- The text of the data: of the file if one is given, else of standard input. -/
def dataText (tree : FileTree) (input : ByteArray) (path? : Option String) :
    Except Failure String :=
  match path? with
  | some path =>
    match tree.readText path with
    | .error e => .error (.file e)
    | .ok text => .ok text
  | none =>
    match String.fromUTF8? input with
    | some text => .ok text
    | none => .error (.file .notText)

/-- Reads the data. A blank text is nothing at all. -/
def readData (tree : FileTree) (input : ByteArray) (path? : Option String) :
    Except Failure Value :=
  match dataText tree input path? with
  | .error f => .error f
  | .ok text =>
    if (trimWhiteSpace text).isEmpty then .ok .null
    else
      match Value.ofJson? text with
      | some v => .ok v
      | none => .error .data

/-! ### Output -/

open Session

/-- Writes the result of a run, to a file if one is given. -/
def writeOutput (path? : Option String) (bytes : ByteArray) : Session Unit :=
  match path? with
  | none => print bytes
  | some path => do
    let place ← createFile path
    fillFile place bytes

/-! ### Tasks -/

/-- The engine of a request. -/
def engineOf (delimiters : Delimiters) (strict : Bool) : Engine :=
  (Engine.standard.withDelimiters delimiters).withSurface strict

/-- Emits the templates. -/
def generate (engine : Engine) (sources : List (String × String))
    (moduleName output : Option String) : Session Unit := do
  let program ← compiling sources (engine.emit sources moduleName)
  writeOutput output program.text.toUTF8

/-- The failure to find a template in a library. -/
def Failure.missing (library : Library) (template : String) : Failure :=
  .message ("Template \"" ++ template ++ "\" not found")
    (some ("Available templates: " ++ ", ".intercalate library.names))

/-- Renders a template. -/
def render (engine : Engine) (sources : List (String × String)) (template : String)
    (data output : Option String) : Session Unit := do
  let library ← compiling sources (engine.compileAll sources)
  if library.contains template then
    let v ← look fun w => readData w.tree w.input data
    let rendered := library.render template v .unlimited
    record rendered.events
    match rendered.value.outcome with
    | .error e => throw (.render e)
    | .ok () => writeOutput output rendered.value.sink.written
  else throw (.missing library template)

/-- Compiles templates one by one, up to the first that is not in order. -/
def check (engine : Engine) (sources : List (String × String)) :
    List (String × String) → Session Unit
  | [] => return ()
  | (name, source) :: rest => do
    let _ ← compiling sources (engine.compile name source)
    record [.checked name]
    check engine sources rest

/-- Carries out the task of a request on the templates that were read. -/
def perform (request : Request) (sources : List (String × String)) : Session Unit :=
  match request.task with
  | .generate moduleName output =>
    generate (engineOf request.delimiters false) sources moduleName output
  | .render template data strict output =>
    render (engineOf request.delimiters strict) sources template data output
  | .check => check (engineOf request.delimiters false) sources sources

/-- **Carries out a request.** -/
def run (request : Request) : Session Unit := do
  let sources ← look fun w => readTemplates w.tree request.files
  perform request sources

end CommandLine

end Stencil
