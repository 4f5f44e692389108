import Stencil.Engine
import Stencil.FileTree

/-!
# Sessions

A session is what a command does with the world around it, step by step: it looks at
the files and at standard input, reports to the log, and writes to standard output or
to a file. Every step can end it with a failure, and then what was written before
stays written.
-/

namespace Stencil

namespace CommandLine

/-! ### Failures -/

/-- **Why a session fails.** -/
inductive Failure where
  /-- A template is not in order. The name and text of a template file are shown
  with it. -/
  | diagnostic (d : Diagnostic) (shown : Option (String × String))
  /-- The data is not a JSON document. -/
  | data
  /-- A message, perhaps with advice. -/
  | message (text : String) (help : Option String)
  /-- A function gave up. -/
  | aborted

/-- A failure that is a message without advice. -/
def Failure.plain (text : String) : Failure := .message text none

/-- The failure of a file operation. -/
def Failure.file (e : FileError) : Failure := .plain e.message

/-- The failure of a rendering. -/
def Failure.render (e : RenderError) : Failure :=
  if e.isAbort then .aborted else .plain e.message

/-- The failure of a template, shown with the first template file of its name. -/
def Failure.template (sources : List (String × String)) (d : Diagnostic) : Failure :=
  .diagnostic d (sources.find? fun s => s.1 = d.template)

/-! ### The world -/

/-- **What a session can see and change**: the files, what can be read from standard
input, what went to standard output, and the log. -/
structure World where
  tree : FileTree
  input : ByteArray
  output : ByteArray
  log : List LogEvent

/-- The world before a session. -/
def World.start (tree : FileTree) (input : ByteArray) : World :=
  ⟨tree, input, ByteArray.empty, []⟩

/-- The world with events added to the log. -/
def World.report (w : World) (events : List LogEvent) : World := { w with log := w.log ++ events }

/-- **A session** with a result. -/
abbrev Session (α : Type) : Type := EStateM Failure World α

namespace Session

variable {α : Type}

/-- What is seen of the world, or the failure to see it. -/
def look (see : World → Except Failure α) : Session α := do
  match see (← get) with
  | .ok a => return a
  | .error failure => throw failure

/-- Reports events to the log. -/
def record (events : List LogEvent) : Session Unit := modify (·.report events)

/-- The result of work on templates. Its events are reported also if it ends with a
diagnostic. -/
def compiling (sources : List (String × String)) (work : Logged (Except Diagnostic α)) :
    Session α := do
  record work.events
  match work.value with
  | .ok a => return a
  | .error d => throw (.template sources d)

/-- Writes to standard output. -/
def print (bytes : ByteArray) : Session Unit :=
  modify fun w => { w with output := w.output ++ bytes }

/-- Creates a file without contents, in place of one that is there. -/
def createFile (path : String) : Session Place := do
  let place ← look fun w => (w.tree.newPlace path).mapError .file
  modify fun w => { w with tree := w.tree.setContents place ByteArray.empty }
  return place

/-- Writes the contents of a file that was created. -/
def fillFile (place : Place) (bytes : ByteArray) : Session Unit :=
  modify fun w => { w with tree := w.tree.setContents place bytes }

end Session

end CommandLine

end Stencil
