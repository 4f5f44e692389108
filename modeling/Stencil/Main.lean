import Stencil.CommandLine.Run

/-!
# The command

Reads what the arguments name from the file system into a file tree, carries out
the request on it, and writes back what changed. Results go to standard output;
the log and all messages go to standard error.
-/

namespace Stencil

namespace CommandLine

/-- How to call the command. -/
def usageText : String :=
  "Usage: comtmpl [-v|-q] generate [-m NAME] [-o FILE] FILES...\n" ++
  "       comtmpl [-v|-q] render -t NAME [-d FILE] [--strict] [-o FILE] FILES...\n" ++
  "       comtmpl [-v|-q] check FILES..."

/-- The version of the command. -/
def versionText : String := "comtmpl 0.1.0"

/-- The place of a path, with steps upwards taken. -/
def placeOfPath (current : Place) (path : String) : Place :=
  (pathNames path).foldl
    (fun p name =>
      if isIdleName name then p else if name = ".." then p.dropLast else p ++ [name])
    (if path.toList.head? = some '/' then [] else current)

/-- The path of a place. -/
def pathOfPlace (p : Place) : String := "/" ++ "/".intercalate p

/-- Adds to a tree what the file system holds at a place: a file, a directory, or
nothing. Below a file there is nothing. -/
def snapshotPlace (t : FileTree) (p : Place) : IO FileTree := do
  if (t.contents? p.dropLast).isSome then
    return t
  try
    let bytes ← IO.FS.readBinFile (pathOfPlace p)
    return t.setContents p bytes
  catch
    | .inappropriateType .. => return t.addDirectory p
    | _ => return t

/-- A tree with everything on the way to the given paths. -/
def snapshot (paths : List String) : IO FileTree := do
  let here ← IO.currentDir
  let current := placeOfPath [] here.toString
  let mut tree := FileTree.emptyAt current
  for path in paths do
    let place := placeOfPath current path
    for n in List.range (place.length + 1) do
      tree ← snapshotPlace tree (place.take n)
  return tree

/-- The paths that a request names. -/
def Request.paths (r : Request) : List String :=
  let named := match r.task with
    | .generate _ output => output.toList
    | .render _ data _ output => data.toList ++ output.toList
    | .check => []
  r.files ++ named

/-- Whether a request reads standard input. -/
def Request.readsInput (r : Request) : Bool :=
  match r.task with
  | .render _ none _ _ => true
  | _ => false

/-- Whether an event is shown at a verbosity. -/
def Verbosity.shows (v : Verbosity) (level : LogLevel) : Bool :=
  match v, level with
  | .off, _ => false
  | .error, _ => false
  | .warn, .warn => true
  | .warn, _ => false
  | .info, .debug => false
  | .info, _ => true
  | _, _ => true

/-- The lines of a failure. -/
def Failure.lines : Failure → List String
  | .diagnostic d _ =>
    [d.cause.code, d.template ++ ":" ++ toString d.line ++ ": " ++ d.cause.message, d.cause.help]
  | .data => ["The data is not a JSON document."]
  | .message text help => text :: help.toList
  | .aborted => ["A function gave up."]

/-- Writes to the file system what a session changed, and reports its log. -/
def settle (verbosity : Verbosity) (before after : World) : IO Unit := do
  for event in after.log do
    if verbosity.shows event.level then
      IO.eprintln (event.level.name ++ " " ++ event.message)
  for (place, bytes) in before.tree.changes after.tree do
    IO.FS.writeBinFile (pathOfPlace place) bytes
  let out ← IO.getStdout
  out.write after.output
  out.flush

/-- Carries out a request on the file system. -/
def execute (request : Request) : IO UInt32 := do
  let tree ← snapshot request.paths
  let input ← if request.readsInput then (← IO.getStdin).readBinToEnd else pure ByteArray.empty
  let before := World.start tree input
  match run request before with
  | .ok () after =>
    settle request.verbosity before after
    return 0
  | .error failure after =>
    settle request.verbosity before after
    for line in failure.lines do
      IO.eprintln line
    return 1

end CommandLine

end Stencil

open Stencil.CommandLine in
/-- The command. -/
def main (args : List String) : IO UInt32 := do
  match parse args with
  | .error .help =>
    IO.println usageText
    return 0
  | .error .version =>
    IO.println versionText
    return 0
  | .error .invalid =>
    IO.eprintln usageText
    return 2
  | .ok request => execute request
