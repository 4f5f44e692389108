import Stencil.Engine

/-!
# Two sample pages

Two pages kept as an emitted program, the one with plain fields and the other with
fields passed through functions.
-/

namespace Stencil

/-- A page with plain fields. -/
def indexPage : String :=
  "<html>\n  <head>\n    <title>\x7b\x7b.Title\x7d\x7d</title>\n  </head>\n  <body>\n" ++
  "    <h1>\x7b\x7b.Title\x7d\x7d</h1>\n    <p>Welcome, \x7b\x7b.User.Name\x7d\x7d!</p>\n" ++
  "  </body>\n</html>\n"

/-- A page with fields passed through functions. -/
def pipePage : String :=
  "<html>\n  <head>\n    <title>\x7b\x7b.Title | upper\x7d\x7d</title>\n  </head>\n  <body>\n" ++
  "    <h1>\x7b\x7b.Title\x7d\x7d</h1>\n" ++
  "    <p>Name length: \x7b\x7b.User.Name | len\x7d\x7d</p>\n" ++
  "    <p>\x7b\x7b.User.Description | title\x7d\x7d</p>\n  </body>\n</html>\n"

/-- The program of the two pages. -/
def samplePages : Except Diagnostic Program :=
  (Engine.standard.emit [("index.html", indexPage), ("pipe.html", pipePage)] none).value

/-- The library of the two pages, for a registry of functions. -/
def sampleLibrary (functions : Registry) : Library :=
  match samplePages with
  | .ok p => p.library functions
  | .error _ => .empty functions

end Stencil
