import Stencil.Program.Text
import Stencil.Text.Split

/-!
# Generators

A generator writes the text of a program while the templates come in. It keeps the
text of the routines written so far, the names that are in use, and the rows of the
table that is to come. To add a template is a computation on this state, step by step,
that may end with an error; whatever was done to the state before that stays done.

When all templates are in, the table is written behind the routines. Then the whole
text is cut into lines again, and the lines are moved to the right if they stand in a
module.
-/

namespace Stencil

/-! ### Frames -/

namespace Program

/-- The line of a row of the table. -/
def rowLine (row : String × String) : String :=
  "            " ++ ("(" ++ quoted row.1 ++ ", " ++ row.2 ++ " as comtmpl_lang::Routine),")

/-- The two functions that register routines, around the rows of the table. -/
def tableFrame (rows : List String) : List String :=
  ["", "pub fn templates() -> comtmpl_lang::Templates \x7b",
    "    with_functions(comtmpl_lang::Functions::builtins())", "\x7d", "",
    "pub fn with_functions(functions: comtmpl_lang::Functions) -> comtmpl_lang::Templates \x7b",
    "    comtmpl_lang::Templates::from_routines(", "        functions,", "        ["] ++
  rows ++ ["        ],", "    )", "\x7d"]

/-- The lines of a text around its items, in a module if a name is given. -/
def framed (moduleName : Option String) (items : List String) : List String :=
  match moduleName with
  | none => header :: items
  | some name => [header, "", "pub mod " ++ name ++ " \x7b"] ++ indentLines items ++ ["\x7d"]

end Program

/-! ### The state -/

/-- **A generator**: what it has written, and what it has to remember. -/
structure Generator where
  moduleName : Option String
  /-- The rows of the table: a template and the name of its routine. -/
  rows : List (String × String)
  /-- The text of the routines. -/
  body : String
  /-- The names in use. -/
  used : List String
  log : List LogEvent

/-- **A computation on a generator.** If it fails, the state stays as the failure
found it. -/
abbrev Generation (α : Type) : Type := EStateM CompileError Generator α

namespace Generator

/-- A generator that has written nothing, in a module if a name is given. -/
def start (moduleName : Option String) : Except CompileError Generator :=
  (Program.start moduleName).map fun p => ⟨p.moduleName, [], "", [], []⟩

/-! ### Adding templates -/

/-- Writes lines. -/
def write (lines : List String) : Generation Unit :=
  modify fun g => { g with body := g.body ++ joinLines lines }

/-- Takes a free name for the routine of a template. -/
def reserve (template : String) : Generation String := do
  let name := routineName (← get).used template
  modify fun g => { g with used := g.used ++ [name] }
  return name

/-- The steps of a template. -/
def steps (template : String) (nodes : List Node) (lines : LineIndex) :
    Generation (List Step) :=
  match Step.ofNodes template nodes lines with
  | .ok steps => return steps
  | .error e => throw e

/-- **Adds a template**: its routine is written under a free name, and registered. -/
def add (template : String) (nodes : List Node) (lines : LineIndex) : Generation Unit := do
  let steps ← steps template nodes lines
  let name ← reserve template
  write (Routine.lines ⟨name, Step.statements template steps⟩)
  modify fun g => { g with log := g.log ++ [.emitted name template] }
  modify fun g => { g with rows := g.rows ++ [(template, name)] }

/-- The result of an attempt to add a template, and the generator after it. -/
def attempt (g : Generator) (template : String) (nodes : List Node) (lines : LineIndex) :
    Except CompileError Unit × Generator :=
  match add template nodes lines g with
  | .ok () g' => (.ok (), g')
  | .error e g' => (.error e, g')

/-! ### The end -/

/-- **The text of a generator**: its routines and its table, set into its module line
by line. -/
def finish (g : Generator) : String :=
  let items := g.body ++ joinLines (Program.tableFrame (g.rows.map Program.rowLine))
  joinLines (Program.framed g.moduleName (textLines items))

end Generator

end Stencil
