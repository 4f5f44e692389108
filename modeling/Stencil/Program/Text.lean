import Stencil.Program.Emit
import Stencil.Text.Quoted

/-!
# The text of a program

A program as source text of the target language, line by line. Texts of the
template only ever appear quoted or as labels, so none of them can start a line of
its own, and the shape of the text depends on the shape of the program alone.
-/

namespace Stencil

/-! ### Expressions -/

/-- The literal of a constant. -/
def Constant.text : Constant → String
  | null => "comtmpl_lang::Value::Null"
  | bool b => "comtmpl_lang::Value::Bool(" ++ (if b then "true" else "false") ++ ")"
  | number (.infinite true) => "comtmpl_lang::Value::from(f64::NEG_INFINITY)"
  | number (.infinite false) => "comtmpl_lang::Value::from(f64::INFINITY)"
  | number n => "comtmpl_lang::Value::from(" ++ n.literal ++ "_f64)"
  | string s => "comtmpl_lang::Value::from(" ++ quoted s ++ ")"

mutual

/-- **The text of an expression.** -/
def Expression.text : Expression → String
  | data => "data"
  | field segments =>
    "comtmpl_lang::eval_field(data, &[" ++ ", ".intercalate (segments.map quoted) ++ "])?"
  | constant c => c.text
  | borrow e => "&" ++ e.text
  | clone e => e.text ++ ".clone()"
  | value => "value"
  | call name args =>
    "funcs.call(" ++ quoted name ++ ", vec![" ++ ", ".intercalate (Expression.texts args) ++ "])?"

/-- The texts of expressions. -/
def Expression.texts : List Expression → List String
  | [] => []
  | e :: rest => e.text :: Expression.texts rest

end

/-! ### Lines -/

/-- One level of indentation. -/
def indentation : String := "    "

/-- A line one level further in; an empty line stays empty. -/
def indentLine (line : String) : String := if line.isEmpty then line else indentation ++ line

/-- Lines one level further in. -/
def indentLines (lines : List String) : List String := lines.map indentLine

mutual

/-- **The lines of a statement.** -/
def Statement.lines : Statement → List String
  | remark template line => ["// " ++ label template ++ ":" ++ toString line]
  | writeText s => ["writer.write_all(" ++ quoted s ++ ".as_bytes())?;"]
  | write e => ["write!(writer, \"\x7b\x7d\", " ++ e.text ++ ")?;"]
  | bind e => ["let value = " ++ e.text ++ ";"]
  | block body => "\x7b" :: indentLines (Statement.allLines body) ++ ["\x7d"]

/-- The lines of statements. -/
def Statement.allLines : List Statement → List String
  | [] => []
  | s :: rest => s.lines ++ Statement.allLines rest

end

/-- The lines of a routine, with an empty line before them. -/
def Routine.lines (r : Routine) : List String :=
  let head := "pub fn " ++ r.name ++ "(funcs: &comtmpl_lang::Functions, " ++
    "writer: &mut dyn std::io::Write, data: &comtmpl_lang::Value) " ++
    "-> Result<(), comtmpl_lang::RenderError> \x7b"
  ["", head] ++
    indentLines ("let _ = (funcs, data);" :: Statement.allLines r.body ++ ["Ok(())"]) ++ ["\x7d"]

namespace Program

/-- The line of the table that registers a routine for a template. -/
def tableLine (entry : String × Routine) : String :=
  "(" ++ quoted entry.1 ++ ", " ++ entry.2.name ++ " as comtmpl_lang::Routine),"

/-- The lines of the two functions that register the routines. -/
def tableLines (p : Program) : List String :=
  ["", "pub fn templates() -> comtmpl_lang::Templates \x7b",
    "    with_functions(comtmpl_lang::Functions::builtins())", "\x7d", "",
    "pub fn with_functions(functions: comtmpl_lang::Functions) -> comtmpl_lang::Templates \x7b",
    "    comtmpl_lang::Templates::from_routines(", "        functions,", "        ["] ++
  p.routines.map (fun entry => "            " ++ tableLine entry) ++
  ["        ],", "    )", "\x7d"]

/-- The lines of the routines and of the table. -/
def itemLines (p : Program) : List String :=
  p.routines.flatMap (fun entry => entry.2.lines) ++ p.tableLines

/-- The first line of every program. -/
def header : String := "// Code generated by comtmpl. DO NOT EDIT."

/-- **The lines of a program.** -/
def lines (p : Program) : List String :=
  match p.moduleName with
  | none => header :: p.itemLines
  | some name =>
    [header, "", "pub mod " ++ name ++ " \x7b"] ++ indentLines p.itemLines ++ ["\x7d"]

/-- **The text of a program**: its lines, each ended by a line feed. -/
def text (p : Program) : String := String.join (p.lines.map (· ++ "\n"))

end Program

end Stencil
