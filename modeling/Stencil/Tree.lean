import Stencil.FieldPath

/-!
# Template trees

What a template says, as a tree. A template is a list of nodes: plain text, and
between the delimiters an action, a comment or a control item. An action holds a
pipeline: optional declarations, then commands, each a list of operands; an
operand may be a pipeline again, in parentheses. Every position is a byte offset
into the source.
-/

namespace Stencil

/-! ### Keywords -/

/-- The words that open or close a control structure. -/
inductive Keyword where
  | ifWord
  | rangeWord
  | withWord
  | templateWord
  | blockWord
  | defineWord
  | elseWord
  | endWord
  | breakWord
  | continueWord
  deriving DecidableEq

namespace Keyword

/-- The spelling of a keyword. -/
def text : Keyword → String
  | ifWord => "if"
  | rangeWord => "range"
  | withWord => "with"
  | templateWord => "template"
  | blockWord => "block"
  | defineWord => "define"
  | elseWord => "else"
  | endWord => "end"
  | breakWord => "break"
  | continueWord => "continue"

/-- All keywords. -/
def all : List Keyword :=
  [ifWord, rangeWord, withWord, templateWord, blockWord, defineWord, elseWord, endWord, breakWord,
    continueWord]

/-- The keyword with a spelling. -/
def ofText? (s : String) : Option Keyword := all.find? (·.text = s)

end Keyword

/-! ### Pipelines -/

/-- A command: operands at a position. -/
structure Command (α : Type) where
  pos : Nat
  operands : List α

/-- A pipeline: declared variables, then commands. -/
structure Pipeline (α : Type) where
  pos : Nat
  declarations : List String
  commands : List (Command α)

/-- **An operand** of a command. -/
inductive Operand where
  | field (path : FieldPath)
  | dot
  | identifier (name : String)
  | bool (b : Bool)
  | number (n : Number)
  | string (s : String)
  | nil
  | variableRef (name : String)
  | parenthesized (pipeline : Pipeline Operand)

/-- What an operand is called in a message. -/
def Operand.kind : Operand → String
  | field _ => "field"
  | dot => "dot"
  | identifier _ => "identifier"
  | bool _ => "bool"
  | number _ => "number"
  | string _ => "string"
  | nil => "nil"
  | variableRef _ => "variable"
  | parenthesized _ => "parenthesized pipeline"

/-! ### Nodes -/

/-- **A node of a template.** -/
inductive Node where
  | text (pos : Nat) (text : String)
  | action (pos : Nat) (pipeline : Pipeline Operand)
  | comment (pos : Nat)
  | control (pos : Nat) (keyword : Keyword)

/-- Where a node starts. -/
def Node.pos : Node → Nat
  | text pos _ => pos
  | action pos _ => pos
  | comment pos => pos
  | control pos _ => pos

end Stencil
