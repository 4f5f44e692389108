import Stencil.Source.Literal
import Stencil.Tree

/-!
# Reading pipelines

The inside of an action: optional declarations, then commands separated by bars,
each a list of operands separated by blanks. An operand is read by ordered choice,
so a path comes before the lone dot and a numeral before a word.

A reading ends in one of three ways. It may succeed; it may find that nothing of
its kind stands at the cursor, and then a list stops before the separator it had
just read; or it may find something broken, and then the whole pipeline fails
there and then. The only broken thing is a numeral without exponent digits.

Parentheses nest. `Stencil.readOperand` takes the number of levels it may still
descend; since every level costs a character, the length of the rest is enough,
and `Stencil.readPipeline` supplies it.
-/

namespace Stencil

/-! ### Readings -/

/-- Why a reading gives nothing, and where. -/
inductive Stop where
  /-- Nothing of this kind stands here. -/
  | absent (place : Cursor)
  /-- Something of this kind begins here and goes wrong. -/
  | broken (place : Cursor)
  deriving DecidableEq

/-- Where a reading stopped. -/
def Stop.place : Stop → Cursor
  | absent c => c
  | broken c => c

/-- The result of a reading: what was read and the cursor after it. -/
abbrev Reading (α : Type) := Except Stop (α × Cursor)

/-- Reads further items of a list, each after a separator. An item that is absent
ends the list before its separator. -/
def readMore {α : Type} (separator? : Cursor → Option Cursor) (item : Cursor → Reading α)
    (c : Cursor) : Reading (List α) :=
  match separator? c with
  | none => .ok ([], c)
  | some d =>
    match item d with
    | .error (.absent _) => .ok ([], c)
    | .error (.broken place) => .error (.broken place)
    | .ok (a, e) =>
      if e.rest.length < c.rest.length then
        match readMore separator? item e with
        | .ok (more, after) => .ok (a :: more, after)
        | .error stop => .error stop
      else .error (.absent c)
termination_by c.rest.length

/-- Reads a list of one or more items with separators between them. -/
def readList {α : Type} (separator? : Cursor → Option Cursor) (item : Cursor → Reading α)
    (c : Cursor) : Reading (List α) :=
  match item c with
  | .error stop => .error stop
  | .ok (a, d) =>
    match readMore separator? item d with
    | .ok (more, after) => .ok (a :: more, after)
    | .error stop => .error stop

/-- A separator of one character with blanks around it. -/
def separator? (mark : Char) (c : Cursor) : Option Cursor :=
  (c.skipBlanks.expect? [mark]).map Cursor.skipBlanks

/-! ### Operands without inner structure -/

/-- Reads names with a dot before each: the names, and the cursor after them. -/
def readDotted (c : Cursor) : List (List Char) × Cursor :=
  match (c.expect? ['.']).bind Cursor.identifier? with
  | none => ([], c)
  | some (name, d) =>
    if d.rest.length < c.rest.length then
      let (names, after) := readDotted d
      (name :: names, after)
    else ([], c)
termination_by c.rest.length

/-- Reads a path: one or more names with a dot before each. -/
def readField? (c : Cursor) : Option (Operand × Cursor) :=
  let (names, after) := readDotted c
  (FieldPath.ofSegments? (names.map String.ofList)).map fun path => (.field path, after)

/-- Reads a lone dot. -/
def readDot? (c : Cursor) : Option (Operand × Cursor) :=
  (c.expect? ['.']).map fun after => (.dot, after)

/-- Reads a dollar sign with an optional identifier. -/
def readDollar? (c : Cursor) : Option (List Char × Cursor) :=
  match c.expect? ['$'] with
  | none => none
  | some d =>
    match d.identifier? with
    | some (name, after) => some ('$' :: name, after)
    | none => some (['$'], d)

/-- Reads a variable: a dollar sign, an optional identifier, and an optional path
into it. -/
def readVariable? (c : Cursor) : Option (Operand × Cursor) :=
  match readDollar? c with
  | none => none
  | some (head, d) =>
    let (names, after) := readDotted d
    some (.variableRef (String.ofList (head ++ names.flatMap ('.' :: ·))), after)

/-- Reads a text literal of either form. -/
def readText? (c : Cursor) : Option (Operand × Cursor) :=
  match c.quotedText? with
  | some (text, after) => some (.string text, after)
  | none => c.rawText?.map fun (text, after) => (.string text, after)

/-- The operand that a word stands for. -/
def wordOperand (name : String) : Operand :=
  if name = "true" then .bool true
  else if name = "false" then .bool false
  else if name = "nil" then .nil
  else .identifier name

/-- Reads a word. -/
def readWord? (c : Cursor) : Option (Operand × Cursor) :=
  c.identifier?.map fun (name, after) => (wordOperand (String.ofList name), after)

/-- Reads an operand that begins with a mark of its own: a path, a dot, a variable
or a text. -/
def readMarked? (c : Cursor) : Option (Operand × Cursor) :=
  match readField? c with
  | some r => some r
  | none =>
    match readDot? c with
    | some r => some r
    | none =>
      match readVariable? c with
      | some r => some r
      | none => readText? c

/-! ### Commands and pipelines -/

/-- Reads a pipeline in parentheses, given how to read the pipeline. -/
def readParenthesized (pipeline : Cursor → Reading (Pipeline Operand)) (c : Cursor) :
    Reading Operand :=
  match c.expect? ['('] with
  | none => .error (.absent c)
  | some d =>
    match pipeline d.skipBlanks with
    | .error (.absent _) => .error (.absent c)
    | .error (.broken place) => .error (.broken place)
    | .ok (p, e) =>
      match e.skipBlanks.expect? [')'] with
      | some after => .ok (.parenthesized p, after)
      | none => .error (.absent c)

/-- Reads an operand by ordered choice, given how to read a pipeline inside
parentheses. -/
def readChoice (pipeline : Cursor → Reading (Pipeline Operand)) (c : Cursor) : Reading Operand :=
  match readMarked? c with
  | some r => .ok r
  | none =>
    match c.numeral with
    | .complete n after => .ok (.number n, after)
    | .broken => .error (.broken c)
    | .absent =>
      match readParenthesized pipeline c with
      | .error (.absent _) =>
        match readWord? c with
        | some r => .ok r
        | none => .error (.absent c)
      | r => r

/-- Reads a command, given how to read an operand. -/
def readCommand (operand : Cursor → Reading Operand) (c : Cursor) : Reading (Command Operand) :=
  match readList Cursor.skipBlanks1? operand c with
  | .ok (operands, after) => .ok (⟨c.offset, operands⟩, after)
  | .error stop => .error stop

/-- Reads a declared name. -/
def readDeclared (c : Cursor) : Reading String :=
  match readDollar? c with
  | some (name, after) => .ok (String.ofList name, after)
  | none => .error (.absent c)

/-- Reads declarations and the sign after them. -/
def readDeclarations? (c : Cursor) : Option (List String × Cursor) :=
  match readList (separator? ',') readDeclared c with
  | .error _ => none
  | .ok (names, d) =>
    let sign := d.skipBlanks
    match (sign.expect? [':', '=']).or (sign.expect? ['=']) with
    | some after => some (names, after.skipBlanks)
    | none => none

/-- Reads a pipeline, given how to read an operand. -/
def readPipelineOf (operand : Cursor → Reading Operand) (c : Cursor) :
    Reading (Pipeline Operand) :=
  let (declarations, d) := (readDeclarations? c).getD ([], c)
  match readList (separator? '|') (readCommand operand) d with
  | .ok (commands, after) => .ok (⟨c.offset, declarations, commands⟩, after)
  | .error stop => .error stop

/-- **Reads an operand**, descending at most `depth` levels of parentheses. -/
def readOperand : (depth : Nat) → Cursor → Reading Operand
  | 0 => readChoice fun c => .error (.absent c)
  | depth + 1 => readChoice (readPipelineOf (readOperand depth))

/-- **Reads a pipeline.** -/
def readPipeline (c : Cursor) : Reading (Pipeline Operand) :=
  readPipelineOf (readOperand c.rest.length) c

end Stencil
