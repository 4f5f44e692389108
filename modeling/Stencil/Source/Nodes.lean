import Stencil.Source.Pipeline

/-!
# Reading a template

A source is split at its left delimiters. What lies before one is text; what lies
behind it, up to the matching right delimiter, is an action, a comment or a
control item. A trim marker, a minus sign with a blank on its inner side, removes
the blanks of the text on its outer side.

`Stencil.parse` is the whole reading. It ends because every item consumes at least
one character of the source, for any two delimiters, empty ones included.
-/

namespace Stencil

/-! ### Errors -/

/-- **What is wrong with a source**, and the offset it is about. -/
inductive SourceError where
  | unclosedAction (offset : Nat)
  | unclosedComment (offset : Nat)
  | emptyCommand (offset : Nat)
  | unexpectedInput (offset : Nat) (found : String)
  deriving DecidableEq

namespace SourceError

/-- The offset an error is about. -/
def offset : SourceError → Nat
  | unclosedAction offset => offset
  | unclosedComment offset => offset
  | emptyCommand offset => offset
  | unexpectedInput offset _ => offset

/-- The wording of an error. -/
def message : SourceError → String
  | unclosedAction _ => "Unclosed action"
  | unclosedComment _ => "Unclosed comment"
  | emptyCommand _ => "Missing value for command"
  | unexpectedInput _ found => "Unexpected \x60" ++ found ++ "\x60 in action"

/-- The error of a character that should not stand at the cursor. -/
def unexpectedAt (c : Cursor) : SourceError :=
  .unexpectedInput c.offset <|
    match c.rest with
    | [] => "EOF"
    | x :: _ => String.singleton x

end SourceError

/-! ### Delimiters -/

/-- The two texts that enclose an action. -/
structure Delimiters where
  left : String
  right : String
  deriving DecidableEq

/-- Double braces. -/
def Delimiters.standard : Delimiters := ⟨"\x7b\x7b", "\x7d\x7d"⟩

instance : Inhabited Delimiters := ⟨.standard⟩

namespace Cursor

/-- Reads a trim marker after a left delimiter: a minus sign, if a blank follows
it. The blank is not read. -/
def openingTrim (c : Cursor) : Bool × Cursor :=
  match c.expect? ['-'] with
  | some d => if d.skipBlanks1?.isSome then (true, d) else (false, c)
  | none => (false, c)

/-- Reads the right delimiter, with blanks before it, and a trim marker if a blank
stands before that: whether it was there, and the cursor after the delimiter. -/
def close? (c : Cursor) (right : List Char) : Option (Bool × Cursor) :=
  match (c.skipBlanks1?.bind (·.expect? ['-'])).bind (·.expect? right) with
  | some after => some (true, after)
  | none => (c.skipBlanks.expect? right).map fun after => (false, after)

end Cursor

/-! ### Nodes -/

/-- The text node of a text, if anything is left of it after trimming. -/
def textNodes (c : Cursor) (text : List Char) (trimStart trimEnd : Bool) : List Node :=
  let kept := if trimStart then trimBlankStart text else text
  let offset := c.offset + (byteLength text - byteLength kept)
  let kept := if trimEnd then trimBlankEnd kept else kept
  if kept.isEmpty then [] else [.text offset (String.ofList kept)]

/-- Whether a text ends with a blank and a minus sign. -/
def endsWithTrim (text : List Char) : Bool :=
  match text.reverse with
  | '-' :: x :: _ => isBlank x
  | _ => false

/-- Reads a comment and the right delimiter after it. -/
def readComment? (right : List Char) (c : Cursor) : Option (Bool × Cursor) := do
  let inside ← c.expect? ['/', '*']
  let (_, closing) ← inside.until? ['*', '/']
  let after ← closing.expect? ['*', '/']
  after.close? right

/-- Reads a keyword. -/
def readKeyword? (c : Cursor) : Option (Keyword × Cursor) :=
  match c.identifier? with
  | some (name, after) => (Keyword.ofText? (String.ofList name)).map fun k => (k, after)
  | none => none

/-- Reads what follows a keyword up to and over the right delimiter. -/
def readControl (right : List Char) (c : Cursor) : Except SourceError (Bool × Cursor) :=
  match c.until? right with
  | none => .error (.unexpectedAt c)
  | some (skipped, closing) =>
    match closing.expect? right with
    | none => .error (.unexpectedAt closing)
    | some after => .ok (endsWithTrim skipped, after)

/-- Reads a pipeline up to and over the right delimiter. -/
def readAction (right : List Char) (c : Cursor) :
    Except SourceError (Pipeline Operand × Bool × Cursor) :=
  if c.startsWith ['|'] || (c.close? right).isSome then .error (.emptyCommand c.offset)
  else
    match readPipeline c with
    | .error stop => .error (.unexpectedAt stop.place)
    | .ok (pipeline, d) =>
      match d.close? right with
      | some (trim, after) => .ok (pipeline, trim, after)
      | none =>
        let e := d.skipBlanks
        if e.startsWith ['|'] then .error (.emptyCommand e.offset)
        else .error (.unexpectedAt e)

/-- Reads the item that begins at offset `pos`, from behind its left delimiter:
the node, whether the text after it is to be trimmed, and the cursor after the
right delimiter. -/
def readItem (right : List Char) (pos : Nat) (body : Cursor) :
    Except SourceError (Node × Bool × Cursor) :=
  if !containsText right body.rest then .error (.unclosedAction pos)
  else
    let c := body.skipBlanks
    if c.startsWith ['/', '*'] then
      match readComment? right c with
      | some (trim, after) => .ok (.comment pos, trim, after)
      | none => .error (.unclosedComment pos)
    else
      match readKeyword? c with
      | some (keyword, d) =>
        match readControl right d with
        | .ok (trim, after) => .ok (.control pos keyword, trim, after)
        | .error e => .error e
      | none =>
        match readAction right c with
        | .ok (pipeline, trim, after) => .ok (.action pos pipeline, trim, after)
        | .error e => .error e

/-- Splits a text at the first left delimiter, if there is one. -/
def Cursor.splitText (c : Cursor) (left : List Char) : List Char × Cursor :=
  (c.until? left).getD (c.rest, c.past c.rest [])

/-- Reads the nodes from a cursor on; `trim` says whether the text there is to
lose its leading blanks. -/
def readNodes (left right : List Char) (trim : Bool) (c : Cursor) :
    Except SourceError (List Node) :=
  let (text, opening) := c.splitText left
  if opening.atEnd then .ok (textNodes c text trim false)
  else
    match opening.expect? left with
    | none => .error (.unexpectedAt opening)
    | some inside =>
      let (trimEnd, body) := inside.openingTrim
      match readItem right opening.offset body with
      | .error e => .error e
      | .ok (node, trimNext, after) =>
        if after.rest.length < c.rest.length then
          match readNodes left right trimNext after with
          | .error e => .error e
          | .ok nodes => .ok (textNodes c text trim trimEnd ++ node :: nodes)
        else .error (.unexpectedAt after)
termination_by c.rest.length

/-- **Reads a template.** -/
def parse (delimiters : Delimiters) (source : String) : Except SourceError (List Node) :=
  readNodes delimiters.left.toList delimiters.right.toList false (Cursor.start source)

end Stencil
