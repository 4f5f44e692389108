import Stencil.Text.Blank
import Stencil.Text.Find

/-!
# Reading a source

A cursor is a place in a source: the characters still to read, and the number of
bytes before them. Reading moves the cursor past what was read, so the offset
always counts the bytes left behind. This file has the elementary readings: a
given text, everything up to a given text, a run of characters, an identifier.
-/

namespace Stencil

/-! ### Cursors -/

/-- **A place in a source**: the bytes before it are counted, the characters after
it are still to read. -/
structure Cursor where
  offset : Nat
  rest : List Char
  deriving DecidableEq

namespace Cursor

/-- The start of a source. -/
def start (source : String) : Cursor := ⟨0, source.toList⟩

/-- The cursor after a text that was read, with what follows the text. -/
def past (c : Cursor) (taken rest : List Char) : Cursor := ⟨c.offset + byteLength taken, rest⟩

/-- Whether nothing is left to read. -/
def atEnd (c : Cursor) : Bool := c.rest.isEmpty

/-- Whether a text comes next. -/
def startsWith (c : Cursor) (text : List Char) : Bool := (stripText text c.rest).isSome

/-- Reads a given text. -/
def expect? (c : Cursor) (text : List Char) : Option Cursor :=
  (stripText text c.rest).map (c.past text)

/-- Reads up to the first place of a given text. -/
def until? (c : Cursor) (text : List Char) : Option (List Char × Cursor) :=
  (findText text c.rest).map fun (before, rest) => (before, c.past before rest)

/-- Reads the longest run of characters with a property. -/
def takeWhile (c : Cursor) (p : Char → Bool) : List Char × Cursor :=
  let taken := c.rest.takeWhile p
  (taken, c.past taken (c.rest.dropWhile p))

/-- Passes over the blanks that come next. -/
def skipBlanks (c : Cursor) : Cursor := (c.takeWhile isBlank).2

/-- Passes over blanks, of which there must be one. -/
def skipBlanks1? (c : Cursor) : Option Cursor :=
  let (taken, after) := c.takeWhile isBlank
  if taken.isEmpty then none else some after

end Cursor

/-! ### Identifiers -/

/-- Whether a character may begin an identifier. -/
def isIdentifierStart (c : Char) : Bool := c.isAlpha || c == '_'

/-- Whether a character may continue an identifier. -/
def isIdentifierPart (c : Char) : Bool := c.isAlphanum || c == '_'

/-- Reads an identifier, as long as it goes. -/
def Cursor.identifier? (c : Cursor) : Option (List Char × Cursor) :=
  match c.rest with
  | [] => none
  | x :: _ => if isIdentifierStart x then some (c.takeWhile isIdentifierPart) else none

end Stencil
