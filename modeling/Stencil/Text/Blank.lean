/-!
# Blanks and byte lengths

Inside a template four characters count as blank: space, tab, carriage return and
line feed. This file has the two trims of a text that the trim markers of an
action ask for, and the byte length of a text, which is the measure in which all
places in a source are given.
-/

namespace Stencil

/-- Whether a character is a blank of the template language. -/
def isBlank (c : Char) : Bool := c == ' ' || c == '\t' || c == '\r' || c == '\n'

/-- A text without the blanks at its start. -/
def trimBlankStart (cs : List Char) : List Char := cs.dropWhile isBlank

/-- A text without the blanks at its end. -/
def trimBlankEnd (cs : List Char) : List Char := (cs.reverse.dropWhile isBlank).reverse

/-- The number of bytes of a text in UTF-8. -/
def byteLength : List Char → Nat
  | [] => 0
  | c :: cs => c.utf8Size + byteLength cs

@[simp] theorem byteLength_nil : byteLength [] = 0 := rfl

@[simp] theorem byteLength_cons (c : Char) (cs : List Char) :
    byteLength (c :: cs) = c.utf8Size + byteLength cs := rfl

@[simp] theorem byteLength_append (cs ds : List Char) :
    byteLength (cs ++ ds) = byteLength cs + byteLength ds := by
  induction cs with
  | nil => rw [List.nil_append, byteLength_nil, Nat.zero_add]
  | cons c cs ih => rw [List.cons_append, byteLength_cons, ih, byteLength_cons, Nat.add_assoc]

end Stencil
