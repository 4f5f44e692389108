/-!
# Texts inside texts

Whether a text stands at the front of another, where it first occurs in it, and
whether it occurs at all. The empty text occurs everywhere, first at the front.
-/

namespace Stencil

/-- What follows a text at the front of another. -/
def stripText : List Char → List Char → Option (List Char)
  | [], cs => some cs
  | _ :: _, [] => none
  | p :: ps, c :: cs => if p = c then stripText ps cs else none

/-- The first place of a text in another: what lies before it, and the rest, which
begins with it. -/
def findText (pattern : List Char) : List Char → Option (List Char × List Char)
  | [] => if pattern.isEmpty then some ([], []) else none
  | c :: cs =>
    if (stripText pattern (c :: cs)).isSome then some ([], c :: cs)
    else (findText pattern cs).map fun (before, rest) => (c :: before, rest)

/-- Whether a text occurs in another. -/
def containsText (pattern : List Char) : List Char → Bool
  | [] => pattern.isEmpty
  | c :: cs => (stripText pattern (c :: cs)).isSome || containsText pattern cs

/-- A text occurs in another exactly when it has a first place in it. -/
theorem containsText_eq_isSome (pattern cs : List Char) :
    containsText pattern cs = (findText pattern cs).isSome := by
  induction cs with
  | nil => cases pattern <;> rfl
  | cons c cs ih =>
    simp only [containsText, findText, ih]
    split <;> simp_all

end Stencil
