import Stencil.Text.Alphanumeric
import Stencil.Text.Cased
import Stencil.Text.CaseTable

/-!
# Upper case, lower case, title case

Case mapping of whole texts. One letter may become several, and one letter looks
at its neighbours: the capital sigma becomes a final sigma where it ends a word.
Title case raises the first character of every word, a word being a run of
letters, numerals and underscores.
-/

namespace Stencil

/-! ### Single characters -/

/-- The result of the first run that covers a character, if any does. -/
def moveByRuns (runs : Array CaseRun) (c : Char) : Char :=
  match runs.find? (·.covers c.toNat) with
  | some run => run.move c.toNat
  | none => c

/-- The upper case of a character. -/
def upperChar (c : Char) : List Char :=
  match upperExpansions.lookup c.toNat with
  | some codes => codes.map Char.ofNat
  | none => [moveByRuns upperRuns c]

/-- The lower case of a character that stands alone. -/
def lowerChar (c : Char) : List Char :=
  if c = '\u0130' then ['i', '\u0307'] else [moveByRuns lowerRuns c]

/-! ### Texts -/

/-- **The upper case of a text.** -/
def upperText (s : String) : String := String.ofList (s.toList.flatMap upperChar)

/-- Whether the nearest character that matters to case has case. -/
def startsCased (cs : List Char) : Bool :=
  match cs.dropWhile isCaseIgnorable with
  | c :: _ => isCased c
  | [] => false

/-- The lower case of a sigma between the characters before it, nearest first,
and those after it. -/
def lowerSigma (before after : List Char) : Char :=
  if startsCased before && !startsCased after then 'ς' else 'σ'

/-- The lower case of the characters that follow those of `before`, which are
given nearest first. -/
def lowerFrom (before : List Char) : List Char → List Char
  | [] => []
  | c :: rest =>
    (if c = 'Σ' then [lowerSigma before rest] else lowerChar c) ++ lowerFrom (c :: before) rest

/-- **The lower case of a text.** -/
def lowerText (s : String) : String := String.ofList (lowerFrom [] s.toList)

/-- Whether a character belongs to a word. -/
def isWordChar (c : Char) : Bool := isAlphanumeric c || c == '_'

/-- **The title case of a text**: the first character of every word raised. Each
character is taken together with whether the one before it belongs to a word. -/
def titleText (s : String) : String :=
  let cs := s.toList
  let afterWord := false :: cs.map isWordChar
  let raised := List.zipWith (fun inside c => if inside then [c] else upperChar c) afterWord cs
  String.ofList raised.flatten

end Stencil
