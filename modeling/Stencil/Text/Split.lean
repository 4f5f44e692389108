/-!
# Splitting at a character

The parts of a text between the places of one character. There is one part more
than there are such places, and parts may be empty. The lines of a text are the
parts between its line feeds, without an empty rest behind the last of them.
-/

namespace Stencil

/-- The parts of a text between the places of `mark`. -/
def splitAtChar (mark : Char) : List Char → List (List Char)
  | [] => [[]]
  | c :: cs =>
    if c = mark then [] :: splitAtChar mark cs
    else
      match splitAtChar mark cs with
      | [] => [[c]]
      | part :: parts => (c :: part) :: parts

/-- A line without a carriage return at its end. -/
def dropReturn (line : List Char) : List Char :=
  if line.getLast? = some '\r' then line.dropLast else line

/-- **The lines of a text.** A line ends with a line feed, to which a carriage return
before it belongs; the last line may lack it. -/
def textLines (s : String) : List String :=
  let parts := splitAtChar '\n' s.toList
  let ended := parts.dropLast.map dropReturn
  let rest := parts.getLast?.toList.filter fun part => !part.isEmpty
  (ended ++ rest).map String.ofList

/-- The text of lines, each ended by a line feed. -/
def joinLines (lines : List String) : String := String.join (lines.map (· ++ "\n"))

end Stencil
