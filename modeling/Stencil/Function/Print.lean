import Stencil.Text.Quoted
import Stencil.Value.Display

/-!
# Printing functions

Three ways to print a list of values: side by side, with blanks between them and a
line feed after them, and by a format. A format is split from left to right into
pieces, literal characters and directives, and each directive with a verb takes
the next value. What does not fit is shown in the output and is never an error:
a verb without a value, a value without a verb, a value that a verb cannot show, a
directive that the end of the format cuts off.
-/

namespace Stencil

attribute [local instance] natPower

/-! ### Without a format -/

/-- What stands between two values printed side by side: a blank, unless one of
them is a text. -/
def gapBetween (a b : Value) : String := if a.isString || b.isString then "" else " "

/-- Prints values side by side. -/
def printValues : List Value → String
  | [] => ""
  | [v] => v.display
  | v :: w :: rest => v.display ++ gapBetween v w ++ printValues (w :: rest)

/-- Prints values with blanks between them and a line feed at the end. -/
def printLine (values : List Value) : String := " ".intercalate (values.map Value.display) ++ "\n"

/-! ### Formats -/

/-- A piece of a format. -/
inductive FormatPiece where
  /-- A character that stands for itself. -/
  | literal (c : Char)
  /-- A directive that prints a percent sign. -/
  | percent
  /-- A directive that takes a value. -/
  | verb (precision : Option Nat) (verb : Char)
  /-- A directive that the end of the format cuts off. -/
  | cut
  deriving DecidableEq

/-- The precision that a run of digits spells. Without digits, or when the number
does not fit a machine word, it is zero. -/
def precisionOf (digits : List Char) : Nat :=
  let n := digits.foldl (fun n c => 10 * n + (c.toNat - '0'.toNat)) 0
  if n < 2 ^ (64 : Nat) then n else 0

/-- Splits off the precision of a directive: a point and the digits after it. -/
def splitPrecision : List Char → Option Nat × List Char
  | '.' :: cs => (some (precisionOf (cs.takeWhile Char.isDigit)), cs.dropWhile Char.isDigit)
  | cs => (none, cs)

theorem length_splitPrecision_le (cs : List Char) : (splitPrecision cs).2.length ≤ cs.length := by
  unfold splitPrecision
  split
  · rename_i ds
    have := (List.dropWhile_sublist (p := Char.isDigit) (l := ds)).length_le
    simp; omega
  · simp

theorem length_lt_of_splitPrecision {cs rest : List Char} {precision : Option Nat} {v : Char}
    (h : splitPrecision cs = (precision, v :: rest)) : rest.length < cs.length + 1 := by
  have hle := length_splitPrecision_le cs
  rw [h, List.length_cons] at hle
  omega

/-- **The pieces of a format.** -/
def formatPieces : List Char → List FormatPiece
  | [] => []
  | c :: cs =>
    if c = '%' then
      match h : splitPrecision cs with
      | (_, []) => [.cut]
      | (precision, v :: rest) =>
        have := length_lt_of_splitPrecision h
        (if v = '%' then .percent else .verb precision v) :: formatPieces rest
    else .literal c :: formatPieces cs
termination_by cs => cs.length

/-- The largest precision that can be printed. -/
def maxPrecision : Nat := 65535

/-- A value that a verb cannot show. -/
def badVerb (verb : Char) (v : Value) : String :=
  "%!" ++ String.singleton verb ++ "(" ++ v.kind.name ++ "=" ++ v.display ++ ")"

/-- A value as a verb shows it; nothing if the precision is out of reach. -/
def showVerb (verb : Char) (precision : Option Nat) (v : Value) : Option String :=
  match verb, v with
  | 'v', _ => some v.display
  | 's', .number _ => some (badVerb verb v)
  | 's', .bool _ => some (badVerb verb v)
  | 's', _ => some v.display
  | 'd', .number n =>
    if n.isFinite then some (n.truncated.unsignedZero.fixed 0) else some (badVerb verb v)
  | 'f', .number n =>
    let places := precision.getD 6
    if maxPrecision < places then none else some (n.fixed places)
  | 't', .bool b => some (if b then "true" else "false")
  | 'q', .string s => some (quoted s)
  | _, _ => some (badVerb verb v)

/-- The values that no directive took. -/
def showExtra (values : List Value) : String :=
  if values.isEmpty then ""
  else
    "%!(EXTRA " ++ ", ".intercalate (values.map fun v => v.kind.name ++ "=" ++ v.display) ++ ")"

/-- Prints pieces, each directive taking the next value. -/
def printPieces : List FormatPiece → List Value → Option String
  | [], values => some (showExtra values)
  | .literal c :: rest, values => (printPieces rest values).map (String.singleton c ++ ·)
  | .percent :: rest, values => (printPieces rest values).map ("%" ++ ·)
  | .cut :: rest, values => (printPieces rest values).map ("%!(NOVERB)" ++ ·)
  | .verb _ c :: rest, [] =>
    (printPieces rest []).map ("%!" ++ String.singleton c ++ "(MISSING)" ++ ·)
  | .verb precision c :: rest, v :: values =>
    match showVerb c precision v with
    | none => none
    | some shown => (printPieces rest values).map (shown ++ ·)

/-- **Prints values by a format**; nothing if a precision is out of reach. -/
def printFormat (format : String) (values : List Value) : Option String :=
  printPieces (formatPieces format.toList) values

end Stencil
