import Stencil.Number.Shortest

/-!
# The texts of a number

Three ways to write the shortest digits of a number, and one way to write a fixed
count of places.

* `Stencil.Number.display` is what a template prints: no fraction for a whole
  number, an exponent outside `[10 ^ -6, 10 ^ 21)`, and names for the rest.
* `Stencil.Number.literal` is what an emitted program holds: always recognizable
  as a floating-point literal, an exponent outside `[10 ^ -4, 10 ^ 16)`.
* `Stencil.Number.positional` never uses an exponent.
* `Stencil.Number.fixed` rounds the exact value to a number of places, a tie going
  to the even digit.
-/

namespace Stencil

attribute [local instance] natPower

namespace Significant

/-- The digits with the point in its place, and zeros where digits lack. -/
def positional (s : Significant) : List Char :=
  if s.point ≤ 0 then
    '0' :: '.' :: (List.replicate (-s.point).toNat '0' ++ s.digits)
  else
    let whole := s.point.toNat
    if s.digits.length ≤ whole then
      s.digits ++ List.replicate (whole - s.digits.length) '0'
    else s.digits.take whole ++ '.' :: s.digits.drop whole

/-- The exponent when one digit stands before the point. -/
def exponent (s : Significant) : Int := s.point - 1

/-- The digits with the point after the first one. -/
def mantissa (s : Significant) : List Char :=
  match s.digits with
  | d :: e :: rest => d :: '.' :: e :: rest
  | ds => ds

/-- Whether the digits stop at or before the point. -/
def isWhole (s : Significant) : Bool := s.digits.length ≤ s.point

end Significant

/-- The sign of a number as it stands before its digits. -/
def signText (negative : Bool) : String := if negative then "-" else ""

namespace Number

/-- **The text a template prints** for a number. -/
def display : Number → String
  | nan => "NaN"
  | infinite s => if s then "-Inf" else "+Inf"
  | finite s r =>
    if r.val = 0 then "0"
    else
      let digits := significant r.val
      if digits.exponent < -6 then
        signText s ++ String.ofList digits.mantissa ++ "e" ++ toString digits.exponent
      else if 21 ≤ digits.exponent then
        signText s ++ String.ofList digits.mantissa ++ "e+" ++ toString digits.exponent
      else signText s ++ String.ofList digits.positional

/-- **The floating-point literal** of a number: a fraction or an exponent always
shows, and the sign of zero is kept. -/
def literal : Number → String
  | nan => "NaN"
  | infinite s => signText s ++ "inf"
  | finite s r =>
    if r.val = 0 then signText s ++ "0.0"
    else
      let digits := significant r.val
      if digits.exponent < -4 ∨ 16 ≤ digits.exponent then
        signText s ++ String.ofList digits.mantissa ++ "e" ++ toString digits.exponent
      else if digits.isWhole then signText s ++ String.ofList digits.positional ++ ".0"
      else signText s ++ String.ofList digits.positional

/-- The shortest digits without an exponent; the sign of zero is kept. -/
def positional : Number → String
  | nan => "NaN"
  | infinite s => signText s ++ "inf"
  | finite s r =>
    if r.val = 0 then signText s ++ "0"
    else signText s ++ String.ofList (significant r.val).positional

/-- The magnitude of a rank in steps of `10 ^ -places`, rounded to the nearest; a
tie goes to the even one. -/
def roundPlaces (rank places : Nat) : Nat :=
  divNearest (units rank * 10 ^ places) (2 ^ unitExponent)

/-- Digits of a count of `10 ^ -places` steps, with the point before the last
`places` of them. -/
def pointed (steps places : Nat) : List Char :=
  let digits := Decimal.digitsOf steps
  let padded := List.replicate (places + 1 - digits.length) '0' ++ digits
  let whole := padded.length - places
  if places = 0 then padded else padded.take whole ++ '.' :: padded.drop whole

/-- **The text with a fixed count of places**; a negative number keeps its sign
even where all digits are zero. -/
def fixed (places : Nat) : Number → String
  | nan => "NaN"
  | infinite s => signText s ++ "inf"
  | finite s r => signText s ++ String.ofList (pointed (roundPlaces r.val places) places)

/-- The integer part of a finite number; there is no negative zero. -/
def integerPart? : Number → Option Int
  | finite s r =>
    let whole : Int := wholePart r.val
    some (if s then -whole else whole)
  | _ => none

end Number

end Stencil
