import Stencil.Number.Basic

/-!
# Decimal numerals

A decimal is a coefficient and a power of ten. This file reads one off the front
of a text and rounds it to the nearest number. Reading keeps the numeral exact:
`12.50e-3` is the coefficient `1250` with the exponent `-5`, and rounding happens
once, in `Stencil.Decimal.toNumber`.
-/

namespace Stencil

attribute [local instance] natPower

/-- The quantity `coefficient * 10 ^ exponent`. -/
structure Decimal where
  coefficient : Nat
  exponent : Int
  deriving DecidableEq, Inhabited

namespace Decimal

/-! ### Digits -/

/-- The digit a character stands for. -/
def digitValue (c : Char) : Nat := c.toNat - '0'.toNat

/-- The natural number that a run of digits spells. -/
def ofDigits (digits : List Char) : Nat :=
  digits.foldl (fun n c => 10 * n + digitValue c) 0

/-- The digits of a natural number, most significant first. -/
def digitsOf (n : Nat) : List Char := Nat.toDigits 10 n

/-- The leading run of digits of a text, and what follows it. -/
def spanDigits (cs : List Char) : List Char × List Char := cs.span Char.isDigit

/-! ### Rounding -/

/-- The magnitude `coefficient * 10 ^ exponent` as a quotient of natural numbers,
in units of `2 ^ -1074`. -/
def quotient (d : Decimal) : Nat × Nat :=
  match d.exponent with
  | .ofNat e => (d.coefficient * 10 ^ e * 2 ^ unitExponent, 1)
  | .negSucc e => (d.coefficient * 2 ^ unitExponent, 10 ^ (e + 1))

/-- The number of digits before the point when the decimal is written out. -/
def pointPlace (d : Decimal) : Int := (digitsOf d.coefficient).length + d.exponent

/-- **The number nearest to a decimal**, with a sign. Where the point lies
hundreds of places outside the range of numbers the answer is an infinity or a
zero, and the power of ten is not computed. -/
def toNumber (negative : Bool) (d : Decimal) : Number :=
  if d.coefficient = 0 then Number.ofRank negative 0
  else if 400 < d.pointPlace then Number.infinite negative
  else if d.pointPlace < -400 then Number.ofRank negative 0
  else Number.ofUnits negative d.quotient.1 d.quotient.2

/-! ### Reading -/

/-- Reads the digits of a numeral before its exponent: digits with an optional
point and further digits, or a point and digits. -/
def readMantissa? (cs : List Char) : Option (Decimal × List Char) :=
  let (whole, rest) := spanDigits cs
  match rest with
  | '.' :: rest' =>
    let (fraction, rest'') := spanDigits rest'
    if whole.isEmpty && fraction.isEmpty then none
    else some (⟨ofDigits (whole ++ fraction), -fraction.length⟩, rest'')
  | _ => if whole.isEmpty then none else some (⟨ofDigits whole, 0⟩, rest)

/-- Reads an optional sign. -/
def readSign : List Char → Bool × List Char
  | '-' :: cs => (true, cs)
  | '+' :: cs => (false, cs)
  | cs => (false, cs)

/-- How reading an exponent ends: there is none, it is complete, or the letter
stands there without digits after it. -/
inductive Exponent where
  | absent
  | complete (exponent : Int) (rest : List Char)
  | broken

/-- Reads an exponent: the letter `e` of either case, an optional sign, digits. -/
def readExponent : List Char → Exponent
  | [] => .absent
  | c :: cs =>
    if c = 'e' ∨ c = 'E' then
      let (negative, cs') := readSign cs
      let (digits, rest) := spanDigits cs'
      if digits.isEmpty then .broken
      else
        let e : Int := ofDigits digits
        .complete (if negative then -e else e) rest
    else .absent

/-- The decimal moved by a power of ten. -/
def shift (d : Decimal) (e : Int) : Decimal := ⟨d.coefficient, d.exponent + e⟩

end Decimal

/-- **The number a whole text spells**: an optional sign, then a decimal numeral,
or the name of an infinity or of not-a-number in any letter case. A rounding
function turns the numeral into a number. -/
def Number.ofTextWith? (round : Bool → Decimal → Number) (text : String) : Option Number :=
  let (negative, cs) := Decimal.readSign text.toList
  let name := String.ofList (cs.map Char.toLower)
  if name = "inf" ∨ name = "infinity" then some (.infinite negative)
  else if name = "nan" then some .nan
  else
    match Decimal.readMantissa? cs with
    | none => none
    | some (d, rest) =>
      match Decimal.readExponent rest with
      | .complete e [] => some (round negative (d.shift e))
      | .absent => if rest.isEmpty then some (round negative d) else none
      | _ => none

/-- The number a text spells, rounded to 53 significant bits. -/
def Number.ofText? (text : String) : Option Number :=
  Number.ofTextWith? Decimal.toNumber text

/-! ### Single precision -/

/-- The number nearest to a decimal among those with 24 significant bits whose
least positive magnitude is `2 ^ -149`. -/
def Decimal.toSingle (negative : Bool) (d : Decimal) : Number :=
  if d.coefficient = 0 then Number.ofRank negative 0
  else if 400 < d.pointPlace then Number.infinite negative
  else if d.pointPlace < -400 then Number.ofRank negative 0
  else
    let rank := binaryNearest 23 d.quotient.1 (d.quotient.2 * 2 ^ (unitExponent - 149))
    if 255 * 2 ^ (23 : Nat) ≤ rank then Number.infinite negative
    else Number.ofUnits negative (binaryUnits 23 rank * 2 ^ (unitExponent - 149)) 1

/-- The number a text spells, rounded to 24 significant bits. -/
def Number.singleOfText? (text : String) : Option Number :=
  Number.ofTextWith? Decimal.toSingle text

end Stencil
