import Stencil.Number.Decimal

/-!
# The shortest digits of a number

Every finite magnitude is a whole number of steps of `10 ^ -1074`, so its decimal
expansion is finite and `Stencil.expansion` writes it down as one natural number.
The shortest digits are found on coarser and coarser grids read the other way
round: with one significant digit, then two, and so on, the two neighbours of the
magnitude on the grid are rounded back, and the first grid with a neighbour that
gives the magnitude again wins. The grid of the full expansion always does, so
the search cannot fail.
-/

namespace Stencil

attribute [local instance] natPower

/-- Five to the power 1074: a step of `10 ^ -1074` is one part in that many of a
unit of `2 ^ -1074`. -/
def fivePower : Nat := 5 ^ unitExponent

/-- The magnitude of a rank in steps of `10 ^ -1074`. -/
def expansion (rank : Nat) : Nat := units rank * fivePower

/-- Whether `steps` steps of `10 ^ -1074` round to the magnitude of rank `rank`. -/
def readsBack (rank steps : Nat) : Bool := nearestRank steps fivePower == rank

/-- The neighbour of a magnitude on the grid of spacing `10 ^ k` steps that reads
back, as a number of grid spacings: the nearer one if both do, the upper one if
they are equally near. -/
def gridNeighbour? (rank k : Nat) : Option Nat :=
  let spacing := 10 ^ k
  let exact := expansion rank
  let low := exact / spacing
  let lowReads := readsBack rank (low * spacing)
  let highReads := readsBack rank ((low + 1) * spacing)
  if lowReads && (!highReads || 2 * (exact % spacing) < spacing) then some low
  else if highReads then some (low + 1)
  else none

/-- **The shortest decimal that reads back** as the magnitude of rank `rank`, as
a coefficient and the power of ten of its grid in steps. -/
def shortest (rank : Nat) : Nat × Nat :=
  let exact := expansion rank
  let count := (Decimal.digitsOf exact).length
  let found := (List.range count).findSome? fun i =>
    let k := count - (i + 1)
    (gridNeighbour? rank k).map fun c => (c, k)
  found.getD (exact, 0)

/-- Significant digits and the place of the point: the quantity
`0.d₁d₂… * 10 ^ point`. -/
structure Significant where
  digits : List Char
  point : Int

/-- The shortest digits of a magnitude, without zeros at their end. -/
def significant (rank : Nat) : Significant :=
  let found := shortest rank
  let digits := Decimal.digitsOf found.1
  let kept := (digits.reverse.dropWhile (· == '0')).reverse
  ⟨kept, (digits.length + found.2 : Nat) - (unitExponent : Int)⟩

end Stencil
