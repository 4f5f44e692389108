/-!
# Numbers

A number of a template is a binary floating-point number with 53 significant
bits: not-a-number, one of two infinities, or a signed finite magnitude. The
finite magnitudes are *ranked*: rank `0` is zero, and rank `r + 1` is the next
magnitude above rank `r`. Two facts make the rank a good name for a magnitude.

* The ranks of a binade are equally spaced, so `Stencil.units` reads off a rank
  the exact magnitude it stands for, as a whole number of *units* of `2 ^ -1074`,
  the least positive magnitude.
* Comparing magnitudes is comparing ranks, so the order of numbers
  (`Stencil.Number.order`) needs no arithmetic at all.

Rounding is the inverse direction: `Stencil.nearestRank` gives the rank nearest
to a quotient of natural numbers, a tie going to the even rank. Everything that
makes a number, from a bit pattern, a decimal text or a whole number, goes
through it, and all of it is exact arithmetic on natural numbers.
-/

namespace Stencil

/-- Powers of natural numbers, whatever other powers are in scope. -/
abbrev natPower : Pow Nat Nat := instPowNat

attribute [local instance] natPower

/-! ### Rounding a quotient -/

/-- The whole number nearest to `num / den`; a tie goes to the even one. -/
def divNearest (num den : Nat) : Nat :=
  let quotient := num / den
  let twice := 2 * (num % den)
  if twice < den then quotient
  else if den < twice then quotient + 1
  else if quotient % 2 = 0 then quotient
  else quotient + 1

/-- The magnitude of rank `rank`, in units of the least positive magnitude, for a
format with `fraction` fraction bits. The first `2 ^ fraction` ranks count units
one by one; from there on each run of `2 ^ fraction` ranks is spaced twice as
widely as the one before. -/
def binaryUnits (fraction rank : Nat) : Nat :=
  if rank < 2 ^ fraction then rank
  else (2 ^ fraction + rank % 2 ^ fraction) * 2 ^ (rank / 2 ^ fraction - 1)

/-- The rank nearest to `num / den` units, for a format with `fraction` fraction
bits. The spacing `2 ^ k` around the quotient is found from its leading bit; the
rank of `m` steps of that spacing is `k * 2 ^ fraction + m`, also when rounding
carries into the next run. -/
def binaryNearest (fraction num den : Nat) : Nat :=
  let k := (num / den).log2 - fraction
  k * 2 ^ fraction + divNearest num (den * 2 ^ k)

/-! ### The type -/

/-- The least positive magnitude is `2 ^ -1074`. -/
def unitExponent : Nat := 1074

/-- The number of finite magnitudes. -/
def rankCount : Nat := 2047 * 2 ^ (52 : Nat)

/-- The magnitude of rank `rank` in units of `2 ^ -1074`. -/
def units (rank : Nat) : Nat := binaryUnits 52 rank

/-- The rank nearest to `num / den` units of `2 ^ -1074`. A result that is not
below `Stencil.rankCount` stands for a magnitude too large to be finite. -/
def nearestRank (num den : Nat) : Nat := binaryNearest 52 num den

/-- **A number**: not-a-number, an infinity, or a sign and a ranked magnitude.
The two signs of rank zero are the two zeros. -/
inductive Number where
  | nan
  | infinite (negative : Bool)
  | finite (negative : Bool) (rank : Fin rankCount)
  deriving DecidableEq

namespace Number

/-- The number with a sign and a rank, an infinity if the rank is too large. -/
def ofRank (negative : Bool) (rank : Nat) : Number :=
  if h : rank < rankCount then finite negative ⟨rank, h⟩ else infinite negative

/-- The number nearest to `num / den` units of `2 ^ -1074`, with a sign. -/
def ofUnits (negative : Bool) (num den : Nat) : Number :=
  ofRank negative (nearestRank num den)

/-- Zero, of positive sign. -/
def zero : Number := finite false ⟨0, by decide⟩

instance : Inhabited Number := ⟨zero⟩

/-- The number nearest to a natural number. -/
def ofNat (n : Nat) : Number := ofUnits false (n * 2 ^ unitExponent) 1

/-- The number nearest to a whole number. -/
def ofInt : Int → Number
  | .ofNat n => ofNat n
  | .negSucc n => ofUnits true ((n + 1) * 2 ^ unitExponent) 1

/-- Whether a number is a finite one. -/
def isFinite : Number → Bool
  | finite .. => true
  | _ => false

/-! ### Equality, order and zero -/

/-- Equality of numbers as quantities: the two zeros are equal, and
not-a-number equals nothing. -/
def same : Number → Number → Bool
  | infinite s, infinite t => s == t
  | finite s r, finite t q => r == q && (s == t || r.val == 0)
  | _, _ => false

instance : BEq Number := ⟨same⟩

/-- A number that is not not-a-number as a place on the line: the signed rank,
with the infinities at its ends. -/
def place : Number → Int
  | nan => 0
  | infinite s => if s then -rankCount else rankCount
  | finite s r => if s then -r.val else r.val

/-- **The order of numbers**: by place on the line, with not-a-number equal to
itself and above everything else. -/
def order : Number → Number → Ordering
  | nan, nan => .eq
  | nan, _ => .gt
  | _, nan => .lt
  | a, b => compare a.place b.place

/-- Whether a number is below another as a quantity; not-a-number is neither below
nor above anything. -/
def below : Number → Number → Bool
  | nan, _ => false
  | _, nan => false
  | a, b => a.place < b.place

/-- Whether a number is at most another as a quantity. -/
def atMost (a b : Number) : Bool := a.below b || a == b

/-- The rank of `2 ^ -52`, the least magnitude that does not count as zero. -/
def epsilonRank : Nat := 971 * 2 ^ (52 : Nat)

/-- Whether a number counts as zero: its magnitude is below `2 ^ -52`. -/
def isZero : Number → Bool
  | finite _ r => r.val < epsilonRank
  | _ => false

/-! ### Bit patterns -/

/-- The 64-bit pattern of a number: the sign in the top bit, the rank below it.
Not-a-number has the one pattern `7ff8000000000000`. -/
def toBits : Number → Nat
  | nan => rankCount + 2 ^ (51 : Nat)
  | infinite s => (if s then 2 ^ (63 : Nat) else 0) + rankCount
  | finite s r => (if s then 2 ^ (63 : Nat) else 0) + r.val

/-- The number of a 64-bit pattern. -/
def ofBits (bits : Nat) : Number :=
  let rank := bits % 2 ^ (63 : Nat)
  if rankCount < rank then nan else ofRank (2 ^ (63 : Nat) ≤ bits) rank

/-! ### Whole parts -/

/-- The whole part of a magnitude. -/
def wholePart (rank : Nat) : Nat := units rank / 2 ^ unitExponent

/-- **A number without its fraction**: the number nearest to its whole part, with its
sign. -/
def truncated : Number → Number
  | finite s r => ofUnits s (wholePart r.val * 2 ^ unitExponent) 1
  | x => x

/-- A number without the sign of zero. -/
def unsignedZero : Number → Number
  | finite s r => finite (s && r.val != 0) r
  | x => x

end Number

/-! ### Machine words -/

/-- The largest machine word. -/
def maxWord : Nat := 2 ^ (64 : Nat) - 1

/-- The product of two machine words, if it is one. -/
def wordProduct? (a b : Nat) : Option Nat := if a * b ≤ maxWord then some (a * b) else none

/-- **A number as a machine word**: its whole part, or the end of the range that is
nearer to it. Not-a-number becomes zero. -/
def Number.toWord : Number → Nat
  | nan => 0
  | infinite negative => if negative then 0 else maxWord
  | finite negative rank => if negative then 0 else min (wholePart rank.val) maxWord

end Stencil
