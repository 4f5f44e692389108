import Stencil.Text.Blank
import Stencil.Source.Literal
import Stencil.Value.Basic

/-!
# JSON documents

Reads a JSON document as a value: objects become maps, and of members with equal
names the last one counts. The grammar is the strict one. Containers may be nested
127 deep, and a number that is too large is refused.

The digits of a number are collected in a machine word, and digits that no longer
fit are left out; the word is then rounded to a number, and one multiplication or
division by a power of ten, rounded once more, puts the point in its place.
-/

namespace Stencil

attribute [local instance] natPower

namespace Json

/-! ### Numbers -/

/-- Appends digits to a number as long as it fits a machine word: the number, and
how many digits were left out. -/
def collect (n : Nat) : List Char → Nat × Nat
  | [] => (n, 0)
  | d :: ds =>
    let next := 10 * n + Decimal.digitValue d
    if next < 2 ^ (64 : Nat) then collect next ds else (n, ds.length + 1)

/-- The rank of a natural number. -/
def rankOfNat (n : Nat) : Nat := nearestRank (n * 2 ^ unitExponent) 1

/-- The rank of the rounded product of two magnitudes. -/
def mulRank (a b : Nat) : Nat := nearestRank (units a * units b) (2 ^ unitExponent)

/-- The rank of the rounded quotient of two magnitudes. -/
def divRank (a b : Nat) : Nat := nearestRank (units a * 2 ^ unitExponent) (units b)

/-- The rank of a power of ten. -/
def tenRank (e : Nat) : Nat := rankOfNat (10 ^ e)

/-- Divides a magnitude by ten to the power `e`, in strides of at most 308. -/
def shrink (rank e : Nat) : Nat :=
  if e ≤ 308 then divRank rank (tenRank e)
  else if rank = 0 then 0
  else shrink (divRank rank (tenRank 308)) (e - 308)
termination_by e

/-- The rank of a machine word times a power of ten, if it is finite. -/
def scale? (n : Nat) : Int → Option Nat
  | .ofNat e =>
    if 308 < e then if n = 0 then some 0 else none
    else
      let rank := mulRank (rankOfNat n) (tenRank e)
      if rank < rankCount then some rank else none
  | .negSucc e => some (shrink (rankOfNat n) (e + 1))

/-- Reads the digits before the point: no digit may follow a leading zero. -/
def readWhole? (cs : List Char) : Option (List Char × List Char) :=
  match Decimal.spanDigits cs with
  | ([], _) => none
  | ('0' :: _ :: _, _) => none
  | r => some r

/-- Reads the point and the digits after it, of which there must be one, if there
is a point. -/
def readFraction? : List Char → Option (Option (List Char) × List Char)
  | '.' :: cs =>
    match Decimal.spanDigits cs with
    | ([], _) => none
    | (digits, rest) => some (some digits, rest)
  | cs => some (none, cs)

/-- The number with a sign and a rank, if there is a rank. -/
def signed (negative : Bool) (rank? : Option Nat) (rest : List Char) :
    Option (Value × List Char) :=
  rank?.map fun rank => (.number (.ofRank negative rank), rest)

/-- **Reads a number without its sign.** -/
def readNumber? (negative : Bool) (cs : List Char) : Option (Value × List Char) :=
  match readWhole? cs with
  | none => none
  | some (whole, rest) =>
    let (n, leftOut) := collect 0 whole
    match readFraction? rest with
    | none => none
    | some (fraction?, rest) =>
      let fraction := fraction?.getD []
      let (m, unread) := collect n fraction
      let point : Int := leftOut - (fraction.length - unread : Nat)
      match Decimal.readExponent rest with
      | .broken => none
      | .complete e rest => signed negative (scale? m (point + e)) rest
      | .absent =>
        if leftOut = 0 ∧ fraction?.isNone then signed negative (some (rankOfNat m)) rest
        else signed negative (scale? m point) rest

/-! ### Texts -/

/-- The unit of four hexadecimal digits. -/
def hexUnit? (a b c d : Char) : Option Nat := do
  let a ← hexValue? a
  let b ← hexValue? b
  let c ← hexValue? c
  let d ← hexValue? d
  some (((a * 16 + b) * 16 + c) * 16 + d)

/-- The character of two surrogates. -/
def pairChar? (high low : Nat) : Option Char :=
  if 0xD800 ≤ high ∧ high ≤ 0xDBFF ∧ 0xDC00 ≤ low ∧ low ≤ 0xDFFF then
    charOfCode? (0x10000 + (high - 0xD800) * 0x400 + (low - 0xDC00))
  else none

/-- The character that a backslash and a letter stand for. -/
def escape? (c : Char) : Option Char :=
  if c = '"' then some '"'
  else if c = '\\' then some '\\'
  else if c = '/' then some '/'
  else if c = 'b' then some '\x08'
  else if c = 'f' then some '\x0c'
  else if c = 'n' then some '\n'
  else if c = 'r' then some '\r'
  else if c = 't' then some '\t'
  else none

/-- Reads the inside of a text up to and over its closing quote, adding to the
characters read so far, which are given last first. -/
def readChars? (done : List Char) : List Char → Option (String × List Char)
  | [] => none
  | '"' :: rest => some (String.ofList done.reverse, rest)
  | '\\' :: 'u' :: a :: b :: c :: d :: '\\' :: 'u' :: e :: f :: g :: h :: rest =>
    match hexUnit? a b c d with
    | none => none
    | some unit =>
      match charOfCode? unit with
      | some x => readChars? (x :: done) ('\\' :: 'u' :: e :: f :: g :: h :: rest)
      | none =>
        match (hexUnit? e f g h).bind (pairChar? unit) with
        | some x => readChars? (x :: done) rest
        | none => none
  | '\\' :: 'u' :: a :: b :: c :: d :: rest =>
    match (hexUnit? a b c d).bind charOfCode? with
    | some x => readChars? (x :: done) rest
    | none => none
  | '\\' :: c :: rest =>
    match escape? c with
    | some x => readChars? (x :: done) rest
    | none => none
  | c :: rest => if c.toNat < 0x20 ∨ c = '\\' then none else readChars? (c :: done) rest

/-! ### Documents -/

/-- Reads items separated by commas up to and over the closing bracket. -/
def readItems? {α : Type} (close : Char) (item? : List Char → Option (α × List Char))
    (cs : List Char) : Option (List α × List Char) :=
  match item? cs with
  | none => none
  | some (a, rest) =>
    match trimBlankStart rest with
    | [] => none
    | c :: more =>
      if c = close then some ([a], more)
      else if c = ',' ∧ more.length < cs.length then
        (readItems? close item? more).map fun (items, after) => (a :: items, after)
      else none
termination_by cs.length

/-- Reads what a bracket opened: nothing, or items. -/
def readContainer? {α : Type} (close : Char) (item? : List Char → Option (α × List Char))
    (cs : List Char) : Option (List α × List Char) :=
  match trimBlankStart cs with
  | [] => none
  | c :: rest => if c = close then some ([], rest) else readItems? close item? (c :: rest)

/-- Reads a member of an object, given how to read a value. -/
def readMember? (value? : List Char → Option (Value × List Char)) (cs : List Char) :
    Option ((String × Value) × List Char) :=
  match trimBlankStart cs with
  | '"' :: rest =>
    match readChars? [] rest with
    | none => none
    | some (name, rest) =>
      match trimBlankStart rest with
      | ':' :: rest => (value? rest).map fun (v, after) => ((name, v), after)
      | _ => none
  | _ => none

/-- **Reads a value** with blanks before it, descending at most `depth` levels of
containers. -/
def readValue? : (depth : Nat) → List Char → Option (Value × List Char)
  | depth, cs =>
    match trimBlankStart cs with
    | 'n' :: 'u' :: 'l' :: 'l' :: rest => some (.null, rest)
    | 't' :: 'r' :: 'u' :: 'e' :: rest => some (.bool true, rest)
    | 'f' :: 'a' :: 'l' :: 's' :: 'e' :: rest => some (.bool false, rest)
    | '"' :: rest => (readChars? [] rest).map fun (s, after) => (.string s, after)
    | '-' :: rest => readNumber? true rest
    | '[' :: rest =>
      match depth with
      | 0 => none
      | depth + 1 =>
        (readContainer? ']' (readValue? depth) rest).map fun (items, after) => (.list items, after)
    | '\x7b' :: rest =>
      match depth with
      | 0 => none
      | depth + 1 =>
        (readContainer? '\x7d' (readMember? (readValue? depth)) rest).map fun (items, after) =>
          (.ofEntries items, after)
    | rest => readNumber? false rest

/-- How deep containers may be nested. -/
def maxDepth : Nat := 127

end Json

/-- **The value of a JSON document**, if it is one. -/
def Value.ofJson? (text : String) : Option Value :=
  match Json.readValue? Json.maxDepth text.toList with
  | some (v, rest) => if (trimBlankStart rest).isEmpty then some v else none
  | none => none

end Stencil
