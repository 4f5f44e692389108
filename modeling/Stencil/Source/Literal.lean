import Stencil.Number.Decimal
import Stencil.Source.Cursor

/-!
# Literals in a source

Texts in double quotes with escapes, texts in backquotes taken as they are, and
decimal numerals. A text that is not well formed is no literal at all, and other
readings of the same place may be tried; a numeral whose exponent lacks its digits
is broken, and nothing else may stand there.
-/

namespace Stencil

/-! ### Texts -/

/-- The value of a hexadecimal digit of either case. -/
def hexValue? (c : Char) : Option Nat :=
  if c.isDigit then some (c.toNat - '0'.toNat)
  else if 'a' ≤ c ∧ c ≤ 'f' then some (c.toNat - 'a'.toNat + 10)
  else if 'A' ≤ c ∧ c ≤ 'F' then some (c.toNat - 'A'.toNat + 10)
  else none

/-- The character with a code point, if there is one. -/
def charOfCode? (n : Nat) : Option Char :=
  if n.isValidChar then some (Char.ofNat n) else none

/-- The character of four hexadecimal digits. -/
def codeChar? (a b c d : Char) : Option Char := do
  let a ← hexValue? a
  let b ← hexValue? b
  let c ← hexValue? c
  let d ← hexValue? d
  charOfCode? (((a * 16 + b) * 16 + c) * 16 + d)

/-- The character that a backslash and the given letter stand for. -/
def simpleEscape? (c : Char) : Option Char :=
  if c = '\\' then some '\\'
  else if c = '"' then some '"'
  else if c = 'r' then some '\r'
  else if c = 'n' then some '\n'
  else if c = 't' then some '\t'
  else none

/-- Reads the inside of a quoted text up to and over its closing quote: the text
that is meant, and what follows the quote. -/
def readQuoted : List Char → Option (List Char × List Char)
  | [] => none
  | '"' :: rest => some ([], rest)
  | '\\' :: 'u' :: a :: b :: c :: d :: rest =>
    match codeChar? a b c d, readQuoted rest with
    | some x, some (text, after) => some (x :: text, after)
    | _, _ => none
  | '\\' :: e :: rest =>
    match simpleEscape? e, readQuoted rest with
    | some x, some (text, after) => some (x :: text, after)
    | _, _ => none
  | ['\\'] => none
  | x :: rest =>
    match readQuoted rest with
    | some (text, after) => some (x :: text, after)
    | none => none

namespace Cursor

/-- The cursor when only `rest` is left to read. -/
def leaving (c : Cursor) (rest : List Char) : Cursor :=
  c.past (c.rest.take (c.rest.length - rest.length)) rest

/-- Reads a text in double quotes. -/
def quotedText? (c : Cursor) : Option (String × Cursor) :=
  match c.rest with
  | '"' :: rest => (readQuoted rest).map fun (text, after) => (String.ofList text, c.leaving after)
  | _ => none

/-- Reads a text in backquotes. -/
def rawText? (c : Cursor) : Option (String × Cursor) := do
  let inside ← c.expect? ['\x60']
  let (text, closing) ← inside.until? ['\x60']
  let after ← closing.expect? ['\x60']
  some (String.ofList text, after)

/-! ### Numerals -/

/-- How reading a numeral ends. -/
inductive Numeral where
  | absent
  | complete (n : Number) (after : Cursor)
  | broken

/-- Whether a character may begin a numeral. -/
def isNumeralStart (c : Char) : Bool := c == '+' || c == '-' || c.isDigit

/-- **Reads a numeral**: an optional sign, digits with an optional point, an
optional exponent. -/
def numeral (c : Cursor) : Numeral :=
  match c.rest with
  | [] => .absent
  | x :: _ =>
    if isNumeralStart x then
      let (negative, unsigned) := Decimal.readSign c.rest
      match Decimal.readMantissa? unsigned with
      | none => .absent
      | some (d, rest) =>
        match Decimal.readExponent rest with
        | .absent => .complete (d.toNumber negative) (c.leaving rest)
        | .complete e rest' => .complete ((d.shift e).toNumber negative) (c.leaving rest')
        | .broken => .broken
    else .absent

end Cursor

end Stencil
