import Stencil.Text.GraphemeExtend
import Stencil.Text.Printable

/-!
# Quoted text

How a text is written so that it can be read back and cannot disturb the lines
around it. A *quoted* text stands between double quotes, with an escape for the
quote, the backslash, the line breaks and every character that does not print; a
*label* is the same without the surrounding quotes, for use in a comment line.
No carriage return and no line feed is ever written raw.
-/

namespace Stencil

/-- The letter of the two-character escape of a character that has one. -/
def shortEscape? (c : Char) : Option Char :=
  if c = '\x00' then some '0'
  else if c = '\t' then some 't'
  else if c = '\r' then some 'r'
  else if c = '\n' then some 'n'
  else if c = '\\' then some '\\'
  else none

/-- The escape of a character by its code point, in lower-case hexadecimal. -/
def codeEscape (c : Char) : List Char :=
  '\\' :: 'u' :: '\x7b' :: (Nat.toDigits 16 c.toNat ++ ['\x7d'])

/-- A character of a quoted text as it is written. -/
def quotedChar (c : Char) : List Char :=
  match shortEscape? c with
  | some e => ['\\', e]
  | none =>
    if c = '"' then ['\\', '"']
    else if extendsGrapheme c || !isPrintable c then codeEscape c
    else [c]

/-- **A text between double quotes**, escaped so that it reads back. -/
def quoted (s : String) : String :=
  String.ofList ('"' :: (s.toList.flatMap quotedChar ++ ['"']))

/-- A character of a label as it is written. Both quotes are escaped; a character
that extends the one before it is escaped where there is none before. -/
def labelChar (first : Bool) (c : Char) : List Char :=
  match shortEscape? c with
  | some e => ['\\', e]
  | none =>
    if c = '"' || c = '\x27' then ['\\', c]
    else if first && extendsGrapheme c || !isPrintable c then codeEscape c
    else [c]

/-- **A text as it stands in a comment line.** -/
def label (s : String) : String :=
  match s.toList with
  | [] => ""
  | c :: cs => String.ofList (labelChar true c ++ cs.flatMap (labelChar false))

end Stencil
