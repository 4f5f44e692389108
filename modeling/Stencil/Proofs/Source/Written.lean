import Stencil.Source.Nodes
import Stencil.Proofs.Number.Numeral
import Stencil.Proofs.Source.Escape
import Stencil.Proofs.Source.Identifier
import Stencil.Proofs.Text.Occurrence

/-!
# Written templates

The concrete syntax of the template language, as data: how a literal, an operand, a
pipeline, an item between two delimiters and a whole template may be written, with
all blanks and trim markers. The parts carry the proofs that they may stand where
they stand, so every value of `Stencil.TemplateText` is a template.

A written template has two sides. Its characters (`Stencil.TemplateText.chars`) are
what an author types, and its nodes (`Stencil.TemplateText.nodes`) are what it says,
with the offset of every node, pipeline and command. Neither side mentions a reader.

Parentheses nest to any depth, and so operands, commands and pipelines are defined
together.
-/

namespace Stencil

/-! ### Blanks -/

/-- **Blanks as they are written**, possibly none. -/
structure Blanks where
  chars : List Char
  areBlank : ∀ x ∈ chars, isBlank x = true

/-- Blanks, at least one of them. -/
structure Gap extends Blanks where
  nonempty : chars ≠ []

/-! ### Numerals -/

/-- **A numeral in a source.** Without a sign it begins with a digit. -/
structure NumeralText where
  sign : Sign
  mantissa : MantissaText
  exponent? : Option ExponentText
  begins : sign ≠ .absent ∨ mantissa.whole ≠ []

namespace NumeralText

def exponentChars (n : NumeralText) : List Char := n.exponent?.elim [] ExponentText.chars

def chars (n : NumeralText) : List Char :=
  n.sign.text ++ (n.mantissa.chars ++ n.exponentChars)

/-- The exact quantity of a numeral without its sign. -/
def decimal (n : NumeralText) : Decimal :=
  n.exponent?.elim n.mantissa.decimal fun e => n.mantissa.decimal.shift e.power

/-- **The number nearest to a numeral.** -/
def number (n : NumeralText) : Number := n.decimal.toNumber n.sign.isMinus

end NumeralText

/-! ### Operands without inner structure -/

/-- **A character between double quotes**, with one of its spellings. -/
structure QuotedChar where
  /-- The character that is meant. -/
  char : Char
  chars : List Char
  spelled : CharSpelling char chars

/-- Names with a dot before each. -/
def dottedChars (names : List Identifier) : List Char := names.flatMap fun i => '.' :: i.chars

/-- A dollar sign with a name behind it, or alone. -/
def dollarChars : Option Identifier → List Char
  | none => ['$']
  | some i => '$' :: i.chars

/-- **An operand without inner structure.** -/
inductive LeafText where
  | field (first : Identifier) (others : List Identifier)
  | dot
  | variableRef (name? : Option Identifier) (path : List Identifier)
  | quoted (inside : List QuotedChar)
  | raw (inside : List Char) (h : '\x60' ∉ inside)
  | numeral (n : NumeralText)
  | bool (b : Bool)
  | nil
  | identifier (name : Identifier) (h : name.text ∉ ["true", "false", "nil"])

namespace LeafText

def chars : LeafText → List Char
  | field first others => dottedChars (first :: others)
  | dot => ['.']
  | variableRef name? path => dollarChars name? ++ dottedChars path
  | quoted inside => '"' :: (inside.flatMap QuotedChar.chars ++ ['"'])
  | raw inside _ => '\x60' :: (inside ++ ['\x60'])
  | numeral n => n.chars
  | bool b => if b then ['t', 'r', 'u', 'e'] else ['f', 'a', 'l', 's', 'e']
  | nil => ['n', 'i', 'l']
  | identifier name _ => name.chars

/-- What the operand says. -/
def operand : LeafText → Operand
  | field first others => .field ⟨(first :: others).map Identifier.text, by simp⟩
  | dot => .dot
  | variableRef name? path => .variableRef (String.ofList (dollarChars name? ++ dottedChars path))
  | quoted inside => .string (String.ofList (inside.map QuotedChar.char))
  | raw inside _ => .string (String.ofList inside)
  | numeral n => .number n.number
  | bool b => .bool b
  | nil => .nil
  | identifier name _ => .identifier name.text

/-- The keyword that the operand could be taken for. -/
def keyword? : LeafText → Option Keyword
  | identifier name _ => Keyword.ofText? name.text
  | _ => none

end LeafText

/-! ### Pipelines -/

/-- A further name in a declaration, after a comma with blanks around it. -/
structure FurtherName where
  before : Blanks
  after : Blanks
  name? : Option Identifier

def FurtherName.chars (n : FurtherName) : List Char :=
  n.before.chars ++ ',' :: (n.after.chars ++ dollarChars n.name?)

/-- **Declarations**: names, and the sign behind them with blanks around it. -/
structure DeclarationsText where
  first : Option Identifier
  others : List FurtherName
  before : Blanks
  isShort : Bool
  after : Blanks

namespace DeclarationsText

/-- The sign of a declaration or of an assignment. -/
def sign (d : DeclarationsText) : List Char := if d.isShort then [':', '='] else ['=']

def chars (d : DeclarationsText) : List Char :=
  dollarChars d.first ++
    (d.others.flatMap FurtherName.chars ++ (d.before.chars ++ (d.sign ++ d.after.chars)))

def names (d : DeclarationsText) : List String :=
  (d.first :: d.others.map FurtherName.name?).map fun name? => String.ofList (dollarChars name?)

end DeclarationsText

mutual

/-- **A written operand**: a leaf, or a pipeline in parentheses. -/
inductive OperandText where
  | leaf (l : LeafText)
  | parenthesized (before : Blanks) (p : PipelineText) (after : Blanks)

/-- **A written command**: operands with gaps between them. -/
inductive CommandText where
  | last (o : OperandText)
  | more (o : OperandText) (gap : Gap) (others : CommandText)

/-- Commands with bars between them. -/
inductive CommandsText where
  | last (c : CommandText)
  | more (c : CommandText) (before after : Blanks) (others : CommandsText)

/-- **A written pipeline**: commands, and declarations before them if there are any. -/
inductive PipelineText where
  | plain (commands : CommandsText)
  | declaring (d : DeclarationsText) (commands : CommandsText)

end

mutual

def OperandText.chars : OperandText → List Char
  | .leaf l => l.chars
  | .parenthesized before p after => '(' :: (before.chars ++ (p.chars ++ (after.chars ++ [')'])))

def CommandText.chars : CommandText → List Char
  | .last o => o.chars
  | .more o gap others => o.chars ++ (gap.chars ++ others.chars)

def CommandsText.chars : CommandsText → List Char
  | .last c => c.chars
  | .more c before after others =>
    c.chars ++ (before.chars ++ '|' :: (after.chars ++ others.chars))

def PipelineText.chars : PipelineText → List Char
  | .plain commands => commands.chars
  | .declaring d commands => d.chars ++ commands.chars

end

mutual

/-- What an operand says that begins at an offset. -/
def OperandText.operand : OperandText → (offset : Nat) → Operand
  | .leaf l, _ => l.operand
  | .parenthesized before p _, offset =>
    .parenthesized (p.pipeline (offset + byteLength ('(' :: before.chars)))

/-- What a command says that begins at an offset. -/
def CommandText.operands : CommandText → (offset : Nat) → List Operand
  | .last o, offset => [o.operand offset]
  | .more o gap others, offset =>
    o.operand offset :: others.operands (offset + byteLength (o.chars ++ gap.chars))

/-- What commands say that begin at an offset. -/
def CommandsText.commands : CommandsText → (offset : Nat) → List (Command Operand)
  | .last c, offset => [⟨offset, c.operands offset⟩]
  | .more c before after others, offset =>
    ⟨offset, c.operands offset⟩ ::
      others.commands (offset + byteLength (c.chars ++ (before.chars ++ '|' :: after.chars)))

/-- **What a pipeline says that begins at an offset.** -/
def PipelineText.pipeline : PipelineText → (offset : Nat) → Pipeline Operand
  | .plain commands, offset => ⟨offset, [], commands.commands offset⟩
  | .declaring d commands, offset =>
    ⟨offset, d.names, commands.commands (offset + byteLength d.chars)⟩

end

/-! ### The word in front -/

/-- The keyword that an operand could be taken for. -/
def OperandText.keyword? : OperandText → Option Keyword
  | .leaf l => l.keyword?
  | .parenthesized _ _ _ => none

/-- The operand in front of a command. -/
def CommandText.first : CommandText → OperandText
  | .last o => o
  | .more o _ _ => o

/-- The command in front of others. -/
def CommandsText.first : CommandsText → CommandText
  | .last c => c
  | .more c _ _ _ => c

/-- The keyword that a pipeline could be taken for, if it stood in front of an item. -/
def PipelineText.keyword? : PipelineText → Option Keyword
  | .plain commands => commands.first.first.keyword?
  | .declaring _ _ => none

/-! ### Items -/

/-- **The margin of an item**: blanks on the inner side of a delimiter, and possibly a
trim marker, which needs a blank. -/
structure Margin where
  trims : Bool
  blanks : Blanks
  nonempty : trims = true → blanks.chars ≠ []

namespace Margin

/-- The trim marker, or nothing. -/
def marker (m : Margin) : List Char := if m.trims then ['-'] else []

/-- A margin behind a left delimiter. -/
def opening (m : Margin) : List Char := m.marker ++ m.blanks.chars

/-- A margin before a right delimiter. -/
def closing (m : Margin) : List Char := m.blanks.chars ++ m.marker

end Margin

/-- **A text that ends with a trim marker**: a blank and a minus sign. -/
def ClosesTrimmed (cs : List Char) : Prop := ∃ x, isBlank x = true ∧ [x, '-'] <:+ cs

/-- **What stands in an item**, up to its right delimiter. Whatever follows a keyword is
passed over, and only a trim marker at its end is looked at. -/
inductive ContentText (right : List Char) where
  | comment (inside : List Char) (h : NoneInside ['*', '/'] inside ['*', '/']) (margin : Margin)
  | control (keyword : Keyword) (skipped : List Char) (trims : Bool)
      (hstops : Stops isIdentifierPart (skipped ++ right)) (hnone : NoneInside right skipped right)
      (htrims : ClosesTrimmed skipped ↔ trims = true)
  | action (p : PipelineText) (h : p.keyword? = none) (margin : Margin)

namespace ContentText

variable {right : List Char}

def chars : ContentText right → List Char
  | comment inside _ margin => '/' :: '*' :: (inside ++ '*' :: '/' :: margin.closing)
  | control keyword skipped _ _ _ _ => keyword.text.toList ++ skipped
  | action p _ margin => p.chars ++ margin.closing

/-- Whether the text behind the item loses its leading blanks. -/
def trims : ContentText right → Bool
  | comment _ _ margin => margin.trims
  | control _ _ trims _ _ _ => trims
  | action _ _ margin => margin.trims

/-- The node of an item that begins at `pos` and whose content begins at an offset. -/
def node (pos offset : Nat) : ContentText right → Node
  | comment _ _ _ => .comment pos
  | control keyword _ _ _ _ _ => .control pos keyword
  | action p _ _ => .action pos (p.pipeline offset)

end ContentText

/-- **An item**, from behind its left delimiter up to its right one. -/
structure ItemText (right : List Char) where
  margin : Margin
  content : ContentText right

namespace ItemText

variable {right : List Char}

def chars (i : ItemText right) : List Char := i.margin.opening ++ i.content.chars

/-- The node of an item whose left delimiter begins at `pos` and ends at an offset. -/
def node (i : ItemText right) (pos offset : Nat) : Node :=
  i.content.node pos (offset + byteLength i.margin.opening)

end ItemText

/-! ### Templates -/

/-- **A text between two items**, divided into what trim markers remove on its two
sides and what is kept. The blanks in front come off first. -/
structure TextPart (trimStart trimEnd : Bool) where
  lead : Blanks
  kept : List Char
  trail : Blanks
  lead_eq_nil : trimStart = false → lead.chars = []
  trail_eq_nil : trimEnd = false → trail.chars = []
  kept_start : trimStart = true → Stops isBlank (kept ++ trail.chars)
  kept_end : trimEnd = true → Stops isBlank kept.reverse

namespace TextPart

variable {trimStart trimEnd : Bool}

def chars (t : TextPart trimStart trimEnd) : List Char :=
  t.lead.chars ++ (t.kept ++ t.trail.chars)

/-- The node of what is kept of a text that begins at an offset, if anything is. -/
def nodes (t : TextPart trimStart trimEnd) (offset : Nat) : List Node :=
  if t.kept = [] then []
  else [.text (offset + byteLength t.lead.chars) (String.ofList t.kept)]

end TextPart

/-- **A written template** between given delimiters. The index says whether its first
text follows an item with a trim marker. -/
inductive TemplateText (left right : List Char) : (trim : Bool) → Type
  | last {trim : Bool} (text : TextPart trim false) (h : ¬left <:+: text.chars) :
      TemplateText left right trim
  | item {trim : Bool} (i : ItemText right) (text : TextPart trim i.margin.trims)
      (h : NoneInside left text.chars left) (others : TemplateText left right i.content.trims) :
      TemplateText left right trim

namespace TemplateText

variable {left right : List Char} {trim : Bool}

def chars {trim : Bool} : TemplateText left right trim → List Char
  | last text _ => text.chars
  | item i text _ others => text.chars ++ (left ++ (i.chars ++ (right ++ others.chars)))

/-- **What a template says** that begins at an offset. -/
def nodes {trim : Bool} : TemplateText left right trim → (offset : Nat) → List Node
  | last text _, offset => text.nodes offset
  | item i text _ others, offset =>
    let pos := offset + byteLength text.chars
    let inside := pos + byteLength left
    text.nodes offset ++ i.node pos inside ::
      others.nodes (inside + byteLength (i.chars ++ right))

end TemplateText

end Stencil
