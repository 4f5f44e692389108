import Stencil.Proofs.Source.Leaf

/-!
# How written operands begin and end

The first characters of a written operand tell it from everything else that can stand
in its place: a blank, a bar, a sign of a declaration, a comment, a delimiter, a trim
marker (`Stencil.BeginsOperand`). Its last character is no minus sign
(`Stencil.EndsSolid`), so a minus sign behind it belongs to a trim marker. Both pass
on to commands and pipelines, and so the trim markers of an item can be told from its
two ends (`Stencil.ItemText.opensTrimmed_iff`, `Stencil.ContentText.closesTrimmed_iff`).
-/

namespace Stencil

open Cursor

/-! ### First characters -/

/-- Whether a character begins an operand with a mark of its own. -/
def isMark (c : Char) : Bool := c == '.' || c == '$' || c == '"' || c == '\x60'

/-- **Whether a character may begin an operand.** -/
def isOperandStart (c : Char) : Bool :=
  isMark c || isNumeralStart c || c == '(' || isIdentifierStart c

theorem isBlank_eq_false_of_operandStart {x : Char} (h : isOperandStart x = true) :
    isBlank x = false := by
  cases hblank : isBlank x with
  | false => rfl
  | true =>
    simp only [isBlank, Bool.or_eq_true, beq_iff_eq] at hblank
    rcases hblank with ((rfl | rfl) | rfl) | rfl <;> exact absurd h (by decide)

theorem isOperandStart_of_isDigit {x : Char} (h : x.isDigit = true) : isOperandStart x = true := by
  simp [isOperandStart, isNumeralStart, h]

theorem isOperandStart_of_identifierStart {x : Char} (h : isIdentifierStart x = true) :
    isOperandStart x = true := by
  simp [isOperandStart, h]

/-- **A text that begins like an operand.** A minus sign in front is the sign of a
numeral, and no blank follows it. -/
def BeginsOperand (cs : List Char) : Prop :=
  ∃ x xs, cs = x :: xs ∧ isOperandStart x = true ∧
    (x = '-' → ∃ y ys, xs = y :: ys ∧ isBlank y = false)

namespace BeginsOperand

variable {cs : List Char}

theorem of_cons {x : Char} (h : isOperandStart x = true) (hminus : x ≠ '-') (xs : List Char) :
    BeginsOperand (x :: xs) :=
  ⟨x, xs, rfl, h, fun hx => absurd hx hminus⟩

theorem append (h : BeginsOperand cs) (more : List Char) : BeginsOperand (cs ++ more) := by
  obtain ⟨x, xs, rfl, hx, hminus⟩ := h
  refine ⟨x, xs ++ more, rfl, hx, fun heq => ?_⟩
  obtain ⟨y, ys, rfl, hy⟩ := hminus heq
  exact ⟨y, ys ++ more, rfl, hy⟩

/-- An operand stops whatever it cannot begin with. -/
theorem stops (h : BeginsOperand cs) {p : Char → Bool}
    (hp : ∀ x, isOperandStart x = true → p x = false) : Stops p cs := by
  obtain ⟨x, xs, rfl, hx, -⟩ := h
  exact (stops_cons x xs).mpr (hp x hx)

theorem stops_isBlank (h : BeginsOperand cs) : Stops isBlank cs :=
  h.stops fun _ => isBlank_eq_false_of_operandStart

theorem stops_char (h : BeginsOperand cs) {y : Char} (hy : isOperandStart y = false) :
    Stops (· == y) cs := by
  refine h.stops fun x hx => ?_
  rw [beq_eq_false_iff_ne]
  rintro rfl
  rw [hy] at hx
  cases hx

end BeginsOperand

theorem NumeralText.beginsOperand (n : NumeralText) : BeginsOperand n.chars := by
  obtain ⟨x, xs, hchars, hx, hminus⟩ := n.exists_start
  refine ⟨x, xs, hchars, by simp [isOperandStart, hx], fun heq => ?_⟩
  obtain ⟨y, ys, rfl, hy | rfl⟩ := hminus heq
  · exact ⟨y, ys, rfl, isBlank_eq_false_of_operandStart (isOperandStart_of_isDigit hy)⟩
  · exact ⟨'.', ys, rfl, by decide⟩

theorem dollarChars_beginsOperand (name? : Option Identifier) :
    BeginsOperand (dollarChars name?) := by
  cases name? with
  | none => exact .of_cons (by decide) (by decide) _
  | some i => exact .of_cons (by decide) (by decide) _

theorem Identifier.beginsOperand (i : Identifier) : BeginsOperand i.chars := by
  refine .of_cons (isOperandStart_of_identifierStart i.first_isStart) ?_ _
  intro hminus
  have hstart := i.first_isStart
  rw [hminus] at hstart
  cases hstart

theorem LeafText.beginsOperand (l : LeafText) : BeginsOperand l.chars := by
  cases l with
  | field first others => exact .of_cons (by decide) (by decide) _
  | dot => exact .of_cons (by decide) (by decide) _
  | variableRef name? path => exact (dollarChars_beginsOperand name?).append _
  | quoted inside => exact .of_cons (by decide) (by decide) _
  | raw inside h => exact .of_cons (by decide) (by decide) _
  | numeral n => exact n.beginsOperand
  | bool b => cases b <;> exact .of_cons (by decide) (by decide) _
  | nil => exact .of_cons (by decide) (by decide) _
  | identifier name h => exact name.beginsOperand

theorem OperandText.beginsOperand (o : OperandText) : BeginsOperand o.chars := by
  cases o with
  | leaf l => exact l.beginsOperand
  | parenthesized before p after => exact .of_cons (by decide) (by decide) _

theorem CommandText.beginsOperand (c : CommandText) : BeginsOperand c.chars := by
  cases c with
  | last o => exact o.beginsOperand
  | more o gap others => exact o.beginsOperand.append _

theorem CommandsText.beginsOperand (c : CommandsText) : BeginsOperand c.chars := by
  cases c with
  | last c => exact c.beginsOperand
  | more c before after others => exact c.beginsOperand.append _

theorem DeclarationsText.beginsOperand (d : DeclarationsText) : BeginsOperand d.chars :=
  (dollarChars_beginsOperand d.first).append _

theorem PipelineText.beginsOperand (p : PipelineText) : BeginsOperand p.chars := by
  cases p with
  | plain commands => exact commands.beginsOperand
  | declaring d commands => exact d.beginsOperand.append _

/-! ### Last characters -/

/-- **A text whose last character is no minus sign**, and which has one. -/
def EndsSolid (cs : List Char) : Prop := ∃ init x, cs = init ++ [x] ∧ x ≠ '-'

namespace EndsSolid

variable {cs : List Char}

theorem append (h : EndsSolid cs) (before : List Char) : EndsSolid (before ++ cs) := by
  obtain ⟨init, x, rfl, hx⟩ := h
  exact ⟨before ++ init, x, (List.append_assoc _ _ _).symm, hx⟩

theorem of_notMem (hne : cs ≠ []) (h : '-' ∉ cs) : EndsSolid cs := by
  refine ⟨cs.dropLast, cs.getLast hne, (List.dropLast_append_getLast hne).symm, ?_⟩
  intro hlast
  exact h (hlast ▸ List.getLast_mem hne)

theorem of_forall (hne : cs ≠ []) {p : Char → Bool} (h : ∀ x ∈ cs, p x = true)
    (hp : p '-' = false) : EndsSolid cs := by
  refine .of_notMem hne fun hmem => ?_
  rw [h '-' hmem] at hp
  cases hp

end EndsSolid

/-- An identifier ends with a character that could go on with it. -/
theorem Identifier.exists_last (i : Identifier) :
    ∃ init x, i.chars = init ++ [x] ∧ isIdentifierPart x = true := by
  have hne : i.chars ≠ [] := List.cons_ne_nil _ _
  exact ⟨_, _, (List.dropLast_append_getLast hne).symm, i.chars_arePart _ (List.getLast_mem hne)⟩

theorem Identifier.endsSolid (i : Identifier) : EndsSolid i.chars :=
  .of_forall (List.cons_ne_nil _ _) i.chars_arePart (by decide)

theorem dollarChars_endsSolid (name? : Option Identifier) : EndsSolid (dollarChars name?) := by
  cases name? with
  | none => exact ⟨[], '$', rfl, by decide⟩
  | some i => exact i.endsSolid.append ['$']

/-- A path behind a text that ends well. -/
theorem EndsSolid.append_dotted {cs : List Char} (h : EndsSolid cs) (names : List Identifier) :
    EndsSolid (cs ++ dottedChars names) := by
  induction names generalizing cs with
  | nil => simpa using h
  | cons i names ih =>
    rw [dottedChars_cons, ← List.singleton_append, ← List.append_assoc, ← List.append_assoc]
    exact ih (i.endsSolid.append _)

theorem MantissaText.endsSolid (m : MantissaText) : EndsSolid m.chars := by
  obtain ⟨x, xs, hchars, -⟩ := m.exists_start
  refine .of_notMem (hchars ▸ List.cons_ne_nil x xs) ?_
  have hdigits {cs : List Char} (h : ∀ x ∈ cs, x.isDigit = true) : '-' ∉ cs := by
    intro hmem
    cases h '-' hmem
  have hwhole := hdigits m.whole_areDigits
  have hfraction := hdigits m.fraction_areDigits
  rw [chars, fractionChars]
  cases hsome : m.fraction? with
  | none => simpa using hwhole
  | some digits => simpa [hsome, hwhole] using hfraction

theorem NumeralText.endsSolid (n : NumeralText) : EndsSolid n.chars := by
  rw [chars, exponentChars]
  refine EndsSolid.append ?_ _
  cases n.exponent? with
  | some e =>
    have hdigits : EndsSolid e.digits.digits :=
      .of_forall e.digits.nonempty e.digits.all_isDigit (by decide)
    exact (hdigits.append (e.letter :: e.sign.text)).append n.mantissa.chars
  | none =>
    rw [Option.elim_none, List.append_nil]
    exact n.mantissa.endsSolid

theorem LeafText.endsSolid (l : LeafText) : EndsSolid l.chars := by
  cases l with
  | field first others => exact (first.endsSolid.append ['.']).append_dotted others
  | dot => exact ⟨[], '.', rfl, by decide⟩
  | variableRef name? path => exact (dollarChars_endsSolid name?).append_dotted path
  | quoted inside => exact ⟨'"' :: inside.flatMap QuotedChar.chars, '"', rfl, by decide⟩
  | raw inside h => exact ⟨'\x60' :: inside, '\x60', rfl, by decide⟩
  | numeral n => exact n.endsSolid
  | bool b => cases b <;> exact .of_notMem (by decide) (by decide)
  | nil => exact .of_notMem (by decide) (by decide)
  | identifier name h => exact name.endsSolid

theorem OperandText.endsSolid (o : OperandText) : EndsSolid o.chars := by
  cases o with
  | leaf l => exact l.endsSolid
  | parenthesized before p after =>
    refine ⟨'(' :: (before.chars ++ (p.chars ++ after.chars)), ')', ?_, by decide⟩
    simp [chars]

theorem CommandText.endsSolid : ∀ c : CommandText, EndsSolid c.chars
  | .last o => o.endsSolid
  | .more o gap others => (others.endsSolid.append gap.chars).append o.chars

theorem CommandsText.endsSolid : ∀ c : CommandsText, EndsSolid c.chars
  | .last c => c.endsSolid
  | .more c before after others =>
    ((others.endsSolid.append ('|' :: after.chars)).append before.chars).append c.chars

theorem PipelineText.endsSolid (p : PipelineText) : EndsSolid p.chars := by
  cases p with
  | plain commands => exact commands.endsSolid
  | declaring d commands => exact commands.endsSolid.append d.chars

/-! ### Trim markers -/

/-- **A text that begins with a trim marker**: a minus sign and a blank. -/
def OpensTrimmed (cs : List Char) : Prop := ∃ x, isBlank x = true ∧ ['-', x] <+: cs

theorem EndsSolid.not_closesTrimmed {cs : List Char} (h : EndsSolid cs) : ¬ClosesTrimmed cs := by
  rintro ⟨x, -, before, hbefore⟩
  obtain ⟨init, y, rfl, hy⟩ := h
  have hlast := congrArg List.getLast? hbefore
  simp only [List.getLast?_append, List.getLast?_cons_cons, List.getLast?_singleton,
    Option.some_or, Option.some.injEq] at hlast
  exact hy hlast.symm

/-- A trim marker is looked for where one stands. -/
theorem endsWithTrim_eq_true_iff {cs : List Char} :
    endsWithTrim cs = true ↔ ClosesTrimmed cs := by
  have hcloses : ClosesTrimmed cs ↔ ∃ x, isBlank x = true ∧ ['-', x] <+: cs.reverse := by
    simp only [ClosesTrimmed, ← List.reverse_prefix]
    rfl
  rw [hcloses, endsWithTrim]
  split
  · next x others hreverse => simp [hreverse]
  · next hnone =>
    refine iff_of_false (by decide) ?_
    rintro ⟨x, -, others, hreverse⟩
    exact hnone x others hreverse.symm

/-- Behind a text that ends well a margin ends with a trim marker exactly if it has
one. -/
theorem Margin.closesTrimmed_iff (m : Margin) {before : List Char} (h : EndsSolid before) :
    ClosesTrimmed (before ++ m.closing) ↔ m.trims = true := by
  cases htrims : m.trims with
  | true =>
    refine iff_of_true ?_ rfl
    obtain ⟨init, x, hblanks⟩ :=
      (List.eq_nil_or_concat' m.blanks.chars).resolve_left (m.nonempty htrims)
    refine ⟨x, m.blanks.areBlank x (by simp [hblanks]), before ++ init, ?_⟩
    simp [closing, marker, htrims, hblanks]
  | false =>
    refine iff_of_false (EndsSolid.not_closesTrimmed ?_) (by decide)
    rw [closing, marker, htrims, if_neg (by decide), List.append_nil]
    rcases eq_or_ne m.blanks.chars [] with hnil | hne
    · rw [hnil, List.append_nil]
      exact h
    · exact (EndsSolid.of_forall hne m.blanks.areBlank (by decide)).append before

/-- Every keyword is written like a name. -/
theorem Keyword.exists_identifier (k : Keyword) : ∃ i : Identifier, i.chars = k.text.toList := by
  have hchars : ∃ x xs, x :: xs = k.text.toList ∧ isIdentifierStart x = true ∧
      ∀ y ∈ xs, isIdentifierPart y = true := by
    cases k <;> exact ⟨_, _, rfl, by decide, List.all_eq_true.mp rfl⟩
  obtain ⟨x, xs, hchars, hx, hxs⟩ := hchars
  exact ⟨⟨x, xs, hx, hxs⟩, hchars⟩

/-- Behind a name a text ends with a trim marker exactly if it does so alone. -/
theorem Identifier.closesTrimmed_iff (i : Identifier) (before skipped : List Char) :
    ClosesTrimmed (before ++ (i.chars ++ skipped)) ↔ ClosesTrimmed skipped := by
  rw [← List.append_assoc]
  constructor
  · rintro ⟨x, hx, hmarker⟩
    rcases List.suffix_or_suffix_of_suffix hmarker (List.suffix_append _ skipped) with
      hinside | hskipped
    · exact ⟨x, hx, hinside⟩
    -- Otherwise the marker begins before the skipped text, at the end of the name.
    rcases List.suffix_cons_iff.mp hskipped with rfl | hskipped
    · exact ⟨x, hx, List.suffix_refl _⟩
    rcases List.suffix_cons_iff.mp hskipped with rfl | hskipped
    · obtain ⟨init, y, hchars, hy⟩ := i.exists_last
      obtain ⟨front, hfront⟩ := hmarker
      obtain rfl : x = y := by
        have hends := congrArg (fun cs => cs.reverse[1]?) hfront
        simpa [hchars] using hends
      rw [isIdentifierPart_eq_false_of_isBlank hx] at hy
      cases hy
    · obtain rfl := List.suffix_nil.mp hskipped
      rw [List.append_nil] at hmarker
      exact absurd ⟨x, hx, hmarker⟩ (i.endsSolid.append before).not_closesTrimmed
  · rintro ⟨x, hx, hmarker⟩
    exact ⟨x, hx, hmarker.trans (List.suffix_append _ _)⟩

/-- **The closing trim rule**: the content of an item trims the text behind it exactly if
it ends with a trim marker, whatever kind of content it is. -/
theorem ContentText.closesTrimmed_iff {right : List Char} (t : ContentText right)
    (before : List Char) : ClosesTrimmed (before ++ t.chars) ↔ t.trims = true := by
  cases t with
  | comment inside h margin =>
    have hend : EndsSolid (before ++ '/' :: '*' :: (inside ++ ['*', '/'])) :=
      ⟨before ++ '/' :: '*' :: (inside ++ ['*']), '/', by simp, by decide⟩
    have hiff := margin.closesTrimmed_iff hend
    simpa [chars, trims] using hiff
  | control keyword skipped trims hstops hnone htrims =>
    obtain ⟨i, hi⟩ := keyword.exists_identifier
    rw [chars, ← hi]
    exact (i.closesTrimmed_iff before skipped).trans htrims
  | action p h margin =>
    rw [chars, ← List.append_assoc]
    exact margin.closesTrimmed_iff (p.endsSolid.append before)

/-- No content begins with a trim marker. -/
theorem ContentText.not_opensTrimmed {right : List Char} (t : ContentText right)
    (more : List Char) : ¬OpensTrimmed (t.chars ++ more) := by
  rintro ⟨x, hx, hprefix⟩
  cases t with
  | comment inside h margin => exact absurd (List.cons_prefix_cons.mp hprefix).1 (by decide)
  | control keyword skipped trims hstops hnone htrims =>
    obtain ⟨i, hi⟩ := keyword.exists_identifier
    have hstart := i.first_isStart
    rw [chars, ← hi] at hprefix
    rw [← (List.cons_prefix_cons.mp hprefix).1] at hstart
    cases hstart
  | action p h margin =>
    obtain ⟨y, ys, hchars, -, hminus⟩ := p.beginsOperand
    rw [chars, hchars] at hprefix
    obtain ⟨hy, hprefix⟩ := List.cons_prefix_cons.mp hprefix
    obtain ⟨z, zs, rfl, hz⟩ := hminus hy.symm
    rw [← (List.cons_prefix_cons.mp hprefix).1, hx] at hz
    cases hz

/-- **The opening trim rule**: an item trims the text before it exactly if it begins with
a trim marker. -/
theorem ItemText.opensTrimmed_iff {right : List Char} (i : ItemText right) (more : List Char) :
    OpensTrimmed (i.chars ++ more) ↔ i.margin.trims = true := by
  rw [chars, Margin.opening, Margin.marker]
  cases htrims : i.margin.trims with
  | true =>
    refine iff_of_true ?_ rfl
    obtain ⟨x, xs, hblanks⟩ := List.exists_cons_of_ne_nil (i.margin.nonempty htrims)
    refine ⟨x, i.margin.blanks.areBlank x (by simp [hblanks]), ?_⟩
    simp [hblanks]
  | false =>
    refine iff_of_false ?_ (by decide)
    cases hblanks : i.margin.blanks.chars with
    | nil => simpa using i.content.not_opensTrimmed more
    | cons y ys =>
      rintro ⟨x, -, hprefix⟩
      have hy := i.margin.blanks.areBlank y (by simp [hblanks])
      rw [← (List.cons_prefix_cons.mp hprefix).1] at hy
      cases hy

end Stencil
