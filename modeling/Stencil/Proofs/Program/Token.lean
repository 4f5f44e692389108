import Stencil.Source.Cursor
import Stencil.Text.Quoted
import Stencil.Proofs.Number.Numeral
import Stencil.Proofs.Source.Escape
import Stencil.Proofs.Source.Identifier

/-!
# Tokens of the target language

The text of a program is read in two stages, and this file has the first: the text
is cut into words, text literals, number literals and marks. Blanks and comment
lines separate tokens and are otherwise dropped; the escapes of a text literal are
undone, and a number literal is rounded to the number it denotes.

The cutting is done by an automaton that looks at one character at a time
(`Stencil.Token.scan`), so what it does to a text is settled piece by piece:
`Stencil.Token.scan_append` is all that is ever needed to join the pieces. A piece
is *closed* if the automaton is back where it started after it, and *open* if it
may have ended inside a word.
-/

namespace Stencil

/-! ### The automaton -/

/-- **A token** of the target language. -/
inductive Token where
  | word (name : String)
  | text (s : String)
  | number (n : Number)
  | mark (c : Char)
  deriving DecidableEq

namespace Token

/-- What the automaton is in the middle of. What it has read of a token is kept in
reverse. -/
inductive Pending where
  /-- Between two tokens. -/
  | nothing
  /-- In a word. -/
  | word (reversed : List Char)
  /-- In a number literal. -/
  | numeral (reversed : List Char)
  /-- After a slash. -/
  | slash
  /-- In a comment, up to the end of the line. -/
  | remark
  /-- In a text literal. -/
  | quote (reversed : List Char)
  /-- In a text literal, after a backslash. -/
  | escape (reversed : List Char)
  /-- In a text literal, after a backslash and the letter `u`. -/
  | codeStart (reversed : List Char)
  /-- In a text literal, in the digits of a code point. -/
  | code (reversed : List Char) (value? : Option Nat)
  deriving DecidableEq

/-- The type that a number literal names behind its digits. -/
def floatSuffix : List Char := ['_', 'f', '6', '4']

/-- The number that a literal denotes: an unsigned numeral with the name of its
type behind it. -/
def floatLiteral? (cs : List Char) : Option Number :=
  match Decimal.readMantissa? cs with
  | none => none
  | some (d, rest) =>
    match Decimal.readExponent rest with
    | .absent => if rest = floatSuffix then some (d.toNumber false) else none
    | .complete e rest' => if rest' = floatSuffix then some ((d.shift e).toNumber false) else none
    | .broken => none

/-- The token that ends when something else begins. -/
def flush : Pending → Option (List Token)
  | .nothing => some []
  | .word reversed => some [.word (String.ofList reversed.reverse)]
  | .numeral reversed => (floatLiteral? reversed.reverse).map fun n => [.number n]
  | .remark => some []
  | _ => none

/-- Whether a character goes on with a number literal, of which the characters so
far are given in reverse. A sign belongs to it only behind the letter of the
exponent. -/
def continuesNumeral (reversed : List Char) (c : Char) : Bool :=
  isIdentifierPart c || c == '.' ||
    (isSignChar c && (reversed.head? == some 'e' || reversed.head? == some 'E'))

/-- What a character begins that stands between two tokens. -/
def begins (c : Char) : List Token × Pending :=
  if isBlank c then ([], .nothing)
  else if c.isDigit then ([], .numeral [c])
  else if isIdentifierStart c then ([], .word [c])
  else if c = '"' then ([], .quote [])
  else if c = '/' then ([], .slash)
  else ([.mark c], .nothing)

/-- The character of a simple escape. -/
def unescape? (c : Char) : Option Char :=
  if c = 'n' then some '\n'
  else if c = 'r' then some '\r'
  else if c = 't' then some '\t'
  else if c = '0' then some '\x00'
  else if c = '\\' then some '\\'
  else if c = '"' then some '"'
  else if c = '\x27' then some '\x27'
  else none

/-- **One step of the automaton**: the tokens that a character completes, and what
the automaton is in the middle of after it. -/
def step : Pending → Char → Option (List Token × Pending)
  | .nothing, c => some (begins c)
  | .word reversed, c =>
    if isIdentifierPart c then some ([], .word (c :: reversed))
    else (flush (.word reversed)).map fun ended => (ended ++ (begins c).1, (begins c).2)
  | .numeral reversed, c =>
    if continuesNumeral reversed c then some ([], .numeral (c :: reversed))
    else (flush (.numeral reversed)).map fun ended => (ended ++ (begins c).1, (begins c).2)
  | .slash, c => if c = '/' then some ([], .remark) else none
  | .remark, c => if c = '\n' then some ([], .nothing) else some ([], .remark)
  | .quote reversed, c =>
    if c = '"' then some ([.text (String.ofList reversed.reverse)], .nothing)
    else if c = '\\' then some ([], .escape reversed)
    else if c = '\r' then none
    else some ([], .quote (c :: reversed))
  | .escape reversed, c =>
    if c = 'u' then some ([], .codeStart reversed)
    else (unescape? c).map fun x => ([], .quote (x :: reversed))
  | .codeStart reversed, c => if c = '\x7b' then some ([], .code reversed none) else none
  | .code reversed value?, c =>
    if c = '\x7d' then
      (value?.bind charOfCode?).map fun x => ([], .quote (x :: reversed))
    else (hexValue? c).map fun d => ([], .code reversed (some (value?.getD 0 * 16 + d)))

/-- **Runs the automaton** over a text: the tokens that were completed, and what it
ended in the middle of. -/
def scan : Pending → List Char → Option (List Token × Pending)
  | p, [] => some ([], p)
  | p, c :: cs =>
    match step p c with
    | none => none
    | some (ended, q) => (scan q cs).map fun (tokens, r) => (ended ++ tokens, r)

/-- **The tokens of a text.** -/
def ofText? (s : String) : Option (List Token) :=
  match scan .nothing s.toList with
  | none => none
  | some (tokens, p) => (flush p).map (tokens ++ ·)

/-! ### Joining pieces -/

/-- Runs over two texts, the second from where the first ended, make a run over
both. -/
theorem scan_append {p q r : Pending} {cs ds : List Char} {tokens more : List Token}
    (h : scan p cs = some (tokens, q)) (h' : scan q ds = some (more, r)) :
    scan p (cs ++ ds) = some (tokens ++ more, r) := by
  induction cs generalizing p tokens with
  | nil =>
    simp only [scan, Option.some.injEq, Prod.mk.injEq] at h
    obtain ⟨rfl, rfl⟩ := h
    exact h'
  | cons c cs ih =>
    rw [List.cons_append]
    simp only [scan] at h ⊢
    rcases hstep : step p c with _ | ⟨ended, p'⟩
    · simp [hstep] at h
    rcases hcs : scan p' cs with _ | ⟨others, q'⟩
    · simp [hstep, hcs] at h
    simp only [hstep, hcs, Option.map_some, Option.some.injEq, Prod.mk.injEq] at h
    obtain ⟨rfl, rfl⟩ := h
    simp [ih hcs]

/-- **A closed piece**: between two tokens before it and after it, with the given
tokens in it. -/
def Closed (cs : List Char) (tokens : List Token) : Prop :=
  scan .nothing cs = some (tokens, .nothing)

instance (cs : List Char) (tokens : List Token) : Decidable (Closed cs tokens) :=
  inferInstanceAs (Decidable (_ = _))

/-- Closed pieces can be joined. -/
theorem Closed.append {cs ds : List Char} {tokens more : List Token} (h : Closed cs tokens)
    (h' : Closed ds more) : Closed (cs ++ ds) (tokens ++ more) :=
  scan_append h h'

/-- **An open piece**: between two tokens before it, and at its end either that
again or in a last word. -/
def Open (cs : List Char) (tokens : List Token) : Prop :=
  Closed cs tokens ∨ ∃ before reversed, scan .nothing cs = some (before, .word reversed) ∧
    tokens = before ++ [.word (String.ofList reversed.reverse)]

/-- An open piece may stand behind a closed one. -/
theorem Closed.append_open {cs ds : List Char} {tokens more : List Token} (h : Closed cs tokens)
    (h' : Open ds more) : Open (cs ++ ds) (tokens ++ more) := by
  rcases h' with h' | ⟨before, reversed, h', rfl⟩
  · exact Or.inl (h.append h')
  · exact Or.inr ⟨tokens ++ before, reversed, scan_append h h', (List.append_assoc _ _ _).symm⟩

/-- An open piece is closed by anything that cannot go on with a word. -/
theorem Open.append {cs ds : List Char} {tokens more : List Token} (h : Open cs tokens)
    (h' : Closed ds more) (hne : ds ≠ []) (hstop : Stops isIdentifierPart ds) :
    Closed (cs ++ ds) (tokens ++ more) := by
  rcases h with h | ⟨before, reversed, h, rfl⟩
  · exact h.append h'
  · cases ds with
    | nil => exact absurd rfl hne
    | cons c ds =>
      have hc : isIdentifierPart c = false := by simpa using hstop
      rw [List.append_assoc]
      refine scan_append h ?_
      -- The word ends, and then the character does what it does between two tokens.
      simp only [Closed, scan, step, hc, flush, Option.map_some, Bool.false_eq_true,
        if_false] at h' ⊢
      rcases hrest : scan (begins c).2 ds with _ | ⟨others, q⟩
      · simp [hrest] at h'
      · simp only [hrest, Option.map_some, Option.some.injEq, Prod.mk.injEq] at h' ⊢
        obtain ⟨rfl, rfl⟩ := h'
        simp

/-! ### Words -/

/-- The automaton stays in a word as long as the word goes on. -/
theorem scan_word {cs : List Char} (hcs : ∀ c ∈ cs, isIdentifierPart c = true)
    (reversed : List Char) :
    scan (.word reversed) cs = some ([], .word (cs.reverse ++ reversed)) := by
  induction cs generalizing reversed with
  | nil => rfl
  | cons c cs ih =>
    have hc : isIdentifierPart c = true := hcs c (by simp)
    simp [scan, step, hc, ih fun d hd => hcs d (by simp [hd])]

/-- The characters that begin an identifier begin a word. -/
theorem begins_word {c : Char} (hc : isIdentifierStart c = true) : begins c = ([], .word [c]) := by
  have hblank : isBlank c = false := isBlank_eq_false_of_part (isIdentifierPart_of_start hc)
  have hdigit : c.isDigit = false := isDigit_eq_false_of_start hc
  simp [begins, hblank, hdigit, hc]

/-- An identifier is an open piece with one word. -/
theorem open_word (i : Identifier) : Open i.chars [.word i.text] := by
  refine Or.inr ⟨[], i.others.reverse ++ [i.first], ?_, ?_⟩
  · simp [Identifier.chars, scan, step, begins_word i.first_isStart, scan_word i.others_arePart]
  · simp [Identifier.text, Identifier.chars]

/-! ### Text literals -/

/-- The sixteen digits have their values, and none of them is a brace. -/
theorem hexValue?_digitChar : ∀ d < 16, hexValue? (Nat.digitChar d) = some d ∧
    Nat.digitChar d ≠ '\x7d' := by
  decide

/-- The digits of a code point are read to their value. -/
theorem scan_codeDigits (reversed : List Char) (n : Nat) :
    scan (.code reversed none) (Nat.toDigits 16 n) = some ([], .code reversed (some n)) := by
  induction n using Nat.strongRecOn with
  | ind n ih =>
    by_cases hn : n < 16
    · obtain ⟨hvalue, hbrace⟩ := hexValue?_digitChar n hn
      rw [Nat.toDigits_of_lt_base hn]
      simp [scan, step, hvalue, hbrace]
    · obtain ⟨hvalue, hbrace⟩ := hexValue?_digitChar (n % 16) (Nat.mod_lt n (by decide))
      rw [Nat.toDigits_of_base_le (by decide) (Nat.le_of_not_lt hn)]
      refine scan_append (ih (n / 16) (by omega)) ?_
      simp [scan, step, hvalue, hbrace, Nat.div_add_mod']

/-- **An escaped character is read as the character.** -/
theorem scan_quotedChar (reversed : List Char) (c : Char) :
    scan (.quote reversed) (quotedChar c) = some ([], .quote (c :: reversed)) := by
  unfold quotedChar shortEscape?
  by_cases hnull : c = '\x00'
  · subst hnull
    rfl
  by_cases htab : c = '\t'
  · subst htab
    rfl
  by_cases hreturn : c = '\r'
  · subst hreturn
    rfl
  by_cases hline : c = '\n'
  · subst hline
    rfl
  by_cases hback : c = '\\'
  · subst hback
    rfl
  by_cases hquote : c = '"'
  · subst hquote
    rfl
  simp only [hnull, htab, hreturn, hline, hback, hquote, if_false]
  split
  · -- The code point in braces.
    have hdigits := scan_codeDigits reversed c.toNat
    have hclose : scan (.code reversed (some c.toNat)) ['\x7d'] =
        some ([], .quote (c :: reversed)) := by
      have hcode : charOfCode? c.toNat = some c := charOfCode?_eq_some_iff.mpr rfl
      simp [scan, step, hcode]
    have hopen : scan (.quote reversed) ['\\', 'u', '\x7b'] = some ([], .code reversed none) := rfl
    exact scan_append hopen (scan_append hdigits hclose)
  · simp [scan, step, hquote, hback, hreturn]

/-- Escaped characters are read as the characters. -/
theorem scan_flatMap_quotedChar (reversed cs : List Char) :
    scan (.quote reversed) (cs.flatMap quotedChar) =
      some ([], .quote (cs.reverse ++ reversed)) := by
  induction cs generalizing reversed with
  | nil => rfl
  | cons c cs ih => simpa using scan_append (scan_quotedChar reversed c) (ih (c :: reversed))

/-- **A quoted text is a closed piece with one literal**, which denotes the text. -/
theorem closed_quoted (s : String) : Closed (quoted s).toList [.text s] := by
  have hopen : scan .nothing ['"'] = some ([], .quote []) := rfl
  have hclose : scan (.quote s.toList.reverse) ['"'] = some ([.text s], .nothing) := by
    simp [scan, step]
  have hinside := scan_flatMap_quotedChar [] s.toList
  rw [List.append_nil] at hinside
  simpa [quoted, Closed] using scan_append hopen (scan_append hinside hclose)

/-! ### Number literals -/

/-- The automaton stays in a number literal through letters, digits and points. -/
theorem scan_numeral {cs : List Char} (hcs : ∀ c ∈ cs, isIdentifierPart c = true ∨ c = '.')
    (reversed : List Char) :
    scan (.numeral reversed) cs = some ([], .numeral (cs.reverse ++ reversed)) := by
  induction cs generalizing reversed with
  | nil => rfl
  | cons c cs ih =>
    have hc : continuesNumeral reversed c = true := by
      rcases hcs c (by simp) with hc | rfl <;> simp [continuesNumeral, *]
    simp [scan, step, hc, ih fun d hd => hcs d (by simp [hd])]

/-- The automaton stays in a number literal through its exponent. -/
theorem scan_exponentText (n : WrittenNumeral) (reversed : List Char) :
    scan (.numeral reversed) n.exponentText =
      some ([], .numeral (n.exponentText.reverse ++ reversed)) := by
  unfold WrittenNumeral.exponentText
  cases n.exponent? with
  | none => rfl
  | some e =>
    obtain ⟨sign, ds⟩ := e
    have hsign : scan (.numeral reversed) ('e' :: sign.text) =
        some ([], .numeral (sign.text.reverse ++ 'e' :: reversed)) := by
      cases sign <;> rfl
    have hdigits := scan_numeral (fun c hc => Or.inl
      (isIdentifierPart_of_isDigit (ds.all_isDigit c hc))) (sign.text.reverse ++ 'e' :: reversed)
    simpa using scan_append hsign hdigits

/-- The literal of a numeral denotes the number nearest to it. -/
theorem floatLiteral?_text (n : WrittenNumeral) :
    floatLiteral? (n.text ++ floatSuffix) = some (n.decimal.toNumber false) := by
  have hstop : Stops WrittenNumeral.isContinuation floatSuffix := by
    simp only [floatSuffix, stops_cons]
    decide
  simp only [floatLiteral?, n.readMantissa?_text hstop, n.readExponent_text hstop,
    WrittenNumeral.decimal]
  cases h : n.exponent? with
  | none => simp [WrittenNumeral.exponentText, h]
  | some e => simp

/-- **A number literal before a closing parenthesis is a closed piece** with one
number, the one nearest to its numeral. -/
theorem closed_numeral (n : WrittenNumeral) :
    Closed (n.text ++ floatSuffix ++ [')']) [.number (n.decimal.toNumber false), .mark ')'] := by
  obtain ⟨c, cs, hwhole⟩ : ∃ c cs, n.whole.digits = c :: cs :=
    List.exists_cons_of_ne_nil n.whole.nonempty
  have hdigit : ∀ d ∈ c :: cs, d.isDigit = true := hwhole ▸ n.whole.all_isDigit
  have hc : begins c = ([], .numeral [c]) := by
    have hpart := isIdentifierPart_of_isDigit (hdigit c (by simp))
    simp [begins, hdigit c (by simp), isBlank_eq_false_of_part hpart]
  have hfraction : ∀ d ∈ cs ++ n.fractionText, isIdentifierPart d = true ∨ d = '.' := by
    intro d hd
    rcases List.mem_append.mp hd with hd | hd
    · exact Or.inl (isIdentifierPart_of_isDigit (hdigit d (by simp [hd])))
    unfold WrittenNumeral.fractionText at hd
    cases hf : n.fraction? with
    | none => simp [hf] at hd
    | some ds =>
      rw [hf] at hd
      rcases List.mem_cons.mp hd with hd | hd
      · exact Or.inr hd
      · exact Or.inl (isIdentifierPart_of_isDigit (ds.all_isDigit d hd))
  have hsuffix : ∀ d ∈ floatSuffix, isIdentifierPart d = true ∨ d = '.' := fun d hd =>
    Or.inl (List.all_eq_true.mp (rfl : floatSuffix.all isIdentifierPart = true) d hd)
  have hstart : scan .nothing [c] = some ([], .numeral [c]) := by simp [scan, step, hc]
  have hend : ∀ reversed, reversed.reverse = n.text ++ floatSuffix →
      scan (.numeral reversed) [')'] =
        some ([.number (n.decimal.toNumber false), .mark ')'], .nothing) := by
    intro reversed hreversed
    have hstop : continuesNumeral reversed ')' = false := by
      have hpart : isIdentifierPart ')' = false := by decide
      have hsign : isSignChar ')' = false := by decide
      simp [continuesNumeral, hpart, hsign]
    have hmark : begins ')' = ([.mark ')'], .nothing) := by decide
    simp [scan, step, hstop, flush, hreversed, floatLiteral?_text, hmark]
  -- The first digit, the rest of the mantissa, the exponent, the suffix and the bracket.
  have hrun := scan_append hstart <| scan_append (scan_numeral hfraction [c]) <|
    scan_append (scan_exponentText n _) <| scan_append (scan_numeral hsuffix _) <|
    hend _ (by simp [WrittenNumeral.text, hwhole])
  simpa [Closed, WrittenNumeral.text, hwhole] using hrun

/-! ### Comments -/

/-- A comment goes on up to the end of the line. -/
theorem scan_remark {cs : List Char} (hcs : '\n' ∉ cs) :
    scan .remark cs = some ([], .remark) := by
  induction cs with
  | nil => rfl
  | cons c cs ih =>
    obtain ⟨hc, hcs⟩ : '\n' ≠ c ∧ '\n' ∉ cs := by simpa using hcs
    simp [scan, step, hc.symm, ih hcs]

end Token

end Stencil
