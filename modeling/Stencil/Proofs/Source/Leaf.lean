import Stencil.Proofs.Source.Cursor
import Stencil.Proofs.Source.Written

/-!
# Leaves are read as they are written

For every operand without inner structure the two directions between its readers and
its written forms. What a reader accepts is a written form
(`Stencil.LeafText.exists_of_readMarked?` and its companions), and a written form is
read back before anything that cannot go on with it.
-/

namespace Stencil

open Cursor

/-! ### Blanks -/

namespace Cursor

variable {c d : Cursor}

/-- The blanks that are passed over, and there are some if some are asked for. -/
theorem exists_blanks (c : Cursor) : ∃ b : Blanks, c.Passes b.chars c.skipBlanks ∧
    (c.skipBlanks1?.isSome = true → b.chars ≠ []) := by
  refine ⟨⟨(c.takeWhile isBlank).1, fun _ hx => List.mem_takeWhile_imp hx⟩,
    c.passes_takeWhile isBlank, ?_⟩
  intro hsome hnil
  have hnone : c.skipBlanks1? = none := by
    dsimp only at hnil
    simp only [skipBlanks1?, hnil, List.isEmpty_nil, if_true]
  rw [hnone] at hsome
  cases hsome

theorem exists_gap (h : c.skipBlanks1? = some d) : ∃ g : Gap, c.Passes g.chars d := by
  obtain ⟨taken, hne, hblank, hpasses⟩ := skipBlanks1?_eq_some h
  exact ⟨⟨⟨taken, hblank⟩, hne⟩, hpasses⟩

end Cursor

/-! ### Numerals -/

theorem exists_sign (cs : List Char) :
    ∃ s : Sign, cs = s.text ++ (Decimal.readSign cs).2 ∧ s.isMinus = (Decimal.readSign cs).1 := by
  unfold Decimal.readSign
  split
  · exact ⟨.minus, rfl, rfl⟩
  · exact ⟨.plus, rfl, rfl⟩
  · exact ⟨.absent, rfl, rfl⟩

theorem spanDigits_eq (cs : List Char) :
    cs = (Decimal.spanDigits cs).1 ++ (Decimal.spanDigits cs).2 ∧
    ∀ x ∈ (Decimal.spanDigits cs).1, x.isDigit = true := by
  rw [Decimal.spanDigits, List.span_eq_takeWhile_dropWhile]
  exact ⟨List.takeWhile_append_dropWhile.symm, fun _ hx => List.mem_takeWhile_imp hx⟩

theorem exists_exponent {cs rest : List Char} {e : Int}
    (h : Decimal.readExponent cs = .complete e rest) :
    ∃ t : ExponentText, cs = t.chars ++ rest ∧ t.power = e := by
  unfold Decimal.readExponent at h
  split at h
  · cases h
  · next letter cs =>
    obtain ⟨sign, hsign, hminus⟩ := exists_sign cs
    obtain ⟨hspan, hdigits⟩ := spanDigits_eq (Decimal.readSign cs).2
    split at h
    · next hletter =>
      dsimp only at h
      split at h
      · cases h
      · next hne =>
        cases h
        refine ⟨⟨letter, sign, ⟨_, by simpa using hne, hdigits⟩, hletter⟩, ?_, ?_⟩
        · rw [ExponentText.chars, List.cons_append, List.append_assoc, ← hspan, ← hsign]
        · rw [ExponentText.power, Sign.apply, hminus]
    · cases h

theorem exists_mantissa {cs rest : List Char} {d : Decimal}
    (h : Decimal.readMantissa? cs = some (d, rest)) :
    ∃ t : MantissaText, cs = t.chars ++ rest ∧ t.decimal = d := by
  obtain ⟨hwhole, hdigits⟩ := spanDigits_eq cs
  unfold Decimal.readMantissa? at h
  generalize Decimal.spanDigits cs = span at h hwhole hdigits
  obtain ⟨whole, rest'⟩ := span
  dsimp only at h hwhole hdigits
  split at h
  · next behind =>
    obtain ⟨hfraction, hfractionDigits⟩ := spanDigits_eq behind
    split at h
    · cases h
    · next hne =>
      cases h
      refine ⟨⟨whole, some (Decimal.spanDigits behind).1, hdigits, hfractionDigits, ?_⟩, ?_, rfl⟩
      · simpa [or_iff_not_imp_left] using hne
      · simp only [MantissaText.chars, MantissaText.fractionChars, Option.elim_some,
          List.append_assoc, List.cons_append]
        rw [← hfraction, hwhole]
  · split at h
    · cases h
    · next hne =>
      cases h
      refine ⟨⟨whole, none, hdigits, by simp, Or.inl (by simpa using hne)⟩, ?_, ?_⟩
      · simpa [MantissaText.chars, MantissaText.fractionChars] using hwhole
      · simp [MantissaText.decimal]

/-- A mantissa without digits before its point begins with the point. -/
theorem MantissaText.chars_of_whole_eq_nil {m : MantissaText} (h : m.whole = []) :
    ∃ digits, m.chars = '.' :: digits := by
  have hne := m.nonempty
  rw [chars, fractionChars, h]
  cases hfraction : m.fraction? with
  | none => simp [h, hfraction] at hne
  | some digits => exact ⟨digits, rfl⟩

/-- The digits of a numeral begin with a digit, or with the point if none stand before
it. -/
theorem MantissaText.exists_start (m : MantissaText) :
    ∃ x xs, m.chars = x :: xs ∧ (x.isDigit = true ∨ m.whole = [] ∧ x = '.') := by
  cases hwhole : m.whole with
  | nil =>
    obtain ⟨digits, hchars⟩ := m.chars_of_whole_eq_nil hwhole
    exact ⟨'.', digits, hchars, Or.inr ⟨rfl, rfl⟩⟩
  | cons x xs =>
    refine ⟨x, xs ++ m.fractionChars, by rw [chars, hwhole]; rfl, Or.inl ?_⟩
    exact m.whole_areDigits x (by rw [hwhole]; exact List.mem_cons_self)

/-- A numeral begins with a digit or with a sign, and a digit or a point follows the
sign. -/
theorem NumeralText.exists_start (n : NumeralText) :
    ∃ x xs, n.chars = x :: xs ∧ isNumeralStart x = true ∧
      (x = '-' → ∃ y ys, xs = y :: ys ∧ (y.isDigit = true ∨ y = '.')) := by
  obtain ⟨x, xs, hchars, hx⟩ := n.mantissa.exists_start
  rw [chars, hchars]
  cases hsign : n.sign with
  | absent =>
    have hdigit : x.isDigit = true :=
      hx.resolve_right fun hpoint => n.begins.elim (· hsign) (· hpoint.1)
    refine ⟨x, _, rfl, by simp [isNumeralStart, hdigit], ?_⟩
    rintro rfl
    cases hdigit
  | plus => exact ⟨'+', _, rfl, by decide, nofun⟩
  | minus => exact ⟨'-', _, rfl, by decide, fun _ => ⟨x, _, rfl, hx.imp_right And.right⟩⟩

theorem NumeralText.exists_of_numeral {c d : Cursor} {n : Number}
    (h : c.numeral = .complete n d) : ∃ t : NumeralText, c.Passes t.chars d ∧ t.number = n := by
  unfold numeral at h
  split at h
  · cases h
  · next x xs hrest =>
    split at h
    · next hstart =>
      obtain ⟨sign, hsign, hminus⟩ := exists_sign c.rest
      dsimp only at h
      split at h
      · cases h
      · next rest hmantissa =>
        obtain ⟨m, hm, rfl⟩ := exists_mantissa hmantissa
        rw [hm] at hsign
        -- Without a sign the character that was looked at first is the first of the digits.
        have hbegins : sign ≠ .absent ∨ m.whole ≠ [] := by
          rw [← not_and_or]
          rintro ⟨rfl, hwhole⟩
          obtain ⟨digits, hchars⟩ := m.chars_of_whole_eq_nil hwhole
          rw [hrest, hchars] at hsign
          obtain ⟨rfl, -⟩ := List.cons.inj hsign
          cases hstart
        split at h
        · cases h
          refine ⟨⟨sign, m, none, hbegins⟩, passes_leaving ?_, ?_⟩
          · simpa [NumeralText.chars, NumeralText.exponentChars] using hsign
          · rw [NumeralText.number, hminus]
            rfl
        · next hexponent =>
          cases h
          obtain ⟨e, rfl, rfl⟩ := exists_exponent hexponent
          refine ⟨⟨sign, m, some e, hbegins⟩, passes_leaving ?_, ?_⟩
          · simpa [NumeralText.chars, NumeralText.exponentChars] using hsign
          · rw [NumeralText.number, hminus]
            rfl
        · cases h
    · cases h

/-- Whether a character could go on with an operand. -/
def isOperandPart (c : Char) : Bool := isIdentifierPart c || c == '.'

theorem Stops.of_operandPart {rest : List Char} (h : Stops isOperandPart rest) :
    Stops isIdentifierPart rest ∧ Stops (· == '.') rest :=
  ⟨h.mono fun c hc => by rw [isOperandPart, hc, Bool.true_or],
    h.mono fun c hc => by rw [isOperandPart, hc, Bool.or_true]⟩

theorem isOperandPart_of_digit_or_point {x : Char} (h : (x.isDigit || x == '.') = true) :
    isOperandPart x = true := by
  rw [Bool.or_eq_true] at h
  rcases h with h | h
  · rw [isOperandPart, isIdentifierPart_of_isDigit h, Bool.true_or]
  · rw [isOperandPart, h, Bool.or_true]

/-- The exponent of a numeral, and what follows it, stop the digits before it. -/
theorem NumeralText.stops_exponentChars (n : NumeralText) {rest : List Char}
    (hrest : Stops isOperandPart rest) :
    Stops (fun c => c.isDigit || c == '.') (n.exponentChars ++ rest) := by
  unfold exponentChars
  cases n.exponent? with
  | none => exact hrest.mono fun _ => isOperandPart_of_digit_or_point
  | some e =>
    refine (stops_cons _ _).mpr ?_
    rcases e.letter_eq with hletter | hletter <;> rw [hletter] <;> rfl

/-- **A numeral is read back.** -/
theorem NumeralText.numeral_of_passes {n : NumeralText} {c d : Cursor} (h : c.Passes n.chars d)
    (hstops : Stops isOperandPart d.rest) : c.numeral = .complete n.number d := by
  have hdigits := hstops.mono fun x (hx : x.isDigit = true) =>
    isOperandPart_of_digit_or_point (by rw [hx, Bool.true_or])
  have hletter := hstops.mono fun x (hx : (x == 'e' || x == 'E') = true) => by
    simp only [Bool.or_eq_true, beq_iff_eq] at hx
    rcases hx with rfl | rfl <;> decide
  obtain ⟨x, xs, hchars, hx, -⟩ := n.exists_start
  obtain ⟨y, ys, hmantissa, hy⟩ := n.mantissa.exists_start
  have hrest : c.rest = x :: (xs ++ d.rest) := by rw [h.1, hchars, List.cons_append]
  have hsign : Decimal.readSign c.rest =
      (n.sign.isMinus, n.mantissa.chars ++ (n.exponentChars ++ d.rest)) := by
    rw [h.1, chars, List.append_assoc, List.append_assoc]
    refine Decimal.readSign_text n.sign ?_
    rw [hmantissa, List.cons_append, stops_cons]
    rcases hy with hy | ⟨-, rfl⟩
    · exact isSignChar_of_isDigit hy
    · rfl
  have hread := n.mantissa.readMantissa?_chars (n.stops_exponentChars hstops)
  have hleaving := leaving_of_passes h
  unfold numeral
  simp only [hrest, hx, if_true]
  rw [← hrest]
  simp only [hsign, hread]
  rw [number, decimal]
  unfold exponentChars
  cases n.exponent? with
  | none =>
    simp only [Option.elim_none, List.nil_append, Decimal.readExponent_of_stops hletter, hleaving]
  | some e => simp only [Option.elim_some, e.readExponent_chars hdigits, hleaving]

/-! ### Texts -/

theorem exists_quoted {cs text after : List Char} (h : readQuoted cs = some (text, after)) :
    ∃ inside : List QuotedChar,
      cs = inside.flatMap QuotedChar.chars ++ '"' :: after ∧ inside.map QuotedChar.char = text := by
  fun_induction readQuoted cs generalizing text with
  | case1 | case4 | case6 | case7 | case9 => cases h
  | case2 rest =>
    cases h
    exact ⟨[], rfl, rfl⟩
  | case3 a b c d rest x _ _ hread hcode ih =>
    cases h
    obtain ⟨inside, rfl, rfl⟩ := ih hread
    obtain ⟨i, j, k, l, ha, hb, hc, hd, hx⟩ := codeChar?_eq_some_iff.mp hcode
    exact ⟨⟨x, _, .code ha hb hc hd hx⟩ :: inside, by simp, rfl⟩
  | case5 letter rest _ x _ _ hread hescape ih =>
    cases h
    obtain ⟨inside, rfl, rfl⟩ := ih hread
    exact ⟨⟨x, _, .escape (simpleEscape?_eq_some_iff.mp hescape)⟩ :: inside, by simp, rfl⟩
  | case8 x rest hquote _ hletter hend _ _ hread ih =>
    cases h
    obtain ⟨inside, rfl, rfl⟩ := ih hread
    have hslash : x ≠ '\\' := by
      intro hx
      cases hrest : inside.flatMap QuotedChar.chars ++ '"' :: after with
      | nil => exact hend hx hrest
      | cons letter behind => exact hletter letter behind hx hrest
    exact ⟨⟨x, _, .plain hquote hslash⟩ :: inside, by simp, rfl⟩

/-- A written character is read before whatever follows. -/
theorem readQuoted_append (q : QuotedChar) (rest : List Char) :
    readQuoted (q.chars ++ rest) = (readQuoted rest).map fun r => (q.char :: r.1, r.2) := by
  obtain ⟨x, cs, hspelled⟩ := q
  cases hspelled with
  | plain hquote hslash =>
    rw [List.singleton_append, readQuoted]
    · rcases readQuoted rest with _ | r <;> rfl
    all_goals simp [hquote, hslash]
  | @escape letter h =>
    have hread := simpleEscape?_eq_some_iff.mpr h
    have hu : letter ≠ 'u' := by
      rintro rfl
      cases hread
    rcases hrest : readQuoted rest with _ | r <;> simp [readQuoted, hrest, hread, hu]
  | code ha hb hc hd h =>
    have hread := codeChar?_eq_some_iff.mpr ⟨_, _, _, _, ha, hb, hc, hd, h⟩
    rcases hrest : readQuoted rest with _ | r <;> simp [readQuoted, hrest, hread]

theorem readQuoted_chars (inside : List QuotedChar) (rest : List Char) :
    readQuoted (inside.flatMap QuotedChar.chars ++ '"' :: rest) =
      some (inside.map QuotedChar.char, rest) := by
  induction inside with
  | nil => rfl
  | cons q inside ih =>
    rw [List.flatMap_cons, List.append_assoc, readQuoted_append, ih]
    rfl

namespace Cursor

variable {c d : Cursor}

theorem quotedText?_of_passes {inside : List QuotedChar}
    (h : c.Passes (LeafText.quoted inside).chars d) :
    c.quotedText? = some (String.ofList (inside.map QuotedChar.char), d) := by
  have hrest : c.rest = '"' :: (inside.flatMap QuotedChar.chars ++ '"' :: d.rest) := by
    rw [h.1, LeafText.chars]
    simp
  unfold quotedText?
  simp only [hrest, readQuoted_chars, Option.map_some, leaving_of_passes h]

theorem rawText?_of_passes {inside : List Char} {hraw : '\x60' ∉ inside}
    (h : c.Passes (LeafText.raw inside hraw).chars d) :
    c.rawText? = some (String.ofList inside, d) := by
  obtain ⟨opened, hopen, hrest⟩ := Passes.split_cons h
  obtain ⟨closing, hinside, hclose⟩ := hrest.split
  have huntil := until?_of_passes hinside hclose (noneInside_singleton.mpr hraw)
  simp only [rawText?, expect?_eq_some_iff.mpr hopen, huntil, expect?_eq_some_iff.mpr hclose,
    Option.bind_eq_bind, Option.bind_some]

end Cursor

/-! ### Paths -/

@[simp] theorem dottedChars_nil : dottedChars [] = [] := rfl

@[simp] theorem dottedChars_cons (i : Identifier) (names : List Identifier) :
    dottedChars (i :: names) = '.' :: (i.chars ++ dottedChars names) := rfl

/-- A path stops an identifier before it. -/
theorem stops_dottedChars (names : List Identifier) {rest : List Char}
    (h : Stops isIdentifierPart rest) : Stops isIdentifierPart (dottedChars names ++ rest) := by
  cases names with
  | nil => exact h
  | cons i names => exact (stops_cons _ _).mpr rfl

theorem exists_dotted (c : Cursor) :
    ∃ names : List Identifier, names.map Identifier.chars = (readDotted c).1 ∧
      c.Passes (dottedChars names) (readDotted c).2 := by
  fun_induction readDotted c with
  | case1 c hnone => exact ⟨[], rfl, .nil c⟩
  | case2 c name d hsome hlt names after hrec ih =>
    obtain ⟨names', hnames, hpasses⟩ := ih
    obtain ⟨e, hdot, hname⟩ := Option.bind_eq_some_iff.mp hsome
    obtain ⟨i, rfl, hi, -⟩ := identifier?_eq_some hname
    rw [hrec] at hnames hpasses
    exact ⟨i :: names', congrArg _ hnames, (expect?_eq_some_iff.mp hdot).append (hi.append hpasses)⟩
  | case3 c name d hsome hlt => exact ⟨[], rfl, .nil c⟩

theorem readDotted_of_passes {c d : Cursor} {names : List Identifier}
    (h : c.Passes (dottedChars names) d) (hstops : Stops isOperandPart d.rest) :
    readDotted c = (names.map Identifier.chars, d) := by
  induction names generalizing c with
  | nil =>
    rw [h.eq_of_nil] at hstops ⊢
    rw [readDotted, expect?_of_stops hstops.of_operandPart.2]
    rfl
  | cons i names ih =>
    obtain ⟨e, hdot, hrest⟩ := Passes.split_cons h
    obtain ⟨after, hname, hothers⟩ := hrest.split
    have hlength : after.rest.length < c.rest.length := by
      rw [hdot.length_rest, hname.length_rest, List.length_singleton]
      omega
    have hstop : Stops isIdentifierPart after.rest := by
      rw [hothers.1]
      exact stops_dottedChars names hstops.of_operandPart.1
    rw [readDotted, expect?_eq_some_iff.mpr hdot, Option.bind_some,
      identifier?_of_passes hname hstop]
    simp only [hlength, if_true, ih hothers, List.map_cons]

/-- A dot without a name behind it begins no path. -/
theorem readDotted_dot {c d : Cursor} (h : c.Passes ['.'] d)
    (hstops : Stops isIdentifierPart d.rest) : readDotted c = ([], c) := by
  have hstart : Stops isIdentifierStart d.rest := hstops.mono fun _ => isIdentifierPart_of_start
  rw [readDotted, expect?_eq_some_iff.mpr h, Option.bind_some, identifier?_eq_none hstart]

theorem exists_dollar {c d : Cursor} {name : List Char} (h : readDollar? c = some (name, d)) :
    ∃ name? : Option Identifier, dollarChars name? = name ∧ c.Passes (dollarChars name?) d := by
  unfold readDollar? at h
  split at h
  · cases h
  · next e hdollar =>
    rw [expect?_eq_some_iff] at hdollar
    split at h
    · next hname =>
      cases h
      obtain ⟨i, rfl, hi, -⟩ := identifier?_eq_some hname
      exact ⟨some i, rfl, hdollar.append hi⟩
    · cases h
      exact ⟨none, rfl, hdollar⟩

theorem readDollar?_of_passes {c d : Cursor} {name? : Option Identifier}
    (h : c.Passes (dollarChars name?) d) (hstops : Stops isIdentifierPart d.rest) :
    readDollar? c = some (dollarChars name?, d) := by
  unfold readDollar?
  cases name? with
  | none =>
    have hstart : Stops isIdentifierStart d.rest := hstops.mono fun _ => isIdentifierPart_of_start
    simp only [dollarChars] at h ⊢
    simp only [expect?_eq_some_iff.mpr h, identifier?_eq_none hstart]
  | some i =>
    obtain ⟨e, hdollar, hname⟩ := Passes.split_cons h
    simp only [expect?_eq_some_iff.mpr hdollar, identifier?_of_passes hname hstops, dollarChars]

/-! ### What is accepted was written -/

namespace LeafText

variable {c d : Cursor} {o : Operand}

theorem exists_of_readField? (h : readField? c = some (o, d)) :
    ∃ first others, c.Passes (field first others).chars d ∧ (field first others).operand = o := by
  obtain ⟨names, hnames, hpasses⟩ := exists_dotted c
  simp only [readField?, Option.map_eq_some_iff, FieldPath.ofSegments?, ← hnames,
    Prod.mk.injEq] at h
  obtain ⟨path, hpath, rfl, rfl⟩ := h
  split at hpath
  · cases hpath
  · next hne =>
    cases hpath
    cases names with
    | nil => exact absurd rfl hne
    | cons first others =>
      exact ⟨first, others, hpasses, by simp only [operand, List.map_map]; rfl⟩

theorem exists_of_readVariable? (h : readVariable? c = some (o, d)) :
    ∃ name? path, c.Passes (variableRef name? path).chars d ∧
      (variableRef name? path).operand = o := by
  unfold readVariable? at h
  split at h
  · cases h
  · next e hdollar =>
    cases h
    obtain ⟨name?, rfl, hname⟩ := exists_dollar hdollar
    obtain ⟨path, hpath, hpasses⟩ := exists_dotted e
    refine ⟨name?, path, hname.append hpasses, ?_⟩
    rw [operand, ← hpath, dottedChars, List.flatMap_map]

theorem exists_of_quotedText? {s : String} (h : c.quotedText? = some (s, d)) :
    ∃ inside, c.Passes (quoted inside).chars d ∧ (quoted inside).operand = .string s := by
  unfold quotedText? at h
  split at h
  · next rest hrest =>
    obtain ⟨⟨text, after⟩, hread, heq⟩ := Option.map_eq_some_iff.mp h
    obtain ⟨rfl, rfl⟩ := Prod.mk.inj heq
    obtain ⟨inside, rfl, rfl⟩ := exists_quoted hread
    refine ⟨inside, passes_leaving ?_, rfl⟩
    rw [hrest, chars]
    simp
  · cases h

theorem exists_of_rawText? {s : String} (h : c.rawText? = some (s, d)) :
    ∃ inside hraw, c.Passes (raw inside hraw).chars d ∧ (raw inside hraw).operand = .string s := by
  simp only [rawText?, Option.bind_eq_bind, Option.bind_eq_some_iff, Option.some.injEq,
    Prod.exists, Prod.mk.injEq, expect?_eq_some_iff] at h
  obtain ⟨opened, hopen, inside, closing, huntil, after, hclose, rfl, rfl⟩ := h
  obtain ⟨hinside, -, hnone⟩ := until?_eq_some_iff.mp huntil
  exact ⟨inside, noneInside_singleton.mp hnone, hopen.append (hinside.append hclose), rfl⟩

/-- **An operand with a mark of its own was written.** -/
theorem exists_of_readMarked? (h : readMarked? c = some (o, d)) :
    ∃ l : LeafText, c.Passes l.chars d ∧ l.operand = o ∧ l.keyword? = none := by
  unfold readMarked? at h
  split at h
  · next hfield =>
    cases h
    obtain ⟨first, others, hpasses, hsays⟩ := exists_of_readField? hfield
    exact ⟨_, hpasses, hsays, rfl⟩
  split at h
  · next hdot =>
    cases h
    simp only [readDot?, Option.map_eq_some_iff, Prod.mk.injEq, expect?_eq_some_iff] at hdot
    obtain ⟨_, hpasses, rfl, rfl⟩ := hdot
    exact ⟨.dot, hpasses, rfl, rfl⟩
  split at h
  · next hvariable =>
    cases h
    obtain ⟨name?, path, hpasses, hsays⟩ := exists_of_readVariable? hvariable
    exact ⟨_, hpasses, hsays, rfl⟩
  unfold readText? at h
  split at h
  · next hquoted =>
    cases h
    obtain ⟨inside, hpasses, hsays⟩ := exists_of_quotedText? hquoted
    exact ⟨_, hpasses, hsays, rfl⟩
  · obtain ⟨⟨text, after⟩, hread, heq⟩ := Option.map_eq_some_iff.mp h
    cases heq
    obtain ⟨inside, hraw, hpasses, hsays⟩ := exists_of_rawText? hread
    exact ⟨_, hpasses, hsays, rfl⟩

/-- **A word was written**, and where no keyword can be read it is none. -/
theorem exists_of_readWord? (h : readWord? c = some (o, d)) :
    ∃ l : LeafText, c.Passes l.chars d ∧ l.operand = o ∧
      (readKeyword? c = none → l.keyword? = none) := by
  simp only [readWord?, Option.map_eq_some_iff, Prod.exists, Prod.mk.injEq] at h
  obtain ⟨name, after, hname, rfl, rfl⟩ := h
  have hkeyword : readKeyword? c = none → Keyword.ofText? (String.ofList name) = none := by
    rw [readKeyword?, hname]
    exact Option.map_eq_none_iff.mp
  obtain ⟨i, rfl, hpasses, -⟩ := identifier?_eq_some hname
  -- The three words that are values of their own come before the names.
  rcases eq_or_ne i.text "true" with htrue | htrue
  · have hchars : i.chars = (bool true).chars := String.ofList_injective htrue
    exact ⟨.bool true, hchars ▸ hpasses, by rw [← Identifier.text, htrue]; rfl, fun _ => rfl⟩
  rcases eq_or_ne i.text "false" with hfalse | hfalse
  · have hchars : i.chars = (bool false).chars := String.ofList_injective hfalse
    exact ⟨.bool false, hchars ▸ hpasses, by rw [← Identifier.text, hfalse]; rfl, fun _ => rfl⟩
  rcases eq_or_ne i.text "nil" with hnil | hnil
  · have hchars : i.chars = nil.chars := String.ofList_injective hnil
    exact ⟨.nil, hchars ▸ hpasses, by rw [← Identifier.text, hnil]; rfl, fun _ => rfl⟩
  · refine ⟨.identifier i (by simp [htrue, hfalse, hnil]), hpasses, ?_, hkeyword⟩
    rw [← Identifier.text, wordOperand, if_neg htrue, if_neg hfalse, if_neg hnil, operand]

end LeafText

end Stencil
