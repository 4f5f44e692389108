import Stencil.Function.Print
import Stencil.Number.Decimal
import Stencil.Proofs.Text.Runs

/-!
# The pieces of a format

A format is a text in which every piece is spelled behind the other. A piece ends where
its own spelling says, whatever comes behind it, so that the pieces of a format can be
read off its front (`Stencil.formatPieces_append`), and each piece that is found stands
in the format with the pieces before it (`Stencil.exists_spelled_of_formatPieces`).

Printing by a format comes to nothing in one case only, which
`Stencil.printFormat_eq_none_iff` states on the characters of the format: a directive
`%.Nf` with a precision out of reach takes a number.
-/

namespace Stencil

/-! ### Spelling -/

/-- How a precision is spelled in front of a verb: not at all, or by a point and all
digits up to the verb. -/
inductive PrecisionText : Option Nat → List Char → Char → Prop
  | absent {verb : Char} (hverb : verb ≠ '.') : PrecisionText none [] verb
  | digits {digits : List Char} {verb : Char} (hdigits : ∀ d ∈ digits, d.isDigit = true)
      (hverb : verb.isDigit = false) :
      PrecisionText (some (precisionOf digits)) ('.' :: digits) verb

/-- How a piece is spelled that the end of the format does not cut off. -/
inductive FormatPiece.SpelledBy : FormatPiece → List Char → Prop
  | literal {c : Char} (hc : c ≠ '%') : SpelledBy (.literal c) [c]
  | percent {precision : Option Nat} {text : List Char} (h : PrecisionText precision text '%') :
      SpelledBy .percent ('%' :: (text ++ ['%']))
  | verb {precision : Option Nat} {text : List Char} {verb : Char}
      (h : PrecisionText precision text verb) (hverb : verb ≠ '%') :
      SpelledBy (.verb precision verb) ('%' :: (text ++ [verb]))

/-- Pieces spelled one behind the other. -/
inductive PiecesSpelledBy : List FormatPiece → List Char → Prop
  | nil : PiecesSpelledBy [] []
  | cons {piece : FormatPiece} {pieces : List FormatPiece} {text texts : List Char}
      (h : piece.SpelledBy text) (hothers : PiecesSpelledBy pieces texts) :
      PiecesSpelledBy (piece :: pieces) (text ++ texts)

/-! ### Finding the pieces -/

theorem splitPrecision_append {precision : Option Nat} {text : List Char} {verb : Char}
    (h : PrecisionText precision text verb) (rest : List Char) :
    splitPrecision (text ++ verb :: rest) = (precision, verb :: rest) := by
  cases h with
  | absent hverb =>
    rw [List.nil_append, splitPrecision]
    rintro cs heq
    exact hverb (List.cons.inj heq).1
  | digits hdigits hverb =>
    have hstops : Stops Char.isDigit (verb :: rest) := (stops_cons verb rest).mpr hverb
    rw [List.cons_append, splitPrecision, takeWhile_append_stops hdigits hstops,
      dropWhile_append_stops hdigits hstops]

/-- A directive begins with its precision, if it is not cut off. -/
theorem exists_precisionText {cs rest : List Char} {precision : Option Nat} {verb : Char}
    (h : splitPrecision cs = (precision, verb :: rest)) :
    ∃ text, cs = text ++ verb :: rest ∧ PrecisionText precision text verb := by
  unfold splitPrecision at h
  split at h
  · next ds =>
    obtain ⟨rfl, hrest⟩ := Prod.mk.inj h
    have hstops := stops_dropWhile Char.isDigit ds
    rw [hrest, stops_cons] at hstops
    refine ⟨'.' :: ds.takeWhile Char.isDigit, ?_, .digits (fun d => ?_) hstops⟩
    · rw [List.cons_append, ← hrest, List.takeWhile_append_dropWhile]
    · exact List.all_eq_true.mp List.all_takeWhile d
  · next hpoint =>
    obtain ⟨rfl, rfl⟩ := Prod.mk.inj h
    exact ⟨[], rfl, .absent fun hverb => hpoint rest (by rw [hverb])⟩

/-- **A piece is found at the front of a format.** -/
theorem formatPieces_append {piece : FormatPiece} {text : List Char} (h : piece.SpelledBy text)
    (rest : List Char) : formatPieces (text ++ rest) = piece :: formatPieces rest := by
  cases h with
  | literal hc => simp [formatPieces, hc]
  | percent h =>
    rw [List.cons_append, List.append_assoc, List.singleton_append, formatPieces, if_pos rfl]
    split
    · next hsplit =>
      rw [splitPrecision_append h] at hsplit
      cases hsplit
    · next hsplit =>
      rw [splitPrecision_append h] at hsplit
      cases hsplit
      rfl
  | verb h hverb =>
    rw [List.cons_append, List.append_assoc, List.singleton_append, formatPieces, if_pos rfl]
    split
    · next hsplit =>
      rw [splitPrecision_append h] at hsplit
      cases hsplit
    · next hsplit =>
      rw [splitPrecision_append h] at hsplit
      cases hsplit
      rw [if_neg hverb]

theorem formatPieces_append_pieces {pieces : List FormatPiece} {texts : List Char}
    (h : PiecesSpelledBy pieces texts) (rest : List Char) :
    formatPieces (texts ++ rest) = pieces ++ formatPieces rest := by
  induction h with
  | nil => rfl
  | cons h _ ih => rw [List.append_assoc, formatPieces_append h, ih, List.cons_append]

/-- A format is empty, is cut off at once, or begins with a piece. -/
theorem formatPieces_cases (cs : List Char) :
    cs = [] ∨ formatPieces cs = [.cut] ∨
      ∃ piece text rest, cs = text ++ rest ∧ FormatPiece.SpelledBy piece text := by
  cases cs with
  | nil => exact .inl rfl
  | cons c cs =>
    refine .inr ?_
    by_cases hc : c = '%'
    · subst hc
      rcases hsplit : splitPrecision cs with ⟨precision, _ | ⟨verb, rest⟩⟩
      · left
        rw [formatPieces, if_pos rfl]
        split
        · rfl
        · next hsplit' =>
          rw [hsplit] at hsplit'
          cases hsplit'
      · obtain ⟨text, rfl, htext⟩ := exists_precisionText hsplit
        have hcons : '%' :: (text ++ verb :: rest) = '%' :: (text ++ [verb]) ++ rest := by simp
        by_cases hverb : verb = '%'
        · subst hverb
          exact .inr ⟨_, _, rest, hcons, .percent htext⟩
        · exact .inr ⟨_, _, rest, hcons, .verb htext hverb⟩
    · exact .inr ⟨_, [c], cs, rfl, .literal hc⟩

/-- **A piece that is found stands in the format**, behind those found before it. -/
theorem exists_spelled_of_formatPieces {cs : List Char} {before after : List FormatPiece}
    {piece : FormatPiece} (h : formatPieces cs = before ++ piece :: after)
    (hpiece : piece ≠ .cut) :
    ∃ done text rest, cs = done ++ (text ++ rest) ∧ PiecesSpelledBy before done ∧
      piece.SpelledBy text := by
  induction before generalizing cs with
  | nil =>
    rcases formatPieces_cases cs with rfl | hcut | ⟨found, text, rest, rfl, htext⟩
    · simp [formatPieces] at h
    · rw [hcut] at h
      exact absurd (List.cons.inj h).1.symm hpiece
    · rw [formatPieces_append htext] at h
      obtain rfl : found = piece := (List.cons.inj h).1
      exact ⟨[], text, rest, rfl, .nil, htext⟩
  | cons first others ih =>
    rcases formatPieces_cases cs with rfl | hcut | ⟨found, text, rest, rfl, htext⟩
    · simp [formatPieces] at h
    · simp [hcut] at h
    · rw [formatPieces_append htext] at h
      obtain ⟨rfl, hothers⟩ := List.cons.inj h
      obtain ⟨done, text', rest', rfl, hdone, htext'⟩ := ih hothers
      exact ⟨text ++ done, text', rest', by rw [List.append_assoc], .cons htext hdone, htext'⟩

/-! ### Precisions out of reach -/

/-- Whether a piece takes a value. -/
def FormatPiece.takesValue : FormatPiece → Bool
  | verb .. => true
  | _ => false

/-- **A format reaches too far**: behind whole pieces it has a directive `%.Nf` where `N`
fits a machine word and is larger than the largest precision, and the value that the
directive takes is a number. -/
def Overreaches (format : List Char) (values : List Value) : Prop :=
  ∃ pieces done digits rest n, format = done ++ ('%' :: ('.' :: digits ++ ['f']) ++ rest) ∧
    PiecesSpelledBy pieces done ∧ (∀ d ∈ digits, d.isDigit = true) ∧
    Decimal.ofDigits digits < UInt64.size ∧ maxPrecision < Decimal.ofDigits digits ∧
    values[pieces.countP FormatPiece.takesValue]? = some (.number n)

/-- A piece reaches too far: it is a directive with a precision out of reach, and the
value that it takes is a number. -/
def PiecesOverreach (pieces : List FormatPiece) (values : List Value) : Prop :=
  ∃ before precision after n, pieces = before ++ .verb precision 'f' :: after ∧
    maxPrecision < precision.getD 6 ∧
    values[before.countP FormatPiece.takesValue]? = some (.number n)

theorem not_piecesOverreach_nil (values : List Value) : ¬PiecesOverreach [] values := by
  rintro ⟨before, precision, after, n, hpieces, -⟩
  simp at hpieces

/-- A piece that takes no value leaves all values to the others. -/
theorem piecesOverreach_cons {piece : FormatPiece} (hpiece : piece.takesValue = false)
    (rest : List FormatPiece) (values : List Value) :
    PiecesOverreach (piece :: rest) values ↔ PiecesOverreach rest values := by
  constructor
  · rintro ⟨_ | ⟨first, before⟩, precision, after, n, hpieces, hprecision, hvalue⟩
    · rw [(List.cons.inj hpieces).1] at hpiece
      cases hpiece
    · obtain ⟨rfl, hothers⟩ := List.cons.inj hpieces
      rw [List.countP_cons_of_neg (by simp [hpiece])] at hvalue
      exact ⟨before, precision, after, n, hothers, hprecision, hvalue⟩
  · rintro ⟨before, precision, after, n, rfl, hprecision, hvalue⟩
    refine ⟨piece :: before, precision, after, n, rfl, hprecision, ?_⟩
    rwa [List.countP_cons_of_neg (by simp [hpiece])]

/-- A directive takes the first value, and leaves the others to the other pieces. -/
theorem piecesOverreach_verb_cons (precision : Option Nat) (verb : Char)
    (rest : List FormatPiece) (values : List Value) :
    PiecesOverreach (.verb precision verb :: rest) values ↔
      (verb = 'f' ∧ maxPrecision < precision.getD 6 ∧ ∃ n, values.head? = some (.number n)) ∨
        PiecesOverreach rest values.tail := by
  have htail (k : Nat) : values[k + 1]? = values.tail[k]? := by rw [List.getElem?_tail]
  constructor
  · rintro ⟨_ | ⟨first, before⟩, precision', after, n, hpieces, hprecision, hvalue⟩
    · obtain ⟨hverb, -⟩ := List.cons.inj hpieces
      cases hverb
      rw [List.countP_nil, ← List.head?_eq_getElem?] at hvalue
      exact .inl ⟨rfl, hprecision, n, hvalue⟩
    · obtain ⟨rfl, hothers⟩ := List.cons.inj hpieces
      rw [List.countP_cons_of_pos rfl, htail] at hvalue
      exact .inr ⟨before, precision', after, n, hothers, hprecision, hvalue⟩
  · rintro (⟨rfl, hprecision, n, hvalue⟩ | ⟨before, precision', after, n, rfl, hprecision, hvalue⟩)
    · refine ⟨[], precision, rest, n, rfl, hprecision, ?_⟩
      rwa [List.countP_nil, ← List.head?_eq_getElem?]
    · refine ⟨.verb precision verb :: before, precision', after, n, rfl, hprecision, ?_⟩
      rwa [List.countP_cons_of_pos rfl, htail]

theorem showVerb_eq_none_iff (verb : Char) (precision : Option Nat) (v : Value) :
    showVerb verb precision v = none ↔
      verb = 'f' ∧ maxPrecision < precision.getD 6 ∧ ∃ n, v = .number n := by
  constructor
  · intro h
    unfold showVerb at h
    split at h
    case h_5 => split at h <;> cases h
    case h_6 n =>
      dsimp only at h
      split at h
      · next hprecision => exact ⟨rfl, hprecision, n, rfl⟩
      · cases h
    all_goals cases h
  · rintro ⟨rfl, hprecision, n, rfl⟩
    exact if_pos hprecision

/-- Printing pieces comes to nothing if one of them reaches too far. -/
theorem printPieces_eq_none_iff {pieces : List FormatPiece} {values : List Value} :
    printPieces pieces values = none ↔ PiecesOverreach pieces values := by
  induction pieces generalizing values with
  | nil => simp [printPieces, not_piecesOverreach_nil]
  | cons piece rest ih =>
    cases piece with
    | literal c =>
      rw [piecesOverreach_cons rfl, ← ih]
      simp [printPieces]
    | percent =>
      rw [piecesOverreach_cons rfl, ← ih]
      simp [printPieces]
    | cut =>
      rw [piecesOverreach_cons rfl, ← ih]
      simp [printPieces]
    | verb precision verb =>
      rw [piecesOverreach_verb_cons]
      cases values with
      | nil => simp [printPieces, ih]
      | cons v values =>
        have hshow := showVerb_eq_none_iff verb precision v
        rw [List.head?_cons, List.tail_cons, ← ih]
        simp only [Option.some.injEq, ← hshow, printPieces]
        cases showVerb verb precision v <;> simp

/-- **Printing by a format comes to nothing if the format reaches too far.** -/
theorem printFormat_eq_none_iff {format : String} {values : List Value} :
    printFormat format values = none ↔ Overreaches format.toList values := by
  rw [printFormat, printPieces_eq_none_iff]
  constructor
  · rintro ⟨before, precision, after, n, hpieces, hprecision, hvalue⟩
    obtain ⟨done, text, rest, hformat, hdone, htext⟩ :=
      exists_spelled_of_formatPieces hpieces (by simp)
    cases htext with
    | verb h _ =>
      cases h with
      | absent => exact absurd hprecision (by decide)
      | @digits digits _ hdigits _ =>
        -- The precision is the number that was written, or zero if that is no machine word.
        have hword : Decimal.ofDigits digits < UInt64.size ∧
            precisionOf digits = Decimal.ofDigits digits := by
          by_cases hlt : Decimal.ofDigits digits < UInt64.size
          · exact ⟨hlt, if_pos hlt⟩
          · rw [Option.getD_some, show precisionOf digits = 0 from if_neg hlt] at hprecision
            exact absurd hprecision (by decide)
        rw [Option.getD_some, hword.2] at hprecision
        exact ⟨before, done, digits, rest, n, hformat, hdone, hdigits, hword.1, hprecision, hvalue⟩
  · rintro ⟨pieces, done, digits, rest, n, hformat, hdone, hdigits, hword, hprecision, hvalue⟩
    have hpiece : FormatPiece.SpelledBy (.verb (some (precisionOf digits)) 'f')
        ('%' :: ('.' :: digits ++ ['f'])) := .verb (.digits hdigits rfl) (by decide)
    refine ⟨pieces, some (precisionOf digits), formatPieces rest, n, ?_, ?_, hvalue⟩
    · rw [hformat, formatPieces_append_pieces hdone, formatPieces_append hpiece]
    · rwa [Option.getD_some, show precisionOf digits = Decimal.ofDigits digits from if_pos hword]

end Stencil
