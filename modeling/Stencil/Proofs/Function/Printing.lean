import Stencil.Proofs.Function.Safety
import Mathlib.Data.List.Basic
import Mathlib.Data.List.TakeWhile

/-!
# Printing by a format accounts for everything

What a format prints, said without printing it. A format is split in one way only into
pieces (`Stencil.formatPieces_eq_iff`): literal characters and directives, the last of
which the end of the format may cut off. Each piece is shown by a text of its own, and a
directive with a verb takes a value: the first one the first value, the second one the
second, and so on. Behind the pieces stand the values that no directive took.

So every character and every value has its place in the output
(`Stencil.printFormat_accounts`), and a text whose percent signs are doubled is printed
as it is. There is no output at all in one case, a precision out of reach.
-/

namespace Stencil

/-! ### One way to split a format -/

/-- How a directive is spelled that the end of the format cuts off: a percent sign, and
perhaps a point and digits. -/
inductive CutText : List Char → Prop
  | bare : CutText ['%']
  | point {digits : List Char} (h : ∀ d ∈ digits, d.isDigit = true) :
      CutText ('%' :: '.' :: digits)

/-- **A format is split into pieces**: they are spelled one behind the other, and the
last of them may be cut off. -/
inductive FormatSplit : List FormatPiece → List Char → Prop
  | whole {pieces : List FormatPiece} {text : List Char} (h : PiecesSpelledBy pieces text) :
      FormatSplit pieces text
  | cut {pieces : List FormatPiece} {text last : List Char} (h : PiecesSpelledBy pieces text)
      (hlast : CutText last) : FormatSplit (pieces ++ [.cut]) (text ++ last)

/-- A directive whose verb is missing is cut off. -/
theorem CutText.of_splitPrecision {cs : List Char} (h : (splitPrecision cs).2 = []) :
    CutText ('%' :: cs) := by
  unfold splitPrecision at h
  split at h
  · exact .point (List.dropWhile_eq_nil_iff.mp h)
  · obtain rfl : cs = [] := h
    exact .bare

theorem CutText.splitPrecision_eq {cs : List Char} (h : CutText ('%' :: cs)) :
    (splitPrecision cs).2 = [] := by
  cases h with
  | bare => rfl
  | point hdigits => exact List.dropWhile_eq_nil_iff.mpr hdigits

theorem formatPieces_of_cutText {cs : List Char} (h : CutText cs) : formatPieces cs = [.cut] := by
  obtain ⟨rest, rfl⟩ : ∃ rest, cs = '%' :: rest := by
    cases h <;> exact ⟨_, rfl⟩
  have hnone := h.splitPrecision_eq
  rw [formatPieces, if_pos rfl]
  split
  · rfl
  · next hsplit =>
    rw [hsplit] at hnone
    cases hnone

/-- Only a directive without a verb is cut off. -/
theorem cutText_of_formatPieces {cs : List Char} (h : formatPieces cs = [.cut]) : CutText cs := by
  cases cs with
  | nil => simp [formatPieces] at h
  | cons c cs =>
    rw [formatPieces] at h
    split at h
    · next hc =>
      subst hc
      split at h
      · next hsplit => exact .of_splitPrecision (by rw [hsplit])
      · next v _ hsplit =>
        by_cases hv : v = '%' <;> simp [hv] at h
    · simp at h

theorem FormatSplit.cons {piece : FormatPiece} {text : List Char} (hpiece : piece.SpelledBy text)
    {pieces : List FormatPiece} {rest : List Char} (h : FormatSplit pieces rest) :
    FormatSplit (piece :: pieces) (text ++ rest) := by
  cases h with
  | whole h => exact .whole (.cons hpiece h)
  | cut h hlast =>
    rw [← List.append_assoc]
    exact .cut (.cons hpiece h) hlast

/-- **The pieces of a format are the one way to split it.** -/
theorem formatPieces_eq_iff {cs : List Char} {pieces : List FormatPiece} :
    formatPieces cs = pieces ↔ FormatSplit pieces cs := by
  constructor
  · intro h
    induction pieces generalizing cs with
    | nil =>
      rcases formatPieces_cases cs with rfl | hcut | ⟨piece, text, rest, rfl, hpiece⟩
      · exact .whole .nil
      · simp [hcut] at h
      · simp [formatPieces_append hpiece] at h
    | cons first others ih =>
      rcases formatPieces_cases cs with rfl | hcut | ⟨piece, text, rest, rfl, hpiece⟩
      · simp [formatPieces] at h
      · rw [← h, hcut]
        exact .cut .nil (cutText_of_formatPieces hcut)
      · rw [formatPieces_append hpiece] at h
        obtain ⟨rfl, hothers⟩ := List.cons.inj h
        exact .cons hpiece (ih hothers)
  · rintro (h | ⟨h, hlast⟩)
    · have hnil : formatPieces [] = [] := by rw [formatPieces]
      simpa [hnil] using formatPieces_append_pieces h []
    · rw [formatPieces_append_pieces h, formatPieces_of_cutText hlast]

/-! ### What a piece is shown by -/

/-- **The text of a piece**, given the value that it finds. A directive with a verb shows
the value, or says that there is none; nothing else looks at it. -/
inductive FormatPiece.ShownBy : FormatPiece → Option Value → String → Prop
  | literal {c : Char} {value? : Option Value} :
      ShownBy (.literal c) value? (String.singleton c)
  | percent {value? : Option Value} : ShownBy .percent value? "%"
  | cut {value? : Option Value} : ShownBy .cut value? "%!(NOVERB)"
  | missing {precision : Option Nat} {verb : Char} :
      ShownBy (.verb precision verb) none ("%!" ++ String.singleton verb ++ "(MISSING)")
  | value {precision : Option Nat} {verb : Char} {v : Value} {text : String}
      (h : showVerb verb precision v = some text) :
      ShownBy (.verb precision verb) (some v) text

/-- **The text of the values that are left**, each once and in order, with its kind. -/
inductive LeftShownBy : List Value → String → Prop
  | none : LeftShownBy [] ""
  | some {values : List Value} (h : values ≠ []) : LeftShownBy values ("%!(EXTRA " ++
      ", ".intercalate (values.map fun v => v.kind.name ++ "=" ++ v.display) ++ ")")

theorem leftShownBy_iff {values : List Value} {text : String} :
    LeftShownBy values text ↔ text = showExtra values := by
  constructor
  · rintro (_ | h)
    · rfl
    · rw [showExtra, if_neg (by simpa using h)]
  · rintro rfl
    cases values with
    | nil => exact .none
    | cons v values => exact .some (by simp)

/-- The values that a piece leaves to the others. -/
def FormatPiece.leaves (piece : FormatPiece) (values : List Value) : List Value :=
  if piece.takesValue then values.tail else values

theorem printPieces_cons_eq_some_iff {piece : FormatPiece} {pieces : List FormatPiece}
    {values : List Value} {out : String} :
    printPieces (piece :: pieces) values = some out ↔
      ∃ text rest, piece.ShownBy values.head? text ∧
        printPieces pieces (piece.leaves values) = some rest ∧ out = text ++ rest := by
  constructor
  · intro h
    cases piece with
    | literal | percent | cut =>
      obtain ⟨rest, hrest, rfl⟩ := Option.map_eq_some_iff.mp h
      exact ⟨_, rest, by constructor, hrest, rfl⟩
    | verb precision verb =>
      cases values with
      | nil =>
        obtain ⟨rest, hrest, rfl⟩ := Option.map_eq_some_iff.mp h
        exact ⟨_, rest, .missing, hrest, rfl⟩
      | cons v values =>
        rw [printPieces] at h
        split at h
        · cases h
        · next shown hshown =>
          obtain ⟨rest, hrest, rfl⟩ := Option.map_eq_some_iff.mp h
          exact ⟨shown, rest, .value hshown, hrest, rfl⟩
  · rintro ⟨text, rest, hshown, hrest, rfl⟩
    cases piece with
    | literal | percent | cut =>
      cases hshown
      exact congrArg (Option.map _) hrest
    | verb precision verb =>
      cases values with
      | nil =>
        cases hshown
        exact congrArg (Option.map _) hrest
      | cons v values =>
        cases hshown with
        | value h =>
          rw [printPieces, h]
          exact congrArg (Option.map _) hrest

/-! ### Every piece and every value in its place -/

/-- How many values the pieces before a place take. -/
def takenBefore (pieces : List FormatPiece) (i : Nat) : Nat :=
  (pieces.take i).countP FormatPiece.takesValue

@[simp] theorem takenBefore_zero (pieces : List FormatPiece) : takenBefore pieces 0 = 0 := rfl

theorem getElem?_takenBefore_cons (piece : FormatPiece) (pieces : List FormatPiece) (i : Nat)
    (values : List Value) :
    values[takenBefore (piece :: pieces) (i + 1)]? =
      (piece.leaves values)[takenBefore pieces i]? := by
  by_cases h : piece.takesValue <;> simp [takenBefore, FormatPiece.leaves, h]

theorem drop_countP_leaves (piece : FormatPiece) (pieces : List FormatPiece)
    (values : List Value) :
    (piece.leaves values).drop (pieces.countP FormatPiece.takesValue) =
      values.drop ((piece :: pieces).countP FormatPiece.takesValue) := by
  by_cases h : piece.takesValue <;> simp [FormatPiece.leaves, h]

/-- **What pieces print**: each piece its own text, where a directive with a verb shows
the value whose turn it is, and behind them all the values that are left. -/
def PrintsAs (pieces : List FormatPiece) (values : List Value) (out : String) : Prop :=
  ∃ texts extra, texts.length = pieces.length ∧
    (∀ (i : Nat) (piece : FormatPiece) (text : String), pieces[i]? = some piece →
      texts[i]? = some text → piece.ShownBy values[takenBefore pieces i]? text) ∧
    LeftShownBy (values.drop (pieces.countP FormatPiece.takesValue)) extra ∧
    out = String.join texts ++ extra

theorem printsAs_nil_iff {values : List Value} {out : String} :
    PrintsAs [] values out ↔ LeftShownBy values out := by
  constructor
  · rintro ⟨texts, extra, hlength, -, hextra, rfl⟩
    obtain rfl := List.length_eq_zero_iff.mp hlength
    simpa using hextra
  · intro h
    exact ⟨[], out, rfl, by simp, h, by simp⟩

theorem printsAs_cons_iff {piece : FormatPiece} {pieces : List FormatPiece}
    {values : List Value} {out : String} :
    PrintsAs (piece :: pieces) values out ↔
      ∃ text rest, piece.ShownBy values.head? text ∧
        PrintsAs pieces (piece.leaves values) rest ∧ out = text ++ rest := by
  constructor
  · rintro ⟨_ | ⟨text, texts⟩, extra, hlength, hshown, hextra, rfl⟩
    · cases hlength
    · refine ⟨text, String.join texts ++ extra, ?_, ⟨texts, extra, ?_, ?_, ?_, rfl⟩, ?_⟩
      · simpa [← List.head?_eq_getElem?] using hshown 0 piece text rfl rfl
      · simpa using hlength
      · intro i piece' text' hpiece htext
        rw [← getElem?_takenBefore_cons]
        exact hshown (i + 1) piece' text' hpiece htext
      · rwa [drop_countP_leaves]
      · rw [String.join_cons, String.append_assoc]
  · rintro ⟨text, _, hfirst, ⟨texts, extra, hlength, hshown, hextra, rfl⟩, rfl⟩
    refine ⟨text :: texts, extra, by simpa using hlength, ?_, ?_, ?_⟩
    · rintro (_ | i) piece' text' hpiece htext
      · cases hpiece
        cases htext
        rwa [takenBefore_zero, ← List.head?_eq_getElem?]
      · rw [getElem?_takenBefore_cons]
        exact hshown i piece' text' hpiece htext
    · rwa [← drop_countP_leaves]
    · rw [String.join_cons, String.append_assoc]

/-- **Printing puts every piece and every value in its place.** -/
theorem printPieces_eq_some_iff {pieces : List FormatPiece} {values : List Value}
    {out : String} : printPieces pieces values = some out ↔ PrintsAs pieces values out := by
  induction pieces generalizing values out with
  | nil =>
    rw [printsAs_nil_iff, leftShownBy_iff, printPieces, Option.some.injEq, eq_comm]
  | cons piece pieces ih =>
    simp only [printPieces_cons_eq_some_iff, printsAs_cons_iff, ih]

/-! ### Each value once -/

/-- A directive takes the value of a place: it takes one, and those before it have taken
as many as there are values before it. -/
def Takes (pieces : List FormatPiece) (i j : Nat) : Prop :=
  (∃ piece, pieces[i]? = some piece ∧ piece.takesValue = true) ∧ takenBefore pieces i = j

theorem takes_iff {pieces : List FormatPiece} {i j : Nat} :
    Takes pieces i j ↔
      j < pieces.countP FormatPiece.takesValue ∧
        i = pieces.findIdxNth FormatPiece.takesValue j := by
  rw [Takes, takenBefore, ← List.countPBefore_eq_countP_take]
  constructor
  · rintro ⟨⟨piece, hpiece, htakes⟩, rfl⟩
    obtain ⟨hlt, rfl⟩ := List.getElem?_eq_some_iff.mp hpiece
    exact ⟨List.countPBefore_lt_countP_of_lt_length_of_pos htakes,
      (List.findIdxNth_countPBefore_of_lt_length_of_pos htakes).symm⟩
  · rintro ⟨hlt, rfl⟩
    have hlength := List.findIdxNth_lt_length_of_lt_countP hlt
    exact ⟨⟨_, List.getElem?_eq_getElem hlength, List.pos_findIdxNth_getElem⟩,
      List.countPBefore_findIdxNth_of_lt_countP hlt⟩

/-- **A value goes to one place**: a directive takes it and no other does, or it is among
those that are left and no directive takes it. -/
theorem takes_once (pieces : List FormatPiece) (j : Nat) :
    (j < pieces.countP FormatPiece.takesValue ∧ ∃! i, Takes pieces i j) ∨
      (pieces.countP FormatPiece.takesValue ≤ j ∧ ∀ i, ¬Takes pieces i j) := by
  simp only [takes_iff]
  rcases Nat.lt_or_ge j (pieces.countP FormatPiece.takesValue) with hlt | hge
  · exact .inl ⟨hlt, _, ⟨hlt, rfl⟩, fun i h => h.2⟩
  · exact .inr ⟨hge, fun i h => absurd h.1 (by omega)⟩

/-! ### Percent signs doubled -/

/-- A text with every percent sign written twice. -/
def doublePercents (s : String) : String :=
  String.ofList (s.toList.flatMap fun c => if c = '%' then ['%', '%'] else [c])

/-- The piece that prints a character. -/
def FormatPiece.ofChar (c : Char) : FormatPiece := if c = '%' then .percent else .literal c

theorem FormatPiece.ofChar_spelledBy (c : Char) :
    (ofChar c).SpelledBy (if c = '%' then ['%', '%'] else [c]) := by
  by_cases h : c = '%'
  · rw [ofChar, if_pos h, if_pos h]
    exact .percent (.absent (by decide))
  · rw [ofChar, if_neg h, if_neg h]
    exact .literal h

theorem piecesSpelledBy_doubled (cs : List Char) :
    PiecesSpelledBy (cs.map FormatPiece.ofChar)
      (cs.flatMap fun c => if c = '%' then ['%', '%'] else [c]) := by
  induction cs with
  | nil => exact .nil
  | cons c cs ih => exact .cons (FormatPiece.ofChar_spelledBy c) ih

theorem printPieces_map_ofChar (cs : List Char) :
    printPieces (cs.map FormatPiece.ofChar) [] = some (String.ofList cs) := by
  induction cs with
  | nil => rfl
  | cons c cs ih =>
    have hcons : String.ofList (c :: cs) = String.singleton c ++ String.ofList cs := by
      rw [String.singleton_eq_ofList, ← String.ofList_append, List.singleton_append]
    by_cases h : c = '%'
    · subst h
      rw [List.map_cons, FormatPiece.ofChar, if_pos rfl, printPieces, ih, hcons]
      rfl
    · rw [List.map_cons, FormatPiece.ofChar, if_neg h, printPieces, ih, hcons]
      rfl

/-- **A text whose percent signs are doubled is printed as it is.** -/
theorem printFormat_doublePercents (s : String) : printFormat (doublePercents s) [] = some s := by
  have hsplit : FormatSplit (s.toList.map FormatPiece.ofChar) (doublePercents s).toList := by
    rw [doublePercents, String.toList_ofList]
    exact .whole (piecesSpelledBy_doubled s.toList)
  rw [printFormat, formatPieces_eq_iff.mpr hsplit, printPieces_map_ofChar, String.ofList_toList]

/-! ### The whole output -/

/-- A call of `printf` prints its values by its format. -/
theorem Registry.call_printf_eq_ok_iff {format out : String} {values : List Value} :
    (builtins.call "printf" (.string format :: values)).value = .ok (.string out) ↔
      printFormat format values = some out := by
  obtain ⟨e, hget, hparameters, hvariadic, hrun⟩ : ∃ e, builtins.get? "printf" = some e ∧
      e.parameters = [.string, .any] ∧ e.variadic = true ∧
      ((builtins.run e (.string format :: values)).value = .ok (.string out) ↔
        printFormat format values = some out) := by
    refine ⟨_, rfl, rfl, rfl, ?_⟩
    simp only [run, Entry.plain, Logged.quiet]
    cases printFormat format values <;> simp
  have htakes : e.takes (Value.string format :: values).length = true := by
    simp [Entry.takes, Entry.expected, Entry.arity, hparameters, hvariadic]
  have hcoerce : e.coerce (.string format :: values) = .ok (.string format :: values) :=
    Entry.coerce_format_cons hparameters _ _
  rw [call, hget]
  simp only [htakes, if_true, hcoerce, hrun]

/-- **Printing by a format accounts for every character and every value.** A format is
split in one way into pieces. Each prints its text, a directive with a verb that of the
value whose turn it is, and behind them stand the values that are left, so that every
value goes to one place. There is an output unless the format reaches too far, and it is
what `printf` gives. A text whose percent signs are doubled gives the text. -/
theorem printFormat_accounts (format : String) (values : List Value) :
    (∃ pieces, (∀ others, FormatSplit others format.toList ↔ others = pieces) ∧
      (∀ out, printFormat format values = some out ↔ PrintsAs pieces values out) ∧
      ∀ j < values.length,
        (j < pieces.countP FormatPiece.takesValue ∧ ∃! i, Takes pieces i j) ∨
          (pieces.countP FormatPiece.takesValue ≤ j ∧ ∀ i, ¬Takes pieces i j)) ∧
    ((∃ out, printFormat format values = some out) ↔ ¬Overreaches format.toList values) ∧
    (∀ out, (Registry.builtins.call "printf" (.string format :: values)).value =
      .ok (.string out) ↔ printFormat format values = some out) ∧
    ∀ s, printFormat (doublePercents s) [] = some s := by
  refine ⟨⟨formatPieces format.toList, fun others => ?_, fun out => printPieces_eq_some_iff,
    fun j _ => takes_once _ j⟩, ?_, fun out => Registry.call_printf_eq_ok_iff,
    printFormat_doublePercents⟩
  · rw [← formatPieces_eq_iff, eq_comm]
  · rw [← printFormat_eq_none_iff, ← Option.isSome_iff_exists, Option.isSome_iff_ne_none]

/-- With a precision out of reach nothing is printed, although not-a-number has a name and
no places. -/
theorem printFormat_wide_precision : printFormat "%.65536f" [.number .nan] = none := by
  refine printFormat_eq_none_iff.mpr ⟨[], [], ['6', '5', '5', '3', '6'], [], .nan, rfl, .nil,
    ?_, by decide, by decide, rfl⟩
  exact List.all_eq_true.mp rfl

end Stencil
