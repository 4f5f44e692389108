import Stencil.Proofs.Source.Shape

/-!
# The choice of an operand

An operand is read by ordered choice, and its first characters decide. Where none of
the characters stands that can begin an operand, nothing is read and nothing is broken
(`Stencil.readChoice_absent`); where a leaf was written, the alternatives before it
find nothing and its own reader takes it (`Stencil.readChoice_leaf`).
-/

namespace Stencil

open Cursor

variable {c d : Cursor}

/-! ### Where no operand begins -/

theorem readDotted_eq_nil (h : Stops (· == '.') c.rest) : readDotted c = ([], c) := by
  rw [readDotted, expect?_of_stops h]
  rfl

theorem readDollar?_eq_none (h : Stops (· == '$') c.rest) : readDollar? c = none := by
  rw [readDollar?, expect?_of_stops h]

theorem quotedText?_eq_none (h : Stops (· == '"') c.rest) : c.quotedText? = none := by
  unfold quotedText?
  split
  · next hrest =>
    rw [hrest, stops_cons] at h
    cases h
  · rfl

/-- An operand with a mark of its own needs the mark. -/
theorem readMarked?_eq_none (h : Stops isMark c.rest) : readMarked? c = none := by
  have hmark {x : Char} (hx : isMark x = true) : Stops (· == x) c.rest :=
    h.mono fun y hy => by rwa [eq_of_beq hy]
  have hfield : readField? c = none := by
    rw [readField?, readDotted_eq_nil (hmark (by decide))]
    rfl
  have hdot : readDot? c = none := by
    rw [readDot?, expect?_of_stops (hmark (by decide))]
    rfl
  have hvariable : readVariable? c = none := by
    rw [readVariable?, readDollar?_eq_none (hmark (by decide))]
  have hquoted : c.quotedText? = none := quotedText?_eq_none (hmark (by decide))
  have hraw : c.rawText? = none := by
    rw [rawText?, expect?_of_stops (hmark (by decide))]
    rfl
  simp only [readMarked?, hfield, hdot, hvariable, readText?, hquoted, hraw, Option.map_none]

theorem numeral_eq_absent (h : Stops isNumeralStart c.rest) : c.numeral = .absent := by
  unfold numeral
  split
  · rfl
  · next hrest =>
    rw [hrest, stops_cons] at h
    rw [h]
    rfl

theorem readParenthesized_eq_absent (pipeline : Cursor → Reading (Pipeline Operand))
    (h : Stops (· == '(') c.rest) : readParenthesized pipeline c = .error (.absent c) := by
  rw [readParenthesized, expect?_of_stops h]

theorem readWord?_eq_none (h : Stops isIdentifierStart c.rest) : readWord? c = none := by
  rw [readWord?, identifier?_eq_none h]
  rfl

/-- **No operand is read where none can begin.** -/
theorem readChoice_absent (pipeline : Cursor → Reading (Pipeline Operand))
    (h : Stops isOperandStart c.rest) : readChoice pipeline c = .error (.absent c) := by
  have hmarked := readMarked?_eq_none (h.mono fun x hx => by simp [isOperandStart, hx])
  have hnumeral := numeral_eq_absent (h.mono fun x hx => by simp [isOperandStart, hx])
  have hopen := readParenthesized_eq_absent pipeline
    (h.mono fun x hx => by simp_all [isOperandStart])
  have hword := readWord?_eq_none (h.mono fun x hx => by simp [isOperandStart, hx])
  simp only [readChoice, hmarked, hnumeral, hopen, hword]

/-- A minus sign without a digit behind it begins no operand. -/
theorem readChoice_minus (pipeline : Cursor → Reading (Pipeline Operand))
    (h : c.Passes ['-', '\x7d'] d) : readChoice pipeline c = .error (.absent c) := by
  have hrest : c.rest = '-' :: '\x7d' :: d.rest := h.1
  -- The sign is taken for that of a numeral, but then the digits are missing.
  have hnumeral : c.numeral = .absent := by
    unfold numeral
    simp only [hrest]
    rfl
  simp only [readChoice, readMarked?_eq_none (h.stops (by decide)), hnumeral,
    readParenthesized_eq_absent pipeline (h.stops (by decide)),
    readWord?_eq_none (h.stops (by decide))]

/-! ### Leaves -/

/-- The leaves that are written as words. -/
def LeafText.word? : LeafText → Option Identifier
  | bool true => some ⟨'t', ['r', 'u', 'e'], by decide, List.all_eq_true.mp rfl⟩
  | bool false => some ⟨'f', ['a', 'l', 's', 'e'], by decide, List.all_eq_true.mp rfl⟩
  | nil => some ⟨'n', ['i', 'l'], by decide, List.all_eq_true.mp rfl⟩
  | identifier name _ => some name
  | _ => none

theorem LeafText.eq_of_word? {l : LeafText} {i : Identifier} (h : l.word? = some i) :
    l.chars = i.chars ∧ wordOperand i.text = l.operand ∧ Keyword.ofText? i.text = l.keyword? := by
  unfold word? at h
  split at h
  · cases h
    exact ⟨rfl, rfl, by decide⟩
  · cases h
    exact ⟨rfl, rfl, by decide⟩
  · cases h
    exact ⟨rfl, rfl, by decide⟩
  · next name hname =>
    cases h
    simp only [List.mem_cons, List.not_mem_nil, or_false, not_or] at hname
    refine ⟨rfl, ?_, rfl⟩
    rw [wordOperand, if_neg hname.1, if_neg hname.2.1, if_neg hname.2.2, operand]
  · cases h

/-- No letter begins a numeral. -/
theorem isNumeralStart_eq_false_of_start {x : Char} (h : isIdentifierStart x = true) :
    isNumeralStart x = false := by
  have hsign : isSignChar x = false := by
    cases hsign : isSignChar x with
    | false => rfl
    | true =>
      simp only [isSignChar, Bool.or_eq_true, beq_iff_eq] at hsign
      rcases hsign with rfl | rfl <;> cases h
  rw [isSignChar] at hsign
  rw [isNumeralStart, hsign, isDigit_eq_false_of_start h]
  rfl

/-- A character of a class without marks is no mark. -/
theorem isMark_eq_false {p : Char → Bool} (hp : ['.', '$', '"', '\x60'].any p = false)
    {x : Char} (h : p x = true) : isMark x = false := by
  rw [← Bool.not_eq_true]
  intro hmark
  exact List.any_eq_false.mp hp x (by simpa [isMark, or_assoc] using hmark) h

/-- A leaf that is no word begins with no letter. -/
theorem LeafText.stops_of_word?_eq_none {l : LeafText} (h : l.word? = none) (rest : List Char) :
    Stops isIdentifierStart (l.chars ++ rest) := by
  cases l with
  | field first others => exact (stops_cons _ _).mpr rfl
  | dot => exact (stops_cons _ _).mpr rfl
  | variableRef name? path => cases name? <;> exact (stops_cons _ _).mpr rfl
  | quoted inside => exact (stops_cons _ _).mpr rfl
  | raw inside hraw => exact (stops_cons _ _).mpr rfl
  | numeral n =>
    obtain ⟨x, xs, hchars, hx, -⟩ := n.exists_start
    rw [chars, hchars, List.cons_append, stops_cons, ← Bool.not_eq_true]
    intro hstart
    rw [isNumeralStart_eq_false_of_start hstart] at hx
    cases hx
  | bool b => cases b <;> cases h
  | nil => cases h
  | identifier name hname => cases h

theorem readChoice_word (pipeline : Cursor → Reading (Pipeline Operand)) {i : Identifier}
    (h : c.Passes i.chars d) (hstops : Stops isIdentifierPart d.rest) :
    readChoice pipeline c = .ok (wordOperand i.text, d) := by
  have hstart := i.first_isStart
  have hopen : i.first ≠ '(' := by
    intro heq
    rw [heq] at hstart
    cases hstart
  have hword : readWord? c = some (wordOperand i.text, d) := by
    rw [readWord?, identifier?_of_passes h hstops]
    rfl
  simp only [readChoice, readMarked?_eq_none (h.stops (isMark_eq_false rfl hstart)),
    numeral_eq_absent (h.stops (isNumeralStart_eq_false_of_start hstart)),
    readParenthesized_eq_absent pipeline (h.stops (beq_eq_false_iff_ne.mpr hopen)), hword]

theorem readMarked?_field {first : Identifier} {others : List Identifier}
    (h : c.Passes (LeafText.field first others).chars d) (hstops : Stops isOperandPart d.rest) :
    readMarked? c = some ((LeafText.field first others).operand, d) := by
  have hdotted : readDotted c = ((first :: others).map Identifier.chars, d) :=
    readDotted_of_passes h hstops
  simp [readMarked?, readField?, hdotted, FieldPath.ofSegments?, LeafText.operand, Identifier.text]

theorem readMarked?_dot (h : c.Passes ['.'] d) (hstops : Stops isIdentifierPart d.rest) :
    readMarked? c = some (.dot, d) := by
  -- A path comes before the lone dot in the choice, and misses its first name.
  have hfield : readField? c = none := by
    rw [readField?, readDotted_dot h hstops]
    rfl
  rw [readMarked?, hfield, readDot?, expect?_eq_some_iff.mpr h]
  rfl

/-- Without a dot in front the choice is between variables and texts. -/
theorem readMarked?_of_stops (h : Stops (· == '.') c.rest) :
    readMarked? c = (readVariable? c).or (readText? c) := by
  have hfield : readField? c = none := by
    rw [readField?, readDotted_eq_nil h]
    rfl
  have hdot : readDot? c = none := by
    rw [readDot?, expect?_of_stops h]
    rfl
  rw [readMarked?, hfield, hdot]
  cases readVariable? c <;> rfl

theorem readMarked?_variable {name? : Option Identifier} {path : List Identifier}
    (h : c.Passes (LeafText.variableRef name? path).chars d) (hstops : Stops isOperandPart d.rest) :
    readMarked? c = some ((LeafText.variableRef name? path).operand, d) := by
  obtain ⟨e, hname, hpath⟩ := Passes.split h
  have hstop : Stops isIdentifierPart e.rest := by
    rw [hpath.1]
    exact stops_dottedChars path hstops.of_operandPart.1
  have hdollar : Stops (· == '.') c.rest := by
    cases name? <;> exact hname.stops (by decide)
  have hvariable : readVariable? c = some ((LeafText.variableRef name? path).operand, d) := by
    simp [readVariable?, readDollar?_of_passes hname hstop, readDotted_of_passes hpath hstops,
      LeafText.operand, dottedChars, List.flatMap_map]
  rw [readMarked?_of_stops hdollar, hvariable, Option.some_or]

theorem readMarked?_text {s : String} (h : readText? c = some (.string s, d))
    (hstops : Stops (fun x => x == '.' || x == '$') c.rest) :
    readMarked? c = some (.string s, d) := by
  have hdot : Stops (· == '.') c.rest := hstops.mono fun x hx => by rw [hx, Bool.true_or]
  have hdollar : Stops (· == '$') c.rest := hstops.mono fun x hx => by rw [hx, Bool.or_true]
  rw [readMarked?_of_stops hdot, readVariable?, readDollar?_eq_none hdollar, h]
  rfl

/-- **A leaf is read back** before anything that cannot go on with it. -/
theorem readChoice_leaf (pipeline : Cursor → Reading (Pipeline Operand)) {l : LeafText}
    (h : c.Passes l.chars d) (hstops : Stops isOperandPart d.rest) :
    readChoice pipeline c = .ok (l.operand, d) := by
  have hmarked {o : Operand} (ho : readMarked? c = some (o, d)) :
      readChoice pipeline c = .ok (o, d) := by
    rw [readChoice, ho]
  -- Words are tried last, behind all readings that look for a mark, a digit or a sign.
  cases hword : l.word? with
  | some i =>
    obtain ⟨hchars, hoperand, -⟩ := LeafText.eq_of_word? hword
    rw [hchars] at h
    rw [← hoperand]
    exact readChoice_word pipeline h hstops.of_operandPart.1
  | none =>
    cases l with
    | field first others => exact hmarked (readMarked?_field h hstops)
    | dot => exact hmarked (readMarked?_dot h hstops.of_operandPart.1)
    | variableRef name? path => exact hmarked (readMarked?_variable h hstops)
    | quoted inside =>
      refine hmarked (readMarked?_text ?_ (Passes.stops h (by decide)))
      rw [readText?, quotedText?_of_passes h]
    | raw inside hraw =>
      refine hmarked (readMarked?_text ?_ (Passes.stops h (by decide)))
      rw [readText?, quotedText?_eq_none (Passes.stops h (by decide)), rawText?_of_passes h]
      rfl
    | numeral n =>
      obtain ⟨x, xs, hchars, hx, -⟩ := n.exists_start
      have hstart : Stops isMark c.rest := by
        rw [h.1, LeafText.chars, hchars]
        exact (stops_cons _ _).mpr (isMark_eq_false rfl hx)
      rw [readChoice, readMarked?_eq_none hstart, n.numeral_of_passes h hstops]
      rfl
    | bool b => cases b <;> cases hword
    | nil => cases hword
    | identifier name hname => cases hword

end Stencil
