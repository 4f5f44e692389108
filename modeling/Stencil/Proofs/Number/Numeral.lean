import Stencil.Number.Decimal
import Stencil.Proofs.Text.Runs
import Mathlib.Data.List.TakeDrop

/-!
# Written numerals

A numeral as it may be written: digits, an optional point with further digits, an
optional exponent with an optional sign. Its parts carry the proof that they are
digits, so every value of the type is a numeral. Reading the text of a numeral
gives its exact decimal back (`Stencil.WrittenNumeral.readMantissa?_text`,
`Stencil.WrittenNumeral.readExponent_text`), whatever follows it, as long as that
cannot be taken for more of the numeral.
-/

namespace Stencil

/-! ### Signs and digits -/

/-- A sign that may be written or left out. -/
inductive Sign where
  | absent
  | plus
  | minus
  deriving DecidableEq

namespace Sign

/-- The sign as it is written. -/
def text : Sign → List Char
  | absent => []
  | plus => ['+']
  | minus => ['-']

/-- Whether the sign is a minus. -/
def isMinus : Sign → Bool
  | minus => true
  | _ => false

/-- The whole number with a sign and a magnitude. -/
def apply (s : Sign) (n : Nat) : Int := if s.isMinus then -n else n

end Sign

/-- Whether a character is a sign. -/
def isSignChar (c : Char) : Bool := c == '+' || c == '-'

/-- A sign is read back before anything that is not a sign itself. -/
theorem Decimal.readSign_text (s : Sign) {rest : List Char} (hrest : Stops isSignChar rest) :
    Decimal.readSign (s.text ++ rest) = (s.isMinus, rest) := by
  cases s with
  | plus => rfl
  | minus => rfl
  | absent =>
    simp only [Sign.text, List.nil_append, Sign.isMinus]
    unfold Decimal.readSign
    split
    · simp [isSignChar] at hrest
    · simp [isSignChar] at hrest
    · rfl

/-- **A run of digits**, with at least one of them. -/
structure DigitRun where
  digits : List Char
  nonempty : digits ≠ []
  all_isDigit : ∀ c ∈ digits, c.isDigit = true

/-- Digits are no signs. -/
theorem isSignChar_of_isDigit {c : Char} (h : c.isDigit = true) : isSignChar c = false := by
  cases hs : isSignChar c with
  | false => rfl
  | true =>
    simp only [isSignChar, Bool.or_eq_true, beq_iff_eq] at hs
    rcases hs with rfl | rfl <;> simp at h

/-- A run of digits begins with no sign. -/
theorem DigitRun.stops_isSignChar (ds : DigitRun) (rest : List Char) :
    Stops isSignChar (ds.digits ++ rest) := by
  obtain ⟨digits, hne, hall⟩ := ds
  cases digits with
  | nil => exact absurd rfl hne
  | cons c cs => simpa using isSignChar_of_isDigit (hall c (by simp))

/-- Reading the leading digits of a run of digits and a stop gives the run. -/
theorem Decimal.spanDigits_append {run rest : List Char} (hrun : ∀ c ∈ run, c.isDigit = true)
    (hrest : Stops Char.isDigit rest) : Decimal.spanDigits (run ++ rest) = (run, rest) := by
  rw [Decimal.spanDigits, List.span_eq_takeWhile_dropWhile, takeWhile_append_stops hrun hrest,
    dropWhile_append_stops hrun hrest]

/-! ### Mantissas and exponents -/

/-- No exponent stands where its letter does not. -/
theorem Decimal.readExponent_of_stops {rest : List Char}
    (hrest : Stops (fun c => c == 'e' || c == 'E') rest) :
    Decimal.readExponent rest = .absent := by
  cases rest with
  | nil => rfl
  | cons c cs =>
    have hc : ¬(c = 'e' ∨ c = 'E') := by simpa using hrest
    rw [readExponent, if_neg hc]

/-- The exponent of a numeral: a letter, a sign and digits. -/
structure ExponentText where
  letter : Char
  sign : Sign
  digits : DigitRun
  letter_eq : letter = 'e' ∨ letter = 'E'

namespace ExponentText

def chars (e : ExponentText) : List Char := e.letter :: (e.sign.text ++ e.digits.digits)

/-- The power of ten that an exponent stands for. -/
def power (e : ExponentText) : Int := e.sign.apply (Decimal.ofDigits e.digits.digits)

/-- An exponent is read back before anything but a digit. -/
theorem readExponent_chars (e : ExponentText) {rest : List Char}
    (hrest : Stops Char.isDigit rest) :
    Decimal.readExponent (e.chars ++ rest) = .complete e.power rest := by
  have hsign := Decimal.readSign_text e.sign (e.digits.stops_isSignChar rest)
  have hspan := Decimal.spanDigits_append e.digits.all_isDigit hrest
  simp only [chars, List.cons_append, List.append_assoc, Decimal.readExponent, e.letter_eq,
    if_true, hsign, hspan]
  simp [e.digits.nonempty, power, Sign.apply]

end ExponentText

/-- The digits of a numeral, with a point or without. Digits may be missing on one
side of the point. -/
structure MantissaText where
  whole : List Char
  fraction? : Option (List Char)
  whole_areDigits : ∀ x ∈ whole, x.isDigit = true
  fraction_areDigits : ∀ x ∈ fraction?.getD [], x.isDigit = true
  nonempty : whole ≠ [] ∨ fraction?.getD [] ≠ []

namespace MantissaText

/-- The fraction with the point before it. -/
def fractionChars (m : MantissaText) : List Char := m.fraction?.elim [] ('.' :: ·)

def chars (m : MantissaText) : List Char := m.whole ++ m.fractionChars

/-- The exact quantity that the digits stand for. -/
def decimal (m : MantissaText) : Decimal :=
  ⟨Decimal.ofDigits (m.whole ++ m.fraction?.getD []), -(m.fraction?.getD []).length⟩

/-- A mantissa is read back before anything but a digit or a point. -/
theorem readMantissa?_chars (m : MantissaText) {rest : List Char}
    (hrest : Stops (fun c => c.isDigit || c == '.') rest) :
    Decimal.readMantissa? (m.chars ++ rest) = some (m.decimal, rest) := by
  obtain ⟨whole, fraction?, hwhole, hfraction, hne⟩ := m
  have hdigit : Stops Char.isDigit rest := hrest.mono fun c hc => by simp [hc]
  cases fraction? with
  | none =>
    have hne : whole ≠ [] := by simpa using hne
    simp only [chars, fractionChars, Option.elim_none, List.append_nil, Decimal.readMantissa?,
      Decimal.spanDigits_append hwhole hdigit]
    cases rest with
    | nil => simp [hne, decimal]
    | cons c cs =>
      have hc : c ≠ '.' := by
        rintro rfl
        simp at hrest
      simp [hne, hc, decimal]
  | some digits =>
    have hpoint : Stops Char.isDigit ('.' :: (digits ++ rest)) := by simp
    have hspan : Decimal.spanDigits (digits ++ rest) = (digits, rest) :=
      Decimal.spanDigits_append hfraction hdigit
    have hne : ¬(whole = [] ∧ digits = []) := by
      rw [not_and_or]
      exact hne
    simp only [chars, fractionChars, Option.elim_some, List.append_assoc, List.cons_append,
      Decimal.readMantissa?, Decimal.spanDigits_append hwhole hpoint, hspan]
    simpa [decimal] using hne

end MantissaText

/-! ### Numerals -/

/-- **A numeral without a sign**: digits, an optional fraction, an optional
exponent. -/
structure WrittenNumeral where
  whole : DigitRun
  fraction? : Option DigitRun
  exponent? : Option (Sign × DigitRun)

namespace WrittenNumeral

/-- The fraction as it is written, with the point before it. -/
def fractionText (n : WrittenNumeral) : List Char :=
  match n.fraction? with
  | none => []
  | some ds => '.' :: ds.digits

/-- The exponent as it is written, with the letter before it. -/
def exponentText (n : WrittenNumeral) : List Char :=
  match n.exponent? with
  | none => []
  | some (sign, ds) => 'e' :: (sign.text ++ ds.digits)

/-- **The text of a numeral.** -/
def text (n : WrittenNumeral) : List Char := n.whole.digits ++ n.fractionText ++ n.exponentText

/-- The quantity of a numeral before its exponent. -/
def mantissa (n : WrittenNumeral) : Decimal :=
  match n.fraction? with
  | none => ⟨Decimal.ofDigits n.whole.digits, 0⟩
  | some ds => ⟨Decimal.ofDigits (n.whole.digits ++ ds.digits), -ds.digits.length⟩

/-- **The exact quantity of a numeral.** -/
def decimal (n : WrittenNumeral) : Decimal :=
  match n.exponent? with
  | none => n.mantissa
  | some (sign, ds) => n.mantissa.shift (sign.apply (Decimal.ofDigits ds.digits))

/-- Whether a character could go on with a numeral. -/
def isContinuation (c : Char) : Bool := c.isDigit || c == '.' || c == 'e' || c == 'E'

/-- Nothing that stops a numeral begins with a digit. -/
theorem stops_isDigit {rest : List Char} (hrest : Stops isContinuation rest) :
    Stops Char.isDigit rest :=
  hrest.mono fun c hc => by simp [isContinuation, hc]

/-- The exponent of a numeral and what follows it stop the digits before it. -/
theorem stops_exponentText (n : WrittenNumeral) {rest : List Char}
    (hrest : Stops isContinuation rest) :
    Stops (fun c => c.isDigit || c == '.') (n.exponentText ++ rest) := by
  unfold exponentText
  cases n.exponent? with
  | none =>
    refine hrest.mono fun c hc => ?_
    simp only [Bool.or_eq_true] at hc
    rcases hc with hc | hc <;> simp [isContinuation, hc]
  | some e => simp

/-- The digits of a numeral before its exponent. -/
def digitsText (n : WrittenNumeral) : MantissaText where
  whole := n.whole.digits
  fraction? := n.fraction?.map DigitRun.digits
  whole_areDigits := n.whole.all_isDigit
  fraction_areDigits := by
    cases n.fraction? with
    | none => simp
    | some ds => exact ds.all_isDigit
  nonempty := Or.inl n.whole.nonempty

/-- The digits of a numeral are read up to its exponent. -/
theorem readMantissa?_text (n : WrittenNumeral) {rest : List Char}
    (hrest : Stops isContinuation rest) :
    Decimal.readMantissa? (n.text ++ rest) = some (n.mantissa, n.exponentText ++ rest) := by
  have hread := n.digitsText.readMantissa?_chars (n.stops_exponentText hrest)
  have hchars : n.digitsText.chars = n.whole.digits ++ n.fractionText := by
    unfold fractionText
    cases h : n.fraction? <;> simp [MantissaText.chars, MantissaText.fractionChars, digitsText, h]
  have hdecimal : n.digitsText.decimal = n.mantissa := by
    unfold mantissa
    cases h : n.fraction? <;> simp [MantissaText.decimal, digitsText, h]
  rw [text, List.append_assoc, ← hchars, hread, hdecimal]

/-- The exponent of a numeral is read, or found to be absent. -/
theorem readExponent_text (n : WrittenNumeral) {rest : List Char}
    (hrest : Stops isContinuation rest) :
    Decimal.readExponent (n.exponentText ++ rest) =
      match n.exponent? with
      | none => .absent
      | some (sign, ds) => .complete (sign.apply (Decimal.ofDigits ds.digits)) rest := by
  unfold exponentText
  cases n.exponent? with
  | none =>
    refine Decimal.readExponent_of_stops (hrest.mono fun c hc => ?_)
    rw [isContinuation, Bool.or_assoc, hc, Bool.or_true]
  | some e =>
    obtain ⟨sign, ds⟩ := e
    exact ExponentText.readExponent_chars ⟨'e', sign, ds, Or.inl rfl⟩ (stops_isDigit hrest)

end WrittenNumeral

/-! ### Numbers of numerals -/

/-- A rank makes a finite number or an infinity. -/
theorem Number.ofRank_ne_nan (negative : Bool) (rank : Nat) :
    Number.ofRank negative rank ≠ .nan := by
  unfold Number.ofRank
  split <;> simp

/-- **No numeral spells not-a-number.** -/
theorem Decimal.toNumber_ne_nan (negative : Bool) (d : Decimal) : d.toNumber negative ≠ .nan := by
  unfold Decimal.toNumber Number.ofUnits
  split
  · exact Number.ofRank_ne_nan _ _
  split
  · simp
  split
  · exact Number.ofRank_ne_nan _ _
  · exact Number.ofRank_ne_nan _ _

end Stencil
