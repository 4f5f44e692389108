import Mathlib.Data.Char
import Mathlib.Tactic.SplitIfs
import Stencil.Source.Literal

/-!
# Spellings of a character

Between double quotes a character stands for itself, or is written by its escape, or by
its code point in four hexadecimal digits of either case. The spellings are said here
without a reader (`Stencil.CharSpelling`), and the readers of digits, of code points
and of escapes are shown to agree with them.
-/

namespace Stencil

/-! ### Spellings -/

/-- A hexadecimal digit of either case, and its value. -/
def IsHexDigit (c : Char) (n : Nat) : Prop :=
  n < 16 ∧ (c = Nat.digitChar n ∨ c = (Nat.digitChar n).toUpper)

/-- The characters that have an escape, each with the letter behind the backslash. -/
def escapes : List (Char × Char) :=
  [('\\', '\\'), ('"', '"'), ('\r', 'r'), ('\n', 'n'), ('\t', 't')]

/-- **A spelling of a character** between double quotes. -/
inductive CharSpelling (x : Char) : List Char → Prop
  /-- The character itself. -/
  | plain (hquote : x ≠ '"') (hslash : x ≠ '\\') : CharSpelling x [x]
  /-- The escape of the character. -/
  | escape {letter : Char} (h : (x, letter) ∈ escapes) : CharSpelling x ['\\', letter]
  /-- The code point of the character. -/
  | code {a b c d : Char} {i j k l : Nat} (ha : IsHexDigit a i) (hb : IsHexDigit b j)
      (hc : IsHexDigit c k) (hd : IsHexDigit d l)
      (h : x.toNat = ((i * 16 + j) * 16 + k) * 16 + l) : CharSpelling x ['\\', 'u', a, b, c, d]

theorem CharSpelling.exists (x : Char) : ∃ cs, CharSpelling x cs := by
  by_cases hquote : x = '"'
  · exact ⟨['\\', '"'], .escape (by simp [escapes, hquote])⟩
  by_cases hslash : x = '\\'
  · exact ⟨['\\', '\\'], .escape (by simp [escapes, hslash])⟩
  · exact ⟨[x], .plain hquote hslash⟩

/-! ### Digits, code points and escapes as they are read -/

theorem hexValue?_eq_some_iff {c : Char} {n : Nat} : hexValue? c = some n ↔ IsHexDigit c n := by
  constructor
  · intro h
    have hascii : c.toNat < 128 := by
      have hlt {x : Char} (hle : c ≤ x) (hx : x.toNat < 128) : c.toNat < 128 :=
        lt_of_le_of_lt hle hx
      unfold hexValue? at h
      split at h
      · next hdigit =>
        rw [Char.isDigit, Bool.and_eq_true, decide_eq_true_eq, decide_eq_true_eq] at hdigit
        exact hlt (x := '9') hdigit.2 (by decide)
      split at h
      · next hlower => exact hlt hlower.2 (by decide)
      split at h
      · next hupper => exact hlt hupper.2 (by decide)
      · cases h
    -- There are few enough characters below the bound to try them all.
    have hall : ∀ k < 128, ∀ n ∈ hexValue? (Char.ofNat k), n < 16 ∧
        (Char.ofNat k = Nat.digitChar n ∨ Char.ofNat k = (Nat.digitChar n).toUpper) := by
      decide +kernel
    have hdigit := hall c.toNat hascii n
    rw [Char.ofNat_toNat] at hdigit
    exact hdigit h
  · have hall : ∀ n < 16, hexValue? (Nat.digitChar n) = some n ∧
        hexValue? (Nat.digitChar n).toUpper = some n := by
      decide
    rintro ⟨hn, rfl | rfl⟩
    · exact (hall n hn).1
    · exact (hall n hn).2

/-- No digit is a quote. -/
theorem IsHexDigit.ne_quote {c : Char} {n : Nat} (h : IsHexDigit c n) : c ≠ '"' := by
  rintro rfl
  rw [← hexValue?_eq_some_iff] at h
  cases h

theorem charOfCode?_eq_some_iff {n : Nat} {x : Char} : charOfCode? n = some x ↔ x.toNat = n := by
  constructor
  · intro h
    unfold charOfCode? at h
    split at h
    · next hvalid =>
      obtain rfl := Option.some.inj h
      rw [Char.ofNat, dif_pos hvalid]
      rfl
    · cases h
  · rintro rfl
    have hvalid : x.toNat.isValidChar := x.valid
    simp [charOfCode?, hvalid]

theorem simpleEscape?_eq_some_iff {letter x : Char} :
    simpleEscape? letter = some x ↔ (x, letter) ∈ escapes := by
  unfold simpleEscape?
  split_ifs <;> grind [escapes]

theorem codeChar?_eq_some_iff {a b c d x : Char} : codeChar? a b c d = some x ↔
    ∃ i j k l, IsHexDigit a i ∧ IsHexDigit b j ∧ IsHexDigit c k ∧ IsHexDigit d l ∧
      x.toNat = ((i * 16 + j) * 16 + k) * 16 + l := by
  simp only [codeChar?, Option.bind_eq_bind, Option.bind_eq_some_iff, hexValue?_eq_some_iff,
    charOfCode?_eq_some_iff]
  grind

end Stencil
