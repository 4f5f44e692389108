import Stencil.Source.Cursor
import Stencil.Proofs.Text.Runs

/-!
# Identifiers

Which characters an identifier may begin with and go on with, and how these classes
lie to digits and blanks.
-/

namespace Stencil

/-! ### Classes of characters -/

theorem isIdentifierPart_of_start {c : Char} (h : isIdentifierStart c = true) :
    isIdentifierPart c = true := by
  simp only [isIdentifierStart, isIdentifierPart, Char.isAlphanum, Bool.or_eq_true] at h ⊢
  rcases h with h | h
  · exact Or.inl (Or.inl h)
  · exact Or.inr h

/-- No digit begins an identifier. -/
theorem isDigit_eq_false_of_start {c : Char} (h : isIdentifierStart c = true) :
    c.isDigit = false := by
  by_cases hc : c = '_'
  · subst hc
    decide
  · have hletter : c.isAlpha = true := by
      rw [isIdentifierStart, Bool.or_eq_true] at h
      exact h.resolve_right (by simpa using hc)
    have hrange : (decide (c.val ≥ 65 ∧ c.val ≤ 90) ||
        (decide (c.val ≥ 97) && decide (c.val ≤ 122))) = true := hletter
    change (decide (c.val ≥ 48) && decide (c.val ≤ 57)) = false
    grind

/-- Digits go on with an identifier. -/
theorem isIdentifierPart_of_isDigit {c : Char} (h : c.isDigit = true) :
    isIdentifierPart c = true := by
  simp [isIdentifierPart, Char.isAlphanum, h]

/-- No blank stands in an identifier. -/
theorem isIdentifierPart_eq_false_of_isBlank {c : Char} (h : isBlank c = true) :
    isIdentifierPart c = false := by
  simp only [isBlank, Bool.or_eq_true, beq_iff_eq] at h
  rcases h with ((rfl | rfl) | rfl) | rfl <;> decide

/-- No character of an identifier is a blank. -/
theorem isBlank_eq_false_of_part {c : Char} (h : isIdentifierPart c = true) :
    isBlank c = false := by
  cases hb : isBlank c with
  | false => rfl
  | true => simp [isIdentifierPart_eq_false_of_isBlank hb] at h

/-! ### Identifiers -/

/-- **An identifier** as it stands in a text. -/
structure Identifier where
  first : Char
  others : List Char
  first_isStart : isIdentifierStart first = true
  others_arePart : ∀ c ∈ others, isIdentifierPart c = true

namespace Identifier

/-- The characters of an identifier. -/
def chars (i : Identifier) : List Char := i.first :: i.others

/-- The text of an identifier. -/
def text (i : Identifier) : String := String.ofList i.chars

/-- All characters of an identifier go on with one. -/
theorem chars_arePart (i : Identifier) : ∀ c ∈ i.chars, isIdentifierPart c = true := by
  intro c hc
  rcases List.mem_cons.mp hc with rfl | hc
  · exact isIdentifierPart_of_start i.first_isStart
  · exact i.others_arePart c hc

end Identifier

end Stencil
