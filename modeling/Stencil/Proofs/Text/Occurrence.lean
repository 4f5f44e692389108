import Mathlib.Data.List.Infix
import Stencil.Text.Find

/-!
# Occurrences of texts

What it means that a text is found. `Stencil.stripText` takes a text off the front
exactly when it stands there, and `Stencil.findText` stops at the first place where
the pattern stands: what it leaves begins with the pattern, and the pattern stands
nowhere that begins in what it passed over (`Stencil.NoneInside`). Such a place may
reach into what follows, and so the text that follows is part of the notion.
-/

namespace Stencil

/-- **No occurrence begins inside** `before`, when `rest` follows it. -/
def NoneInside (pattern before rest : List Char) : Prop :=
  ∀ i < before.length, ¬pattern <+: (before ++ rest).drop i

variable {pattern before rest cs : List Char}

@[simp] theorem noneInside_nil (pattern rest : List Char) : NoneInside pattern [] rest := by
  intro i hi
  simp at hi

theorem noneInside_cons (c : Char) : NoneInside pattern (c :: before) rest ↔
    ¬pattern <+: c :: (before ++ rest) ∧ NoneInside pattern before rest := by
  constructor
  · intro h
    refine ⟨h 0 (by simp), fun i hi => ?_⟩
    simpa using h (i + 1) (by simpa using hi)
  · rintro ⟨hfirst, hothers⟩ i hi
    cases i with
    | zero => exact hfirst
    | succ i => simpa using hothers i (by simpa using hi)

/-- A single character begins inside a text exactly if it stands in it. -/
theorem noneInside_singleton {x : Char} : NoneInside [x] before rest ↔ x ∉ before := by
  induction before with
  | nil => simp
  | cons c cs ih => rw [noneInside_cons, ih, List.mem_cons, not_or, List.cons_prefix_cons]; simp

/-- What stands further behind than the pattern reaches makes no difference. -/
theorem NoneInside.append (h : NoneInside pattern before pattern) (more : List Char) :
    NoneInside pattern before (pattern ++ more) := by
  intro i hi hprefix
  refine h i hi ?_
  have hle : i ≤ (before ++ pattern).length := by
    simp only [List.length_append]
    omega
  rw [← List.append_assoc, List.drop_append_of_le_length hle] at hprefix
  refine List.prefix_of_prefix_length_le hprefix (List.prefix_append _ _) ?_
  simp only [List.length_drop, List.length_append]
  omega

/-- What does not begin before a text does not begin before a part of its front. -/
theorem NoneInside.of_append {more : List Char} (h : NoneInside pattern before (rest ++ more)) :
    NoneInside pattern before rest := by
  intro i hi hprefix
  have hle : i ≤ (before ++ rest).length := by
    simp only [List.length_append]
    omega
  refine h i hi ?_
  rw [← List.append_assoc, List.drop_append_of_le_length hle]
  exact hprefix.trans (List.prefix_append _ _)

/-- **A text is taken off exactly where it stands.** -/
theorem stripText_eq_some_iff : stripText pattern cs = some rest ↔ cs = pattern ++ rest := by
  induction pattern generalizing cs with
  | nil => simp [stripText, eq_comm]
  | cons p ps ih =>
    cases cs with
    | nil => simp [stripText]
    | cons c cs =>
      rw [stripText]
      split
      · next h => simp [ih, h]
      · next h => simp [Ne.symm h]

theorem stripText_append (pattern rest : List Char) :
    stripText pattern (pattern ++ rest) = some rest :=
  stripText_eq_some_iff.mpr rfl

theorem isSome_stripText_iff : (stripText pattern cs).isSome = true ↔ pattern <+: cs := by
  rw [Option.isSome_iff_exists]
  constructor
  · rintro ⟨rest, h⟩
    exact ⟨rest, (stripText_eq_some_iff.mp h).symm⟩
  · rintro ⟨rest, rfl⟩
    exact ⟨rest, stripText_append pattern rest⟩

/-- **A pattern is found at its first place.** -/
theorem findText_eq_some_iff : findText pattern cs = some (before, rest) ↔
    cs = before ++ rest ∧ pattern <+: rest ∧ NoneInside pattern before rest := by
  induction cs generalizing before with
  | nil =>
    cases pattern with
    | nil =>
      simp only [findText, List.isEmpty_nil, if_true, Option.some.injEq, Prod.mk.injEq,
        List.nil_prefix, true_and, List.nil_eq, List.append_eq_nil_iff]
      constructor
      · rintro ⟨rfl, rfl⟩
        simp
      · rintro ⟨⟨rfl, rfl⟩, -⟩
        exact ⟨rfl, rfl⟩
    | cons p ps =>
      simp only [findText, List.isEmpty_cons, Bool.false_eq_true, if_false, reduceCtorEq,
        List.nil_eq, List.append_eq_nil_iff, false_iff]
      rintro ⟨⟨-, rfl⟩, h, -⟩
      simp at h
  | cons c cs ih =>
    rw [findText]
    split
    · next h =>
      -- The pattern stands here, and nothing is passed over.
      rw [isSome_stripText_iff] at h
      constructor
      · rintro ⟨⟩
        exact ⟨rfl, h, noneInside_nil _ _⟩
      · rintro ⟨heq, -, hnone⟩
        cases before with
        | nil => simpa using heq
        | cons b bs =>
          rw [List.cons_append, List.cons.injEq] at heq
          obtain ⟨rfl, rfl⟩ := heq
          exact absurd h ((noneInside_cons _).mp hnone).1
    · next h =>
      -- It does not, so the first place is further on.
      rw [isSome_stripText_iff] at h
      rw [Option.map_eq_some_iff]
      constructor
      · rintro ⟨⟨bs, rest⟩, hfind, ⟨⟩⟩
        obtain ⟨rfl, hprefix, hnone⟩ := ih.mp hfind
        exact ⟨rfl, hprefix, (noneInside_cons c).mpr ⟨h, hnone⟩⟩
      · rintro ⟨heq, hprefix, hnone⟩
        cases before with
        | nil =>
          rw [List.nil_append] at heq
          exact absurd (heq ▸ hprefix) h
        | cons b bs =>
          rw [List.cons_append, List.cons.injEq] at heq
          obtain ⟨rfl, rfl⟩ := heq
          exact ⟨(bs, rest), ih.mpr ⟨rfl, hprefix, ((noneInside_cons _).mp hnone).2⟩, rfl⟩

/-- A pattern that is not found occurs nowhere. -/
theorem findText_eq_none_iff : findText pattern cs = none ↔ ¬pattern <:+: cs := by
  induction cs with
  | nil => cases pattern <;> simp [findText]
  | cons c cs ih =>
    rw [findText, List.infix_cons_iff, ← isSome_stripText_iff]
    split
    · next h => simp [h]
    · next h => simp [h, ih]

theorem containsText_eq_false_iff : containsText pattern cs = false ↔ ¬pattern <:+: cs := by
  rw [containsText_eq_isSome, Option.isSome_eq_false_iff, Option.isNone_iff_eq_none,
    findText_eq_none_iff]

theorem containsText_of_append (before pattern more : List Char) :
    containsText pattern (before ++ (pattern ++ more)) = true := by
  rw [containsText_eq_isSome, Option.isSome_iff_ne_none, Ne, findText_eq_none_iff, not_not]
  exact ⟨before, more, by simp⟩

end Stencil
