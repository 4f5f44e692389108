import Stencil.Text.Quoted
import Stencil.Text.Split

/-!
# Texts without line breaks

A text that is cut into lines gives back the lines it was made of, if none of them has
a line break of its own (`Stencil.textLines_joinLines`). A line feed would make two
lines of one, and a carriage return at the end of a line would be taken for a part of
the line end.

A text that is written between quotes or as a label has no line break, whatever its
characters (`Stencil.unbroken_quoted`, `Stencil.unbroken_label`).
-/

namespace Stencil

/-! ### Line breaks -/

/-- Whether a character breaks a line. -/
def isBreak (c : Char) : Bool := c == '\n' || c == '\r'

/-- **A text without line breaks.** -/
def Unbroken (cs : List Char) : Prop := ∀ c ∈ cs, isBreak c = false

theorem unbroken_append {cs ds : List Char} :
    Unbroken (cs ++ ds) ↔ Unbroken cs ∧ Unbroken ds :=
  List.forall_mem_append

theorem unbroken_cons {c : Char} {cs : List Char} :
    Unbroken (c :: cs) ↔ isBreak c = false ∧ Unbroken cs :=
  List.forall_mem_cons

theorem Unbroken.newline_notMem {cs : List Char} (h : Unbroken cs) : '\n' ∉ cs := by
  intro hmem
  exact absurd (h _ hmem) (by decide)

theorem Unbroken.return_notMem {cs : List Char} (h : Unbroken cs) : '\r' ∉ cs := by
  intro hmem
  exact absurd (h _ hmem) (by decide)

/-! ### Cutting into lines -/

/-- The part up to the first mark is split off. -/
theorem splitAtChar_append {mark : Char} {part : List Char} (h : mark ∉ part) (rest : List Char) :
    splitAtChar mark (part ++ mark :: rest) = part :: splitAtChar mark rest := by
  induction part with
  | nil => simp [splitAtChar]
  | cons c part ih =>
    obtain ⟨hc, hpart⟩ : mark ≠ c ∧ mark ∉ part := by simpa using h
    rw [List.cons_append, splitAtChar, if_neg hc.symm, ih hpart]

/-- Lines with their line feeds are split into the lines and an empty rest. -/
theorem splitAtChar_lines {lines : List (List Char)} (h : ∀ line ∈ lines, Unbroken line) :
    splitAtChar '\n' (lines.flatMap (· ++ ['\n'])) = lines ++ [[]] := by
  induction lines with
  | nil => rfl
  | cons line rest ih =>
    obtain ⟨hline, hrest⟩ := List.forall_mem_cons.mp h
    rw [List.flatMap_cons, List.append_assoc, List.singleton_append,
      splitAtChar_append hline.newline_notMem, ih hrest, List.cons_append]

theorem Unbroken.dropReturn_eq {line : List Char} (h : Unbroken line) : dropReturn line = line := by
  refine if_neg fun hlast => ?_
  exact h.return_notMem (List.mem_of_getLast? hlast)

theorem toList_joinLines (lines : List String) :
    (joinLines lines).toList = (lines.map String.toList).flatMap (· ++ ['\n']) := by
  simp [joinLines, String.toList_join, List.flatMap_map]

theorem joinLines_append (lines others : List String) :
    joinLines (lines ++ others) = joinLines lines ++ joinLines others := by
  simp [joinLines, String.join_append]

/-- **Cutting a text into lines undoes joining them**, if no line has a break in it. -/
theorem textLines_joinLines {lines : List String} (h : ∀ line ∈ lines, Unbroken line.toList) :
    textLines (joinLines lines) = lines := by
  have hlists : ∀ cs ∈ lines.map String.toList, Unbroken cs := by simpa using h
  have hkept : (lines.map String.toList).map dropReturn = lines.map String.toList := by
    rw [List.map_congr_left fun cs hcs => (hlists cs hcs).dropReturn_eq, List.map_id']
  simp only [textLines, toList_joinLines, splitAtChar_lines hlists, List.dropLast_concat,
    List.getLast?_concat, hkept]
  simp

/-! ### Written texts -/

/-- The digits of a code point are among the sixteen digits. -/
theorem exists_digitChar_of_mem_toDigits {c : Char} {n : Nat} (h : c ∈ Nat.toDigits 16 n) :
    ∃ d < 16, c = Nat.digitChar d := by
  induction n using Nat.strongRecOn with
  | ind n ih =>
    by_cases hn : n < 16
    · rw [Nat.toDigits_of_lt_base hn, List.mem_singleton] at h
      exact ⟨n, hn, h⟩
    · rw [Nat.toDigits_of_base_le (by decide) (Nat.le_of_not_lt hn), List.mem_append,
        List.mem_singleton] at h
      rcases h with h | h
      · exact ih (n / 16) (by omega) h
      · exact ⟨n % 16, Nat.mod_lt n (by decide), h⟩

/-- The escape of a character by its code point breaks no line. -/
theorem unbroken_codeEscape (c : Char) : Unbroken (codeEscape c) := by
  have hdigits : Unbroken (Nat.toDigits 16 c.toNat) := by
    intro x hx
    obtain ⟨d, hd, rfl⟩ := exists_digitChar_of_mem_toDigits hx
    have hall : ∀ d < 16, isBreak (Nat.digitChar d) = false := by decide
    exact hall d hd
  have hopen : Unbroken ['\\', 'u', '\x7b'] := by simp [Unbroken, isBreak]
  have hclose : Unbroken ['\x7d'] := by simp [Unbroken, isBreak]
  exact unbroken_append.mpr ⟨hopen, unbroken_append.mpr ⟨hdigits, hclose⟩⟩

/-- The letter of a two-character escape is no line break. -/
theorem unbroken_of_shortEscape? {c e : Char} (h : shortEscape? c = some e) :
    Unbroken ['\\', e] := by
  have he : e ∈ ['0', 't', 'r', 'n', '\\'] := by
    unfold shortEscape? at h
    grind
  simp only [List.mem_cons, List.not_mem_nil, or_false] at he
  rcases he with rfl | rfl | rfl | rfl | rfl <;> simp [Unbroken, isBreak]

/-- Both line breaks have a two-character escape. -/
theorem unbroken_of_shortEscape?_eq_none {c : Char} (h : shortEscape? c = none) :
    Unbroken [c] := by
  have hnewline : c ≠ '\n' := by
    rintro rfl
    exact absurd h (by decide)
  have hreturn : c ≠ '\r' := by
    rintro rfl
    exact absurd h (by decide)
  simp [Unbroken, isBreak, hnewline, hreturn]

theorem unbroken_quotedChar (c : Char) : Unbroken (quotedChar c) := by
  unfold quotedChar
  split
  · next h => exact unbroken_of_shortEscape? h
  · next h =>
    split
    · simp [Unbroken, isBreak]
    · split
      · exact unbroken_codeEscape c
      · exact unbroken_of_shortEscape?_eq_none h

theorem unbroken_labelChar (first : Bool) (c : Char) : Unbroken (labelChar first c) := by
  unfold labelChar
  split
  · next h => exact unbroken_of_shortEscape? h
  · next h =>
    have hplain := unbroken_of_shortEscape?_eq_none h
    split
    · exact unbroken_cons.mpr ⟨by decide, hplain⟩
    · split
      · exact unbroken_codeEscape c
      · exact hplain

/-- **A text between quotes has no line break.** -/
theorem unbroken_quoted (s : String) : Unbroken (quoted s).toList := by
  have hquote : Unbroken ['"'] := by simp [Unbroken, isBreak]
  have hinside : Unbroken (s.toList.flatMap quotedChar) := by
    intro x hx
    obtain ⟨c, -, hx⟩ := List.mem_flatMap.mp hx
    exact unbroken_quotedChar c x hx
  rw [quoted, String.toList_ofList]
  exact unbroken_append.mpr ⟨hquote, unbroken_append.mpr ⟨hinside, hquote⟩⟩

/-- **A label has no line break.** -/
theorem unbroken_label (s : String) : Unbroken (label s).toList := by
  unfold label
  split
  · simp [Unbroken]
  · next c cs _ =>
    rw [String.toList_ofList]
    refine unbroken_append.mpr ⟨unbroken_labelChar true c, fun x hx => ?_⟩
    obtain ⟨d, -, hx⟩ := List.mem_flatMap.mp hx
    exact unbroken_labelChar false d x hx

end Stencil
