import Mathlib.Data.List.TakeWhile
import Stencil.Source.Literal
import Stencil.Proofs.Source.Identifier
import Stencil.Proofs.Text.Occurrence

/-!
# Moving a cursor

One relation says what moving a cursor means: a cursor passes over a text if the
text comes next and the offset grows by its bytes (`Stencil.Cursor.Passes`). Every
elementary reading is then characterised by the text it passes over. Read from left
to right these facts say what was consumed when a reading succeeded; read from right
to left, that a reading succeeds on a text that was written for it.
-/

namespace Stencil

namespace Cursor

/-- **The cursor `c` passes over `taken` and comes to `d`.** -/
def Passes (c : Cursor) (taken : List Char) (d : Cursor) : Prop :=
  c.rest = taken ++ d.rest ∧ d.offset = c.offset + byteLength taken

variable {c d e : Cursor} {taken text : List Char}

theorem Passes.nil (c : Cursor) : c.Passes [] c := ⟨rfl, rfl⟩

theorem Passes.append {more : List Char} (h : c.Passes taken d) (h' : d.Passes more e) :
    c.Passes (taken ++ more) e := by
  refine ⟨?_, ?_⟩
  · rw [h.1, h'.1, List.append_assoc]
  · rw [h'.2, h.2, byteLength_append, Nat.add_assoc]

/-- A cursor that passes over two texts comes to a place between them. -/
theorem Passes.split {more : List Char} (h : c.Passes (taken ++ more) e) :
    ∃ d, c.Passes taken d ∧ d.Passes more e := by
  refine ⟨⟨c.offset + byteLength taken, more ++ e.rest⟩, ⟨?_, rfl⟩, rfl, ?_⟩
  · rw [h.1, List.append_assoc]
  · rw [h.2, byteLength_append, Nat.add_assoc]

theorem Passes.split_cons {x : Char} (h : c.Passes (x :: taken) e) :
    ∃ d, c.Passes [x] d ∧ d.Passes taken e :=
  Passes.split h

theorem Passes.eq_of_nil (h : c.Passes [] d) : d = c := by
  obtain ⟨offset, rest⟩ := d
  exact congrArg₂ mk h.2 h.1.symm

/-- A cursor comes to only one place over a text. -/
theorem Passes.unique (h : c.Passes taken d) (h' : c.Passes taken e) : d = e := by
  obtain ⟨offset, rest⟩ := d
  exact congrArg₂ mk (h.2.trans h'.2.symm) (List.append_cancel_left (h.1.symm.trans h'.1))

theorem Passes.length_rest (h : c.Passes taken d) :
    c.rest.length = taken.length + d.rest.length := by
  rw [h.1, List.length_append]

/-- What is passed over stops what its first character does not go on with. -/
theorem Passes.stops {x : Char} (h : c.Passes (x :: taken) d) {p : Char → Bool}
    (hp : p x = false) : Stops p c.rest := by
  rw [h.1]
  exact (stops_cons _ _).mpr hp

/-! ### A given text -/

theorem expect?_eq_some_iff : c.expect? text = some d ↔ c.Passes text d := by
  obtain ⟨offset, rest⟩ := d
  simp only [expect?, past, Option.map_eq_some_iff, stripText_eq_some_iff, Passes, mk.injEq]
  constructor
  · rintro ⟨rest', hrest, hoffset, rfl⟩
    exact ⟨hrest, hoffset.symm⟩
  · rintro ⟨hrest, hoffset⟩
    exact ⟨rest, hrest, hoffset.symm, rfl⟩

theorem expect?_eq_none_iff : c.expect? text = none ↔ ¬text <+: c.rest := by
  rw [expect?, Option.map_eq_none_iff, ← isSome_stripText_iff, Bool.not_eq_true,
    Option.isSome_eq_false_iff, Option.isNone_iff_eq_none]

/-- Another character stands where a text should begin, or nothing. -/
theorem expect?_of_stops {x : Char} (h : Stops (· == x) c.rest) (xs : List Char) :
    c.expect? (x :: xs) = none := by
  rw [expect?_eq_none_iff]
  rintro ⟨more, hmore⟩
  rw [← hmore] at h
  simp at h

theorem startsWith_eq_isSome (c : Cursor) (text : List Char) :
    c.startsWith text = (c.expect? text).isSome := by
  rw [startsWith, expect?, Option.isSome_map]

theorem until?_eq_some_iff : c.until? text = some (taken, d) ↔
    c.Passes taken d ∧ text <+: d.rest ∧ NoneInside text taken d.rest := by
  obtain ⟨offset, rest⟩ := d
  simp only [until?, past, Option.map_eq_some_iff, Prod.exists, Prod.mk.injEq, mk.injEq, Passes,
    findText_eq_some_iff]
  constructor
  · rintro ⟨before, after, ⟨hrest, hprefix, hnone⟩, rfl, hoffset, rfl⟩
    exact ⟨⟨hrest, hoffset.symm⟩, hprefix, hnone⟩
  · rintro ⟨⟨hrest, hoffset⟩, hprefix, hnone⟩
    exact ⟨taken, rest, ⟨hrest, hprefix, hnone⟩, rfl, hoffset.symm, rfl⟩

/-- A text is found behind what it does not begin in. -/
theorem until?_of_passes (h : c.Passes taken d) (htext : d.Passes text e)
    (hnone : NoneInside text taken text) : c.until? text = some (taken, d) := by
  refine until?_eq_some_iff.mpr ⟨h, ?_, ?_⟩
  · exact ⟨e.rest, htext.1.symm⟩
  · rw [htext.1]
    exact hnone.append e.rest

theorem until?_eq_none_iff : c.until? text = none ↔ ¬text <:+: c.rest := by
  rw [until?, Option.map_eq_none_iff, findText_eq_none_iff]

/-! ### Runs -/

theorem passes_takeWhile (c : Cursor) (p : Char → Bool) :
    c.Passes (c.takeWhile p).1 (c.takeWhile p).2 :=
  ⟨(List.takeWhile_append_dropWhile).symm, rfl⟩

theorem takeWhile_of_passes {p : Char → Bool} (h : c.Passes taken d)
    (htaken : ∀ x ∈ taken, p x = true) (hstops : Stops p d.rest) : c.takeWhile p = (taken, d) := by
  have hfirst : (c.takeWhile p).1 = taken := by
    rw [takeWhile, h.1, takeWhile_append_stops htaken hstops]
  have hpasses := c.passes_takeWhile p
  rw [hfirst] at hpasses
  exact Prod.ext hfirst (hpasses.unique h)

theorem skipBlanks_of_passes (h : c.Passes taken d) (htaken : ∀ x ∈ taken, isBlank x = true)
    (hstops : Stops isBlank d.rest) : c.skipBlanks = d := by
  rw [skipBlanks, takeWhile_of_passes h htaken hstops]

/-- No blanks are passed over where none stand. -/
theorem skipBlanks_eq_self (hstops : Stops isBlank c.rest) : c.skipBlanks = c :=
  skipBlanks_of_passes (.nil c) (List.forall_mem_nil _) hstops

theorem skipBlanks1?_eq_some (h : c.skipBlanks1? = some d) :
    ∃ taken, taken ≠ [] ∧ (∀ x ∈ taken, isBlank x = true) ∧ c.Passes taken d := by
  have hpasses := c.passes_takeWhile isBlank
  have hblank : ∀ x ∈ (c.takeWhile isBlank).1, isBlank x = true := fun x hx =>
    List.mem_takeWhile_imp hx
  unfold skipBlanks1? at h
  generalize c.takeWhile isBlank = taken at h hpasses hblank
  obtain ⟨run, after⟩ := taken
  cases run with
  | nil => simp at h
  | cons x xs =>
    simp only [List.isEmpty_cons, Bool.false_eq_true, if_false, Option.some.injEq] at h
    subst h
    exact ⟨x :: xs, List.cons_ne_nil _ _, hblank, hpasses⟩

theorem skipBlanks1?_of_passes (h : c.Passes taken d) (htaken : ∀ x ∈ taken, isBlank x = true)
    (hne : taken ≠ []) (hstops : Stops isBlank d.rest) : c.skipBlanks1? = some d := by
  rw [skipBlanks1?, takeWhile_of_passes h htaken hstops]
  simp [hne]

theorem skipBlanks1?_eq_none_iff : c.skipBlanks1? = none ↔ Stops isBlank c.rest := by
  constructor
  · intro h x hx
    obtain ⟨xs, hrest⟩ := List.head?_eq_some_iff.mp hx
    rw [← Bool.not_eq_true]
    intro hblank
    simp [skipBlanks1?, takeWhile, hrest, hblank] at h
  · intro hstops
    rw [skipBlanks1?, takeWhile_of_passes (.nil c) (List.forall_mem_nil _) hstops]
    rfl

/-! ### Identifiers -/

/-- An identifier that was read is one, and nothing goes on with it. -/
theorem identifier?_eq_some {name : List Char} (h : c.identifier? = some (name, d)) :
    ∃ i : Identifier, i.chars = name ∧ c.Passes i.chars d ∧ Stops isIdentifierPart d.rest := by
  unfold identifier? at h
  split at h
  · cases h
  · next x xs hrest =>
    split at h
    · next hx =>
      have hpasses := c.passes_takeWhile isIdentifierPart
      have hstops := stops_dropWhile isIdentifierPart c.rest
      -- What may begin an identifier may also go on with it, so the run takes it in.
      have hname : (c.takeWhile isIdentifierPart).1 = x :: xs.takeWhile isIdentifierPart := by
        rw [takeWhile, hrest, List.takeWhile_cons_of_pos (isIdentifierPart_of_start hx)]
      obtain ⟨rfl, rfl⟩ := Prod.mk.inj (Option.some.inj h)
      rw [hname] at hpasses
      exact ⟨⟨x, _, hx, fun _ hy => List.mem_takeWhile_imp hy⟩, hname.symm, hpasses, hstops⟩
    · cases h

theorem identifier?_of_passes {i : Identifier} (h : c.Passes i.chars d)
    (hstops : Stops isIdentifierPart d.rest) : c.identifier? = some (i.chars, d) := by
  have hrest : c.rest = i.first :: (i.others ++ d.rest) := h.1
  rw [identifier?, takeWhile_of_passes h i.chars_arePart hstops]
  simp only [hrest, i.first_isStart, if_true]

theorem identifier?_eq_none (hstops : Stops isIdentifierStart c.rest) : c.identifier? = none := by
  unfold identifier?
  split
  · rfl
  · next x xs hrest =>
    rw [hrest, stops_cons] at hstops
    rw [hstops]
    rfl

/-! ### The cursor before a given rest -/

theorem passes_leaving {rest : List Char} (h : c.rest = taken ++ rest) :
    c.Passes taken (c.leaving rest) := by
  have hlength : c.rest.length - rest.length = taken.length := by
    rw [h, List.length_append, Nat.add_sub_cancel]
  have htake : c.rest.take (c.rest.length - rest.length) = taken := by
    rw [hlength, h, List.take_left]
  refine ⟨h, ?_⟩
  rw [leaving, past, htake]

theorem leaving_of_passes (h : c.Passes taken d) : c.leaving d.rest = d :=
  (passes_leaving h.1).unique h

end Cursor

end Stencil
