import Stencil.Proofs.Source.Accepted
import Stencil.Proofs.Source.Shape
import Stencil.Proofs.Text.Bytes

/-!
# Readers move forward

No reader goes back. Where one ends, behind what it read or at the place where it
stopped, is reached from where it began over some text of the source
(`Stencil.Cursor.Reaches`, `Stencil.Forward`). So every place that a reader ever gives
is a place of the source, and what stands there can be read off the cursor.

An item passes over both its delimiters (`Stencil.ItemText.exists_of_itemRead`), and there
is always something between them, for all delimiters, empty ones included.
-/

namespace Stencil

namespace Cursor

variable {c d e : Cursor} {taken : List Char}

/-- **A cursor reaches another** over some text. -/
def Reaches (c d : Cursor) : Prop := ∃ taken, c.Passes taken d

theorem Passes.reaches (h : c.Passes taken d) : c.Reaches d := ⟨taken, h⟩

theorem Reaches.refl (c : Cursor) : c.Reaches c := (Passes.nil c).reaches

theorem Reaches.trans (h : c.Reaches d) (h' : d.Reaches e) : c.Reaches e := by
  obtain ⟨taken, htaken⟩ := h
  obtain ⟨more, hmore⟩ := h'
  exact (htaken.append hmore).reaches

theorem Reaches.length_le (h : c.Reaches d) : d.rest.length ≤ c.rest.length := by
  obtain ⟨taken, htaken⟩ := h
  rw [htaken.length_rest]
  omega

theorem Reaches.offset_le (h : c.Reaches d) : c.offset ≤ d.offset := by
  obtain ⟨taken, htaken⟩ := h
  rw [htaken.2]
  omega

theorem reaches_skipBlanks (c : Cursor) : c.Reaches c.skipBlanks :=
  (c.passes_takeWhile isBlank).reaches

theorem reaches_of_expect? {text : List Char} (h : c.expect? text = some d) : c.Reaches d :=
  (expect?_eq_some_iff.mp h).reaches

/-- What a cursor passes over stands at its place of the source. -/
theorem Reaches.standsAt {source : String} (h : (start source).Reaches c)
    (hpasses : c.Passes taken d) : StandsAt source c.offset taken := by
  obtain ⟨before, hbefore⟩ := h
  refine ⟨before, d.rest, ?_, ?_⟩
  · rw [← hpasses.1, ← hbefore.1]
    rfl
  · rw [hbefore.2]
    exact (Nat.zero_add _).symm

/-- The place of a cursor lies between two characters of the source. -/
theorem Reaches.isBoundary {source : String} (h : (start source).Reaches c) :
    IsBoundary source c.offset :=
  h.standsAt (.nil c)

/-- A text up to a left delimiter, or all that is left, is passed over. -/
theorem passes_splitText (c : Cursor) (left : List Char) :
    c.Passes (c.splitText left).1 (c.splitText left).2 := by
  unfold splitText
  cases huntil : c.until? left with
  | none => exact ⟨(List.append_nil _).symm, rfl⟩
  | some found =>
    obtain ⟨text, opening⟩ := found
    exact (until?_eq_some_iff.mp huntil).1

end Cursor

open Cursor

variable {c d : Cursor}

/-! ### Readers of lists -/

section

variable {α : Type}

/-- **Where a reading ends**: behind what was read, or where it stopped. -/
def Reading.place : Reading α → Cursor
  | .ok (_, d) => d
  | .error stop => stop.place

/-- **A reader that only moves forward**, whether it succeeds or stops. -/
def Forward (item : Cursor → Reading α) : Prop := ∀ c : Cursor, c.Reaches (item c).place

theorem Forward.ok {item : Cursor → Reading α} (h : Forward item) {a : α}
    (hitem : item c = .ok (a, d)) : c.Reaches d := by
  have hplace := h c
  rwa [hitem] at hplace

theorem Forward.error {item : Cursor → Reading α} (h : Forward item) {stop : Stop}
    (hitem : item c = .error stop) : c.Reaches stop.place := by
  have hplace := h c
  rwa [hitem] at hplace

variable {separator? : Cursor → Option Cursor} {item : Cursor → Reading α}
  (hseparator : ∀ c d : Cursor, separator? c = some d → c.Reaches d) (hitem : Forward item)

include hseparator hitem

theorem forward_readMore : Forward (readMore separator? item) := by
  intro c
  fun_induction readMore separator? item c with
  | case1 c _ | case2 c _ _ _ _ | case6 c _ _ _ _ _ _ => exact .refl c
  | case3 c d hd place hbroken => exact (hseparator c d hd).trans (hitem.error hbroken)
  | case4 c d hd a e he _ more after hmore ih | case5 c d hd a e he _ stop hmore ih =>
    rw [hmore] at ih
    exact ((hseparator c d hd).trans (hitem.ok he)).trans ih

theorem forward_readList : Forward (readList separator? item) := by
  intro c
  unfold readList
  split
  · next hstop => exact hitem.error hstop
  · next a d hd =>
    have hmore := forward_readMore hseparator hitem d
    split
    · next hok =>
      rw [hok] at hmore
      exact (hitem.ok hd).trans hmore
    · next hstop =>
      rw [hstop] at hmore
      exact (hitem.ok hd).trans hmore

end

/-! ### Operands and pipelines -/

theorem reaches_of_skipBlanks1? (h : c.skipBlanks1? = some d) : c.Reaches d := by
  obtain ⟨taken, -, -, hpasses⟩ := skipBlanks1?_eq_some h
  exact hpasses.reaches

theorem reaches_of_separator? {mark : Char} (h : separator? mark c = some d) : c.Reaches d := by
  obtain ⟨before, after, hpasses⟩ := exists_separator h
  exact hpasses.reaches

theorem forward_readCommand {operand : Cursor → Reading Operand} (h : Forward operand) :
    Forward (readCommand operand) := by
  intro c
  have hlist := forward_readList (fun _ _ => reaches_of_skipBlanks1?) h c
  unfold readCommand
  split
  · next hok => rwa [hok] at hlist
  · next hstop => rwa [hstop] at hlist

/-- The declarations of a pipeline, if there are any, lie before its commands. -/
theorem reaches_declarations (c : Cursor) : c.Reaches ((readDeclarations? c).getD ([], c)).2 := by
  cases hread : readDeclarations? c with
  | none => exact .refl c
  | some declared =>
    obtain ⟨t, hpasses, -⟩ := DeclarationsText.exists_of_readDeclarations? hread
    exact hpasses.reaches

theorem forward_readPipelineOf {operand : Cursor → Reading Operand} (h : Forward operand) :
    Forward (readPipelineOf operand) := by
  intro c
  have hdeclared := reaches_declarations c
  have hbar : ∀ c d : Cursor, separator? '|' c = some d → c.Reaches d := fun _ _ =>
    reaches_of_separator?
  have hlist := forward_readList hbar (forward_readCommand h) ((readDeclarations? c).getD ([], c)).2
  unfold readPipelineOf
  dsimp only
  split
  · next hok =>
    rw [hok] at hlist
    exact hdeclared.trans hlist
  · next hstop =>
    rw [hstop] at hlist
    exact hdeclared.trans hlist

theorem forward_readParenthesized {pipeline : Cursor → Reading (Pipeline Operand)}
    (h : Forward pipeline) : Forward (readParenthesized pipeline) := by
  intro c
  unfold readParenthesized
  split
  · exact .refl c
  · next inside hopen =>
    have hinside : c.Reaches inside.skipBlanks :=
      (reaches_of_expect? hopen).trans inside.reaches_skipBlanks
    split
    · exact .refl c
    · next hbroken => exact hinside.trans (h.error hbroken)
    · next closing hpipeline =>
      split
      · next hclose =>
        exact ((hinside.trans (h.ok hpipeline)).trans closing.reaches_skipBlanks).trans
          (reaches_of_expect? hclose)
      · exact .refl c

theorem forward_readChoice {pipeline : Cursor → Reading (Pipeline Operand)}
    (h : Forward pipeline) : Forward (readChoice pipeline) := by
  intro c
  unfold readChoice
  split
  · next hmarked =>
    obtain ⟨l, hpasses, -⟩ := LeafText.exists_of_readMarked? hmarked
    exact hpasses.reaches
  · split
    · next hnumeral =>
      obtain ⟨n, hpasses, -⟩ := NumeralText.exists_of_numeral hnumeral
      exact hpasses.reaches
    · exact .refl c
    · split
      · split
        · next hword =>
          obtain ⟨l, hpasses, -⟩ := LeafText.exists_of_readWord? hword
          exact hpasses.reaches
        · exact .refl c
      · exact forward_readParenthesized h c

/-- **Reading an operand only moves forward**, however deep it stands. -/
theorem forward_readOperand (depth : Nat) : Forward (readOperand depth) := by
  induction depth with
  | zero => exact forward_readChoice Reaches.refl
  | succ depth ih => exact forward_readChoice (forward_readPipelineOf ih)

/-- **Reading a pipeline only moves forward.** -/
theorem forward_readPipeline : Forward readPipeline :=
  fun c => forward_readPipelineOf (forward_readOperand c.rest.length) c

/-! ### Items -/

/-- There is something in every item. -/
theorem ContentText.chars_ne_nil {right : List Char} (t : ContentText right) : t.chars ≠ [] := by
  cases t with
  | comment inside h margin => exact List.cons_ne_nil _ _
  | control keyword skipped trims hstops hnone htrims =>
    obtain ⟨i, hi⟩ := keyword.exists_identifier
    rw [chars, ← hi]
    exact List.cons_ne_nil _ _
  | action p h margin =>
    obtain ⟨x, xs, hchars, -⟩ := p.beginsOperand
    rw [chars, hchars]
    exact List.cons_ne_nil _ _

theorem ItemText.chars_ne_nil {right : List Char} (i : ItemText right) : i.chars ≠ [] := by
  rw [chars]
  exact List.append_ne_nil_of_right_ne_nil _ i.content.chars_ne_nil

end Stencil
