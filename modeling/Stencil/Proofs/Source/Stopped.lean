import Stencil.Proofs.Source.Forward

/-!
# Where reading stops

A source that cannot be read has an item that cannot be read: it stands behind a left
delimiter, and what is wrong with it is said in `Stencil.ItemStopped` without the
functions that read it. Its right delimiter is missing, or it begins as a comment and
does not end as one, or a command is missing where a bar or the right delimiter stands,
or something stands in it that is not expected there. Whatever it is, it is reported at
a place of the source (`Stencil.Stopped.exists_place`).
-/

namespace Stencil

open Cursor

/-- **Why an item cannot be read**, from behind its left delimiter and trim marker. -/
inductive ItemStopped (right : List Char) (pos : Nat) (body : Cursor) : SourceError → Prop
  | unclosed (h : ¬right <:+: body.rest) : ItemStopped right pos body (.unclosedAction pos)
  | comment {inside : Cursor} (hopens : body.skipBlanks.Passes ['/', '*'] inside)
      (h : readComment? right body.skipBlanks = none) :
      ItemStopped right pos body (.unclosedComment pos)
  | missing {place behind : Cursor} {mark : List Char} (hplace : body.Reaches place)
      (hmark : mark = ['|'] ∨ mark = right) (h : place.Passes mark behind) :
      ItemStopped right pos body (.emptyCommand place.offset)
  | unexpected {place : Cursor} (hplace : body.Reaches place) :
      ItemStopped right pos body (.unexpectedAt place)

/-- **Why a source cannot be read** from a cursor on: there is a left delimiter further
on, and the item behind it cannot be read. -/
def Stopped (left right : List Char) (c : Cursor) (e : SourceError) : Prop :=
  ∃ opening inside, c.Reaches opening ∧ opening.Passes left inside ∧
    ItemStopped right opening.offset inside.openingTrim.2 e

variable {left right : List Char} {pos : Nat} {c d body : Cursor} {e : SourceError}

theorem exists_passes_of_startsWith {text : List Char} (h : c.startsWith text = true) :
    ∃ d, c.Passes text d := by
  rw [startsWith_eq_isSome] at h
  obtain ⟨d, hd⟩ := Option.isSome_iff_exists.mp h
  exact ⟨d, expect?_eq_some_iff.mp hd⟩

/-- A right delimiter that is found where no blanks stand stands right there. -/
theorem exists_passes_of_close?_skipBlanks (h : (c.skipBlanks.close? right).isSome = true) :
    ∃ d, c.skipBlanks.Passes right d := by
  have hstops : Stops isBlank c.skipBlanks.rest := stops_dropWhile isBlank c.rest
  obtain ⟨⟨trims, d⟩, hclose⟩ := Option.isSome_iff_exists.mp h
  rw [close?, skipBlanks1?_eq_none_iff.mpr hstops, skipBlanks_eq_self hstops] at hclose
  obtain ⟨after, hafter, -⟩ := Option.map_eq_some_iff.mp hclose
  exact ⟨after, expect?_eq_some_iff.mp hafter⟩

theorem ItemStopped.of_readControl (hreach : body.Reaches c)
    (h : readControl right c = .error e) : ItemStopped right pos body e := by
  unfold readControl at h
  split at h
  · cases h
    exact .unexpected hreach
  · next skipped closing huntil =>
    split at h
    · cases h
      exact .unexpected (hreach.trans (until?_eq_some_iff.mp huntil).1.reaches)
    · cases h

theorem ItemStopped.of_readAction (h : readAction right body.skipBlanks = .error e) :
    ItemStopped right pos body e := by
  have hreach := body.reaches_skipBlanks
  unfold readAction at h
  split at h
  · next hmark =>
    cases h
    rcases Bool.or_eq_true_iff.mp hmark with hbar | hclose
    · obtain ⟨behind, hbehind⟩ := exists_passes_of_startsWith hbar
      exact .missing hreach (.inl rfl) hbehind
    · obtain ⟨behind, hbehind⟩ := exists_passes_of_close?_skipBlanks hclose
      exact .missing hreach (.inr rfl) hbehind
  · split at h
    · next stop hstop =>
      cases h
      exact .unexpected (hreach.trans (forward_readPipeline.error hstop))
    · next d hpipeline =>
      split at h
      · cases h
      · have hend := (hreach.trans (forward_readPipeline.ok hpipeline)).trans d.reaches_skipBlanks
        dsimp only at h
        split at h
        · next hbar =>
          cases h
          obtain ⟨behind, hbehind⟩ := exists_passes_of_startsWith hbar
          exact .missing hend (.inl rfl) hbehind
        · cases h
          exact .unexpected hend

/-- **An item that is not read** is not read for one of these reasons. -/
theorem ItemStopped.of_readItem (h : readItem right pos body = .error e) :
    ItemStopped right pos body e := by
  unfold readItem at h
  split at h
  · next hright =>
    cases h
    rw [Bool.not_eq_true', containsText_eq_false_iff] at hright
    exact .unclosed hright
  · dsimp only at h
    split at h
    · next hopens =>
      split at h
      · cases h
      · next hnone =>
        cases h
        obtain ⟨inside, hinside⟩ := exists_passes_of_startsWith hopens
        exact .comment hinside hnone
    · split at h
      · next keyword d hkeyword =>
        have hreach := body.reaches_skipBlanks.trans (exists_of_readKeyword? hkeyword).1.reaches
        split at h
        · cases h
        · next hcontrol =>
          cases h
          exact .of_readControl hreach hcontrol
      · split at h
        · cases h
        · next haction =>
          cases h
          exact .of_readAction haction

/-- What is wrong further on is wrong from here on. -/
theorem Stopped.of_reaches (h : Stopped left right d e) (hreach : c.Reaches d) :
    Stopped left right c e := by
  obtain ⟨opening, inside, hopening, hrest⟩ := h
  exact ⟨opening, inside, hreach.trans hopening, hrest⟩

theorem Cursor.reaches_openingTrim (c : Cursor) : c.Reaches c.openingTrim.2 := by
  unfold openingTrim
  split
  · next hminus =>
    split
    · exact reaches_of_expect? hminus
    · exact .refl c
  · exact .refl c

/-- **Whatever is wrong is reported at a place of the source.** -/
theorem Stopped.exists_place (h : Stopped left right c e) :
    ∃ place, c.Reaches place ∧ e.offset = place.offset := by
  obtain ⟨opening, inside, hopening, hleft, hitem⟩ := h
  have hbody := (hopening.trans hleft.reaches).trans inside.reaches_openingTrim
  cases hitem with
  | unclosed | comment => exact ⟨opening, hopening, rfl⟩
  | missing hplace | unexpected hplace => exact ⟨_, hbody.trans hplace, rfl⟩

end Stencil
