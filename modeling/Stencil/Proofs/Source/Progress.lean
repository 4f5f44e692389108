import Stencil.Proofs.Source.Stopped

/-!
# Reading makes progress

A template is read in rounds: one round reads a text and the item behind it
(`Stencil.readRound`). A round is the last one, or it stops with an error, or it leaves
less to read than it found. This holds for all delimiters, for empty ones, for two that
are the same and for those that look like operands or blanks, because something has to
stand between the two. So there are at most as many rounds as characters, and one more,
and nothing else ends the reading (`Stencil.Rounds`).

No round waits for more than the source has: where too little is left, it stops at a
place of the source, as it does where something else stands than it expects.

Inside an item parentheses nest. The number of levels that a pipeline may descend never
runs out, since every level costs a character: reading a pipeline is reading commands
whose parentheses hold pipelines that are read the same way
(`Stencil.readPipeline_eq`).
-/

namespace Stencil

open Cursor

/-! ### Rounds -/

/-- **What a round comes to**: the last nodes, an error, or nodes and the place where
the next round begins, with whether its text loses its leading blanks. -/
inductive Round where
  | done (nodes : List Node)
  | stopped (error : SourceError)
  | next (nodes : List Node) (trim : Bool) (after : Cursor)

/-- **One round**: a text, and the item behind it if there is one. -/
def readRound (left right : List Char) (trim : Bool) (c : Cursor) : Round :=
  let (text, opening) := c.splitText left
  if opening.atEnd then .done (textNodes c text trim false)
  else
    match opening.expect? left with
    | none => .stopped (.unexpectedAt opening)
    | some inside =>
      let (trimEnd, body) := inside.openingTrim
      match readItem right opening.offset body with
      | .error e => .stopped e
      | .ok (node, trimNext, after) =>
        .next (textNodes c text trim trimEnd ++ [node]) trimNext after

/-- **A round that makes progress**: it ends the reading, or it stops at a place that it
reached, or it leaves less to read. -/
def Round.Progresses (c : Cursor) : Round → Prop
  | done _ => True
  | stopped e => ∃ place, c.Reaches place ∧ e.offset = place.offset
  | next _ _ after => c.Reaches after ∧ after.rest.length < c.rest.length

/-- **The rounds of a reading**: how many there are, and what they come to. -/
inductive Rounds (left right : List Char) :
    Bool → Cursor → Nat → Except SourceError (List Node) → Prop
  | done {trim : Bool} {c : Cursor} {nodes : List Node}
      (h : readRound left right trim c = .done nodes) : Rounds left right trim c 1 (.ok nodes)
  | stopped {trim : Bool} {c : Cursor} {e : SourceError}
      (h : readRound left right trim c = .stopped e) : Rounds left right trim c 1 (.error e)
  | next {trim trimNext : Bool} {c after : Cursor} {nodes : List Node} {n : Nat}
      {result : Except SourceError (List Node)}
      (h : readRound left right trim c = .next nodes trimNext after)
      (hmore : Rounds left right trimNext after n result) :
      Rounds left right trim c (n + 1) (result.map (nodes ++ ·))

variable {left right : List Char} {trim trimNext : Bool} {c after : Cursor} {nodes : List Node}
  {e : SourceError}

/-- Behind a text that does not go to the end a left delimiter stands. -/
theorem Cursor.prefix_of_splitText {opening : Cursor} {text : List Char}
    (h : c.splitText left = (text, opening)) (hend : opening.atEnd = false) :
    left <+: opening.rest := by
  unfold splitText at h
  cases huntil : c.until? left with
  | none =>
    rw [huntil] at h
    cases h
    cases hend
  | some found =>
    rw [huntil] at h
    obtain rfl : found = (text, opening) := h
    exact (until?_eq_some_iff.mp huntil).2.1

/-- **A round that stops** stops at an item that cannot be read. -/
theorem Stopped.of_readRound (h : readRound left right trim c = .stopped e) :
    Stopped left right c e := by
  unfold readRound at h
  have htext := c.passes_splitText left
  split at h
  next text opening hsplit =>
  rw [hsplit] at htext
  split at h
  · cases h
  · next hend =>
    rw [Bool.not_eq_true] at hend
    split at h
    · next hnone => exact absurd (prefix_of_splitText hsplit hend) (expect?_eq_none_iff.mp hnone)
    · next inside hleft =>
      dsimp only at h
      split at h
      · next hitem =>
        cases h
        exact ⟨opening, inside, htext.reaches, expect?_eq_some_iff.mp hleft, .of_readItem hitem⟩
      · cases h

/-- **A round that is not the last** passes over something. -/
theorem exists_passes_of_readRound (h : readRound left right trim c = .next nodes trimNext after) :
    ∃ taken, taken ≠ [] ∧ c.Passes taken after := by
  unfold readRound at h
  have htext := c.passes_splitText left
  split at h
  next text opening hsplit =>
  rw [hsplit] at htext
  split at h
  · cases h
  · split at h
    · cases h
    · next inside hleft =>
      dsimp only at h
      split at h
      · cases h
      · next hitem =>
        cases h
        obtain ⟨i, -, -, hspan, -⟩ := ItemText.exists_of_itemRead hleft rfl (.of_readItem hitem)
        refine ⟨_, ?_, htext.append hspan⟩
        simp [i.chars_ne_nil]

/-- **Every round makes progress.** -/
theorem readRound_progresses (left right : List Char) (trim : Bool) (c : Cursor) :
    (readRound left right trim c).Progresses c := by
  cases h : readRound left right trim c with
  | done nodes => trivial
  | stopped e => exact (Stopped.of_readRound h).exists_place
  | next nodes trimNext after =>
    obtain ⟨taken, hne, hpasses⟩ := exists_passes_of_readRound h
    refine ⟨hpasses.reaches, ?_⟩
    have hlength := hpasses.length_rest
    have hpos := List.length_pos_iff.mpr hne
    omega

/-- **Nodes are read round by round**, and nothing but a round ends the reading. -/
theorem readNodes_eq (left right : List Char) (trim : Bool) (c : Cursor) :
    readNodes left right trim c =
      match readRound left right trim c with
      | .done nodes => .ok nodes
      | .stopped e => .error e
      | .next nodes trimNext after =>
        (readNodes left right trimNext after).map (nodes ++ ·) := by
  have hround := readRound_progresses left right trim c
  rw [readNodes]
  unfold readRound at hround ⊢
  dsimp only at hround ⊢
  split
  · rfl
  · next hend =>
    rw [if_neg hend] at hround
    cases hleft : (c.splitText left).2.expect? left with
    | none => rfl
    | some inside =>
      simp only [hleft] at hround ⊢
      rcases hitem : readItem right (c.splitText left).2.offset inside.openingTrim.2 with
        e | ⟨node, trimNext, after⟩
      · rfl
      · simp only [hitem] at hround ⊢
        rw [if_pos hround.2]
        cases readNodes left right trimNext after <;> simp [Except.map]

/-- **A reading has an end**, after at most as many rounds as there are characters, and
one more. -/
theorem exists_rounds (left right : List Char) (trim : Bool) (c : Cursor) :
    ∃ n ≤ c.rest.length + 1, Rounds left right trim c n (readNodes left right trim c) := by
  induction hlength : c.rest.length using Nat.strong_induction_on generalizing trim c with
  | _ length ih =>
    have hround := readRound_progresses left right trim c
    rw [readNodes_eq]
    cases h : readRound left right trim c with
    | done nodes => exact ⟨1, by omega, .done h⟩
    | stopped e => exact ⟨1, by omega, .stopped h⟩
    | next nodes trimNext after =>
      rw [h] at hround
      obtain ⟨n, hn, hmore⟩ := ih after.rest.length (hlength ▸ hround.2) trimNext after rfl
      have hless : after.rest.length < c.rest.length := hround.2
      exact ⟨n + 1, by omega, .next h hmore⟩

/-- **A reading that fails** does so at an item that cannot be read. -/
theorem Rounds.stopped_of_error {n : Nat} {result : Except SourceError (List Node)}
    (h : Rounds left right trim c n result) (herror : result = .error e) :
    Stopped left right c e := by
  induction h with
  | done h => cases herror
  | stopped h =>
    cases herror
    exact .of_readRound h
  | @next trim trimNext c after nodes n result h _ ih =>
    obtain ⟨taken, -, hpasses⟩ := exists_passes_of_readRound h
    cases result with
    | ok nodes => cases herror
    | error e' =>
      cases herror
      exact (ih rfl).of_reaches hpasses.reaches

/-- **A source that cannot be read** has an item that cannot be read. -/
theorem stopped_of_parse {delimiters : Delimiters} {source : String}
    (h : parse delimiters source = .error e) :
    Stopped delimiters.left.toList delimiters.right.toList (start source) e := by
  obtain ⟨n, -, hrounds⟩ := exists_rounds delimiters.left.toList delimiters.right.toList false
    (start source)
  exact hrounds.stopped_of_error h

/-! ### Levels of parentheses -/

section

variable {α : Type}

/-- **Two readers agree** wherever no more than so many characters are left. -/
def AgreeUpTo (n : Nat) (first second : Cursor → Reading α) : Prop :=
  ∀ c : Cursor, c.rest.length ≤ n → first c = second c

variable {separator? : Cursor → Option Cursor} {first second : Cursor → Reading α} {n : Nat}
  (hseparator : ∀ c d : Cursor, separator? c = some d → c.Reaches d)

include hseparator

theorem AgreeUpTo.readMore (h : AgreeUpTo n first second) :
    AgreeUpTo n (readMore separator? first) (readMore separator? second) := by
  intro c hc
  induction hlength : c.rest.length using Nat.strong_induction_on generalizing c with
  | _ length ih =>
    rw [Stencil.readMore, Stencil.readMore]
    cases hd : separator? c with
    | none => rfl
    | some d =>
      dsimp only
      rw [h d ((hseparator c d hd).length_le.trans hc)]
      rcases second d with (_ | _) | ⟨a, e⟩
      · rfl
      · rfl
      · dsimp only
        split
        · next hless => rw [ih e.rest.length (hlength ▸ hless) e (by omega) rfl]
        · rfl

theorem AgreeUpTo.readList (h : AgreeUpTo n first second) (hforward : Forward second) :
    AgreeUpTo n (readList separator? first) (readList separator? second) := by
  intro c hc
  rw [Stencil.readList, Stencil.readList, h c hc]
  cases hfirst : second c with
  | error stop => rfl
  | ok found =>
    obtain ⟨a, d⟩ := found
    dsimp only
    rw [h.readMore hseparator d ((hforward.ok hfirst).length_le.trans hc)]

end

variable {first second : Cursor → Reading Operand} {n : Nat}

theorem AgreeUpTo.readCommand (h : AgreeUpTo n first second) (hforward : Forward second) :
    AgreeUpTo n (readCommand first) (readCommand second) := by
  intro c hc
  rw [Stencil.readCommand, Stencil.readCommand,
    h.readList (fun _ _ => reaches_of_skipBlanks1?) hforward c hc]

theorem AgreeUpTo.readPipelineOf (h : AgreeUpTo n first second) (hforward : Forward second) :
    AgreeUpTo n (readPipelineOf first) (readPipelineOf second) := by
  intro c hc
  have hbar : ∀ c d : Cursor, separator? '|' c = some d → c.Reaches d := fun _ _ =>
    reaches_of_separator?
  have hcommands := (h.readCommand hforward).readList hbar (forward_readCommand hforward)
    ((readDeclarations? c).getD ([], c)).2 ((reaches_declarations c).length_le.trans hc)
  unfold Stencil.readPipelineOf
  dsimp only
  rw [hcommands]

/-- An operand depends on pipelines only where less is left to read. -/
theorem readChoice_congr {first second : Cursor → Reading (Pipeline Operand)}
    (h : ∀ d : Cursor, d.rest.length < c.rest.length → first d = second d) :
    readChoice first c = readChoice second c := by
  have hparenthesized : readParenthesized first c = readParenthesized second c := by
    unfold readParenthesized
    cases hopen : c.expect? ['('] with
    | none => rfl
    | some inside =>
      have hlength := (expect?_eq_some_iff.mp hopen).length_rest
      have hblanks := inside.reaches_skipBlanks.length_le
      rw [List.length_singleton] at hlength
      dsimp only
      rw [h inside.skipBlanks (by omega)]
  unfold readChoice
  rw [hparenthesized]

/-- **Levels enough are enough**: as many as there are characters left. -/
theorem agreeUpTo_readOperand {depth depth' : Nat} (hdepth : n ≤ depth) (hdepth' : n ≤ depth') :
    AgreeUpTo n (readOperand depth) (readOperand depth') := by
  induction n generalizing depth depth' with
  | zero =>
    intro c hc
    obtain ⟨pipeline, hpipeline⟩ := exists_readOperand_eq depth
    obtain ⟨pipeline', hpipeline'⟩ := exists_readOperand_eq depth'
    rw [hpipeline, hpipeline']
    exact readChoice_congr fun d hd => by omega
  | succ n ih =>
    obtain ⟨depth, rfl⟩ := Nat.exists_eq_add_of_le' hdepth
    obtain ⟨depth', rfl⟩ := Nat.exists_eq_add_of_le' hdepth'
    intro c hc
    have hagree := (ih (Nat.le_add_left n depth) (Nat.le_add_left n depth')).readPipelineOf
      (forward_readOperand _)
    exact readChoice_congr fun d hd => hagree d (by omega)

/-- **Parentheses may nest to any depth**: in reading a pipeline, the pipelines in its
parentheses are read as it is itself. -/
theorem readPipeline_eq (c : Cursor) :
    readPipeline c = readPipelineOf (readChoice readPipeline) c := by
  refine AgreeUpTo.readPipelineOf (fun d hd => ?_) (forward_readChoice forward_readPipeline) c
    le_rfl
  rw [agreeUpTo_readOperand le_rfl (Nat.le_succ _) d hd]
  refine readChoice_congr fun e he => ?_
  have hagree := agreeUpTo_readOperand (he.le.trans hd) le_rfl
  exact hagree.readPipelineOf (forward_readOperand _) e le_rfl

/-- **Reading always makes progress**, for all sources and delimiters. Every round ends
the reading, or stops at a place of the source, or leaves less to read; so the reading
has an end, after at most one round more than there are characters. Inside an item
nothing else can end it: the levels of parentheses have no bound, and a pipeline that
cannot be read stops at a place of the source. -/
theorem parse_progresses (delimiters : Delimiters) (source : String) :
    (∀ trim c, (readRound delimiters.left.toList delimiters.right.toList trim c).Progresses c) ∧
    (∃ n ≤ source.length + 1, Rounds delimiters.left.toList delimiters.right.toList false
      (start source) n (parse delimiters source)) ∧
    ∀ c, readPipeline c = readPipelineOf (readChoice readPipeline) c ∧
      c.Reaches (readPipeline c).place := by
  refine ⟨fun trim c => readRound_progresses _ _ trim c, ?_, fun c => ?_⟩
  · rw [← String.length_toList]
    exact exists_rounds _ _ false (start source)
  · exact ⟨readPipeline_eq c, forward_readPipeline c⟩

end Stencil
