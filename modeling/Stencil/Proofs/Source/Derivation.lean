import Stencil.Source.Nodes

/-!
# Successful readings

What it takes for a reading to succeed, said once for each reader as a derivation:
which smaller readings succeeded, in which order, and how their results were put
together. What holds of everything that can be read is then an induction over
derivations, and no proof has to follow the ways in which a reading can fail.

The derivations are `Stencil.FurtherRead` for the items of a list,
`Stencil.ItemRead` for what stands between two delimiters, and
`Stencil.NodesRead` for a whole source.
-/

namespace Stencil

/-! ### Lists -/

section

variable {α : Type} (separator? : Cursor → Option Cursor) (item : Cursor → Reading α)

/-- **Further items of a list**, each after a separator. -/
inductive FurtherRead : Cursor → List α → Cursor → Prop
  | done (c : Cursor) : FurtherRead c [] c
  | more {c d e after : Cursor} {a : α} {as : List α} (hseparator : separator? c = some d)
      (hitem : item d = .ok (a, e)) (hmore : FurtherRead e as after) :
      FurtherRead c (a :: as) after

variable {separator? item}

theorem furtherRead_of_readMore {c after : Cursor} {as : List α}
    (h : readMore separator? item c = .ok (as, after)) :
    FurtherRead separator? item c as after := by
  fun_induction readMore separator? item c generalizing as after with
  | case1 c _ | case2 c d _ _ _ =>
    cases h
    exact .done c
  | case4 c d hseparator a e hitem _ more after' hmore ih =>
    cases h
    exact .more hseparator hitem (ih hmore)
  | case3 | case5 | case6 => cases h

theorem furtherRead_of_readList {c after : Cursor} {as : List α}
    (h : readList separator? item c = .ok (as, after)) :
    ∃ a d more, as = a :: more ∧ item c = .ok (a, d) ∧
      FurtherRead separator? item d more after := by
  unfold readList at h
  split at h
  · cases h
  · next a d hitem =>
    split at h
    · next more after' hmore =>
      cases h
      exact ⟨a, d, more, rfl, hitem, furtherRead_of_readMore hmore⟩
    · cases h

/-- What holds of every item holds of all items of a list. -/
theorem forall_of_readList {P : α → Prop} (hP : ∀ c a d, item c = .ok (a, d) → P a)
    {c after : Cursor} {as : List α} (h : readList separator? item c = .ok (as, after)) :
    ∀ a ∈ as, P a := by
  obtain ⟨a, d, more, rfl, hitem, hmore⟩ := furtherRead_of_readList h
  have hfurther : ∀ a ∈ more, P a := by
    clear h hitem
    induction hmore with
    | done => simp
    | more _ hitem _ ih => exact List.forall_mem_cons.mpr ⟨hP _ _ _ hitem, ih⟩
  exact List.forall_mem_cons.mpr ⟨hP _ _ _ hitem, hfurther⟩

end

/-! ### Operands and pipelines -/

/-- **An operand that was read**, by the reader that accepted it. -/
inductive OperandRead (pipeline : Cursor → Reading (Pipeline Operand)) (c : Cursor) :
    Operand → Cursor → Prop
  | marked {o : Operand} {after : Cursor} (h : readMarked? c = some (o, after)) :
      OperandRead pipeline c o after
  | numeral {n : Number} {after : Cursor} (h : c.numeral = .complete n after) :
      OperandRead pipeline c (.number n) after
  | parenthesized {p : Pipeline Operand} {inside closing after : Cursor}
      (hopen : c.expect? ['('] = some inside)
      (hpipeline : pipeline inside.skipBlanks = .ok (p, closing))
      (hclose : closing.skipBlanks.expect? [')'] = some after) :
      OperandRead pipeline c (.parenthesized p) after
  | word {o : Operand} {after : Cursor} (h : readWord? c = some (o, after)) :
      OperandRead pipeline c o after

theorem OperandRead.of_readChoice {pipeline : Cursor → Reading (Pipeline Operand)}
    {c after : Cursor} {o : Operand} (h : readChoice pipeline c = .ok (o, after)) :
    OperandRead pipeline c o after := by
  -- The forms are tried in this order, and the parentheses last.
  unfold readChoice at h
  split at h
  · next hmarked =>
    cases h
    exact .marked hmarked
  · split at h
    · next hnumeral =>
      cases h
      exact .numeral hnumeral
    · cases h
    · split at h
      · split at h
        · next hword =>
          cases h
          exact .word hword
        · cases h
      · unfold readParenthesized at h
        split at h
        · cases h
        · next inside hopen =>
          split at h
          · cases h
          · cases h
          · next p closing hpipeline =>
            split at h
            · next hclose =>
              cases h
              exact .parenthesized hopen hpipeline hclose
            · cases h

/-- Every operand is read by ordered choice, however deep it stands. -/
theorem exists_readOperand_eq (depth : Nat) :
    ∃ pipeline, readOperand depth = readChoice pipeline := by
  cases depth with
  | zero => exact ⟨_, rfl⟩
  | succ depth => exact ⟨_, rfl⟩

/-! ### Items and nodes -/

/-- **What stands between two delimiters**, from behind the left one to behind the
right one. -/
inductive ItemRead (right : List Char) (pos : Nat) (body : Cursor) : Node → Bool → Cursor → Prop
  | comment {trim : Bool} {after : Cursor}
      (hcomment : readComment? right body.skipBlanks = some (trim, after)) :
      ItemRead right pos body (.comment pos) trim after
  | control {keyword : Keyword} {d after : Cursor} {trim : Bool}
      (hkeyword : readKeyword? body.skipBlanks = some (keyword, d))
      (hcontrol : readControl right d = .ok (trim, after)) :
      ItemRead right pos body (.control pos keyword) trim after
  | action {pipeline : Pipeline Operand} {d after : Cursor} {trim : Bool}
      (hpipeline : readPipeline body.skipBlanks = .ok (pipeline, d))
      (hclose : d.close? right = some (trim, after))
      (hkeyword : readKeyword? body.skipBlanks = none) :
      ItemRead right pos body (.action pos pipeline) trim after

theorem ItemRead.of_readItem {right : List Char} {pos : Nat} {body after : Cursor} {node : Node}
    {trim : Bool} (h : readItem right pos body = .ok (node, trim, after)) :
    ItemRead right pos body node trim after := by
  -- A comment is tried first, then a keyword, and an action is what is left.
  unfold readItem at h
  split at h
  · cases h
  · dsimp only at h
    split at h
    · split at h
      · next hcomment =>
        cases h
        exact .comment hcomment
      · cases h
    · split at h
      · next keyword d hkeyword =>
        split at h
        · next hcontrol =>
          cases h
          exact .control hkeyword hcontrol
        · cases h
      · next hkeyword =>
        split at h
        · next pipeline _ _ haction =>
          cases h
          unfold readAction at haction
          split at haction
          · cases haction
          · split at haction
            · cases haction
            · next hpipeline =>
              split at haction
              · next hclose =>
                cases haction
                exact .action hpipeline hclose hkeyword
              · dsimp only at haction
                split at haction <;> cases haction
        · cases h

/-- **A source that was read**, item by item, up to a text without a left
delimiter. -/
inductive NodesRead (left right : List Char) : Bool → Cursor → List Node → Prop
  | last {trim : Bool} {c opening : Cursor} {text : List Char}
      (hsplit : c.splitText left = (text, opening)) (hend : opening.atEnd = true) :
      NodesRead left right trim c (textNodes c text trim false)
  | item {trim trimEnd trimNext : Bool} {c opening inside body after : Cursor}
      {text : List Char} {node : Node} {nodes : List Node}
      (hsplit : c.splitText left = (text, opening)) (hend : opening.atEnd = false)
      (hleft : opening.expect? left = some inside) (htrim : inside.openingTrim = (trimEnd, body))
      (hitem : ItemRead right opening.offset body node trimNext after)
      (hmore : NodesRead left right trimNext after nodes) :
      NodesRead left right trim c (textNodes c text trim trimEnd ++ node :: nodes)

theorem NodesRead.of_readNodes {left right : List Char} {trim : Bool} {c : Cursor}
    {nodes : List Node} (h : readNodes left right trim c = .ok nodes) :
    NodesRead left right trim c nodes := by
  induction trim, c using readNodes.induct left right generalizing nodes with
  | case1 trim c text opening hsplit hend =>
    rw [readNodes, hsplit] at h
    simp only [hend, if_true, Except.ok.injEq] at h
    rw [← h]
    exact .last hsplit hend
  | case5 trim c text opening hsplit hend inside hleft trimEnd body htrim node trimNext after
      hitem hlength more hmore ih =>
    rw [readNodes, hsplit] at h
    simp only [hend, hleft, htrim, hitem, hlength, hmore, if_true, Bool.false_eq_true, if_false,
      Except.ok.injEq] at h
    rw [← h]
    exact .item hsplit (by simpa using hend) hleft htrim (.of_readItem hitem) (ih hmore)
  | case6 trim c text opening hsplit hend inside hleft trimEnd body htrim node trimNext after
      hitem hlength =>
    rw [readNodes, hsplit] at h
    simp [hend, hleft, htrim, hitem, hlength] at h
  | case2 trim c text opening hsplit hend hleft | case3 trim c text opening hsplit hend _ hleft
  | case4 trim c text opening hsplit hend _ hleft =>
    rw [readNodes, hsplit] at h
    simp_all

end Stencil
