import Stencil.Proofs.Source.Accepted
import Stencil.Proofs.Source.Shape

/-!
# The text of a template

Reading a template loses no text and invents none. A source that is read falls into
texts and items, one behind the other (`Stencil.Segmented`): every item begins at the
first left delimiter behind the item before it, and every text is kept but for the
blanks that the trim markers of its two neighbours take off. The rule for a trim
marker looks at the characters of an item only, and is the same for actions, comments
and control items.
-/

namespace Stencil

/-- **A source, from an offset on, and the nodes of its segments.** The source is a last
text without a left delimiter, or a text, an item between two delimiters and further
segments. The Boolean says whether the first text loses its leading blanks. -/
inductive Segmented (left right : List Char) :
    (trim : Bool) → (offset : Nat) → (source : List Char) → List Node → Prop
  | last {trim : Bool} {offset : Nat} (text : TextPart trim false)
      (hnone : ¬left <:+: text.chars) :
      Segmented left right trim offset text.chars (text.nodes offset)
  | item {trim trimEnd trimNext : Bool} {offset : Nat} (text : TextPart trim trimEnd)
      {inside rest : List Char} {node : Node} {nodes : List Node}
      (hfirst : NoneInside left text.chars (left ++ (inside ++ (right ++ rest))))
      (hopening : trimEnd = true ↔ OpensTrimmed (inside ++ right))
      (hclosing : trimNext = true ↔ ClosesTrimmed (left ++ inside))
      (hkind : ∀ pos s, node ≠ .text pos s) (hpos : node.pos = offset + byteLength text.chars)
      (hrest : Segmented left right trimNext
        (offset + byteLength (text.chars ++ (left ++ (inside ++ right)))) rest nodes) :
      Segmented left right trim offset (text.chars ++ (left ++ (inside ++ (right ++ rest))))
        (text.nodes offset ++ node :: nodes)

variable {left right : List Char}

/-- An item is no text, and its node has the position of its left delimiter. -/
theorem ItemText.node_kind (i : ItemText right) (pos offset : Nat) :
    (∀ p s, i.node pos offset ≠ .text p s) ∧ (i.node pos offset).pos = pos := by
  rw [node]
  cases i.content with
  | comment => exact ⟨by simp [ContentText.node], rfl⟩
  | control => exact ⟨by simp [ContentText.node], rfl⟩
  | action => exact ⟨by simp [ContentText.node], rfl⟩

/-- **A written template falls into its segments.** -/
theorem TemplateText.segmented {trim : Bool} (t : TemplateText left right trim) (offset : Nat) :
    Segmented left right trim offset t.chars (t.nodes offset) := by
  induction t generalizing offset with
  | last text hnone => exact .last text hnone
  | item i text hnone others ih =>
    obtain ⟨hkind, hpos⟩ := i.node_kind (offset + byteLength text.chars)
      (offset + byteLength text.chars + byteLength left)
    -- The content knows of its marker in three ways; in its characters it is the same one.
    have hclosing : i.content.trims = true ↔ ClosesTrimmed (left ++ i.chars) := by
      rw [ItemText.chars, ← List.append_assoc]
      exact (i.content.closesTrimmed_iff (left ++ i.margin.opening)).symm
    refine .item text (hnone.append _) (i.opensTrimmed_iff right).symm hclosing hkind hpos ?_
    rw [byteLength_append, byteLength_append, ← Nat.add_assoc, ← Nat.add_assoc]
    exact ih _

/-- **Reading loses no text and invents none.** If the left delimiter is not empty, every
source that is read falls into segments with exactly the nodes that are read; and a
source without a left delimiter is read as one text, or as none if it is empty. -/
theorem parse_segmented (delimiters : Delimiters) (hleft : delimiters.left ≠ "")
    (source : String) :
    (∀ nodes, parse delimiters source = .ok nodes →
      Segmented delimiters.left.toList delimiters.right.toList false 0 source.toList nodes) ∧
    (¬delimiters.left.toList <:+: source.toList →
      parse delimiters source = .ok (if source = "" then [] else [.text 0 source])) := by
  have hne : delimiters.left.toList ≠ [] := by
    simpa using hleft
  constructor
  · intro nodes h
    obtain ⟨t, hchars, rfl⟩ := TemplateText.exists_of_nodesRead hne (.of_readNodes h)
    have hsegmented := t.segmented 0
    rwa [hchars] at hsegmented
  · intro hnone
    have hsplit : (Cursor.start source).splitText delimiters.left.toList =
        (source.toList, (Cursor.start source).past source.toList []) := by
      rw [Cursor.splitText, Cursor.until?_eq_none_iff.mpr hnone]
      rfl
    rw [parse, readNodes, hsplit]
    simp [Cursor.atEnd, Cursor.past, Cursor.start, textNodes]

theorem parse_segmented_comment : Delimiters.standard.left ≠ "" ∧
    ∃ nodes, parse .standard "a \x7b\x7b- /* c */ -\x7d\x7d\n b" = .ok nodes ∧
      nodes.map Node.pos = [0, 2, 19] ∧
      Segmented Delimiters.standard.left.toList Delimiters.standard.right.toList false 0
        "a \x7b\x7b- /* c */ -\x7d\x7d\n b".toList nodes := by
  refine ⟨by decide, ?_⟩
  have hpos : (parse .standard "a \x7b\x7b- /* c */ -\x7d\x7d\n b").toOption.map
      (List.map Node.pos) = some [0, 2, 19] := by
    decide +kernel
  cases h : parse .standard "a \x7b\x7b- /* c */ -\x7d\x7d\n b" with
  | error e =>
    rw [h] at hpos
    cases hpos
  | ok nodes =>
    rw [h] at hpos
    exact ⟨nodes, rfl, Option.some.inj hpos,
      (parse_segmented .standard (by decide) _).1 nodes h⟩

end Stencil
