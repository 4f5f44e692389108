import Mathlib.Data.Set.Basic
import Stencil.Text.Blank

/-!
# Places in a text

A source is read character by character, and every place in it is given as a number
of bytes. This file relates the two. A number of bytes is a place only if it falls
between two characters (`Stencil.IsBoundary`), and a text stands at a place if it
comes next there (`Stencil.StandsAt`). The places of its own characters are
`Stencil.charOffsets`.
-/

namespace Stencil

/-! ### Byte lengths -/

/-- The bytes of a text in UTF-8. -/
def utf8Bytes (cs : List Char) : List UInt8 := cs.flatMap String.utf8EncodeChar

theorem utf8Bytes_cons (c : Char) (cs : List Char) :
    utf8Bytes (c :: cs) = String.utf8EncodeChar c ++ utf8Bytes cs :=
  List.flatMap_cons

theorem data_toUTF8 (s : String) : s.toUTF8.data.toList = utf8Bytes s.toList := by
  have hbytes : s.toUTF8 = s.toList.utf8Encode := String.utf8Encode_toList.symm
  rw [hbytes, List.utf8Encode, List.data_toByteArray, List.toList_toArray, utf8Bytes]

theorem byteLength_eq_size (cs : List Char) : byteLength cs = cs.utf8Encode.size := by
  induction cs with
  | nil => rfl
  | cons c cs ih =>
    rw [byteLength_cons, ih, List.utf8Encode_cons, ByteArray.size_append, List.utf8Encode_singleton,
      List.size_toByteArray, String.length_utf8EncodeChar]

theorem byteLength_toList (s : String) : byteLength s.toList = s.utf8ByteSize := by
  rw [byteLength_eq_size, String.utf8Encode_toList, String.utf8ByteSize]

/-- A text that is not empty has bytes. -/
theorem byteLength_pos {cs : List Char} (h : cs ≠ []) : 0 < byteLength cs := by
  obtain ⟨c, rest, rfl⟩ := List.exists_cons_of_ne_nil h
  have hsize := c.utf8Size_pos
  rw [byteLength_cons]
  omega

/-! ### Places -/

/-- **A text stands at a place** of a source, given in bytes. -/
def StandsAt (source : String) (pos : Nat) (text : List Char) : Prop :=
  ∃ before after, source.toList = before ++ (text ++ after) ∧ byteLength before = pos

/-- **A place between two characters** of a source, or at one of its ends. -/
def IsBoundary (source : String) (pos : Nat) : Prop := StandsAt source pos []

variable {source : String} {pos : Nat} {text more : List Char}

/-- The front of a text stands where the text stands. -/
theorem StandsAt.front (h : StandsAt source pos (text ++ more)) : StandsAt source pos text := by
  obtain ⟨before, after, hsource, hpos⟩ := h
  exact ⟨before, more ++ after, by rw [hsource, List.append_assoc], hpos⟩

/-- The rest of a text stands behind its front. -/
theorem StandsAt.behind (h : StandsAt source pos (text ++ more)) :
    StandsAt source (pos + byteLength text) more := by
  obtain ⟨before, after, hsource, hpos⟩ := h
  refine ⟨before ++ text, after, ?_, ?_⟩
  · rw [hsource, List.append_assoc, List.append_assoc]
  · rw [byteLength_append, hpos]

theorem StandsAt.isBoundary (h : StandsAt source pos text) : IsBoundary source pos := by
  rw [← List.nil_append text] at h
  exact h.front

/-- What stands somewhere ends within the source. -/
theorem StandsAt.le_size (h : StandsAt source pos text) :
    pos + byteLength text ≤ source.utf8ByteSize := by
  obtain ⟨before, after, hsource, hpos⟩ := h
  rw [← byteLength_toList, hsource, byteLength_append, byteLength_append, hpos]
  omega

theorem IsBoundary.le_size (h : IsBoundary source pos) : pos ≤ source.utf8ByteSize :=
  StandsAt.le_size h

/-! ### The characters of a text -/

/-- **The offsets of the characters** of a text that stands at an offset. -/
def charOffsets (offset : Nat) (text : List Char) : Set Nat :=
  {o | ∃ before x after, text = before ++ x :: after ∧ o = offset + byteLength before}

variable {offset o : Nat} {before after whole : List Char}

theorem self_mem_charOffsets (offset : Nat) (h : text ≠ []) : offset ∈ charOffsets offset text := by
  obtain ⟨x, rest, rfl⟩ := List.exists_cons_of_ne_nil h
  exact ⟨[], x, rest, rfl, rfl⟩

/-- The characters of the front of a text are characters of the text. -/
theorem charOffsets_front (h : whole = text ++ after) :
    charOffsets offset text ⊆ charOffsets offset whole := by
  rintro o ⟨first, x, rest, rfl, rfl⟩
  exact ⟨first, x, rest ++ after, by simp [h], rfl⟩

/-- The characters of the rest of a text are characters of the text. -/
theorem charOffsets_back (h : whole = before ++ text) :
    charOffsets (offset + byteLength before) text ⊆ charOffsets offset whole := by
  rintro o ⟨first, x, rest, rfl, rfl⟩
  refine ⟨before ++ first, x, rest, ?_, ?_⟩
  · simp [h]
  · rw [byteLength_append, Nat.add_assoc]

/-- The characters of a text lie between its two ends. -/
theorem bounds_of_mem_charOffsets (h : o ∈ charOffsets offset text) :
    offset ≤ o ∧ o < offset + byteLength text := by
  obtain ⟨first, x, rest, rfl, rfl⟩ := h
  have hpos := byteLength_pos (List.cons_ne_nil x rest)
  rw [byteLength_append]
  omega

/-- Where a text stands, its characters have their places. -/
theorem StandsAt.isBoundary_of_mem (h : StandsAt source offset text)
    (ho : o ∈ charOffsets offset text) : IsBoundary source o := by
  obtain ⟨first, x, rest, rfl, rfl⟩ := ho
  exact h.behind.isBoundary

end Stencil
