import Mathlib.Tactic.Ring
import Stencil.Source.Lines
import Stencil.Proofs.Text.Bytes

/-!
# Lines are counted in line feeds

The number of a line is one more than the number of line feeds before it, counted
among the bytes of the source (`Stencil.LineIndex.lineAt_ofSource`). This holds at
every offset, also inside a character and behind the end: a line feed is one byte,
and no other character has that byte in it.

The index finds the line by halving, which is sound since the starts of the lines are
in order (`Stencil.LineIndex.lt_lineAt_iff`). What the index keeps and what it answers
is put together in `Stencil.LineIndex.ofSource_exact`.
-/

namespace Stencil

/-! ### Line feeds among bytes -/

/-- **The line feeds before an offset**, counted in the bytes of a source. -/
def newlinesBefore (source : String) (offset : Nat) : Nat :=
  (source.toUTF8.data.toList.take offset).count 10

/-- A character other than the line feed has no byte in common with it. -/
theorem newline_notMem_utf8EncodeChar {c : Char} (h : c ≠ '\n') :
    10 ∉ String.utf8EncodeChar c := by
  have hcode : c.val.toNat ≠ 10 := by
    intro hval
    exact h (Char.ext (UInt32.toNat_inj.mp hval))
  -- All bytes of a longer encoding are large, and the only byte of a short one is the code.
  have hbyte (n : Nat) (hlow : n ≠ 10) (hhigh : n < 256) : (10 : UInt8) ≠ UInt8.ofNat n := by
    intro heq
    have hnat := congrArg UInt8.toNat heq
    rw [UInt8.toNat_ofNat', Nat.mod_eq_of_lt hhigh] at hnat
    exact hlow hnat.symm
  rw [String.utf8EncodeChar]
  intro hmem
  split at hmem
  · exact hbyte _ hcode (by omega) (List.mem_singleton.mp hmem)
  · split at hmem
    · simp only [List.mem_cons, List.not_mem_nil, or_false] at hmem
      rcases hmem with hmem | hmem <;> exact hbyte _ (by omega) (by omega) hmem
    · split at hmem
      · simp only [List.mem_cons, List.not_mem_nil, or_false] at hmem
        rcases hmem with hmem | hmem | hmem <;> exact hbyte _ (by omega) (by omega) hmem
      · simp only [List.mem_cons, List.not_mem_nil, or_false] at hmem
        rcases hmem with hmem | hmem | hmem | hmem <;> exact hbyte _ (by omega) (by omega) hmem

/-! ### Where lines start -/

/-- Lines start behind the place from which they are counted. -/
theorem lt_of_mem_lineStarts {cs : List Char} {offset start : Nat}
    (h : start ∈ lineStarts offset cs) : offset < start := by
  induction cs generalizing offset with
  | nil => simp [lineStarts] at h
  | cons c cs ih =>
    have hsize := c.utf8Size_pos
    rw [lineStarts] at h
    split at h
    · rcases List.mem_cons.mp h with rfl | h
      · omega
      · exact Nat.lt_of_le_of_lt (Nat.le_add_right _ _) (ih h)
    · exact Nat.lt_of_le_of_lt (Nat.le_add_right _ _) (ih h)

/-- **Lines start in order**, and no two of them at one place. -/
theorem pairwise_lineStarts (offset : Nat) (cs : List Char) :
    (lineStarts offset cs).Pairwise (· < ·) := by
  induction cs generalizing offset with
  | nil => exact .nil
  | cons c cs ih =>
    rw [lineStarts]
    split
    · exact .cons (fun _ => lt_of_mem_lineStarts) (ih _)
    · exact ih _

/-- **The line starts up to an offset are as many as the line feeds before it.** -/
theorem length_takeWhile_lineStarts (cs : List Char) (offset count : Nat) :
    ((lineStarts offset cs).takeWhile (· ≤ offset + count)).length =
      ((utf8Bytes cs).take count).count 10 := by
  induction cs generalizing offset count with
  | nil => simp [lineStarts, utf8Bytes]
  | cons c cs ih =>
    rw [lineStarts, utf8Bytes_cons]
    split
    · next hc =>
      subst hc
      have hsize : '\n'.utf8Size = 1 := by decide
      have hbytes : String.utf8EncodeChar '\n' = [10] := by decide
      rw [hsize, hbytes]
      cases count with
      | zero => simp
      | succ count =>
        have hshift : offset + (count + 1) = offset + 1 + count := by omega
        rw [hshift, List.takeWhile_cons_of_pos (by simp), List.length_cons, ih,
          List.singleton_append, List.take_succ_cons, List.count_cons_self]
    · next hc =>
      have hnone := newline_notMem_utf8EncodeChar hc
      have hlength := String.length_utf8EncodeChar c
      rcases Nat.lt_or_ge count c.utf8Size with hlt | hge
      · -- The offset falls into this character, and all lines start behind it.
        have hstarts : (lineStarts (offset + c.utf8Size) cs).takeWhile
            (· ≤ offset + count) = [] := by
          cases hlines : lineStarts (offset + c.utf8Size) cs with
          | nil => rfl
          | cons start others =>
            have hstart : offset + c.utf8Size < start :=
              lt_of_mem_lineStarts (hlines ▸ List.mem_cons_self)
            refine List.takeWhile_cons_of_neg ?_
            rw [decide_eq_true_eq]
            omega
        have htake : (String.utf8EncodeChar c ++ utf8Bytes cs).take count =
            (String.utf8EncodeChar c).take count :=
          List.take_append_of_le_length (by omega)
        rw [hstarts, htake, List.length_nil, eq_comm, List.count_eq_zero]
        exact fun hmem => hnone (List.mem_of_mem_take hmem)
      · -- The offset lies behind it, and its bytes hold no line feed.
        obtain ⟨more, rfl⟩ := Nat.exists_eq_add_of_le hge
        have htake : (String.utf8EncodeChar c ++ utf8Bytes cs).take (c.utf8Size + more) =
            String.utf8EncodeChar c ++ (utf8Bytes cs).take more := by
          rw [← hlength, List.take_length_add_append]
        rw [← Nat.add_assoc, ih, htake, List.count_append, List.count_eq_zero.mpr hnone,
          Nat.zero_add]

/-- The bytes of a character are line feeds if the character is one. -/
theorem getElem?_utf8Bytes_cons_eq_newline {c : Char} {cs : List Char} {i : Nat}
    (hi : i < c.utf8Size) : (utf8Bytes (c :: cs))[i]? = some 10 ↔ c = '\n' := by
  rw [← String.length_utf8EncodeChar] at hi
  rw [utf8Bytes_cons, List.getElem?_append_left hi]
  constructor
  · intro hbyte
    by_contra hc
    exact newline_notMem_utf8EncodeChar hc (List.mem_of_getElem? hbyte)
  · rintro rfl
    obtain rfl : i = 0 := Nat.lt_one_iff.mp hi
    rfl

/-- **Lines start right behind the line feeds**, and nowhere else. -/
theorem mem_lineStarts_iff {cs : List Char} {offset start : Nat} :
    start ∈ lineStarts offset cs ↔
      ∃ i, (utf8Bytes cs)[i]? = some 10 ∧ start = offset + i + 1 := by
  induction cs generalizing offset with
  | nil => simp [lineStarts, utf8Bytes]
  | cons c cs ih =>
    have hstarts : start ∈ lineStarts offset (c :: cs) ↔
        (c = '\n' ∧ start = offset + c.utf8Size) ∨ start ∈ lineStarts (offset + c.utf8Size) cs := by
      rw [lineStarts]
      split <;> simp [*]
    have hsize : c = '\n' → c.utf8Size = 1 := by
      rintro rfl
      rfl
    -- What comes behind this character stands as many bytes further on.
    have hbehind (i : Nat) :
        (utf8Bytes (c :: cs))[c.utf8Size + i]? = (utf8Bytes cs)[i]? := by
      rw [utf8Bytes_cons, ← String.length_utf8EncodeChar,
        List.getElem?_append_right (Nat.le_add_right _ _), Nat.add_sub_cancel_left]
    rw [hstarts, ih]
    constructor
    · rintro (⟨hc, rfl⟩ | ⟨i, hbyte, rfl⟩)
      · exact ⟨0, (getElem?_utf8Bytes_cons_eq_newline c.utf8Size_pos).mpr hc, by rw [hsize hc]⟩
      · exact ⟨c.utf8Size + i, by rw [hbehind, hbyte], by omega⟩
    · rintro ⟨i, hbyte, rfl⟩
      rcases Nat.lt_or_ge i c.utf8Size with hlt | hge
      · have hc := (getElem?_utf8Bytes_cons_eq_newline hlt).mp hbyte
        rw [hsize hc] at hlt ⊢
        exact .inl ⟨hc, by omega⟩
      · obtain ⟨i, rfl⟩ := Nat.exists_eq_add_of_le hge
        exact .inr ⟨i, by rw [← hbehind, hbyte], by omega⟩

/-! ### The search -/

/-- **The search finds the place from which on a test fails**, if there are rounds enough
to halve the range: the places that pass the test are those below the answer. -/
theorem lt_firstFailing_iff {test : Nat → Bool} (hclosed : ∀ i j, i ≤ j → test j → test i)
    {rounds low high : Nat} (hrounds : high - low < 2 ^ rounds) (hlow : ∀ i < low, test i)
    (hhigh : ¬test high) (i : Nat) : i < firstFailing test rounds low high ↔ test i := by
  -- All places below `low` pass and none from `high` on does, and in the end the two meet.
  have hmeet {low high : Nat} (hge : high ≤ low) (hlow : ∀ i < low, test i)
      (hhigh : ¬test high) : i < low ↔ test i := by
    refine ⟨hlow i, fun hi => Nat.lt_of_not_le fun hle => hhigh ?_⟩
    exact hclosed high i (Nat.le_trans hge hle) hi
  fun_induction firstFailing test rounds low high with
  | case1 low high =>
    rw [Nat.pow_zero] at hrounds
    exact hmeet (by omega) hlow hhigh
  | case2 rounds low high hlt middle hmiddle ih =>
    rw [Nat.pow_succ] at hrounds
    exact ih (by omega) (fun j hj => hclosed j middle (by omega) hmiddle) hhigh
  | case3 rounds low high hlt middle hmiddle ih =>
    rw [Nat.pow_succ] at hrounds
    exact ih (by omega) hlow hmiddle
  | case4 rounds low high hge => exact hmeet (Nat.le_of_not_lt hge) hlow hhigh

namespace LineIndex

variable {index : LineIndex} (h : index.starts.Pairwise (· < ·))

include h

/-- The starts at or below an offset come before all others. -/
theorem any_le_of_le {offset i j : Nat} (hle : i ≤ j)
    (hj : index.starts[j]?.any (· ≤ offset)) : index.starts[i]?.any (· ≤ offset) := by
  obtain ⟨start, hstart, hoffset⟩ := (Option.any_eq_true _ _).mp hj
  obtain ⟨hlength, rfl⟩ := List.getElem?_eq_some_iff.mp hstart
  have hi : i < index.starts.length := Nat.lt_of_le_of_lt hle hlength
  rw [List.getElem?_eq_getElem hi, Option.any_some, decide_eq_true_eq]
  rw [decide_eq_true_eq] at hoffset
  rcases Nat.lt_or_eq_of_le hle with hlt | rfl
  · exact Nat.le_trans (List.pairwise_iff_getElem.mp h i j hi hlength hlt).le hoffset
  · exact hoffset

/-- **The lines up to that of an offset are those that start at or below the offset.** -/
theorem lt_lineAt_iff (offset i : Nat) :
    i + 1 < index.lineAt offset ↔ ∃ start ∈ index.starts[i]?, start ≤ offset := by
  have hend : ¬index.starts[index.starts.length]?.any (· ≤ offset) := by simp
  have hfound := lt_firstFailing_iff (fun i j hle => any_le_of_le h hle)
    (Nat.lt_log2_self (n := index.starts.length))
    (fun i hi => absurd hi (Nat.not_lt_zero i)) hend i
  simp only [lineAt, List.size_toArray, List.getElem?_toArray, Nat.add_lt_add_iff_right]
  rw [hfound, Option.any_eq_true]
  simp

/-- The line number does not go down as the offset goes up. -/
theorem lineAt_mono {a b : Nat} (hle : a ≤ b) : index.lineAt a ≤ index.lineAt b := by
  by_contra hlt
  obtain ⟨i, hi⟩ : ∃ i, index.lineAt b = i + 1 := ⟨_, rfl⟩
  obtain ⟨start, hstart, ha⟩ := (lt_lineAt_iff h a i).mp (by omega)
  have hbelow := (lt_lineAt_iff h b i).mpr ⟨start, hstart, Nat.le_trans ha hle⟩
  omega

end LineIndex

/-- From the front of a list in order exactly the entries up to an offset are taken. -/
theorem lt_length_takeWhile_iff {starts : List Nat} (h : starts.Pairwise (· < ·))
    (offset i : Nat) :
    i < (starts.takeWhile (· ≤ offset)).length ↔ ∃ start ∈ starts[i]?, start ≤ offset := by
  induction starts generalizing i with
  | nil => simp
  | cons first others ih =>
    obtain ⟨hfirst, hothers⟩ := List.pairwise_cons.mp h
    by_cases hle : first ≤ offset
    · rw [List.takeWhile_cons_of_pos (by simpa using hle), List.length_cons]
      cases i with
      | zero => simpa using hle
      | succ i => rw [Nat.add_lt_add_iff_right, ih hothers, List.getElem?_cons_succ]
    · rw [List.takeWhile_cons_of_neg (by simpa using hle), List.length_nil]
      refine iff_of_false (Nat.not_lt_zero i) ?_
      rintro ⟨start, hstart, hoffset⟩
      rcases List.mem_cons.mp (List.mem_of_getElem? hstart) with rfl | hmem
      · exact hle hoffset
      · exact hle (Nat.le_trans (hfirst start hmem).le hoffset)

/-- The starts that an index keeps are in order. -/
theorem LineIndex.pairwise_starts (source : String) :
    (ofSource source).starts.Pairwise (· < ·) :=
  pairwise_lineStarts 0 source.toList

/-- **The line of an offset** is one more than the number of line feeds before it. -/
theorem LineIndex.lineAt_ofSource (source : String) (offset : Nat) :
    (LineIndex.ofSource source).lineAt offset = newlinesBefore source offset + 1 := by
  have hcount := length_takeWhile_lineStarts source.toList 0 offset
  rw [Nat.zero_add] at hcount
  obtain ⟨line, hline⟩ : ∃ line, (ofSource source).lineAt offset = line + 1 := ⟨_, rfl⟩
  rw [newlinesBefore, data_toUTF8, ← hcount, hline, Nat.add_right_cancel_iff]
  refine eq_of_forall_lt_iff fun i => ?_
  have hshift : i < line ↔ i + 1 < (ofSource source).lineAt offset := by omega
  rw [hshift, lt_lineAt_iff (pairwise_starts source),
    ← lt_length_takeWhile_iff (pairwise_starts source)]
  rfl

/-- **The line index is exact.** Its starts are the places right behind the line feeds of
the source, each larger than the one before. So the search is sound at every offset: the
starts up to the offset are those of the lines up to the one that is found. This line is
one more than the number of line feeds before the offset, and it does not go back when the
offset goes on. -/
theorem LineIndex.ofSource_exact (source : String) :
    (∀ start, start ∈ (ofSource source).starts ↔
      ∃ i, source.toUTF8.data.toList[i]? = some 10 ∧ start = i + 1) ∧
    (ofSource source).starts.Pairwise (· < ·) ∧
    (∀ offset i, i + 1 < (ofSource source).lineAt offset ↔
      ∃ start ∈ (ofSource source).starts[i]?, start ≤ offset) ∧
    (∀ offset, (ofSource source).lineAt offset = newlinesBefore source offset + 1) ∧
    Monotone (ofSource source).lineAt := by
  have hstarts := pairwise_starts source
  refine ⟨fun start => ?_, hstarts, lt_lineAt_iff hstarts, lineAt_ofSource source,
    fun _ _ => lineAt_mono hstarts⟩
  rw [data_toUTF8, ofSource, mem_lineStarts_iff]
  simp only [Nat.zero_add]

-- Offsets inside a character of two bytes, at both line feeds and behind the end.
example : [0, 1, 2, 3, 4, 100].map (LineIndex.ofSource "é\n\nb").lineAt = [1, 1, 1, 2, 3, 3] := by
  decide

end Stencil
