/-!
# Line numbers

Maps byte offsets of a source to line numbers, counted from one. The index keeps
the offset of the first byte of every line after the first, so the number of a
line is one more than the number of such starts at or below the offset. The starts
are in order, so the first one behind an offset is found by halving.
-/

namespace Stencil

/-! ### Searching -/

/-- Searches the places from `low` on and below `high` for the first one that fails a
test, and halves the range in each round; if none fails, the answer is `high`. The test
is meant to hold up to some place and to fail from there on. -/
def firstFailing (test : Nat → Bool) : (rounds low high : Nat) → Nat
  | 0, low, _ => low
  | rounds + 1, low, high =>
    if low < high then
      let middle := low + (high - low) / 2
      if test middle then firstFailing test rounds (middle + 1) high
      else firstFailing test rounds low middle
    else low

/-! ### Where lines start -/

/-- The offsets just after the line feeds of a text that begins at `offset`. -/
def lineStarts (offset : Nat) : List Char → List Nat
  | [] => []
  | c :: cs =>
    let next := offset + c.utf8Size
    if c = '\n' then next :: lineStarts next cs else lineStarts next cs

/-- Where the lines of a source start, from the second one on. -/
structure LineIndex where
  starts : List Nat

namespace LineIndex

/-- The index of a source. -/
def ofSource (source : String) : LineIndex := ⟨lineStarts 0 source.toList⟩

/-- **The line of an offset**, counted from one: the first start behind the offset is
searched for, and the line is the one before it. -/
def lineAt (index : LineIndex) (offset : Nat) : Nat :=
  let starts := index.starts.toArray
  firstFailing (fun i => starts[i]?.any (· ≤ offset)) (starts.size.log2 + 1) 0 starts.size + 1

end LineIndex

end Stencil
