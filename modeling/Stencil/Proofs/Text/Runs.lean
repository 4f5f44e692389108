/-!
# Runs of characters

A reader that takes characters as long as they have a property finds exactly the
run that was written if what follows the run stops it. `Stencil.Stops` says that a
text stops such a reader at once; the two equations below are what every reader of
words, numerals and blanks comes down to.
-/

namespace Stencil

variable {p : Char → Bool}

/-- **A text stops a run**: it is empty, or its first character has not the
property of the run. -/
def Stops (p : Char → Bool) (rest : List Char) : Prop := ∀ c ∈ rest.head?, p c = false

@[simp] theorem stops_nil : Stops p [] := by simp [Stops]

@[simp] theorem stops_cons (c : Char) (cs : List Char) : Stops p (c :: cs) ↔ p c = false := by
  simp [Stops]

/-- A text that stops one run stops a run of fewer characters. -/
theorem Stops.mono {q : Char → Bool} {rest : List Char} (h : Stops p rest)
    (hqp : ∀ c, q c = true → p c = true) : Stops q rest := by
  intro c hc
  have hpc := h c hc
  cases hq : q c with
  | false => rfl
  | true => simp [hqp c hq] at hpc

/-- A text stays a stop when something is written behind it, unless it is empty. -/
theorem Stops.append {rest : List Char} (h : Stops p rest) (hne : rest ≠ [])
    (more : List Char) : Stops p (rest ++ more) := by
  cases rest with
  | nil => exact absurd rfl hne
  | cons c cs => simpa using h

/-- The front of a stop is a stop. -/
theorem Stops.of_append {rest more : List Char} (h : Stops p (rest ++ more)) : Stops p rest := by
  cases rest with
  | nil => exact stops_nil
  | cons c cs => simpa using h

/-- What is left behind a run is a stop. -/
theorem stops_dropWhile (p : Char → Bool) (cs : List Char) : Stops p (cs.dropWhile p) := by
  intro c hc
  have hhead := List.head?_dropWhile_not p cs
  rw [Option.mem_def] at hc
  simpa [hc] using hhead

/-- The characters taken from a run and a stop are the run. -/
theorem takeWhile_append_stops {run rest : List Char} (hrun : ∀ c ∈ run, p c = true)
    (hrest : Stops p rest) : (run ++ rest).takeWhile p = run := by
  rw [List.takeWhile_append_of_pos hrun]
  cases rest with
  | nil => simp
  | cons c cs => simp [(stops_cons c cs).mp hrest]

/-- What is left of a run and a stop is the stop. -/
theorem dropWhile_append_stops {run rest : List Char} (hrun : ∀ c ∈ run, p c = true)
    (hrest : Stops p rest) : (run ++ rest).dropWhile p = rest := by
  rw [List.dropWhile_append_of_pos hrun]
  cases rest with
  | nil => rfl
  | cons c cs => simp [(stops_cons c cs).mp hrest]

end Stencil
