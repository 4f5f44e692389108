import Mathlib.Algebra.Order.Floor.Semifield
import Mathlib.Data.Rat.Floor
import Stencil.Proofs.Function.Dispatch
import Stencil.Proofs.Number.Order

/-!
# Repetition is exact up to its limit

How long a repeated text would be is computed in machine words: the count is compared with
the largest word as a number, which is rounded, then it is cut to the range of the words,
and the product may be none. None of this shows. A count that is cut is so large that the
product exceeds the limit all the same, and below that the words are the exact numbers.

`Stencil.Repeats` says how often a count repeats, on the exact quantity of the count. The
main statement, `Stencil.Registry.repetition_exact`, says that a text is repeated exactly
that often if the exact product of its length and this number is within the limit, and that
any other repetition fails.
-/

namespace Stencil

/-! ### Whole parts and machine words -/

/-- The whole part of a magnitude is the floor of the quantity. -/
theorem floor_magnitude (rank : ℕ) : ⌊magnitude rank⌋₊ = Number.wholePart rank := by
  have hfloor := Nat.floor_div_eq_div (K := ℚ) (units rank) (2 ^ unitExponent)
  rwa [Nat.cast_pow, Nat.cast_ofNat] at hfloor

theorem wordProduct?_eq_some_iff {a b product : ℕ} :
    wordProduct? a b = some product ↔ a * b ≤ maxWord ∧ product = a * b := by
  simp [wordProduct?, eq_comm]

/-- A length that is told is the product with the word of the count. -/
theorem eq_mul_of_repeatLength? {length product : ℕ} {count : Number}
    (h : repeatLength? length count = some product) : product = length * count.toWord := by
  rw [repeatLength?] at h
  split at h
  · exact (wordProduct?_eq_some_iff.mp h).2
  · cases h

theorem utf8ByteSize_pos {s : String} (h : s ≠ "") : 0 < s.utf8ByteSize :=
  Nat.pos_of_ne_zero (mt String.utf8ByteSize_eq_zero_iff.mp h)

theorem maxRepeatLength_lt_maxWord : maxRepeatLength < maxWord := by decide

namespace Number

variable {count : Number} {q : ℚ}

theorem quantity?_zero : zero.quantity? = some 0 := by
  simp [quantity?, zero, signed, magnitude_zero]

theorem toWord_zero : zero.toWord = 0 := by
  have hunits : units 0 = 0 := rfl
  simp [toWord, zero, wholePart, hunits]

/-- A number with a quantity above zero is a magnitude. -/
theorem exists_rank_of_pos (h : count.quantity? = some (.point q)) (hq : 0 < q) :
    ∃ rank, count = finite false rank ∧ q = magnitude rank := by
  cases count with
  | nan => cases h
  | infinite negative => cases negative <;> simp [quantity?] at h
  | finite negative rank =>
    obtain rfl : signed negative (magnitude rank) = q := by simpa [quantity?] using h
    cases negative with
    | false => exact ⟨rank, rfl, rfl⟩
    | true =>
      have hnonneg := magnitude_nonneg rank
      simp only [signed, if_true] at hq
      linarith

/-- **Numbers are rounded in order**: a magnitude that is at most a natural number is at
most the number nearest to that. -/
theorem atMost_ofNat {rank : Fin rankCount} {n : ℕ} (h : magnitude rank ≤ n) :
    (finite false rank).atMost (ofNat n) = true := by
  have hnearest := isNearest_nearestRank (n * 2 ^ unitExponent) Nat.one_pos
  have hquantity : ((n * 2 ^ unitExponent : ℕ) : ℚ) / (1 : ℕ) / 2 ^ unitExponent = n := by
    rw [Nat.cast_one, div_one, Nat.cast_mul, Nat.cast_pow, Nat.cast_ofNat,
      mul_div_cancel_right₀ _ (by positivity)]
  rw [hquantity] at hnearest
  have hrank := (isNearest_magnitude rank).mono hnearest h
  have hlt := rank.isLt
  rw [ofNat, ofUnits, ofRank]
  split
  · rw [atMost_iff_place_le (by simp) (by simp)]
    simpa [place] using hrank
  · rw [atMost_iff_place_le (by simp) (by simp)]
    simp only [place, Bool.false_eq_true, if_false]
    omega

-- The largest word itself is rounded up, so a count may be at most it and be cut all the same.
example : ofNat maxWord = ofNat (maxWord + 1) := by decide +kernel

end Number

/-! ### How often a count repeats -/

/-- **How often a count repeats**, by its exact quantity: not at all if it is not-a-number
or at most zero, else as often as its floor says. An infinite count has no floor. -/
inductive Repeats (count : Number) : ℕ → Prop
  | none (h : count = .nan ∨ ∃ x ≤ 0, count.quantity? = some x) : Repeats count 0
  | whole {q : ℚ} (h : count.quantity? = some (.point q)) (hq : 0 < q) :
      Repeats count ⌊q⌋₊

section Counts

variable {count : Number} {x : Line} {n : ℕ}

theorem repeatCount_of_none (h : count = .nan ∨ ∃ x ≤ 0, count.quantity? = some x) :
    repeatCount count = .zero := by
  rcases h with rfl | ⟨x, hx, h⟩
  · rfl
  · rw [repeatCount, if_neg]
    rw [Number.below_iff Number.quantity?_zero h]
    exact hx.not_gt

theorem repeatCount_of_pos (h : count.quantity? = some x) (hx : 0 < x) :
    repeatCount count = count := by
  rw [repeatCount, if_pos ((Number.below_iff Number.quantity?_zero h).mpr hx)]

/-- Every count repeats a number of times, but for the infinite one. -/
theorem exists_repeats_or_infinite (count : Number) :
    (∃ n, Repeats count n) ∨ count = .infinite false := by
  cases count with
  | nan => exact .inl ⟨0, .none (.inl rfl)⟩
  | infinite negative =>
    cases negative with
    | false => exact .inr rfl
    | true => exact .inl ⟨0, .none (.inr ⟨⊥, bot_le, rfl⟩)⟩
  | finite negative rank =>
    left
    rcases lt_or_ge 0 (signed negative (magnitude rank)) with hpos | hneg
    · exact ⟨_, .whole rfl hpos⟩
    · refine ⟨0, .none (.inr ⟨_, ?_, rfl⟩)⟩
      exact Line.point_nonpos.mpr hneg

namespace Repeats

variable {length : ℕ}

/-- The word of a count is the number of times that it repeats, cut to the range of the
words. -/
theorem toWord_repeatCount (h : Repeats count n) :
    (repeatCount count).toWord = min n maxWord := by
  cases h with
  | none h => rw [repeatCount_of_none h, Number.toWord_zero, Nat.zero_min]
  | whole h hq =>
    rw [repeatCount_of_pos h (Line.point_lt_point.mpr hq)]
    obtain ⟨rank, rfl, rfl⟩ := Number.exists_rank_of_pos h hq
    rw [floor_magnitude]
    rfl

/-- A count that repeats less often than the largest word says is at most that word. -/
theorem atMost_maxWord (h : Repeats count n) (hn : n < maxWord) :
    (repeatCount count).atMost (.ofNat maxWord) = true := by
  cases h with
  | none h =>
    rw [repeatCount_of_none h]
    refine Number.atMost_ofNat ?_
    rw [magnitude_zero]
    exact Nat.cast_nonneg maxWord
  | whole h hq =>
    rw [repeatCount_of_pos h (Line.point_lt_point.mpr hq)]
    obtain ⟨rank, rfl, rfl⟩ := Number.exists_rank_of_pos h hq
    refine Number.atMost_ofNat ((Nat.lt_floor_add_one _).le.trans ?_)
    exact_mod_cast hn

/-- **Within the limit the words are exact.** -/
theorem repeatLength?_eq (h : Repeats count n) (hlength : 0 < length)
    (hfits : length * n ≤ maxRepeatLength) :
    (repeatCount count).toWord = n ∧
      repeatLength? length (repeatCount count) = some (length * n) := by
  have hlimit := maxRepeatLength_lt_maxWord
  have hn : n ≤ length * n := Nat.le_mul_of_pos_left n hlength
  have hword : (repeatCount count).toWord = n := by
    rw [h.toWord_repeatCount]
    omega
  refine ⟨hword, ?_⟩
  rw [repeatLength?, if_pos (h.atMost_maxWord (by omega)), hword, wordProduct?_eq_some_iff]
  exact ⟨by omega, rfl⟩

/-- **Nothing beyond the limit is accepted**: a count that was cut gives a product that is
too long all the same. -/
theorem mul_le_of_repeatLength? (h : Repeats count n) (hlength : 0 < length) {product : ℕ}
    (hproduct : repeatLength? length (repeatCount count) = some product)
    (hfits : product ≤ maxRepeatLength) : length * n ≤ maxRepeatLength := by
  have hlimit := maxRepeatLength_lt_maxWord
  rw [eq_mul_of_repeatLength? hproduct, h.toWord_repeatCount] at hfits
  have hcut : min n maxWord ≤ length * min n maxWord := Nat.le_mul_of_pos_left _ hlength
  rwa [Nat.min_eq_left (by omega)] at hfits

end Repeats

/-- An infinite count is never within the limit. -/
theorem lt_of_repeatLength?_infinite {length product : ℕ} (hlength : 0 < length)
    (hproduct : repeatLength? length (repeatCount (.infinite false)) = some product) :
    maxRepeatLength < product := by
  have hword : (repeatCount (.infinite false)).toWord = maxWord := rfl
  rw [eq_mul_of_repeatLength? hproduct, hword]
  exact maxRepeatLength_lt_maxWord.trans_le (Nat.le_mul_of_pos_left _ hlength)

end Counts

/-! ### Repeated texts -/

theorem repeatText_eq_join (s : String) (n : ℕ) :
    repeatText s n = String.join (List.replicate n s) := by
  induction n with
  | zero => rfl
  | succ n ih =>
    rw [List.replicate_succ', String.join_append, ← ih]
    simp [repeatText, Nat.repeat]

theorem utf8ByteSize_repeatText (s : String) (n : ℕ) :
    (repeatText s n).utf8ByteSize = s.utf8ByteSize * n := by
  induction n with
  | zero => rfl
  | succ n ih =>
    have hstep : repeatText s (n + 1) = repeatText s n ++ s := rfl
    rw [hstep, String.utf8ByteSize_append, ih, Nat.mul_succ]

/-- A repetition within the limit, said without the number of times. -/
theorem exists_repeats_le_iff {count : Number} {length : ℕ} :
    (∃ n, Repeats count n ∧ length * n ≤ maxRepeatLength) ↔
      count = .nan ∨ (∃ x ≤ 0, count.quantity? = some x) ∨
        ∃ q, count.quantity? = some (.point q) ∧ length * ⌊q⌋ ≤ (maxRepeatLength : ℤ) := by
  constructor
  · rintro ⟨_, h | ⟨h, hq⟩, hle⟩
    · exact h.imp_right .inl
    · refine .inr (.inr ⟨_, h, ?_⟩)
      rw [← Int.natCast_floor_eq_floor hq.le]
      exact_mod_cast hle
  · rintro (h | h | ⟨q, h, hle⟩)
    · exact ⟨0, .none (.inl h), Nat.zero_le _⟩
    · exact ⟨0, .none (.inr h), Nat.zero_le _⟩
    · rcases lt_or_ge 0 q with hq | hq
      · refine ⟨_, .whole h hq, ?_⟩
        rw [← Int.natCast_floor_eq_floor hq.le] at hle
        exact_mod_cast hle
      · refine ⟨0, .none (.inr ⟨_, ?_, h⟩), Nat.zero_le _⟩
        exact Line.point_nonpos.mpr hq

section Calls

variable {s : String} {count : Number}

theorem repeatFunction_of_le {n : ℕ} (hs : s ≠ "") (h : Repeats count n)
    (hle : s.utf8ByteSize * n ≤ maxRepeatLength) :
    repeatFunction s count = .ok (.string (repeatText s n)) := by
  have hlength := utf8ByteSize_pos hs
  obtain ⟨hword, hproduct⟩ := h.repeatLength?_eq hlength hle
  rw [repeatFunction, if_neg (mt String.isEmpty_iff.mp hs), hproduct, if_pos (by simpa using hle),
    hword]

theorem repeatFunction_of_not_le (hs : s ≠ "")
    (h : ¬∃ n, Repeats count n ∧ s.utf8ByteSize * n ≤ maxRepeatLength) :
    repeatFunction s count =
      .error (.failed "repeat" (repeatRefusal s.utf8ByteSize count)) := by
  have hlength := utf8ByteSize_pos hs
  have hrefused : (repeatLength? s.utf8ByteSize (repeatCount count)).any
      (· ≤ maxRepeatLength) = false := by
    cases hproduct : repeatLength? s.utf8ByteSize (repeatCount count) with
    | none => rfl
    | some product =>
      rw [Option.any_some, decide_eq_false_iff_not]
      intro hfits
      rcases exists_repeats_or_infinite count with ⟨n, hn⟩ | rfl
      · exact h ⟨n, hn, hn.mul_le_of_repeatLength? hlength hproduct hfits⟩
      · exact hfits.not_gt (lt_of_repeatLength?_infinite hlength hproduct)
  have hcount : repeatCount count = count := by
    rcases exists_repeats_or_infinite count with ⟨n, hnone | ⟨hq, hpos⟩⟩ | rfl
    · exact absurd ⟨0, .none hnone, Nat.zero_le _⟩ h
    · exact repeatCount_of_pos hq (Line.point_lt_point.mpr hpos)
    · rfl
  rw [repeatFunction, if_neg (mt String.isEmpty_iff.mp hs), hrefused, hcount]
  rfl

variable (actions : List RegistryAction)

theorem Registry.call_repeat (s : String) (count : Number) :
    (built true actions).call "repeat" [.string s, .number count] =
      .quiet (repeatFunction s count) := by
  rw [call_eq_run (get?_built_of_builtins rfl actions) rfl rfl]
  rfl

/-- **Repetition is exact up to its limit**, whatever was registered besides. A text is
repeated if it is empty, if the count is not-a-number or at most zero, or if the exact
product of its length in bytes and the floor of the count is within the limit. The result
then is the text as often as the count repeats, and within the limit; the count as a machine
word and the product of words are the exact numbers. The empty text stays empty under any
count. In every other case the repetition fails, and says why. -/
theorem Registry.repetition_exact (s : String) (count : Number) :
    let outcome := (built true actions).call "repeat" [.string s, .number count]
    ((∃ v, outcome = .quiet (.ok v)) ↔
      s = "" ∨ count = .nan ∨ (∃ x ≤ 0, count.quantity? = some x) ∨
        ∃ q, count.quantity? = some (.point q) ∧
          s.utf8ByteSize * ⌊q⌋ ≤ (maxRepeatLength : ℤ)) ∧
    (∀ v, outcome = .quiet (.ok v) → s = "" ∧ v = .string "" ∨
      ∃ n text, Repeats count n ∧ v = .string text ∧ text = String.join (List.replicate n s) ∧
        text.utf8ByteSize ≤ maxRepeatLength ∧ (repeatCount count).toWord = n ∧
        repeatLength? s.utf8ByteSize (repeatCount count) = some (s.utf8ByteSize * n)) ∧
    ((¬∃ v, outcome = .quiet (.ok v)) → outcome =
      .quiet (.error (.failed "repeat" (repeatRefusal s.utf8ByteSize count)))) := by
  intro outcome
  have houtcome : outcome = .quiet (repeatFunction s count) := call_repeat actions s count
  rw [← exists_repeats_le_iff, houtcome]
  by_cases hs : s = ""
  · have hempty : repeatFunction s count = .ok (.string "") := if_pos (by rw [hs]; rfl)
    rw [hempty]
    refine ⟨iff_of_true ⟨_, rfl⟩ (.inl hs), fun v hv => .inl ⟨hs, ?_⟩, fun h => absurd ⟨_, rfl⟩ h⟩
    exact (Except.ok.inj (congrArg Logged.value hv)).symm
  by_cases hle : ∃ n, Repeats count n ∧ s.utf8ByteSize * n ≤ maxRepeatLength
  · obtain ⟨n, hn, hfits⟩ := hle
    have hlength := utf8ByteSize_pos hs
    rw [repeatFunction_of_le hs hn hfits]
    refine ⟨iff_of_true ⟨_, rfl⟩ (.inr ⟨n, hn, hfits⟩), fun v hv => .inr ?_,
      fun h => absurd ⟨_, rfl⟩ h⟩
    refine ⟨n, repeatText s n, hn, (Except.ok.inj (congrArg Logged.value hv)).symm,
      repeatText_eq_join s n, ?_, hn.repeatLength?_eq hlength hfits⟩
    rwa [utf8ByteSize_repeatText]
  · rw [repeatFunction_of_not_le hs hle]
    have hfails (v : Value) : Logged.quiet (Except.error (FunctionError.failed "repeat"
        (repeatRefusal s.utf8ByteSize count))) ≠ .quiet (.ok v) := by
      intro h
      cases congrArg Logged.value h
    exact ⟨iff_of_false (not_exists.mpr hfails) (not_or.mpr ⟨hs, hle⟩),
      fun v hv => absurd hv (hfails v), fun _ => rfl⟩

end Calls

end Stencil
