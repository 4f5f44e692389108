import Mathlib.Data.List.Nodup
import Mathlib.Data.List.Perm.Subperm
import Stencil.Program.Emit
import Stencil.Proofs.Number.ReadBack
import Stencil.Proofs.Source.Identifier

/-!
# The names of routines

Every routine of a program gets an identifier for a name that no other routine has
(`Stencil.routineName_notMem`), whatever the templates are called. The candidates are
tried in order, the plain name first and then the numbered ones. As they are all
different, one of them is free after at most as many tries as there are names in use,
and one more (`Stencil.routineName_search`).
-/

namespace Stencil

/-! ### The search -/

/-- **The names that are tried for the routine of a template**: the plain one, and then
those with the numbers from two on. -/
def routineCandidate (template : String) : Nat → String
  | 0 => routineBase template
  | n + 1 => routineBase template ++ "_" ++ toString (n + 2)

/-- A number can be told from its text. -/
theorem toString_injective {m n : Nat} (h : toString m = toString n) : m = n := by
  have hdigits : Decimal.digitsOf m = Decimal.digitsOf n := by
    have hlist := congrArg String.toList h
    rwa [show (toString m).toList = Decimal.digitsOf m from Nat.toList_repr,
      show (toString n).toList = Decimal.digitsOf n from Nat.toList_repr] at hlist
  rw [← Decimal.ofDigits_digitsOf m, hdigits, Decimal.ofDigits_digitsOf]

/-- The names that are tried are all different. -/
theorem routineCandidate_injective (template : String) :
    Function.Injective (routineCandidate template) := by
  have hplain (n : Nat) : routineCandidate template (n + 1) ≠ routineCandidate template 0 := by
    intro h
    have hlength := congrArg (·.toList.length) h
    simp [routineCandidate] at hlength
  intro m n h
  cases m with
  | zero =>
    cases n with
    | zero => rfl
    | succ n => exact absurd h.symm (hplain n)
  | succ m =>
    cases n with
    | zero => exact absurd h (hplain m)
    | succ n =>
      have hlist := congrArg String.toList h
      simp only [routineCandidate, String.toList_append, List.append_cancel_left_eq] at hlist
      have hnumber := toString_injective (String.toList_inj.mp hlist)
      omega

/-- Among the first names that are tried, one more than are in use, one is free. -/
theorem exists_free_candidate (used : List String) (template : String) :
    ∃ n ≤ used.length, routineCandidate template n ∉ used := by
  by_contra hnone
  have hsub : (List.range (used.length + 1)).map (routineCandidate template) ⊆ used := by
    intro name hname
    obtain ⟨n, hn, rfl⟩ := List.mem_map.mp hname
    by_contra hfree
    exact hnone ⟨n, Nat.lt_succ_iff.mp (List.mem_range.mp hn), hfree⟩
  have hnodup : ((List.range (used.length + 1)).map (routineCandidate template)).Nodup :=
    List.nodup_range.map (routineCandidate_injective template)
  have hle := (List.subperm_of_subset hnodup hsub).length_le
  simp at hle

/-- **The search for a name**: the first name that is free is taken, after at most as
many tries as there are names in use, and one more. -/
theorem routineName_search (used : List String) (template : String) :
    ∃ n ≤ used.length, routineName used template = routineCandidate template n ∧
      routineCandidate template n ∉ used ∧ ∀ m < n, routineCandidate template m ∈ used := by
  unfold routineName
  dsimp only
  split
  · next hbase =>
    rw [List.contains_iff_mem] at hbase
    rw [List.find?_map]
    cases hfind : (List.range used.length).find? ((fun name => !used.contains name) ∘ fun i =>
        routineBase template ++ "_" ++ toString (i + 2)) with
    | some i =>
      obtain ⟨hfree, hi, hbefore⟩ := List.find?_range_eq_some.mp hfind
      refine ⟨i + 1, List.mem_range.mp hi, rfl, by simpa [routineCandidate] using hfree,
        fun m hm => ?_⟩
      cases m with
      | zero => exact hbase
      | succ m => simpa [routineCandidate] using hbefore m (Nat.lt_of_succ_lt_succ hm)
    | none =>
      -- All numbers in use would leave no free name at all.
      obtain ⟨n, hn, hfree⟩ := exists_free_candidate used template
      refine absurd ?_ hfree
      cases n with
      | zero => exact hbase
      | succ n =>
        simpa [routineCandidate] using List.find?_eq_none.mp hfind n (List.mem_range.mpr hn)
  · next hbase =>
    refine ⟨0, Nat.zero_le _, rfl, by simpa [routineCandidate] using hbase, fun m hm => ?_⟩
    exact absurd hm (Nat.not_lt_zero m)

/-- **The name of a new routine is not in use.** -/
theorem routineName_notMem (used : List String) (template : String) :
    routineName used template ∉ used := by
  obtain ⟨n, -, hname, hfree, -⟩ := routineName_search used template
  rw [hname]
  exact hfree

/-! ### The shape of a name -/

/-- Whether a character stands in the names of routines: a small letter, a digit or an
underscore. -/
def isRoutineChar (c : Char) : Bool := c.isLower || c.isDigit || c == '_'

/-- **A name as routines have it**: it begins as all of them do, and goes on with small
letters, digits and underscores. -/
def IsRoutineName (name : String) : Prop :=
  ∃ tail, name.toList = "render_".toList ++ tail ∧ ∀ c ∈ tail, isRoutineChar c = true

theorem isIdentifierPart_of_isRoutineChar {c : Char} (h : isRoutineChar c = true) :
    isIdentifierPart c = true := by
  have hpart : isIdentifierPart c = (c.isUpper || isRoutineChar c) := by
    change (c.isUpper || c.isLower || c.isDigit || c == '_') = _
    simp only [isRoutineChar, Bool.or_assoc]
  rw [hpart, h, Bool.or_true]

/-- Letters and digits in lower case are small letters and digits. -/
theorem isRoutineChar_toLower {c : Char} (h : c.isAlphanum = true) :
    isRoutineChar c.toLower = true := by
  unfold Char.toLower
  split
  · next hupper =>
    -- Adding the distance of the two alphabets does not wrap around.
    obtain ⟨hlow, hhigh⟩ := hupper
    rw [ge_iff_le, UInt32.le_iff_toNat_le] at hlow
    rw [UInt32.le_iff_toNat_le] at hhigh
    have hA : 'A'.val.toNat = 65 := by decide
    have hZ : 'Z'.val.toNat = 90 := by decide
    have hshift : ('a'.val - 'A'.val).toNat = 32 := by decide
    have hsum : (c.val + ('a'.val - 'A'.val)).toNat = c.val.toNat + 32 := by
      rw [UInt32.toNat_add]
      omega
    have hlower : 97 ≤ c.val.toNat + 32 ∧ c.val.toNat + 32 ≤ 122 := by omega
    rw [← hsum] at hlower
    have ha : 'a'.val.toNat = 97 := by decide
    have hz : 'z'.val.toNat = 122 := by decide
    have hletter : (decide (c.val + ('a'.val - 'A'.val) ≥ 'a'.val) &&
        decide (c.val + ('a'.val - 'A'.val) ≤ 'z'.val)) = true := by
      rw [Bool.and_eq_true, decide_eq_true_eq, decide_eq_true_eq, ge_iff_le,
        UInt32.le_iff_toNat_le, UInt32.le_iff_toNat_le, ha, hz]
      exact hlower
    change ((decide (_ ≥ 'a'.val) && decide (_ ≤ 'z'.val)) || Char.isDigit _ || _) = true
    rw [hletter, Bool.true_or, Bool.true_or]
  · next hupper =>
    have hnot : c.isUpper = false := by
      rw [← Bool.not_eq_true]
      intro hcon
      exact hupper (of_decide_eq_true hcon)
    change (c.isUpper || c.isLower || c.isDigit) = true at h
    rw [hnot, Bool.false_or] at h
    rw [isRoutineChar, h, Bool.true_or]

theorem isRoutineChar_routineChar (c : Char) : isRoutineChar (routineChar c) = true := by
  unfold routineChar
  split
  · next h => exact isRoutineChar_toLower h
  · decide

/-- **Every name that is tried has the form of routine names.** -/
theorem isRoutineName_candidate (template : String) (n : Nat) :
    IsRoutineName (routineCandidate template n) := by
  have hbase : ∀ c ∈ template.toList.map routineChar, isRoutineChar c = true := by
    intro c hc
    obtain ⟨d, -, rfl⟩ := List.mem_map.mp hc
    exact isRoutineChar_routineChar d
  cases n with
  | zero => exact ⟨template.toList.map routineChar, by simp [routineCandidate, routineBase], hbase⟩
  | succ n =>
    refine ⟨template.toList.map routineChar ++ '_' :: (DigitRun.ofNat (n + 2)).digits, ?_, ?_⟩
    · have hdigits : (toString (n + 2)).toList = (DigitRun.ofNat (n + 2)).digits := Nat.toList_repr
      rw [routineCandidate, String.toList_append, hdigits]
      simp [routineBase]
    · intro c hc
      rcases List.mem_append.mp hc with hc | hc
      · exact hbase c hc
      · rcases List.mem_cons.mp hc with rfl | hc
        · decide
        · simp [isRoutineChar, (DigitRun.ofNat (n + 2)).all_isDigit c hc]

theorem isRoutineName_routineName (used : List String) (template : String) :
    IsRoutineName (routineName used template) := by
  obtain ⟨n, -, hname, -⟩ := routineName_search used template
  rw [hname]
  exact isRoutineName_candidate template n

/-- **The name of a routine is an identifier.** -/
theorem IsRoutineName.exists_identifier {name : String} (h : IsRoutineName name) :
    ∃ i : Identifier, i.text = name := by
  obtain ⟨tail, htext, htail⟩ := h
  have hstart : ∀ c ∈ ['e', 'n', 'd', 'e', 'r', '_'], isIdentifierPart c = true :=
    List.all_eq_true.mp rfl
  refine ⟨⟨'r', ['e', 'n', 'd', 'e', 'r', '_'] ++ tail, by decide, fun c hc => ?_⟩, ?_⟩
  · rcases List.mem_append.mp hc with hc | hc
    · exact hstart c hc
    · exact isIdentifierPart_of_isRoutineChar (htail c hc)
  · have htext' : name.toList = 'r' :: (['e', 'n', 'd', 'e', 'r', '_'] ++ tail) := htext
    rw [Identifier.text, Identifier.chars, ← htext', String.ofList_toList]

/-- A name never begins with another letter than all names do. -/
theorem IsRoutineName.ne {name other : String} (h : IsRoutineName name)
    (hother : other.toList.head? ≠ some 'r') : name ≠ other := by
  obtain ⟨tail, htext, -⟩ := h
  rintro rfl
  simp [htext] at hother

/-! ### The names of a program -/

namespace Program

theorem routineNames_addSteps (p : Program) (template : String) (steps : List Step) :
    (p.addSteps template steps).routineNames =
      p.routineNames ++ [routineName p.routineNames template] := by
  simp [addSteps, routineNames]

/-- **A new routine takes no name of another function**, of the routines or of the two
that register them. -/
theorem nodup_names_addSteps {p : Program}
    (h : ("templates" :: "with_functions" :: p.routineNames).Nodup) (template : String)
    (steps : List Step) :
    ("templates" :: "with_functions" :: (p.addSteps template steps).routineNames).Nodup := by
  have hroutine := isRoutineName_routineName p.routineNames template
  rw [routineNames_addSteps, ← List.cons_append, ← List.cons_append]
  refine List.nodup_append.mpr ⟨h, List.nodup_singleton _, ?_⟩
  rintro name hname _ hnew rfl
  obtain rfl := List.mem_singleton.mp hnew
  rcases List.mem_cons.mp hname with heq | hname
  · exact hroutine.ne (by decide) heq
  rcases List.mem_cons.mp hname with heq | hname
  · exact hroutine.ne (by decide) heq
  · exact routineName_notMem _ _ hname

end Program

end Stencil
