import Mathlib.Data.List.Forall2
import Stencil.Proofs.Function.Dispatch
import Stencil.Proofs.Function.Format

/-!
# When a built-in function gives up

The built-in functions are written for arguments of the number and the kinds that their
entries declare, and give up on any others. Dispatch lets no others through: what it
hands to a function has the declared shape (`Stencil.Entry.shaped_of_coerce`), because
the empty value of a parameter is of a kind that the parameter takes. From there every
function but one gives a value or an error of its own
(`Stencil.isSafe_of_mem_builtinEntries`).

The one is `printf`. A call gives up exactly when it is a call of `printf` with a format
that reaches too far: `Stencil.Registry.call_builtins_eq_aborted_iff`.
-/

namespace Stencil

/-! ### The shape of arguments -/

namespace ParameterType

/-- The empty value of a parameter is of a kind that the parameter takes. -/
theorem accepts_zero (p : ParameterType) : p.accepts p.zero.kind = true := by
  cases p <;> rfl

theorem accepts_string_iff {v : Value} : string.accepts v.kind = true ↔ ∃ s, v = .string s := by
  cases v <;> simp [accepts, Value.kind]

theorem accepts_number_iff {v : Value} : number.accepts v.kind = true ↔ ∃ n, v = .number n := by
  cases v <;> simp [accepts, Value.kind]

theorem accepts_list_iff {v : Value} : list.accepts v.kind = true ↔ ∃ items, v = .list items := by
  cases v <;> simp [accepts, Value.kind]

/-- Values of kinds that parameters take, one by one. -/
def AcceptsAll (parameters : List ParameterType) (values : List Value) : Prop :=
  List.Forall₂ (fun p v => p.accepts v.kind = true) parameters values

theorem acceptsAll_one {p : ParameterType} {values : List Value} :
    AcceptsAll [p] values ↔ ∃ v, p.accepts v.kind = true ∧ values = [v] := by
  simp [AcceptsAll, List.forall₂_cons_left_iff]

theorem acceptsAll_two {p q : ParameterType} {values : List Value} :
    AcceptsAll [p, q] values ↔
      ∃ v w, p.accepts v.kind = true ∧ q.accepts w.kind = true ∧ values = [v, w] := by
  simp [AcceptsAll, List.forall₂_cons_left_iff]

end ParameterType

namespace Entry

variable {e : Entry} {args seen : List Value}

/-- **Arguments have the shape that an entry declares**: their number fits, and each is of
a kind that its parameter takes. -/
structure Shaped (e : Entry) (seen : List Value) : Prop where
  fits : e.Fits seen.length
  kinds : ∀ i v, seen[i]? = some v → (e.parameterAt i).accepts v.kind = true

/-- **What dispatch hands to a function has the declared shape.** -/
theorem shaped_of_coerce (htakes : e.takes args.length = true) (h : e.coerce args = .ok seen) :
    e.Shaped seen := by
  have hcases := e.coerceFrom_cases 0 args
  rw [← coerce, h] at hcases
  simp only [Nat.zero_add, reduceCtorEq, and_false, exists_false, false_or,
    Except.ok.injEq] at hcases
  obtain ⟨hall, _, rfl, hlength, hseen⟩ := hcases
  refine ⟨hlength ▸ takes_eq_true_iff.mp htakes, fun i w hw => ?_⟩
  have hi : i < args.length := hlength ▸ (List.getElem?_eq_some_iff.mp hw).1
  have hv := List.getElem?_eq_getElem hi
  obtain rfl := Option.some.inj ((hseen i _ hv).symm.trans hw)
  split
  · exact ParameterType.accepts_zero _
  · next hnull => exact (hall i _ hv).resolve_left hnull

/-- Where no further arguments are taken, arguments and parameters go together one by
one. -/
theorem Shaped.acceptsAll (h : e.Shaped seen) (hvariadic : e.variadic = false) :
    ParameterType.AcceptsAll e.parameters seen := by
  have hlength : seen.length = e.parameters.length := by
    simpa [Fits, hvariadic, arity] using h.fits
  refine List.forall₂_iff_get.mpr ⟨hlength.symm, fun i hi hi' => ?_⟩
  have hparameter : e.parameterAt i = e.parameters[i] := by
    have hplace : min i (e.arity - 1) = i := by
      simp only [arity]
      omega
    rw [parameterAt, hplace, List.getD_eq_getElem?_getD, List.getElem?_eq_getElem hi,
      Option.getD_some]
  have hkind := h.kinds i _ (List.getElem?_eq_getElem hi')
  rwa [hparameter] at hkind

/-- The function of an entry gives up on the arguments. -/
def Aborts (e : Entry) (seen : List Value) : Prop :=
  match e.callable with
  | .plain f => f seen = .error .aborted
  | .fallible _ => False

/-- **An entry is safe**: its function does not give up on arguments of the shape that it
declares. -/
def IsSafe (e : Entry) : Prop := ∀ seen, e.Shaped seen → ¬e.Aborts seen

variable {name : String} {parameters : List ParameterType} {variadic : Bool}
  {run : List Value → Except FunctionError Value}

theorem isSafe_of_forall (h : ∀ seen, run seen ≠ .error .aborted) :
    (Entry.plain name parameters variadic run).IsSafe :=
  fun seen _ => h seen

theorem isSafe_of_acceptsAll
    (h : ∀ seen, ParameterType.AcceptsAll parameters seen → run seen ≠ .error .aborted) :
    (Entry.plain name parameters false run).IsSafe :=
  fun seen hshaped => h seen (hshaped.acceptsAll rfl)

end Entry

/-! ### The functions on arguments of their shape -/

theorem lengthFunction_ne_aborted (v : Value) : lengthFunction v ≠ .error .aborted := by
  unfold lengthFunction
  split <;> simp

theorem repeatFunction_ne_aborted (s : String) (count : Number) :
    repeatFunction s count ≠ .error .aborted := by
  unfold repeatFunction
  split
  · simp
  · split <;> simp

theorem compareValues_ne_aborted (name : String) (a b : Value) :
    compareValues name a b ≠ .error .aborted := by
  unfold compareValues
  split <;> simp

open ParameterType in
theorem isSafe_textFunction (name : String) (f : String → String) :
    (Entry.plain name [.string] false (textFunction f)).IsSafe := by
  refine Entry.isSafe_of_acceptsAll fun seen h => ?_
  simp only [acceptsAll_one, accepts_string_iff] at h
  obtain ⟨_, ⟨s, rfl⟩, rfl⟩ := h
  simp [textFunction]

open ParameterType in
theorem isSafe_comparison (name : String) (test : Ordering → Bool) :
    (Entry.plain name [.any, .any] false (comparison name test)).IsSafe := by
  refine Entry.isSafe_of_acceptsAll fun seen h => ?_
  obtain ⟨a, b, -, -, rfl⟩ := acceptsAll_two.mp h
  have hcompare := compareValues_ne_aborted name a b
  rw [comparison]
  cases hresult : compareValues name a b with
  | ok o => simp [Except.map]
  | error e =>
    rw [hresult] at hcompare
    simpa [Except.map] using hcompare

open ParameterType in
/-- **All built-in functions but `printf` are safe.** -/
theorem isSafe_of_mem_builtinEntries {e : Entry} (he : e ∈ builtinEntries)
    (hname : e.name ≠ "printf") : e.IsSafe := by
  simp only [builtinEntries, List.mem_cons, List.not_mem_nil, or_false] at he
  rcases he with rfl | rfl | rfl | rfl | rfl | rfl | rfl | rfl | rfl | rfl | rfl | rfl | rfl |
    rfl | rfl | rfl | rfl | rfl | rfl | rfl | rfl
  -- The functions of truth values, and the length.
  · exact Entry.isSafe_of_forall (by simp)
  · exact Entry.isSafe_of_forall (by simp)
  · refine Entry.isSafe_of_acceptsAll fun seen h => ?_
    obtain ⟨a, -, rfl⟩ := acceptsAll_one.mp h
    simp
  · refine Entry.isSafe_of_acceptsAll fun seen h => ?_
    obtain ⟨a, -, rfl⟩ := acceptsAll_one.mp h
    exact lengthFunction_ne_aborted a
  -- The printing functions.
  · exact Entry.isSafe_of_forall (by simp)
  · exact absurd rfl hname
  · exact Entry.isSafe_of_forall (by simp)
  -- The functions of texts.
  · exact isSafe_textFunction _ _
  · exact isSafe_textFunction _ _
  · exact isSafe_textFunction _ _
  · exact isSafe_textFunction _ _
  · refine Entry.isSafe_of_acceptsAll fun seen h => ?_
    simp only [acceptsAll_two, accepts_string_iff, accepts_number_iff] at h
    obtain ⟨_, _, ⟨s, rfl⟩, ⟨n, rfl⟩, rfl⟩ := h
    exact repeatFunction_ne_aborted s n
  · refine Entry.isSafe_of_acceptsAll fun seen h => ?_
    obtain ⟨a, b, -, -, rfl⟩ := acceptsAll_two.mp h
    simp
  · refine Entry.isSafe_of_acceptsAll fun seen h => ?_
    simp only [acceptsAll_two, accepts_string_iff, accepts_list_iff] at h
    obtain ⟨_, _, ⟨items, rfl⟩, ⟨s, rfl⟩, rfl⟩ := h
    simp
  · refine Entry.isSafe_of_acceptsAll fun seen h => ?_
    simp only [acceptsAll_two, accepts_string_iff] at h
    obtain ⟨_, _, ⟨s, rfl⟩, ⟨t, rfl⟩, rfl⟩ := h
    simp
  -- Equality and order.
  · refine Entry.isSafe_of_acceptsAll fun seen h => ?_
    obtain ⟨a, b, -, -, rfl⟩ := acceptsAll_two.mp h
    simp
  · refine Entry.isSafe_of_acceptsAll fun seen h => ?_
    obtain ⟨a, b, -, -, rfl⟩ := acceptsAll_two.mp h
    simp
  · exact isSafe_comparison _ _
  · exact isSafe_comparison _ _
  · exact isSafe_comparison _ _
  · exact isSafe_comparison _ _

/-! ### Printing by a format -/

/-- **A call that reaches too far**: one of `printf`, with a format that does. -/
def OverreachingCall (name : String) (args : List Value) : Prop :=
  name = "printf" ∧
    ∃ format values, args = .string format :: values ∧ Overreaches format.toList values

/-- Arguments for parameters that take anything are handed on as they are. -/
theorem Entry.coerceFrom_of_any {e : Entry} {index : Nat}
    (h : ∀ i, index ≤ i → e.parameterAt i = .any) (args : List Value) :
    e.coerceFrom index args = .ok args := by
  induction args generalizing index with
  | nil => rfl
  | cons arg rest ih =>
    have hrest : e.coerceFrom (index + 1) rest = .ok rest := ih fun i hi => h i (by omega)
    rw [coerceFrom, h index (Nat.le_refl index), hrest]
    cases arg <;> rfl

/-- The entry of `printf`: a format, then any values. -/
theorem exists_printf : ∃ e, Registry.builtins.get? "printf" = some e ∧
    e.parameters = [.string, .any] ∧ e.variadic = true ∧
    ∀ format values, e.Aborts (.string format :: values) ↔ printFormat format values = none := by
  refine ⟨_, rfl, rfl, rfl, fun format values => ?_⟩
  simp only [Entry.Aborts, Entry.plain]
  cases printFormat format values <;> simp

/-- What dispatch makes of a format and values: nothing at all is the empty format. -/
theorem Entry.coerce_format_cons {e : Entry} (hparameters : e.parameters = [.string, .any])
    (first : Value) (values : List Value) :
    e.coerce (first :: values) =
      if first.isNull then .ok (.string "" :: values)
      else if ParameterType.string.accepts first.kind then .ok (first :: values)
      else .error (.typeMismatch e.name 0 .string first.kind) := by
  have hany : ∀ i, 1 ≤ i → e.parameterAt i = .any := by
    intro i hi
    have hplace : min i (e.arity - 1) = 1 := by
      simp only [arity, hparameters, List.length_cons, List.length_nil]
      omega
    rw [parameterAt, hplace, hparameters]
    rfl
  have hfirst : e.parameterAt 0 = .string := by
    rw [parameterAt, hparameters, Nat.zero_min]
    rfl
  rw [coerce, coerceFrom, hfirst, coerceFrom_of_any hany]
  rfl

namespace Registry

variable {r : Registry} {name : String} {args : List Value}

theorem run_eq_aborted_iff {e : Entry} {seen : List Value} :
    (r.run e seen).value = .error .aborted ↔ e.Aborts seen := by
  cases hcallable : e.callable with
  | plain f => simp [run, Entry.Aborts, hcallable, Logged.quiet]
  | fallible f =>
    simp only [run, Entry.Aborts, hcallable, iff_false]
    split
    · simp [Logged.quiet]
    · split <;> simp [Logged.quiet]

/-- **A call gives up if the function does**, on what dispatch hands to it. -/
theorem call_eq_aborted_iff : (r.call name args).value = .error .aborted ↔
    ∃ e seen, r.get? name = some e ∧ e.takes args.length = true ∧ e.coerce args = .ok seen ∧
      e.Aborts seen := by
  unfold call
  cases hname : r.get? name with
  | none => simp [Logged.quiet]
  | some e =>
    cases htakes : e.takes args.length with
    | false => simp [Logged.quiet, htakes]
    | true =>
      cases hcoerce : e.coerce args with
      | ok seen => simp [hcoerce, htakes, run_eq_aborted_iff]
      | error error =>
        -- An argument that is refused is reported, and nothing runs.
        have hcases := e.coerceFrom_cases 0 args
        rw [← Entry.coerce, hcoerce] at hcases
        simp only [reduceCtorEq, false_and, exists_false, and_false, or_false,
          Except.error.injEq] at hcases
        obtain ⟨i, v, -, -, -, rfl⟩ := hcases
        simp [Logged.quiet, htakes, hcoerce]

/-- **A call of a built-in function gives up if it reaches too far**, and only then. -/
theorem call_builtins_eq_aborted_iff (surface : Bool) (name : String) (args : List Value) :
    ((builtins.withSurface surface).call name args).value = .error .aborted ↔
      OverreachingCall name args := by
  rw [call_eq_aborted_iff]
  change (∃ e seen, builtins.get? name = some e ∧ _) ↔ _
  obtain ⟨printf, hprintf, hparameters, hvariadic, haborts⟩ := exists_printf
  constructor
  · rintro ⟨e, seen, hget, htakes, hcoerce, hseen⟩
    have hname : e.name = "printf" := by
      by_contra hne
      have hsafe := isSafe_of_mem_builtinEntries (List.mem_of_find?_eq_some hget) hne
      exact hsafe seen (Entry.shaped_of_coerce htakes hcoerce) hseen
    obtain rfl : name = "printf" := (name_of_get? hget).symm.trans hname
    obtain rfl : e = printf := Option.some.inj (hget.symm.trans hprintf)
    cases args with
    | nil => simp [Entry.takes, Entry.expected, Entry.arity, hparameters, hvariadic] at htakes
    | cons first values =>
      rw [Entry.coerce_format_cons hparameters] at hcoerce
      cases first with
      | string format =>
        cases hcoerce
        exact ⟨rfl, format, values, rfl, printFormat_eq_none_iff.mp ((haborts _ _).mp hseen)⟩
      | null =>
        -- The empty format has no directive.
        cases hcoerce
        have hnone := (haborts _ _).mp hseen
        simp [printFormat, formatPieces, printPieces] at hnone
      | _ => cases hcoerce
  · rintro ⟨rfl, format, values, rfl, hformat⟩
    refine ⟨printf, .string format :: values, hprintf, ?_,
      Entry.coerce_format_cons hparameters _ _, (haborts _ _).mpr ?_⟩
    · simp [Entry.takes, Entry.expected, Entry.arity, hparameters, hvariadic]
    · exact printFormat_eq_none_iff.mpr hformat

end Registry

end Stencil
