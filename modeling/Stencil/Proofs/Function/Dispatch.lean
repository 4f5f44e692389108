import Stencil.Function.Builtin

/-!
# Dispatch is exact

A registry is built by registrations, some of which may be refused, and by choices
of what becomes of secondary failures. Whatever was done to build it, a call by name
ends in exactly one of four ways (`Stencil.Registry.Dispatches`): the name is
unknown, the number of arguments does not fit, an argument is of a wrong kind, or
the function runs on arguments in which nothing at all was replaced by the empty
values of the parameters. The conditions of the four are stated here on the entry
and the arguments alone; the function itself plays no part in them. What it gives on
the arguments it runs on then decides what the call comes to
(`Stencil.Registry.Dispatch.ComesTo`).

The main statement, `Stencil.Registry.exists_dispatch_of_built`, adds where the entry
comes from, the first registration of the name, and that the outcome of a call
depends on the functions of the registry only through that one run.
-/

namespace Stencil

/-! ### Building a registry -/

/-- What is done to a registry that is being built. -/
inductive RegistryAction where
  /-- A function is registered. -/
  | register (name : String) (parameters : List ParameterType) (variadic : Bool)
      (callable : Callable)
  /-- Secondary failures become errors, or go to the log. -/
  | surface (on : Bool)

/-- The entry that an action asks for. Without parameters it is not variadic. -/
def RegistryAction.entry? : RegistryAction → Option Entry
  | register name parameters variadic callable =>
    some ⟨name, parameters, variadic && !parameters.isEmpty, callable⟩
  | surface _ => none

/-- What an action chooses for secondary failures. -/
def RegistryAction.choice? : RegistryAction → Option Bool
  | register _ _ _ _ => none
  | surface on => some on

namespace Registry

/-- The registry after an action. A registration that is refused changes nothing. -/
def perform (r : Registry) : RegistryAction → Registry
  | .register name parameters variadic callable =>
    match r.register name parameters variadic callable with
    | .ok r' => r'
    | .error _ => r
  | .surface on => r.withSurface on

/-- **A registry that was built** by actions, from nothing or from the built-in
functions. -/
def built (builtin : Bool) (actions : List RegistryAction) : Registry :=
  actions.foldl perform (if builtin then builtins else empty)

variable {r : Registry} {name : String}

/-- A name that is taken is refused. -/
theorem register_of_contains (h : r.contains name = true) (parameters : List ParameterType)
    (variadic : Bool) (callable : Callable) :
    r.register name parameters variadic callable = .error (.alreadyDefined name) := by
  simp [register, h]

/-- What an action does to the entries: the one that it asks for is added at the end,
if its name was free. -/
theorem entries_perform (r : Registry) (action : RegistryAction) :
    (r.perform action).entries =
      r.entries ++ action.entry?.toList.filter fun e => !r.contains e.name := by
  cases action with
  | surface on => simp [perform, withSurface, RegistryAction.entry?]
  | register name parameters variadic callable =>
    cases h : r.contains name with
    | true => simp [perform, register, RegistryAction.entry?, h]
    | false => simp [perform, register, RegistryAction.entry?, h]

/-- **The first registration of a name counts.** -/
theorem get?_foldl_perform (r : Registry) (actions : List RegistryAction) (name : String) :
    (actions.foldl perform r).get? name =
      (r.entries ++ actions.filterMap RegistryAction.entry?).find? (·.name = name) := by
  induction actions generalizing r with
  | nil => simp [get?]
  | cons action rest ih =>
    rw [List.foldl_cons, ih, entries_perform, List.filterMap_cons]
    cases haction : action.entry? with
    | none => simp
    | some e =>
      cases htaken : r.contains e.name with
      | false => simp [htaken, List.append_assoc]
      | true =>
        -- The entry is not added; the one that has its name stands before it.
        simp only [Option.toList_some, htaken, Bool.not_true, List.filter_cons_of_neg,
          Bool.false_eq_true, not_false_eq_true, List.filter_nil, List.append_nil,
          List.find?_append, List.find?_cons]
        by_cases hname : e.name = name
        · subst hname
          have hfound : (r.entries.find? (·.name = e.name)).isSome = true := htaken
          obtain ⟨first, hfirst⟩ := Option.isSome_iff_exists.mp hfound
          simp [hfirst]
        · simp [hname]

theorem surface_perform (r : Registry) (action : RegistryAction) :
    (r.perform action).surface = action.choice?.getD r.surface := by
  cases action with
  | surface on => rfl
  | register name parameters variadic callable =>
    cases h : r.contains name <;> simp [perform, register, RegistryAction.choice?, h]

/-- **The last choice counts.** -/
theorem surface_foldl_perform (r : Registry) (actions : List RegistryAction) :
    (actions.foldl perform r).surface =
      (actions.filterMap RegistryAction.choice?).getLast?.getD r.surface := by
  induction actions generalizing r with
  | nil => rfl
  | cons action rest ih =>
    rw [List.foldl_cons, ih, surface_perform, List.filterMap_cons]
    cases haction : action.choice? with
    | none => rfl
    | some on => simp [List.getLast?_cons]

/-- A built-in function keeps its name, whatever is registered besides. -/
theorem get?_built_of_builtins {e : Entry} (h : builtins.get? name = some e)
    (actions : List RegistryAction) : (built true actions).get? name = some e := by
  rw [built, if_pos rfl, get?_foldl_perform, List.find?_append]
  change (builtins.get? name).or _ = some e
  rw [h, Option.some_or]

end Registry

/-! ### Parameters -/

namespace ParameterType

/-- **A parameter takes a kind**: it is open to all kinds, or the kind has its name. -/
def Takes (p : ParameterType) (kind : Kind) : Prop := p = any ∨ p.name = kind.name

theorem accepts_eq_true_iff {p : ParameterType} {kind : Kind} :
    p.accepts kind = true ↔ p.Takes kind := by
  cases p <;> cases kind <;> simp [accepts, Takes, name, Kind.name]

/-- **The value that stands in for nothing at all** at a parameter. One that is open to
all kinds leaves nothing at all as it is. -/
inductive StandIn : ParameterType → Value → Prop
  | any : StandIn any .null
  | bool : StandIn bool (.bool false)
  | number : StandIn number (.number (.finite false ⟨0, by decide⟩))
  | string : StandIn string (.string "")
  | list : StandIn list (.list [])
  | map : StandIn map (.map [])

theorem standIn_iff {p : ParameterType} {v : Value} : p.StandIn v ↔ v = p.zero := by
  constructor
  · rintro (_ | _)
    all_goals rfl
  · rintro rfl
    cases p
    all_goals constructor

end ParameterType

theorem Value.isNull_eq_true_iff {v : Value} : v.isNull = true ↔ v = .null := by
  cases v <;> simp [isNull]

/-! ### Entries that can be called -/

namespace Entry

/-- The last parameter of a variadic entry is there to take the further arguments. -/
def Sound (e : Entry) : Prop := e.variadic = true → e.parameters ≠ []

variable {e : Entry}

/-- **A number of arguments fits**: it is the number of parameters, or, for a
variadic entry, at most the last parameter goes without an argument. -/
def Fits (e : Entry) (count : Nat) : Prop :=
  if e.variadic then e.parameters.length - 1 ≤ count else count = e.parameters.length

theorem takes_eq_true_iff {count : Nat} : e.takes count = true ↔ e.Fits count := by
  cases h : e.variadic <;> simp [takes, expected, arity, Fits, h]

/-- The parameter that the argument at a place goes to. -/
def ParameterFor (e : Entry) (index : Nat) (p : ParameterType) : Prop :=
  e.parameters[min index (e.parameters.length - 1)]? = some p

theorem ParameterFor.parameterAt_eq {index : Nat} {p : ParameterType}
    (h : e.ParameterFor index p) : e.parameterAt index = p := by
  rw [parameterAt, arity, List.getD_eq_getElem?_getD, h, Option.getD_some]

/-- **Every argument of a call that fits has its parameter.** -/
theorem Sound.parameterFor (he : e.Sound) {count index : Nat} (hfits : e.Fits count)
    (hindex : index < count) : e.ParameterFor index (e.parameterAt index) := by
  have hpositive : 0 < e.parameters.length := by
    cases hvariadic : e.variadic with
    | true => exact List.length_pos_iff.mpr (he hvariadic)
    | false =>
      simp only [Fits, hvariadic, Bool.false_eq_true, if_false] at hfits
      omega
  have hplace : min index (e.parameters.length - 1) < e.parameters.length := by omega
  rw [ParameterFor, parameterAt, arity, List.getD_eq_getElem?_getD,
    List.getElem?_eq_getElem hplace, Option.getD_some]

/-- **An argument is refused** at a place: it is not nothing at all, and the
parameter does not take its kind. -/
def Refuses (e : Entry) (index : Nat) (v : Value) : Prop :=
  v ≠ .null ∧ ∃ p, e.ParameterFor index p ∧ ¬p.Takes v.kind

/-- **What the function sees** of an argument at a place: the argument itself, and in the
place of nothing at all the value that stands in for it. -/
def Sees (e : Entry) (index : Nat) (v w : Value) : Prop :=
  ∃ p, e.ParameterFor index p ∧ (v ≠ .null ∧ w = v ∨ v = .null ∧ p.StandIn w)

theorem Sees.unique {index : Nat} {v w w' : Value} (h : e.Sees index v w)
    (h' : e.Sees index v w') : w = w' := by
  obtain ⟨p, hp, hw⟩ := h
  obtain ⟨q, hq, hw'⟩ := h'
  obtain rfl : p = q := Option.some.inj (hp.symm.trans hq)
  rcases hw with ⟨hv, rfl⟩ | ⟨hv, hw⟩
  · exact (hw'.resolve_right fun h => hv h.1).2.symm
  · have hw' := (hw'.resolve_left fun h => h.1 hv).2
    rw [ParameterType.standIn_iff.mp hw, ParameterType.standIn_iff.mp hw']

/-- What the check makes of an argument is what the function sees of it. -/
theorem sees_of_parameterFor {index : Nat} {v : Value} {p : ParameterType}
    (hp : e.ParameterFor index p) : e.Sees index v (if v.isNull then p.zero else v) := by
  refine ⟨p, hp, ?_⟩
  by_cases hv : v = .null
  · subst hv
    exact .inr ⟨rfl, ParameterType.standIn_iff.mpr rfl⟩
  · refine .inl ⟨hv, if_neg ?_⟩
    rwa [Value.isNull_eq_true_iff]

/-- There is one first place at which an argument is refused. -/
theorem firstRefused_unique {args : List Value} {i j : Nat} {v w : Value}
    (hv : args[i]? = some v) (hrefused : e.Refuses i v)
    (hfirst : ∀ k < i, ∀ u, args[k]? = some u → ¬e.Refuses k u)
    (hw : args[j]? = some w) (hrefused' : e.Refuses j w)
    (hfirst' : ∀ k < j, ∀ u, args[k]? = some u → ¬e.Refuses k u) : i = j := by
  rcases Nat.lt_trichotomy i j with hlt | heq | hlt
  · exact absurd hrefused (hfirst' i hlt v hv)
  · exact heq
  · exact absurd hrefused' (hfirst j hlt w hw)

/-- What the function sees of all arguments is determined. -/
theorem seen_unique {args seen seen' : List Value} (hlength : seen.length = args.length)
    (hlength' : seen'.length = args.length)
    (hseen : ∀ i v, args[i]? = some v → ∃ w, seen[i]? = some w ∧ e.Sees i v w)
    (hseen' : ∀ i v, args[i]? = some v → ∃ w, seen'[i]? = some w ∧ e.Sees i v w) :
    seen = seen' := by
  refine List.ext_getElem? fun i => ?_
  by_cases hi : i < args.length
  · obtain ⟨w, hw, hsees⟩ := hseen i _ (List.getElem?_eq_getElem hi)
    obtain ⟨w', hw', hsees'⟩ := hseen' i _ (List.getElem?_eq_getElem hi)
    rw [hw, hw', hsees.unique hsees']
  · rw [List.getElem?_eq_none (by omega), List.getElem?_eq_none (by omega)]

/-- An argument is accepted at a place. -/
def Accepts (e : Entry) (index : Nat) (v : Value) : Prop :=
  v.isNull = true ∨ (e.parameterAt index).accepts v.kind = true

theorem Accepts.not_refuses {index : Nat} {v : Value} (h : e.Accepts index v) :
    ¬e.Refuses index v := by
  rintro ⟨hnull, p, hp, hkind⟩
  rcases h with h | h
  · exact hnull (Value.isNull_eq_true_iff.mp h)
  · rw [hp.parameterAt_eq] at h
    exact hkind (ParameterType.accepts_eq_true_iff.mp h)

theorem refuses_of_not_accepts {index : Nat} {v : Value}
    (hp : e.ParameterFor index (e.parameterAt index)) (h : ¬e.Accepts index v) :
    e.Refuses index v := by
  rw [Accepts, not_or, Value.isNull_eq_true_iff, ParameterType.accepts_eq_true_iff] at h
  exact ⟨h.1, _, hp, h.2⟩

/-- The arguments are checked from left to right, and the check ends at the first
that is not accepted. -/
theorem coerceFrom_cases (e : Entry) (index : Nat) (args : List Value) :
    (∃ i v, args[i]? = some v ∧ ¬e.Accepts (index + i) v ∧
      (∀ j < i, ∀ w, args[j]? = some w → e.Accepts (index + j) w) ∧
      e.coerceFrom index args =
        .error (.typeMismatch e.name (index + i) (e.parameterAt (index + i)) v.kind)) ∨
    ((∀ i v, args[i]? = some v → e.Accepts (index + i) v) ∧
      ∃ coerced, e.coerceFrom index args = .ok coerced ∧ coerced.length = args.length ∧
        ∀ i v, args[i]? = some v →
          coerced[i]? = some (if v.isNull then (e.parameterAt (index + i)).zero else v)) := by
  induction args generalizing index with
  | nil => exact .inr ⟨by simp, [], rfl, rfl, by simp⟩
  | cons arg rest ih =>
    by_cases hfirst : e.Accepts index arg
    · -- The first argument is accepted, and the check goes on with the others.
      have hstep : e.coerceFrom index (arg :: rest) =
          (e.coerceFrom (index + 1) rest).map
            ((if arg.isNull then (e.parameterAt index).zero else arg) :: ·) := by
        rw [coerceFrom]
        cases hnull : arg.isNull with
        | true => simp
        | false => simp [hfirst.resolve_left (by simp [hnull])]
      have hrest := ih (index + 1)
      simp only [Nat.add_assoc, Nat.add_comm 1] at hrest
      rcases hrest with ⟨i, v, hv, hrefused, hbefore, herror⟩ |
        ⟨hall, coerced, hok, hlength, hseen⟩
      · refine .inl ⟨i + 1, v, by simpa using hv, hrefused, ?_, by rw [hstep, herror]; rfl⟩
        intro j hj w hw
        cases j with
        | zero =>
          obtain rfl : arg = w := by simpa using hw
          exact hfirst
        | succ j => exact hbefore j (by omega) w (by simpa using hw)
      · refine .inr ⟨?_, _, by rw [hstep, hok]; rfl, by simp [hlength], ?_⟩
        · intro i v hv
          cases i with
          | zero =>
            obtain rfl : arg = v := by simpa using hv
            exact hfirst
          | succ i => exact hall i v (by simpa using hv)
        · intro i v hv
          cases i with
          | zero =>
            obtain rfl : arg = v := by simpa using hv
            rfl
          | succ i => simpa using hseen i v (by simpa using hv)
    · have hrefused := hfirst
      simp only [Accepts, not_or, Bool.not_eq_true] at hrefused
      refine .inl ⟨0, arg, rfl, hfirst, by simp, ?_⟩
      simp [coerceFrom, hrefused.1, hrefused.2]

end Entry

theorem sound_builtinEntries : ∀ e ∈ builtinEntries, e.Sound := by
  simp [builtinEntries, Entry.plain, Entry.Sound]

namespace Registry

theorem sound_perform {r : Registry} (h : ∀ e ∈ r.entries, e.Sound) (action : RegistryAction) :
    ∀ e ∈ (r.perform action).entries, e.Sound := by
  intro e he
  rw [entries_perform, List.mem_append, List.mem_filter] at he
  rcases he with he | ⟨he, -⟩
  · exact h e he
  · cases action with
    | surface on => simp [RegistryAction.entry?] at he
    | register name parameters variadic callable =>
      simp only [RegistryAction.entry?, Option.toList_some, List.mem_singleton] at he
      subst he
      intro hvariadic
      simpa using (Bool.and_eq_true_iff.mp hvariadic).2

/-- **Every entry of a registry that was built is sound.** -/
theorem sound_built (builtin : Bool) (actions : List RegistryAction) :
    ∀ e ∈ (built builtin actions).entries, e.Sound := by
  have hstart : ∀ e ∈ (if builtin then builtins else empty).entries, e.Sound := by
    cases builtin with
    | true => exact sound_builtinEntries
    | false => simp [empty]
  unfold built
  generalize (if builtin then builtins else empty) = start at hstart
  induction actions generalizing start with
  | nil => exact hstart
  | cons action rest ih => exact ih _ (sound_perform hstart action)

/-! ### Calls -/

/-- How a call is dispatched: it is rejected, or an entry runs on arguments. -/
inductive Dispatch where
  | rejected (error : FunctionError)
  | runs (entry : Entry) (args : List Value)

/-- **What a dispatched call comes to**: the error of a call that is rejected, and
otherwise what the function of the entry gives on the arguments. A message of failure
beside a value becomes the error of the call if failures are surfaced; if not, it is
the one event of the log. -/
inductive Dispatch.ComesTo (surface : Bool) :
    Dispatch → Logged (Except FunctionError Value) → Prop
  | rejected (error : FunctionError) : ComesTo surface (.rejected error) ⟨.error error, []⟩
  | plain {e : Entry} {args : List Value} {f : List Value → Except FunctionError Value}
      (hf : e.callable = .plain f) : ComesTo surface (.runs e args) ⟨f args, []⟩
  | value {e : Entry} {args : List Value} {f : List Value → Value × Option String} {v : Value}
      (hf : e.callable = .fallible f) (hv : f args = (v, none)) :
      ComesTo surface (.runs e args) ⟨.ok v, []⟩
  | surfaced {e : Entry} {args : List Value} {f : List Value → Value × Option String} {v : Value}
      {message : String} (hsurface : surface = true) (hf : e.callable = .fallible f)
      (hv : f args = (v, some message)) :
      ComesTo surface (.runs e args) ⟨.error (.failed e.name message), []⟩
  | discarded {e : Entry} {args : List Value} {f : List Value → Value × Option String} {v : Value}
      {message : String} (hsurface : surface = false) (hf : e.callable = .fallible f)
      (hv : f args = (v, some message)) :
      ComesTo surface (.runs e args) ⟨.ok v, [.discarded e.name message]⟩

/-- **The rules of dispatch.** -/
inductive Dispatches (r : Registry) (name : String) (args : List Value) : Dispatch → Prop
  /-- No function has the name. -/
  | unknown (hname : r.get? name = none) : Dispatches r name args (.rejected (.notFound name))
  /-- The number of arguments does not fit. -/
  | arity {e : Entry} (hname : r.get? name = some e) (hfits : ¬e.Fits args.length) :
      Dispatches r name args <| .rejected <|
        .arityMismatch name
          (if e.variadic then e.parameters.length - 1 else e.parameters.length)
          args.length e.variadic
  /-- The argument at a place is refused, and none before it is. -/
  | kind {e : Entry} {index : Nat} {v : Value} {p : ParameterType}
      (hname : r.get? name = some e) (hfits : e.Fits args.length) (hv : args[index]? = some v)
      (hrefused : e.Refuses index v) (hp : e.ParameterFor index p)
      (hfirst : ∀ i < index, ∀ w, args[i]? = some w → ¬e.Refuses i w) :
      Dispatches r name args (.rejected (.typeMismatch name index p v.kind))
  /-- All arguments fit, and the function runs on what it sees of them. -/
  | runs {e : Entry} {seen : List Value} (hname : r.get? name = some e)
      (hfits : e.Fits args.length) (hall : ∀ i v, args[i]? = some v → ¬e.Refuses i v)
      (hlength : seen.length = args.length)
      (hseen : ∀ i v, args[i]? = some v → ∃ w, seen[i]? = some w ∧ e.Sees i v w) :
      Dispatches r name args (.runs e seen)

variable {r : Registry} {name : String} {args : List Value}

/-- **The rules of dispatch exclude each other.** -/
theorem Dispatches.unique {d d' : Dispatch} (h : r.Dispatches name args d)
    (h' : r.Dispatches name args d') : d = d' := by
  cases h with
  | unknown hname => cases h' <;> simp_all
  | arity hname hfits =>
    cases h' with
    | unknown hname' => simp_all
    | arity hname' => simp_all
    | kind hname' hfits' | runs hname' hfits' =>
      obtain rfl := Option.some.inj (hname.symm.trans hname')
      exact absurd hfits' hfits
  | @kind e index v p hname hfits hv hrefused hp hfirst =>
    cases h' with
    | unknown hname' => simp_all
    | arity hname' hfits' =>
      obtain rfl := Option.some.inj (hname.symm.trans hname')
      exact absurd hfits hfits'
    | @kind e' index' v' p' hname' _ hv' hrefused' hp' hfirst' =>
      obtain rfl := Option.some.inj (hname.symm.trans hname')
      obtain rfl : index = index' :=
        Entry.firstRefused_unique hv hrefused hfirst hv' hrefused' hfirst'
      obtain rfl := Option.some.inj (hv.symm.trans hv')
      obtain rfl : p = p' := Option.some.inj (hp.symm.trans hp')
      rfl
    | runs hname' _ hall =>
      obtain rfl := Option.some.inj (hname.symm.trans hname')
      exact absurd hrefused (hall index v hv)
  | @runs e seen hname hfits hall hlength hseen =>
    cases h' with
    | unknown hname' => simp_all
    | arity hname' hfits' =>
      obtain rfl := Option.some.inj (hname.symm.trans hname')
      exact absurd hfits hfits'
    | @kind e' index v p hname' _ hv hrefused =>
      obtain rfl := Option.some.inj (hname.symm.trans hname')
      exact absurd hrefused (hall index v hv)
    | @runs e' seen' hname' _ _ hlength' hseen' =>
      obtain rfl := Option.some.inj (hname.symm.trans hname')
      obtain rfl : seen = seen' := Entry.seen_unique hlength hlength' hseen hseen'
      rfl

/-- An entry is found under its own name. -/
theorem name_of_get? {e : Entry} (h : r.get? name = some e) : e.name = name := by
  simpa using List.find?_some h

/-- Arguments that pass the checks are those that the function sees. -/
theorem dispatches_of_coerce_ok {e : Entry} (he : e.Sound) (hname : r.get? name = some e)
    (hfits : e.Fits args.length) {coerced : List Value} (hok : e.coerce args = .ok coerced) :
    r.Dispatches name args (.runs e coerced) := by
  have hcases := e.coerceFrom_cases 0 args
  rw [← Entry.coerce, hok] at hcases
  simp only [Nat.zero_add, reduceCtorEq, and_false, exists_false, false_or,
    Except.ok.injEq] at hcases
  obtain ⟨hall, _, rfl, hlength, hseen⟩ := hcases
  refine .runs hname hfits (fun i v hv => (hall i v hv).not_refuses) hlength fun i v hv => ?_
  have hindex : i < args.length := (List.getElem?_eq_some_iff.mp hv).1
  exact ⟨_, hseen i v hv, Entry.sees_of_parameterFor (he.parameterFor hfits hindex)⟩

/-- Arguments that do not pass the checks are rejected for the first that is refused. -/
theorem dispatches_of_coerce_error {e : Entry} (he : e.Sound) (hname : r.get? name = some e)
    (hfits : e.Fits args.length) {error : FunctionError} (herror : e.coerce args = .error error) :
    r.Dispatches name args (.rejected error) := by
  have hcases := e.coerceFrom_cases 0 args
  rw [← Entry.coerce, herror] at hcases
  simp only [Nat.zero_add, reduceCtorEq, false_and, exists_false, and_false, or_false,
    Except.error.injEq] at hcases
  obtain ⟨i, v, hv, hrefused, hbefore, rfl⟩ := hcases
  have hp := he.parameterFor hfits (List.getElem?_eq_some_iff.mp hv).1
  rw [name_of_get? hname]
  exact .kind hname hfits hv (Entry.refuses_of_not_accepts hp hrefused) hp
    fun j hj w hw => (hbefore j hj w hw).not_refuses

/-- A call whose arguments pass the checks is a run. -/
theorem call_eq_run {e : Entry} {seen : List Value} (hname : r.get? name = some e)
    (htakes : e.takes args.length = true) (hcoerce : e.coerce args = .ok seen) :
    r.call name args = r.run e seen := by
  simp [call, hname, htakes, hcoerce]

/-- A dispatched call comes to one thing only. -/
theorem Dispatch.ComesTo.unique {surface : Bool} {d : Dispatch}
    {outcome outcome' : Logged (Except FunctionError Value)} (h : d.ComesTo surface outcome)
    (h' : d.ComesTo surface outcome') : outcome = outcome' := by
  cases h <;> cases h' <;> simp_all

/-- A run comes to what the function gives. -/
theorem comesTo_run (r : Registry) (e : Entry) (args : List Value) :
    (Dispatch.runs e args).ComesTo r.surface (r.run e args) := by
  unfold run
  cases hcallable : e.callable with
  | plain f => exact .plain hcallable
  | fallible f =>
    obtain ⟨v, message?, hv⟩ : ∃ v message?, f args = (v, message?) := ⟨_, _, rfl⟩
    cases message? with
    | none =>
      simp only [hv]
      exact .value hcallable hv
    | some message =>
      simp only [hv]
      split
      · next hsurface => exact .surfaced hsurface hcallable hv
      · next hsurface => exact .discarded (Bool.eq_false_iff.mpr hsurface) hcallable hv

/-- **A call follows the rules of dispatch.** -/
theorem exists_dispatches (hsound : ∀ e ∈ r.entries, e.Sound) (name : String)
    (args : List Value) :
    ∃ d, r.Dispatches name args d ∧ d.ComesTo r.surface (r.call name args) := by
  have hrejected {error : FunctionError} (h : r.call name args = .quiet (.error error)) :
      (Dispatch.rejected error).ComesTo r.surface (r.call name args) := by
    rw [h]
    exact .rejected error
  cases hname : r.get? name with
  | none => exact ⟨_, .unknown hname, hrejected (by simp [call, hname])⟩
  | some e =>
    have he : e.Sound := hsound e (List.mem_of_find?_eq_some hname)
    cases htakes : e.takes args.length with
    | false =>
      have hfits : ¬e.Fits args.length := by
        rw [← Entry.takes_eq_true_iff, htakes]
        exact Bool.false_ne_true
      refine ⟨_, .arity hname hfits, hrejected ?_⟩
      simp [call, hname, htakes, Entry.expected, Entry.arity, name_of_get? hname]
    | true =>
      have hfits := Entry.takes_eq_true_iff.mp htakes
      cases hcoerce : e.coerce args with
      | error error =>
        refine ⟨_, dispatches_of_coerce_error he hname hfits hcoerce, hrejected ?_⟩
        simp [call, hname, htakes, hcoerce]
      | ok coerced =>
        refine ⟨_, dispatches_of_coerce_ok he hname hfits hcoerce, ?_⟩
        rw [call_eq_run hname htakes hcoerce]
        exact comesTo_run r e coerced

/-! ### The functions behind the entries -/

/-- Two functions of one form that give the same on the given arguments. -/
def AgreeOn (args : List Value) : Callable → Callable → Prop
  | .plain f, .plain g => f args = g args
  | .fallible f, .fallible g => f args = g args
  | _, _ => False

/-- The registry with other functions behind the same entries. -/
def withCallables (r : Registry) (callables : String → Callable) : Registry :=
  { r with entries := r.entries.map fun e => { e with callable := callables e.name } }

/-- **Other functions that a call cannot tell apart** from those of the registry: any
functions if the call is rejected; else the one that runs gives the same on the
arguments it runs on. -/
def Dispatch.Admits (callables : String → Callable) : Dispatch → Prop
  | rejected _ => True
  | runs entry args => AgreeOn args entry.callable (callables entry.name)

theorem get?_withCallables (r : Registry) (callables : String → Callable) (name : String) :
    (r.withCallables callables).get? name =
      (r.get? name).map fun e => { e with callable := callables e.name } := by
  simp only [get?, withCallables, List.find?_map]
  rfl

theorem takes_withCallable (e : Entry) (callable : Callable) (count : Nat) :
    Entry.takes { e with callable } count = e.takes count := rfl

theorem expected_withCallable (e : Entry) (callable : Callable) :
    Entry.expected { e with callable } = e.expected := rfl

/-- The arguments are checked without looking at the function. -/
theorem coerce_withCallable (e : Entry) (callable : Callable) (args : List Value) :
    Entry.coerce { e with callable } args = e.coerce args := by
  have hfrom : ∀ index, Entry.coerceFrom { e with callable } index args =
      e.coerceFrom index args := by
    induction args with
    | nil => exact fun _ => rfl
    | cons arg rest ih =>
      intro index
      rw [Entry.coerceFrom, ih]
      rfl
  exact hfrom 0

theorem run_withCallables (callables : String → Callable) {e : Entry} {seen : List Value}
    (h : AgreeOn seen e.callable (callables e.name)) :
    (r.withCallables callables).run { e with callable := callables e.name } seen =
      r.run e seen := by
  unfold run
  generalize callables e.name = callable at h
  cases hcallable : e.callable with
  | plain f =>
    cases callable with
    | plain g =>
      rw [hcallable] at h
      exact congrArg Logged.quiet h.symm
    | fallible g => simp [hcallable, AgreeOn] at h
  | fallible f =>
    cases callable with
    | plain g => simp [hcallable, AgreeOn] at h
    | fallible g =>
      obtain h : f seen = g seen := by simpa [hcallable, AgreeOn] using h
      simp only [h]
      rfl

/-- **A call depends on the functions only through the one run.** -/
theorem Dispatches.call_withCallables (hsound : ∀ e ∈ r.entries, e.Sound) {d : Dispatch}
    (hd : r.Dispatches name args d) {callables : String → Callable} (h : d.Admits callables) :
    (r.withCallables callables).call name args = r.call name args := by
  unfold call
  rw [get?_withCallables]
  cases hname : r.get? name with
  | none => rfl
  | some e =>
    have he : e.Sound := hsound e (List.mem_of_find?_eq_some hname)
    simp only [Option.map_some, takes_withCallable, expected_withCallable, coerce_withCallable]
    split
    · next htakes =>
      split
      · rfl
      · next coerced hcoerce =>
        obtain rfl := hd.unique
          (dispatches_of_coerce_ok he hname (Entry.takes_eq_true_iff.mp htakes) hcoerce)
        exact run_withCallables callables h
    · rfl

/-- **Dispatch is exact.** In a registry that was built in any way, a name belongs to
the first entry that was registered under it, and a later registration of the name
is refused and changes nothing; the last choice of what becomes of secondary failures
counts. A call follows exactly one of the rules of dispatch, it comes to what that rule
and the function say and to nothing else, and the functions of the registry matter to
it only through the one run that the rule asks for, if any. -/
theorem exists_dispatch_of_built (builtin : Bool) (actions : List RegistryAction) (name : String)
    (args : List Value) :
    let r := built builtin actions
    r.get? name = ((if builtin then builtinEntries else []) ++
      actions.filterMap RegistryAction.entry?).find? (·.name = name) ∧
    r.surface = (actions.filterMap RegistryAction.choice?).getLast?.getD false ∧
    (∀ parameters variadic callable,
      if (r.get? name).isSome then
        r.register name parameters variadic callable = .error (.alreadyDefined name) ∧
          built builtin (actions ++ [.register name parameters variadic callable]) = r
      else ∃ r', r.register name parameters variadic callable = .ok r' ∧
        built builtin (actions ++ [.register name parameters variadic callable]) = r') ∧
    ∃ d, r.Dispatches name args d ∧ (∀ d', r.Dispatches name args d' → d' = d) ∧
      (∀ outcome, d.ComesTo r.surface outcome ↔ outcome = r.call name args) ∧
      ∀ callables, d.Admits callables → (r.withCallables callables).call name args =
        r.call name args := by
  intro r
  have hsound := sound_built builtin actions
  refine ⟨?_, ?_, fun parameters variadic callable => ?_, ?_⟩
  · have hentries : (if builtin then builtinEntries else []) =
        (if builtin then builtins else empty).entries := by cases builtin <;> rfl
    rw [hentries]
    exact get?_foldl_perform _ actions name
  · have hstart : (if builtin then builtins else empty).surface = false := by
      cases builtin <;> rfl
    rw [← hstart]
    exact surface_foldl_perform _ actions
  · have hnext : built builtin (actions ++ [.register name parameters variadic callable]) =
        r.perform (.register name parameters variadic callable) := by
      rw [built, List.foldl_append]
      rfl
    rw [hnext]
    split
    · next htaken =>
      have hrefused := register_of_contains htaken parameters variadic callable
      exact ⟨hrefused, by rw [perform, hrefused]⟩
    · next hfree =>
      have hfree : ¬r.contains name = true := hfree
      refine ⟨_, by rw [register, if_neg hfree], ?_⟩
      rw [perform, register, if_neg hfree]
  · obtain ⟨d, hd, hcall⟩ := exists_dispatches hsound name args
    refine ⟨d, hd, fun d' hd' => hd'.unique hd, fun outcome => ?_,
      fun callables h => hd.call_withCallables hsound h⟩
    constructor
    · intro h
      exact h.unique hcall
    · rintro rfl
      exact hcall

end Registry

end Stencil
