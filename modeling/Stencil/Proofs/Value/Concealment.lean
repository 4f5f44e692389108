import Stencil.FieldPath

/-!
# Values without what is private in them

Two values are alike if they differ at most in what is stored in private fields of
records, at any depth. The notion comes down to an equation: each value has a
concealed form, in which nothing at all stands in every private field, and alike
values are those with the same concealed form (`Stencil.Value.Alike`).

Paths respect it. Walking through the concealed form is walking through the value and
concealing what is found there (`Stencil.Value.resolve_conceal`), since a walk stops
at a private field before it sees what is stored there.
-/

namespace Stencil

namespace Value

/-! ### The concealed form -/

mutual

/-- **The value with nothing at all in its private fields.** -/
def conceal : Value → Value
  | null => null
  | bool b => bool b
  | number n => number n
  | string s => string s
  | list items => list (concealItems items)
  | map entries => map (concealEntries entries)
  | record ⟨name, fields⟩ => record ⟨name, concealFields fields⟩

/-- The concealed items of a list. -/
def concealItems : List Value → List Value
  | [] => []
  | v :: rest => conceal v :: concealItems rest

/-- The concealed entries of a map. -/
def concealEntries : List (String × Value) → List (String × Value)
  | [] => []
  | (k, v) :: rest => (k, conceal v) :: concealEntries rest

/-- The concealed fields of a record. -/
def concealFields : List (Field Value) → List (Field Value)
  | [] => []
  | ⟨name, v, .exported⟩ :: rest => ⟨name, conceal v, .exported⟩ :: concealFields rest
  | ⟨name, _, .hidden⟩ :: rest => ⟨name, null, .hidden⟩ :: concealFields rest

end

mutual

/-- **Whether a value has no private field**, at any depth. -/
def isOpen : Value → Bool
  | null => true
  | bool _ => true
  | number _ => true
  | string _ => true
  | list items => isOpenItems items
  | map entries => isOpenEntries entries
  | record ⟨_, fields⟩ => isOpenFields fields

/-- Whether the items of a list have no private field. -/
def isOpenItems : List Value → Bool
  | [] => true
  | v :: rest => isOpen v && isOpenItems rest

/-- Whether the entries of a map have no private field. -/
def isOpenEntries : List (String × Value) → Bool
  | [] => true
  | (_, v) :: rest => isOpen v && isOpenEntries rest

/-- Whether the fields of a record are exported and have no private field. -/
def isOpenFields : List (Field Value) → Bool
  | [] => true
  | ⟨_, v, .exported⟩ :: rest => isOpen v && isOpenFields rest
  | ⟨_, _, .hidden⟩ :: _ => false

end

/-- **Two values are alike**: they differ at most in what private fields hold. -/
def Alike (v w : Value) : Prop := v.conceal = w.conceal

mutual

/-- Where there is nothing private there is nothing to conceal. -/
theorem conceal_of_isOpen : ∀ v : Value, v.isOpen = true → v.conceal = v
  | null, _ => rfl
  | bool _, _ => rfl
  | number _, _ => rfl
  | string _, _ => rfl
  | list items, h => congrArg list (concealItems_of_isOpen items h)
  | map entries, h => congrArg map (concealEntries_of_isOpen entries h)
  | record ⟨name, fields⟩, h =>
    congrArg (fun fs => record ⟨name, fs⟩) (concealFields_of_isOpen fields h)

theorem concealItems_of_isOpen :
    ∀ items : List Value, isOpenItems items = true → concealItems items = items
  | [], _ => rfl
  | v :: rest, h => by
    obtain ⟨hv, hrest⟩ := Bool.and_eq_true_iff.mp h
    rw [concealItems, conceal_of_isOpen v hv, concealItems_of_isOpen rest hrest]

theorem concealEntries_of_isOpen :
    ∀ entries : List (String × Value), isOpenEntries entries = true →
      concealEntries entries = entries
  | [], _ => rfl
  | (k, v) :: rest, h => by
    obtain ⟨hv, hrest⟩ := Bool.and_eq_true_iff.mp h
    rw [concealEntries, conceal_of_isOpen v hv, concealEntries_of_isOpen rest hrest]

theorem concealFields_of_isOpen :
    ∀ fields : List (Field Value), isOpenFields fields = true → concealFields fields = fields
  | [], _ => rfl
  | ⟨name, v, .exported⟩ :: rest, h => by
    obtain ⟨hv, hrest⟩ := Bool.and_eq_true_iff.mp h
    rw [concealFields, conceal_of_isOpen v hv, concealFields_of_isOpen rest hrest]
  | ⟨_, _, .hidden⟩ :: _, h => by cases h

end

mutual

/-- What is private stays private when it is concealed. -/
theorem isOpen_conceal : ∀ v : Value, v.conceal.isOpen = v.isOpen
  | null => rfl
  | bool _ => rfl
  | number _ => rfl
  | string _ => rfl
  | list items => isOpenItems_conceal items
  | map entries => isOpenEntries_conceal entries
  | record ⟨_, fields⟩ => isOpenFields_conceal fields

theorem isOpenItems_conceal :
    ∀ items : List Value, isOpenItems (concealItems items) = isOpenItems items
  | [] => rfl
  | v :: rest => by
    rw [concealItems, isOpenItems, isOpenItems, isOpen_conceal v, isOpenItems_conceal rest]

theorem isOpenEntries_conceal :
    ∀ entries : List (String × Value),
      isOpenEntries (concealEntries entries) = isOpenEntries entries
  | [] => rfl
  | (k, v) :: rest => by
    rw [concealEntries, isOpenEntries, isOpenEntries, isOpen_conceal v, isOpenEntries_conceal rest]

theorem isOpenFields_conceal :
    ∀ fields : List (Field Value), isOpenFields (concealFields fields) = isOpenFields fields
  | [] => rfl
  | ⟨name, v, .exported⟩ :: rest => by
    rw [concealFields, isOpenFields, isOpenFields, isOpen_conceal v, isOpenFields_conceal rest]
  | ⟨_, _, .hidden⟩ :: _ => rfl

end

/-- **Alike values are equal if one of them has nothing private.** -/
theorem Alike.eq_of_isOpen {v w : Value} (h : v.Alike w) (hv : v.isOpen = true) : v = w := by
  have hw : w.isOpen = true := by rw [← isOpen_conceal w, ← h, isOpen_conceal v, hv]
  rw [← conceal_of_isOpen v hv, h, conceal_of_isOpen w hw]

/-! ### Paths -/

theorem lookupEntry_concealEntries (key : String) (entries : List (String × Value)) :
    lookupEntry key (concealEntries entries) = (lookupEntry key entries).map conceal := by
  induction entries with
  | nil => rfl
  | cons entry rest ih =>
    obtain ⟨k, v⟩ := entry
    rw [concealEntries, lookupEntry, lookupEntry, ih]
    split <;> rfl

/-- The field of a name is concealed where it stands, and as private as before. -/
theorem get?_concealFields (recordName name : String) (fields : List (Field Value)) :
    Record.get? ⟨recordName, concealFields fields⟩ name =
      (Record.get? ⟨recordName, fields⟩ name).map fun f =>
        { f with value := if f.isReadable then f.value.conceal else null } := by
  unfold Record.get?
  dsimp only
  induction fields with
  | nil => rfl
  | cons field rest ih =>
    obtain ⟨k, v, visibility⟩ := field
    cases visibility with
    | exported =>
      rw [concealFields, List.find?_cons, List.find?_cons, ih]
      by_cases hk : k = name <;> simp [hk, Field.isReadable]
    | hidden =>
      rw [concealFields, List.find?_cons, List.find?_cons, ih]
      by_cases hk : k = name <;> simp [hk, Field.isReadable]

/-- **A walk through the concealed form** finds the concealed form of what the walk
through the value finds, or fails in the same way. -/
theorem resolve_conceal (v : Value) (path : List String) :
    v.conceal.resolve path = (v.resolve path).map conceal := by
  induction path generalizing v with
  | nil =>
    simp only [resolve]
    rfl
  | cons s rest ih =>
    cases v with
    | null => simp [conceal, resolve, Except.map]
    | bool b => simp [conceal, resolve, Except.map, kind]
    | number n => simp [conceal, resolve, Except.map, kind]
    | string t => simp [conceal, resolve, Except.map, kind]
    | list items => simp [conceal, resolve, Except.map, kind]
    | map entries =>
      simp only [conceal, resolve, lookupEntry_concealEntries]
      cases lookupEntry s entries with
      | none => simp [Except.map, conceal]
      | some w => exact ih w
    | record r =>
      obtain ⟨name, fields⟩ := r
      simp only [conceal, resolve, get?_concealFields]
      cases Record.get? ⟨name, fields⟩ s with
      | none => simp [Except.map, conceal]
      | some f =>
        -- Concealing keeps the visibility, so both walks are barred at the same field.
        have hreadable : Field.isReadable
            { f with value := if f.isReadable then f.value.conceal else null } = f.isReadable := rfl
        simp only [Option.map_some, hreadable]
        cases hf : f.isReadable with
        | true => simpa using ih f.value
        | false => simp [Except.map]

/-- **Paths into alike values** end with alike values or with the same error. -/
theorem Alike.resolve_cases {v w : Value} (h : v.Alike w) (path : List String) :
    (∃ a b, v.resolve path = .ok a ∧ w.resolve path = .ok b ∧ a.Alike b) ∨
      ∃ error, v.resolve path = .error error ∧ w.resolve path = .error error := by
  have hresolve : (v.resolve path).map conceal = (w.resolve path).map conceal := by
    rw [← resolve_conceal, ← resolve_conceal, h]
  cases hv : v.resolve path with
  | error e =>
    cases hw : w.resolve path with
    | error e' =>
      refine .inr ⟨e, rfl, ?_⟩
      simpa [hv, hw, Except.map] using hresolve.symm
    | ok b => simp [hv, hw, Except.map] at hresolve
  | ok a =>
    cases hw : w.resolve path with
    | error e' => simp [hv, hw, Except.map] at hresolve
    | ok b =>
      have hconceal : a.conceal = b.conceal := by simpa [hv, hw, Except.map] using hresolve
      exact .inl ⟨a, b, rfl, rfl, hconceal⟩

end Value

end Stencil
