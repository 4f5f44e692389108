import Stencil.FieldPath

/-!
# Paths are walked name by name

What a path comes to, said without following it at once: a walk takes one name at a
time, through the entries of maps and the exported fields of records
(`Stencil.Value.Walk`). It may arrive. Otherwise there is a first value that the walk
reaches and cannot leave by the next name, and there are three ways for that: the value
has nothing of this name, its field of this name is private, or it has no parts at all.

`Stencil.Value.resolve_iff_walk` says which of these the resolution of a path reports,
and that a path in two parts is resolved one part after the other.
-/

namespace Stencil

namespace Value

/-! ### Parts of a value -/

/-- **What a value holds under a name**, and who may read it: the first entry of a map
with this key, or the first field of a record with this name. -/
inductive Holds (name : String) : Value → Value → Visibility → Prop
  | entry {before after : List (String × Value)} {part : Value} (h : ∀ e ∈ before, e.1 ≠ name) :
      Holds name (.map (before ++ (name, part) :: after)) part .exported
  | field {record : String} {before after : List (Field Value)} {part : Value}
      {visibility : Visibility} (h : ∀ f ∈ before, f.name ≠ name) :
      Holds name (.record ⟨record, before ++ ⟨name, part, visibility⟩ :: after⟩) part visibility

/-- **A value has nothing under a name**: it is nothing at all, or has no entry or field
of this name. -/
inductive Lacks (name : String) : Value → Prop
  | null : Lacks name .null
  | entry {entries : List (String × Value)} (h : ∀ e ∈ entries, e.1 ≠ name) :
      Lacks name (.map entries)
  | field {record : String} {fields : List (Field Value)} (h : ∀ f ∈ fields, f.name ≠ name) :
      Lacks name (.record ⟨record, fields⟩)

/-- The kinds of values that have no named parts. -/
def solidKinds : List Kind := [.bool, .number, .string, .list]

/-- **A walk**, one name at a time, through map entries and exported fields. -/
inductive Walk : Value → List String → Value → Prop
  | here (v : Value) : Walk v [] v
  | step {v part w : Value} {name : String} {names : List String}
      (h : Holds name v part .exported) (hwalk : Walk part names w) : Walk v (name :: names) w

/-! ### Looking up a name -/

theorem lookupEntry_eq_find? (name : String) (entries : List (String × Value)) :
    lookupEntry name entries = (entries.find? (·.1 = name)).map (·.2) := by
  induction entries with
  | nil => rfl
  | cons entry rest ih =>
    rw [lookupEntry, List.find?_cons, ih]
    by_cases h : name = entry.1
    · simp [h]
    · simp [h, Ne.symm h]

/-- A map holds under a name what is found at this key. -/
theorem holds_map_iff {name : String} {entries : List (String × Value)} {part : Value} :
    Holds name (.map entries) part .exported ↔ lookupEntry name entries = some part := by
  rw [lookupEntry_eq_find?]
  constructor
  · rintro ⟨h⟩
    rw [List.find?_append, List.find?_eq_none.mpr (by simpa using h), List.find?_cons]
    simp
  · intro h
    obtain ⟨⟨key, v⟩, hfind, rfl⟩ := Option.map_eq_some_iff.mp h
    obtain ⟨hkey, before, after, rfl, hbefore⟩ := List.find?_eq_some_iff_append.mp hfind
    obtain rfl : key = name := by simpa using hkey
    exact .entry fun e he => by simpa using hbefore e he

theorem lacks_map_iff {name : String} {entries : List (String × Value)} :
    Lacks name (.map entries) ↔ lookupEntry name entries = none := by
  rw [lookupEntry_eq_find?, Option.map_eq_none_iff, List.find?_eq_none]
  constructor
  · rintro (_ | h | _)
    simpa using h
  · intro h
    exact .entry (by simpa using h)

/-- A record holds under a name what its field of this name stores. -/
theorem holds_record_iff {name : String} {r : Record Value} {part : Value}
    {visibility : Visibility} :
    Holds name (.record r) part visibility ↔ r.get? name = some ⟨name, part, visibility⟩ := by
  obtain ⟨record, fields⟩ := r
  rw [Record.get?, List.find?_eq_some_iff_append]
  constructor
  · rintro (_ | @⟨_, before, after, _, _, h⟩)
    exact ⟨by simp, before, after, rfl, by simpa using h⟩
  · rintro ⟨-, before, after, hfields, hbefore⟩
    obtain rfl : fields = before ++ ⟨name, part, visibility⟩ :: after := hfields
    exact .field fun f hf => by simpa using hbefore f hf

theorem lacks_record_iff {name : String} {r : Record Value} :
    Lacks name (.record r) ↔ r.get? name = none := by
  obtain ⟨record, fields⟩ := r
  rw [Record.get?, List.find?_eq_none]
  constructor
  · rintro (_ | _ | h)
    simpa using h
  · intro h
    exact .field (by simpa using h)

/-! ### One name of a path -/

variable {v part : Value} {name : String}

/-- An exported part is walked into. -/
theorem Holds.resolve_cons (h : Holds name v part .exported) (names : List String) :
    v.resolve (name :: names) = part.resolve names := by
  cases v with
  | map entries => simp only [resolve, holds_map_iff.mp h]
  | record r => simp [resolve, holds_record_iff.mp h, Field.isReadable]
  | null | bool | number | string | list => cases h

/-- A private part ends the walk. -/
theorem Holds.resolve_cons_hidden {r : Record Value} (h : Holds name (.record r) part .hidden)
    (names : List String) :
    (Value.record r).resolve (name :: names) = .error (.unreadable r.name name) := by
  simp [resolve, holds_record_iff.mp h, Field.isReadable]

/-- Where there is nothing, further names change nothing. -/
theorem Lacks.resolve_cons (h : Lacks name v) (names : List String) :
    v.resolve (name :: names) = .ok .null := by
  cases v with
  | null => rfl
  | map entries => simp only [resolve, lacks_map_iff.mp h]
  | record r => simp only [resolve, lacks_record_iff.mp h]
  | bool | number | string | list => cases h

/-- A value without parts cannot be walked into. -/
theorem resolve_cons_of_solid (h : v.kind ∈ solidKinds) (names : List String) :
    v.resolve (name :: names) = .error (.notTraversable name v.kind) := by
  cases v with
  | bool | number | string | list => rfl
  | null | map | record => simp [kind, solidKinds] at h

/-- **Every value** holds something under a name, exported or private, or has nothing
under it, or has no parts. -/
theorem holds_or_lacks_or_solid (v : Value) (name : String) :
    (∃ part, Holds name v part .exported) ∨
      (∃ r part, v = .record r ∧ Holds name (.record r) part .hidden) ∨
      Lacks name v ∨ v.kind ∈ solidKinds := by
  cases v with
  | null => exact .inr (.inr (.inl .null))
  | bool | number | string | list => exact .inr (.inr (.inr (by simp [kind, solidKinds])))
  | map entries =>
    cases h : lookupEntry name entries with
    | some part => exact .inl ⟨part, holds_map_iff.mpr h⟩
    | none => exact .inr (.inr (.inl (lacks_map_iff.mpr h)))
  | record r =>
    cases h : r.get? name with
    | none => exact .inr (.inr (.inl (lacks_record_iff.mpr h)))
    | some f =>
      obtain ⟨key, part, visibility⟩ := f
      obtain rfl : key = name := by simpa using List.find?_some h
      cases visibility with
      | exported => exact .inl ⟨part, holds_record_iff.mpr h⟩
      | hidden => exact .inr (.inl ⟨r, part, rfl, holds_record_iff.mpr h⟩)

/-! ### The whole path -/

/-- What lies behind a walk is resolved from where the walk arrives. -/
theorem Walk.resolve_append {v w : Value} {names : List String} (h : Walk v names w)
    (more : List String) : v.resolve (names ++ more) = w.resolve more := by
  induction h with
  | here v => rfl
  | step hholds _ ih => rw [List.cons_append, hholds.resolve_cons, ih]

/-- **How a walk ends**, and what is reported of it. -/
inductive WalkEnds (root : Value) (path : List String) : Except AccessError Value → Prop
  | arrived {v : Value} (h : root.Walk path v) : WalkEnds root path (.ok v)
  | vanished {before after : List String} {v : Value} {name : String}
      (hpath : path = before ++ name :: after) (h : root.Walk before v) (hlacks : Lacks name v) :
      WalkEnds root path (.ok .null)
  | barred {before after : List String} {r : Record Value} {part : Value} {name : String}
      (hpath : path = before ++ name :: after) (h : root.Walk before (.record r))
      (hholds : Holds name (.record r) part .hidden) :
      WalkEnds root path (.error (.unreadable r.name name))
  | stuck {before after : List String} {v : Value} {name : String}
      (hpath : path = before ++ name :: after) (h : root.Walk before v)
      (hsolid : v.kind ∈ solidKinds) :
      WalkEnds root path (.error (.notTraversable name v.kind))

/-- A walk that goes on from a part ends as the walk from the part does. -/
theorem WalkEnds.step {names : List String} {result : Except AccessError Value}
    (hholds : Holds name v part .exported) (h : WalkEnds part names result) :
    WalkEnds v (name :: names) result := by
  cases h with
  | arrived h => exact .arrived (.step hholds h)
  | vanished hpath h hlacks =>
    exact .vanished (congrArg (name :: ·) hpath) (.step hholds h) hlacks
  | barred hpath h hhidden => exact .barred (congrArg (name :: ·) hpath) (.step hholds h) hhidden
  | stuck hpath h hsolid => exact .stuck (congrArg (name :: ·) hpath) (.step hholds h) hsolid

/-- Every walk ends in one of the ways, with what the resolution reports. -/
theorem walkEnds_resolve (root : Value) (path : List String) :
    root.WalkEnds path (root.resolve path) := by
  induction path generalizing root with
  | nil => exact .arrived (.here root)
  | cons name names ih =>
    rcases root.holds_or_lacks_or_solid name with
      ⟨part, hholds⟩ | ⟨r, part, rfl, hholds⟩ | hlacks | hsolid
    · rw [hholds.resolve_cons]
      exact (ih part).step hholds
    · rw [hholds.resolve_cons_hidden]
      exact .barred (List.nil_append _).symm (.here _) hholds
    · rw [hlacks.resolve_cons]
      exact .vanished (List.nil_append _).symm (.here _) hlacks
    · rw [resolve_cons_of_solid hsolid]
      exact .stuck (List.nil_append _).symm (.here _) hsolid

/-- **The resolution of a path reports how the walk ends.** -/
theorem resolve_eq_iff_walkEnds {root : Value} {path : List String}
    {result : Except AccessError Value} :
    root.resolve path = result ↔ root.WalkEnds path result := by
  constructor
  · rintro rfl
    exact root.walkEnds_resolve path
  · rintro (h | ⟨rfl, h, hlacks⟩ | ⟨rfl, h, hholds⟩ | ⟨rfl, h, hsolid⟩)
    · simpa [resolve] using h.resolve_append []
    · rw [h.resolve_append, hlacks.resolve_cons]
    · rw [h.resolve_append, hholds.resolve_cons_hidden]
    · rw [h.resolve_append, resolve_cons_of_solid hsolid]

/-- Nothing comes of a path into nothing. -/
theorem resolve_null (path : List String) : null.resolve path = .ok null := by
  cases path with
  | nil => rfl
  | cons name names => rfl

/-- **A path in two parts** is resolved one part after the other. -/
theorem resolve_append (root : Value) (path more : List String) :
    root.resolve (path ++ more) = (root.resolve path).bind fun v => v.resolve more := by
  have hends := root.walkEnds_resolve path
  generalize root.resolve path = result at hends
  rcases hends with h | ⟨rfl, h, hlacks⟩ | ⟨rfl, h, hholds⟩ | ⟨rfl, h, hsolid⟩
  · exact h.resolve_append more
  · rw [List.append_assoc, h.resolve_append, List.cons_append, hlacks.resolve_cons]
    exact (resolve_null more).symm
  · rw [List.append_assoc, h.resolve_append, List.cons_append, hholds.resolve_cons_hidden]
    rfl
  · rw [List.append_assoc, h.resolve_append, List.cons_append, resolve_cons_of_solid hsolid]
    rfl

/-- **The resolution of a path is the walk, name by name.** It cannot go on exactly if
the walk reaches a value without parts and has a name left, and may not go on exactly if
the walk reaches a record whose field of the next name is private; the error has this
name, and the kind of the value or the name of the record. It comes to nothing exactly
if the walk reaches a value that has nothing under the next name, whatever names follow,
or arrives at nothing. Otherwise it is the value at which the walk arrives. A path in
two parts is resolved one part after the other, with the same errors. -/
theorem resolve_iff_walk (root : Value) (path : List String) :
    (∀ name kind, root.resolve path = .error (.notTraversable name kind) ↔
      ∃ before after v, path = before ++ name :: after ∧ root.Walk before v ∧
        v.kind = kind ∧ kind ∈ solidKinds) ∧
    (∀ record name, root.resolve path = .error (.unreadable record name) ↔
      ∃ before after fields part, path = before ++ name :: after ∧
        root.Walk before (.record ⟨record, fields⟩) ∧
        Holds name (.record ⟨record, fields⟩) part .hidden) ∧
    (root.resolve path = .ok .null ↔
      (∃ before name after v, path = before ++ name :: after ∧ root.Walk before v ∧
        Lacks name v) ∨ root.Walk path .null) ∧
    (∀ v, root.resolve path = .ok v ∧ v ≠ .null ↔ root.Walk path v ∧ v ≠ .null) ∧
    ∀ more, root.resolve (path ++ more) = (root.resolve path).bind fun v => v.resolve more := by
  refine ⟨fun name kind => resolve_eq_iff_walkEnds.trans ⟨?_, ?_⟩,
    fun record name => resolve_eq_iff_walkEnds.trans ⟨?_, ?_⟩,
    resolve_eq_iff_walkEnds.trans ⟨?_, ?_⟩,
    fun v => and_congr_left fun hne => resolve_eq_iff_walkEnds.trans ⟨?_, .arrived⟩,
    root.resolve_append path⟩
  · rintro (_ | _ | _ | ⟨hpath, h, hsolid⟩)
    exact ⟨_, _, _, hpath, h, rfl, hsolid⟩
  · rintro ⟨before, after, v, hpath, h, rfl, hsolid⟩
    exact .stuck hpath h hsolid
  · rintro (_ | _ | ⟨hpath, h, hholds⟩ | _)
    exact ⟨_, _, _, _, hpath, h, hholds⟩
  · rintro ⟨before, after, fields, part, hpath, h, hholds⟩
    exact .barred hpath h hholds
  · rintro (h | ⟨hpath, h, hlacks⟩ | _ | _)
    · exact .inr h
    · exact .inl ⟨_, _, _, _, hpath, h, hlacks⟩
  · rintro (⟨before, name, after, v, hpath, h, hlacks⟩ | h)
    · exact .vanished hpath h hlacks
    · exact .arrived h
  · rintro (h | _ | _ | _)
    · exact h
    · exact absurd rfl hne

end Value

end Stencil
