import Mathlib.Data.List.Basic
import Mathlib.Data.List.Induction
import Stencil.Proofs.Value.Walk

/-!
# Records are built field by field

A record is built by setting fields, one after another. A field that is there already is
set where it stands, with its value and its visibility together. What that comes to for a
whole list of settings is said by `Stencil.BuiltFrom`: the names stand in the order in which
they were first set, and what is found under a name is the last setting of it. One setting
keeps this up (`Stencil.BuiltFrom.put`), and so it holds of every record that is built.

`Stencil.Record.build_keeps_last` adds what a path of one name reads from the record, and
that a setting leaves the fields of other names as they are, where they are.
-/

namespace Stencil

variable {α : Type}

/-! ### Setting a field -/

/-- The names of fields, in order. -/
def fieldNames (fields : List (Field α)) : List String := fields.map (·.name)

/-- The field of a name that is set is in place of what was there; a new one comes last. -/
theorem fieldNames_putField (field : Field α) (fields : List (Field α)) :
    fieldNames (putField field fields) =
      if field.name ∈ fieldNames fields then fieldNames fields
      else fieldNames fields ++ [field.name] := by
  induction fields with
  | nil => rfl
  | cons f rest ih =>
    simp only [fieldNames, putField, List.map_cons, List.mem_cons] at ih ⊢
    by_cases hname : f.name = field.name
    · simp [hname]
    · rw [if_neg hname, List.map_cons, ih]
      by_cases hrest : field.name ∈ rest.map (·.name)
      · simp [hrest]
      · simp [hrest, Ne.symm hname]

/-- A field that is set is found under its name, and nothing changes under other names. -/
theorem find?_putField (field : Field α) (fields : List (Field α)) (name : String) :
    (putField field fields).find? (·.name = name) =
      if field.name = name then some field else fields.find? (·.name = name) := by
  induction fields with
  | nil => by_cases h : field.name = name <;> simp [putField, h]
  | cons f rest ih =>
    rw [putField]
    by_cases hfield : f.name = field.name
    · rw [if_pos hfield, List.find?_cons, List.find?_cons, hfield]
      by_cases h : field.name = name <;> simp [h]
    · rw [if_neg hfield, List.find?_cons, List.find?_cons, ih]
      by_cases hf : f.name = name
      · have hne : field.name ≠ name := fun h => hfield (hf.trans h.symm)
        simp [hf, hne]
      · simp [hf]

/-- **Other fields stay where they are, as they are.** -/
theorem getElem?_putField_of_ne {field f : Field α} (h : f.name ≠ field.name)
    (fields : List (Field α)) (i : Nat) :
    (putField field fields)[i]? = some f ↔ fields[i]? = some f := by
  have hne : field ≠ f := by
    rintro rfl
    exact h rfl
  induction fields generalizing i with
  | nil => cases i <;> simp [putField, hne]
  | cons g rest ih =>
    rw [putField]
    by_cases hg : g.name = field.name
    · have hother : g ≠ f := by
        rintro rfl
        exact h hg
      rw [if_pos hg]
      cases i with
      | zero => simp [hne, hother]
      | succ i => simp
    · rw [if_neg hg]
      cases i with
      | zero => simp
      | succ i => simpa using ih i

/-! ### Setting one field after another -/

/-- **The fields that settings come to**: under every name the last setting of it is found,
every name that was set is there, and names stand in the order of their first settings. -/
structure BuiltFrom (settings fields : List (Field α)) : Prop where
  last : ∀ name, fields.find? (·.name = name) = settings.reverse.find? (·.name = name)
  names : ∀ name, name ∈ fieldNames fields ↔ name ∈ fieldNames settings
  firsts : (fieldNames fields).Pairwise fun m n =>
    (fieldNames settings).idxOf m < (fieldNames settings).idxOf n

/-- **One more setting.** -/
theorem BuiltFrom.put {settings fields : List (Field α)} (h : BuiltFrom settings fields)
    (field : Field α) : BuiltFrom (settings ++ [field]) (putField field fields) := by
  have hsettings : fieldNames (settings ++ [field]) = fieldNames settings ++ [field.name] :=
    List.map_append
  refine ⟨fun name => ?_, fun name => ?_, ?_⟩
  · rw [find?_putField, h.last, List.reverse_append, List.reverse_singleton,
      List.singleton_append, List.find?_cons]
    by_cases hname : field.name = name <;> simp [hname]
  · rw [fieldNames_putField, hsettings, List.mem_append, List.mem_singleton, ← h.names]
    split
    · next hmem =>
      refine ⟨.inl, ?_⟩
      rintro (hold | rfl)
      · exact hold
      · exact hmem
    · rw [List.mem_append, List.mem_singleton]
  · rw [hsettings]
    -- A name that was set before has its first setting where it had it.
    have hfirst : ∀ name ∈ fieldNames fields,
        (fieldNames settings ++ [field.name]).idxOf name = (fieldNames settings).idxOf name :=
      fun name hname => List.idxOf_append_of_mem ((h.names name).mp hname)
    have hold : (fieldNames fields).Pairwise fun m n =>
        (fieldNames settings ++ [field.name]).idxOf m <
          (fieldNames settings ++ [field.name]).idxOf n := by
      refine h.firsts.imp_of_mem ?_
      intro m n hm hn hlt
      rwa [hfirst m hm, hfirst n hn]
    rw [fieldNames_putField]
    split
    · exact hold
    · next hnew =>
      rw [h.names] at hnew
      refine List.pairwise_append.mpr ⟨hold, List.pairwise_singleton _ _, ?_⟩
      intro m hm n hn
      obtain rfl := List.mem_singleton.mp hn
      rw [hfirst m hm, List.idxOf_append_of_notMem hnew]
      exact Nat.lt_add_right _ (List.idxOf_lt_length_of_mem ((h.names m).mp hm))

namespace Record

/-- **The record built by settings**, one after another. -/
def build (name : String) (settings : List (Field α)) : Record α :=
  settings.foldl (fun r f => r.put f.name f.value f.visibility) (empty name)

variable (name : String) (settings : List (Field α))

theorem build_concat (field : Field α) :
    build name (settings ++ [field]) =
      (build name settings).put field.name field.value field.visibility := by
  rw [build, List.foldl_append]
  rfl

theorem name_build : (build name settings).name = name := by
  induction settings using List.reverseRecOn with
  | nil => rfl
  | append_singleton settings field ih =>
    rw [build_concat]
    exact ih

/-- **Every record that is built** has the fields that its settings come to. -/
theorem builtFrom_build : BuiltFrom settings (build name settings).fields := by
  induction settings using List.reverseRecOn with
  | nil => exact ⟨fun _ => rfl, fun _ => Iff.rfl, .nil⟩
  | append_singleton settings field ih =>
    rw [build_concat]
    exact ih.put field

/-- **What is found under a name is its last setting.** -/
theorem get?_build_of_last {before after : List (Field α)} {field : Field α}
    (h : ∀ f ∈ after, f.name ≠ field.name) :
    (build name (before ++ field :: after)).get? field.name = some field := by
  have hafter : after.reverse.find? (·.name = field.name) = none := by
    simpa using h
  rw [get?, (builtFrom_build name _).last, List.reverse_append, List.reverse_cons,
    List.append_assoc, List.find?_append, hafter]
  simp

theorem get?_build_of_not_set {n : String} (h : ∀ f ∈ settings, f.name ≠ n) :
    (build name settings).get? n = none := by
  rw [get?, (builtFrom_build name _).last]
  simpa using h

/-- **A record keeps one field for each name, and the last setting of it.** The names stand
in the order of their first settings, each once. A path of one name comes to nothing if the
name was never set; else it comes to the value of the last setting if that was an exported
one, and may not read it if it was a private one. A further setting leaves every field of
another name as it is, where it is. -/
theorem build_keeps_last (settings : List (Field Value)) :
    let r := build name settings
    (fieldNames r.fields).Nodup ∧
    (∀ n, n ∈ fieldNames r.fields ↔ n ∈ fieldNames settings) ∧
    ((fieldNames r.fields).Pairwise fun m n =>
      (fieldNames settings).idxOf m < (fieldNames settings).idxOf n) ∧
    (∀ n, n ∉ fieldNames settings → (Value.record r).resolve [n] = .ok .null) ∧
    (∀ before field after, settings = before ++ field :: after →
      field.name ∉ fieldNames after →
      (Value.record r).resolve [field.name] =
        if field.visibility = .exported then .ok field.value
        else .error (.unreadable name field.name)) ∧
    ∀ (field f : Field Value) (i : Nat), f.name ≠ field.name →
      ((build name (settings ++ [field])).fields[i]? = some f ↔ r.fields[i]? = some f) := by
  intro r
  have hbuilt := builtFrom_build name settings
  refine ⟨hbuilt.firsts.imp fun hlt => ?_, hbuilt.names, hbuilt.firsts, fun n hn => ?_, ?_, ?_⟩
  · rintro rfl
    exact Nat.lt_irrefl _ hlt
  · have hnone : r.get? n = none :=
      get?_build_of_not_set name settings (by simpa [fieldNames] using hn)
    exact (Value.lacks_record_iff.mpr hnone).resolve_cons []
  · rintro before field after rfl hafter
    have hlast : r.get? field.name = some field :=
      get?_build_of_last name (by simpa [fieldNames] using hafter)
    obtain ⟨n, value, visibility⟩ := field
    cases visibility with
    | exported => exact (Value.holds_record_iff.mpr hlast).resolve_cons []
    | hidden =>
      rw [(Value.holds_record_iff.mpr hlast).resolve_cons_hidden, name_build]
      rfl
  · intro field f i hne
    rw [build_concat]
    exact getElem?_putField_of_ne hne r.fields i

end Record

end Stencil
