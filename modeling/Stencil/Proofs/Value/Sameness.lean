import Mathlib.Data.List.Forall2
import Stencil.Proofs.Function.Comparison

/-!
# Equality of values is partial

Values are compared part by part, and the comparison of numbers is that of their exact
quantities. Not-a-number has no quantity, so it is not the same as anything, and a value in
which it occurs, however deep, is not the same as anything either
(`Stencil.Value.same_self_iff`). Apart from that the comparison is an equivalence.

Each kind of value has a statement of its own that says what it is to be the same as
another value: lists agree item by item, records field by field with names and visibility,
maps entry by entry. The entries of a map are sorted, so to agree entry by entry is to have
the same values at the same keys (`Stencil.forall₂_entries_iff`). The laws are then read
off these statements, by induction on the parts of a value.

`Stencil.Value.same_partial_equivalence` puts it together, and adds that two of the
built-in functions return this relation and its negation.
-/

namespace Stencil

/-! ### Lists of related things -/

section Related

variable {α : Type} {R : α → α → Prop} {l m n : List α}

/-- A relation that can be turned round at the items of a list can be turned round for the
list. -/
theorem forall₂_symm_of_mem (hl : ∀ a ∈ l, ∀ b, R a b → R b a) (h : List.Forall₂ R l m) :
    List.Forall₂ R m l :=
  (((List.forall₂_and_left l m).mpr ⟨hl, h⟩).imp fun _ b hab => hab.1 b hab.2).flip

/-- A relation that passes on from the items of a list passes on from the list. -/
theorem forall₂_trans_of_mem (hl : ∀ a ∈ l, ∀ b c, R a b → R b c → R a c)
    (h : List.Forall₂ R l m) (h' : List.Forall₂ R m n) : List.Forall₂ R l n := by
  induction h generalizing n with
  | nil => exact h'
  | cons hab hrest ih =>
    cases h' with
    | cons hbc hrest' =>
      obtain ⟨ha, hl⟩ := List.forall_mem_cons.mp hl
      exact .cons (ha _ _ hab hbc) (ih hl hrest')

end Related

/-! ### Numbers -/

/-- **Numbers are the same** if they have the same quantity. -/
theorem Number.same_iff_quantity? {a b : Number} :
    a.same b = true ↔ ∃ x, a.quantity? = some x ∧ b.quantity? = some x := by
  rw [same_iff]
  cases ha : a.quantity? with
  | none => simp [quantity?_eq_none_iff.mp ha]
  | some x =>
    have hne := ne_nan_of_quantity? ha
    cases hb : b.quantity? with
    | none =>
      rw [quantity?_eq_none_iff.mp hb, order_nan_right hne]
      simp
    | some y =>
      rw [order_eq_cmp ha hb, cmp_eq_eq_iff]
      simp [hne, eq_comm]

/-! ### The parts of a value -/

/-- A field is smaller than a record it stands in. -/
theorem sizeOf_value_lt {r : Record Value} {f : Field Value} (h : f ∈ r.fields) :
    sizeOf f.value < sizeOf r := by
  obtain ⟨name, fields⟩ := r
  obtain ⟨fname, value, visibility⟩ := f
  have hfield := List.sizeOf_lt_of_mem h
  simp only [Field.mk.sizeOf_spec, Record.mk.sizeOf_spec] at hfield ⊢
  omega

theorem sizeOf_entry_lt {entries : List (String × Value)} {e : String × Value}
    (h : e ∈ entries) : sizeOf e.2 < sizeOf entries := by
  obtain ⟨key, value⟩ := e
  have hentry := List.sizeOf_lt_of_mem h
  simp only [Prod.mk.sizeOf_spec] at hentry ⊢
  omega

namespace Value

/-- **Induction on the parts of a value**: the items of a list, the values of a map, the
values of the fields of a record. -/
@[elab_as_elim]
theorem inductParts {P : Value → Prop} (null : P null) (bool : ∀ b, P (bool b))
    (number : ∀ n, P (number n)) (string : ∀ s, P (string s))
    (list : ∀ items, (∀ v ∈ items, P v) → P (list items))
    (map : ∀ entries, (∀ e ∈ entries, P e.2) → P (map entries))
    (record : ∀ r : Record Value, (∀ f ∈ r.fields, P f.value) → P (record r)) :
    ∀ v : Value, P v
  | .null => null
  | .bool b => bool b
  | .number n => number n
  | .string s => string s
  | .list items => list items fun v _ => inductParts null bool number string list map record v
  | .map entries => map entries fun e _ => inductParts null bool number string list map record e.2
  | .record r => record r fun f _ => inductParts null bool number string list map record f.value
termination_by v => sizeOf v
decreasing_by
  · next hv =>
    have hlt := List.sizeOf_lt_of_mem hv
    simp only [Value.list.sizeOf_spec]
    omega
  · next he =>
    have hlt := sizeOf_entry_lt he
    simp only [Value.map.sizeOf_spec]
    omega
  · next hf =>
    have hlt := sizeOf_value_lt hf
    simp only [Value.record.sizeOf_spec]
    omega

/-- **Not-a-number occurs in a value**, at any depth, also in a private field. -/
inductive HoldsNan : Value → Prop
  | number : HoldsNan (number .nan)
  | item {items : List Value} {v : Value} (hmem : v ∈ items) (h : HoldsNan v) :
      HoldsNan (list items)
  | entry {entries : List (String × Value)} {e : String × Value} (hmem : e ∈ entries)
      (h : HoldsNan e.2) : HoldsNan (map entries)
  | field {r : Record Value} {f : Field Value} (hmem : f ∈ r.fields) (h : HoldsNan f.value) :
      HoldsNan (record r)

theorem holdsNan_number_iff {a : Number} : (number a).HoldsNan ↔ a = .nan := by
  constructor
  · rintro ⟨⟩
    rfl
  · rintro rfl
    exact .number

theorem holdsNan_list_iff {items : List Value} :
    (list items).HoldsNan ↔ ∃ v ∈ items, v.HoldsNan := by
  constructor
  · rintro (- | ⟨hmem, h⟩)
    exact ⟨_, hmem, h⟩
  · rintro ⟨v, hmem, h⟩
    exact .item hmem h

theorem holdsNan_map_iff {entries : List (String × Value)} :
    (map entries).HoldsNan ↔ ∃ e ∈ entries, e.2.HoldsNan := by
  constructor
  · rintro (- | - | ⟨hmem, h⟩)
    exact ⟨_, hmem, h⟩
  · rintro ⟨e, hmem, h⟩
    exact .entry hmem h

theorem holdsNan_record_iff {r : Record Value} :
    (record r).HoldsNan ↔ ∃ f ∈ r.fields, f.value.HoldsNan := by
  constructor
  · rintro (- | - | - | ⟨hmem, h⟩)
    exact ⟨_, hmem, h⟩
  · rintro ⟨f, hmem, h⟩
    exact .field hmem h

/-! ### What it is to be the same -/

/-- Two entries with one key and the same value. -/
def SameEntry (e f : String × Value) : Prop := e.1 = f.1 ∧ e.2.same f.2 = true

/-- Two fields with one name, one visibility and the same value. -/
def SameField (f g : Field Value) : Prop :=
  f.name = g.name ∧ f.visibility = g.visibility ∧ f.value.same g.value = true

theorem sameItems_iff {vs ws : List Value} :
    sameItems vs ws = true ↔ List.Forall₂ (fun v w => v.same w = true) vs ws := by
  induction vs generalizing ws with
  | nil => cases ws <;> simp [sameItems]
  | cons v vs ih => cases ws <;> simp [sameItems, ih]

theorem sameEntries_iff {es fs : List (String × Value)} :
    sameEntries es fs = true ↔ List.Forall₂ SameEntry es fs := by
  induction es generalizing fs with
  | nil => cases fs <;> simp [sameEntries]
  | cons e es ih =>
    obtain ⟨key, v⟩ := e
    rcases fs with _ | ⟨⟨key', w⟩, fs⟩
    · simp [sameEntries]
    · simp [sameEntries, ih, SameEntry]

theorem sameFields_iff {fs gs : List (Field Value)} :
    sameFields fs gs = true ↔ List.Forall₂ SameField fs gs := by
  induction fs generalizing gs with
  | nil => cases gs <;> simp [sameFields]
  | cons f fs ih =>
    obtain ⟨name, v, visibility⟩ := f
    rcases gs with _ | ⟨⟨name', w, visibility'⟩, gs⟩
    · simp [sameFields]
    · simp only [sameFields, Bool.and_eq_true, beq_iff_eq, ih, List.forall₂_cons, SameField]
      tauto

variable {u v w : Value}

theorem null_same_iff : null.same w = true ↔ w = null := by
  cases w <;> simp [same]

theorem bool_same_iff {b : Bool} : (bool b).same w = true ↔ bool b = w := by
  cases w <;> simp [same]

theorem number_same_iff {a : Number} :
    (number a).same w = true ↔ ∃ b, w = number b ∧ a.same b = true := by
  cases w <;> simp [same]
  rfl

theorem string_same_iff {s : String} : (string s).same w = true ↔ string s = w := by
  cases w <;> simp [same]

theorem list_same_iff {vs : List Value} : (list vs).same w = true ↔
    ∃ ws, w = list ws ∧ List.Forall₂ (fun v w => v.same w = true) vs ws := by
  cases w <;> simp [same, sameItems_iff]

theorem map_same_iff {es : List (String × Value)} : (map es).same w = true ↔
    ∃ fs, w = map fs ∧ List.Forall₂ SameEntry es fs := by
  cases w <;> simp [same, sameEntries_iff]

theorem record_same_iff {r : Record Value} : (record r).same w = true ↔
    ∃ q, w = record q ∧ r.name = q.name ∧ List.Forall₂ SameField r.fields q.fields := by
  obtain ⟨name, fields⟩ := r
  cases w with
  | record q =>
    obtain ⟨name', fields'⟩ := q
    simp [same, sameFields_iff]
  | null | bool | number | string | list | map => simp [same]

/-- Values of different kinds are not the same. -/
theorem kind_eq_of_same (h : v.same w = true) : v.kind = w.kind := by
  cases v with
  | null => rw [null_same_iff.mp h]
  | bool b => rw [← bool_same_iff.mp h]
  | number a =>
    obtain ⟨b, rfl, -⟩ := number_same_iff.mp h
    rfl
  | string s => rw [← string_same_iff.mp h]
  | list vs =>
    obtain ⟨ws, rfl, -⟩ := list_same_iff.mp h
    rfl
  | map es =>
    obtain ⟨fs, rfl, -⟩ := map_same_iff.mp h
    rfl
  | record r =>
    obtain ⟨q, rfl, -⟩ := record_same_iff.mp h
    rfl

/-! ### The laws -/

theorem same_symm (h : v.same w = true) : w.same v = true := by
  induction v using inductParts generalizing w with
  | null =>
    obtain rfl := null_same_iff.mp h
    exact h
  | bool b =>
    obtain rfl := bool_same_iff.mp h
    exact h
  | number a =>
    obtain ⟨b, rfl, hab⟩ := number_same_iff.mp h
    obtain ⟨x, ha, hb⟩ := Number.same_iff_quantity?.mp hab
    exact number_same_iff.mpr ⟨a, rfl, Number.same_iff_quantity?.mpr ⟨x, hb, ha⟩⟩
  | string s =>
    obtain rfl := string_same_iff.mp h
    exact h
  | list vs ih =>
    obtain ⟨ws, rfl, hitems⟩ := list_same_iff.mp h
    exact list_same_iff.mpr ⟨vs, rfl, forall₂_symm_of_mem (fun v hv _ => ih v hv) hitems⟩
  | map es ih =>
    obtain ⟨fs, rfl, hentries⟩ := map_same_iff.mp h
    refine map_same_iff.mpr ⟨es, rfl, forall₂_symm_of_mem (fun e he f hef => ?_) hentries⟩
    exact ⟨hef.1.symm, ih e he hef.2⟩
  | record r ih =>
    obtain ⟨q, rfl, hname, hfields⟩ := record_same_iff.mp h
    refine record_same_iff.mpr
      ⟨r, rfl, hname.symm, forall₂_symm_of_mem (fun f hf g hfg => ?_) hfields⟩
    exact ⟨hfg.1.symm, hfg.2.1.symm, ih f hf hfg.2.2⟩

theorem same_trans (h : u.same v = true) (h' : v.same w = true) : u.same w = true := by
  induction u using inductParts generalizing v w with
  | null => rwa [null_same_iff.mp h] at h'
  | bool b => rwa [← bool_same_iff.mp h] at h'
  | number a =>
    obtain ⟨b, rfl, hab⟩ := number_same_iff.mp h
    obtain ⟨c, rfl, hbc⟩ := number_same_iff.mp h'
    obtain ⟨x, ha, hb⟩ := Number.same_iff_quantity?.mp hab
    obtain ⟨y, hb', hc⟩ := Number.same_iff_quantity?.mp hbc
    obtain rfl : x = y := Option.some.inj (hb.symm.trans hb')
    exact number_same_iff.mpr ⟨c, rfl, Number.same_iff_quantity?.mpr ⟨x, ha, hc⟩⟩
  | string s => rwa [← string_same_iff.mp h] at h'
  | list us ih =>
    obtain ⟨vs, rfl, huv⟩ := list_same_iff.mp h
    obtain ⟨ws, rfl, hvw⟩ := list_same_iff.mp h'
    exact list_same_iff.mpr ⟨ws, rfl, forall₂_trans_of_mem (fun u hu _ _ => ih u hu) huv hvw⟩
  | map es ih =>
    obtain ⟨fs, rfl, hef⟩ := map_same_iff.mp h
    obtain ⟨gs, rfl, hfg⟩ := map_same_iff.mp h'
    refine map_same_iff.mpr ⟨gs, rfl, forall₂_trans_of_mem (fun e he f g h h' => ?_) hef hfg⟩
    exact ⟨h.1.trans h'.1, ih e he h.2 h'.2⟩
  | record r ih =>
    obtain ⟨q, rfl, hname, hrq⟩ := record_same_iff.mp h
    obtain ⟨p, rfl, hname', hqp⟩ := record_same_iff.mp h'
    refine record_same_iff.mpr
      ⟨p, rfl, hname.trans hname', forall₂_trans_of_mem (fun f hf g k h h' => ?_) hrq hqp⟩
    exact ⟨h.1.trans h'.1, h.2.1.trans h'.2.1, ih f hf h.2.2 h'.2.2⟩

/-- **A value is the same as itself** unless not-a-number occurs in it. -/
theorem same_self_iff (v : Value) : v.same v = true ↔ ¬v.HoldsNan := by
  induction v using inductParts with
  | null => exact iff_of_true (null_same_iff.mpr rfl) (by rintro ⟨⟩)
  | bool b => exact iff_of_true (bool_same_iff.mpr rfl) (by rintro ⟨⟩)
  | string s => exact iff_of_true (string_same_iff.mpr rfl) (by rintro ⟨⟩)
  | number a =>
    simp [number_same_iff, Number.same_iff_quantity?, holdsNan_number_iff,
      ← Number.quantity?_eq_none_iff, Option.eq_none_iff_forall_ne_some]
  | list vs ih =>
    simp only [list_same_iff, holdsNan_list_iff, list.injEq, exists_eq_left', List.forall₂_same,
      not_exists, not_and]
    exact forall₂_congr ih
  | map es ih =>
    simp only [map_same_iff, holdsNan_map_iff, map.injEq, exists_eq_left', List.forall₂_same,
      SameEntry, true_and, not_exists, not_and]
    exact forall₂_congr ih
  | record r ih =>
    simp only [record_same_iff, holdsNan_record_iff, record.injEq, exists_eq_left',
      List.forall₂_same, SameField, true_and, not_exists, not_and]
    exact forall₂_congr ih

end Value

/-! ### Maps -/

section Maps

variable {α : Type} {entries es fs : List (String × α)} {key : String}

/-- **Entries in the order of their keys**, of which there are no two alike. -/
def SortedKeys (entries : List (String × α)) : Prop := entries.Pairwise (·.1 < ·.1)

/-- The keys after an insertion are the keys before, and the new one. -/
theorem mem_insertEntry {e : String × α} {value : α}
    (h : e ∈ insertEntry key value entries) : e = (key, value) ∨ e ∈ entries := by
  induction entries with
  | nil => exact Or.inl (List.mem_singleton.mp h)
  | cons first rest ih => grind [insertEntry]

/-- **One insertion** keeps the order. -/
theorem SortedKeys.insertEntry (h : SortedKeys entries) (key : String) (value : α) :
    SortedKeys (insertEntry key value entries) := by
  induction entries with
  | nil => exact List.pairwise_singleton _ _
  | cons first rest ih =>
    obtain ⟨k, v⟩ := first
    obtain ⟨hfirst, hrest⟩ := List.pairwise_cons.mp h
    rw [Stencil.insertEntry]
    split
    · next hkey =>
      subst hkey
      exact List.pairwise_cons.mpr ⟨hfirst, hrest⟩
    · next hne =>
      split
      · next hlt =>
        refine List.pairwise_cons.mpr ⟨List.forall_mem_cons.mpr ⟨hlt, fun e he => ?_⟩, h⟩
        exact String.lt_trans hlt (hfirst e he)
      · next hnot =>
        refine List.pairwise_cons.mpr ⟨fun e he => ?_, ih hrest⟩
        rcases mem_insertEntry he with rfl | he
        · exact Std.lt_of_le_of_ne hnot (Ne.symm hne)
        · exact hfirst e he

/-- **All entries that are built are sorted.** -/
theorem sortedKeys_entriesOf (items : List (String × α)) : SortedKeys (entriesOf items) := by
  have hfold : ∀ entries : List (String × α), SortedKeys entries →
      SortedKeys (items.foldl (fun entries item => insertEntry item.1 item.2 entries) entries) := by
    induction items with
    | nil => exact fun _ h => h
    | cons item rest ih => exact fun entries h => ih _ (h.insertEntry item.1 item.2)
  exact hfold [] List.Pairwise.nil

theorem lookupEntry_cons_self (key : String) (value : α) (rest : List (String × α)) :
    lookupEntry key ((key, value) :: rest) = some value :=
  if_pos rfl

theorem lookupEntry_cons_of_ne {k : String} (h : key ≠ k) (value : α)
    (rest : List (String × α)) :
    lookupEntry key ((k, value) :: rest) = lookupEntry key rest :=
  if_neg h

/-- What is found behind a key has a larger key. -/
theorem lt_of_lookupEntry {k : String} {v : α} (hlater : ∀ e ∈ entries, k < e.1)
    (h : lookupEntry key entries = some v) : k < key := by
  induction entries with
  | nil => cases h
  | cons first rest ih =>
    obtain ⟨hfirst, hrest⟩ := List.forall_mem_cons.mp hlater
    rw [lookupEntry] at h
    split at h
    · next hkey => exact hkey ▸ hfirst
    · exact ih hrest h

/-- Nothing is found at a key behind its place. -/
theorem lookupEntry_eq_none (hlater : ∀ e ∈ entries, key < e.1) :
    lookupEntry key entries = none := by
  cases h : lookupEntry key entries with
  | none => rfl
  | some v => exact absurd (lt_of_lookupEntry hlater h) (String.lt_irrefl key)

variable {R : α → α → Prop} {k j : String} {v w : α}

/-- What can be found in sorted entries does not come before them all. -/
theorem not_lt_of_isSome (hfs : SortedKeys ((j, w) :: fs))
    (h : (lookupEntry k ((j, w) :: fs)).isSome = true) : ¬k < j := by
  intro hlt
  have hnone : lookupEntry k ((j, w) :: fs) = none := by
    refine lookupEntry_eq_none (List.forall_mem_cons.mpr ⟨hlt, fun f hf => ?_⟩)
    exact String.lt_trans hlt ((List.pairwise_cons.mp hfs).1 f hf)
  rw [hnone] at h
  cases h

theorem isSome_eq_of_rel {a b : Option α} (h : Option.Rel R a b) : a.isSome = b.isSome := by
  cases h <;> rfl

/-- Sorted entries that agree at every key begin with the same key and related values, and
the rest of them agrees at every key too. -/
theorem rel_cons_iff (hes : SortedKeys ((k, v) :: es)) (hfs : SortedKeys ((j, w) :: fs)) :
    (∀ key, Option.Rel R (lookupEntry key ((k, v) :: es)) (lookupEntry key ((j, w) :: fs))) ↔
      (k = j ∧ R v w) ∧ ∀ key, Option.Rel R (lookupEntry key es) (lookupEntry key fs) := by
  constructor
  · intro h
    have hsome (key : String) := isSome_eq_of_rel (h key)
    obtain rfl : k = j := by
      refine String.le_antisymm (not_lt_of_isSome hes ?_) (not_lt_of_isSome hfs ?_)
      · rw [hsome j, lookupEntry_cons_self, Option.isSome_some]
      · rw [← hsome k, lookupEntry_cons_self, Option.isSome_some]
    have hfirst := h k
    rw [lookupEntry_cons_self, lookupEntry_cons_self, Option.rel_some_some] at hfirst
    refine ⟨⟨rfl, hfirst⟩, fun key => ?_⟩
    by_cases hkey : key = k
    · rw [hkey, lookupEntry_eq_none (List.pairwise_cons.mp hes).1,
        lookupEntry_eq_none (List.pairwise_cons.mp hfs).1]
      exact .none
    · have hrest := h key
      rwa [lookupEntry_cons_of_ne hkey, lookupEntry_cons_of_ne hkey] at hrest
  · rintro ⟨⟨rfl, hvw⟩, hrest⟩ key
    rw [lookupEntry, lookupEntry]
    split
    · exact .some hvw
    · exact hrest key

/-- **Sorted entries agree one by one** if they agree at every key. -/
theorem forall₂_entries_iff (hes : SortedKeys es) (hfs : SortedKeys fs) :
    List.Forall₂ (fun e f => e.1 = f.1 ∧ R e.2 f.2) es fs ↔
      ∀ key, Option.Rel R (lookupEntry key es) (lookupEntry key fs) := by
  induction es generalizing fs with
  | nil =>
    cases fs with
    | nil => exact iff_of_true .nil fun _ => .none
    | cons f others =>
      refine iff_of_false (by simp) fun h => ?_
      have hfound := isSome_eq_of_rel (h f.1)
      rw [lookupEntry_cons_self] at hfound
      cases hfound
  | cons e rest ih =>
    cases fs with
    | nil =>
      refine iff_of_false (by simp) fun h => ?_
      have hfound := isSome_eq_of_rel (h e.1)
      rw [lookupEntry_cons_self] at hfound
      cases hfound
    | cons f others =>
      rw [List.forall₂_cons, rel_cons_iff hes hfs,
        ih (List.pairwise_cons.mp hes).2 (List.pairwise_cons.mp hfs).2]

end Maps

namespace Value

/-- **Equality of values is an equivalence but for not-a-number**, whatever functions are
registered besides the built-in ones. It can be turned round and passes on; a value is the
same as itself unless not-a-number occurs in it, at any depth and in private fields too;
and values of different kinds are not the same. Numbers are the same if they have one exact
quantity, which not-a-number has not, and which the two zeros share. Lists are compared item
by item. Maps are the same if they have the same values at the same keys; the entries that
make up a map are always sorted. Records are the same if their names are, and their fields
one by one, with names, visibility and values. The built-in functions `eq` and `ne` return
this relation and its negation for any two values. -/
theorem same_partial_equivalence (actions : List RegistryAction) :
    let r := Registry.built true actions
    (∀ v w : Value, v.same w = w.same v) ∧
    (∀ u v w : Value, u.same v = true → v.same w = true → u.same w = true) ∧
    (∀ v : Value, v.same v = true ↔ ¬v.HoldsNan) ∧
    (∀ v w : Value, v.kind ≠ w.kind → v.same w = false) ∧
    (∀ a b : Number, (number a).same (number b) = true ↔
      ∃ x, a.quantity? = some x ∧ b.quantity? = some x) ∧
    (∀ vs ws : List Value, (list vs).same (list ws) = true ↔
      List.Forall₂ (fun v w => v.same w = true) vs ws) ∧
    (∀ items : List (String × Value), SortedKeys (entriesOf items)) ∧
    (∀ es fs : List (String × Value), SortedKeys es → SortedKeys fs →
      ((map es).same (map fs) = true ↔
        ∀ key, Option.Rel (fun v w => v.same w = true) (lookupEntry key es) (lookupEntry key fs))) ∧
    (∀ q r : Record Value, (record q).same (record r) = true ↔
      q.name = r.name ∧ List.Forall₂ SameField q.fields r.fields) ∧
    ∀ v w : Value, r.call "eq" [v, w] = .quiet (.ok (.bool (v.same w))) ∧
      r.call "ne" [v, w] = .quiet (.ok (.bool (!v.same w))) := by
  intro r
  refine ⟨fun v w => Bool.eq_iff_iff.mpr ⟨same_symm, same_symm⟩, fun u v w => same_trans,
    same_self_iff, fun v w hkind => Bool.eq_false_iff.mpr (mt kind_eq_of_same hkind), ?_, ?_,
    sortedKeys_entriesOf, fun es fs hes hfs => ?_, ?_, fun v w => ⟨?_, ?_⟩⟩
  · simp [number_same_iff, Number.same_iff_quantity?]
  · simp [list_same_iff]
  · have hentries : (map es).same (map fs) = true ↔ List.Forall₂ SameEntry es fs := by
      simp [map_same_iff]
    exact hentries.trans (forall₂_entries_iff (R := fun v w : Value => v.same w = true) hes hfs)
  · simp [record_same_iff]
  · rw [Registry.call_pair actions rfl]
    rfl
  · rw [Registry.call_pair actions rfl]
    rfl

-- The two zeros are the same, and a number that nobody can read is compared all the same.
example : (number (.finite true ⟨0, by decide⟩)).same (number .zero) = true ∧
    (record ⟨"box", [⟨"key", number .nan, .hidden⟩]⟩).same
      (record ⟨"box", [⟨"key", number .nan, .hidden⟩]⟩) = false := by
  decide +kernel

end Value

end Stencil
