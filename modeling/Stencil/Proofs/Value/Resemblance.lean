import Stencil.Proofs.Value.Concealment
import Stencil.Proofs.Value.Walk

/-!
# Paths do not see what is private

Values that resemble each other, said by rules: they have the same shape and the same
contents, part by part, except that nothing is asked of what two private fields store
(`Stencil.Value.Resembles`). These are the values with one concealed form
(`Stencil.Value.resembles_iff_alike`), and so a path cannot tell them apart.

`Stencil.Value.resolve_hides` puts it together: paths into values that resemble each other
find values that do, or report one and the same error; and a single walk already shows why,
for what it reads lies behind exported fields only, and a private field ends it.
-/

namespace Stencil

namespace Value

/-! ### Resemblance -/

mutual

/-- **Two values resemble each other**: they are the same but for what is stored in
private fields, at any depth. -/
inductive Resembles : Value → Value → Prop
  | null : Resembles null null
  | bool (b : Bool) : Resembles (bool b) (bool b)
  | number (n : Number) : Resembles (number n) (number n)
  | string (s : String) : Resembles (string s) (string s)
  | list {vs ws : List Value} (h : ResembleItems vs ws) : Resembles (list vs) (list ws)
  | map {vs ws : List (String × Value)} (h : ResembleEntries vs ws) :
      Resembles (map vs) (map ws)
  | record {name : String} {vs ws : List (Field Value)} (h : ResembleFields vs ws) :
      Resembles (record ⟨name, vs⟩) (record ⟨name, ws⟩)

/-- The items of two lists resemble each other, one by one. -/
inductive ResembleItems : List Value → List Value → Prop
  | nil : ResembleItems [] []
  | cons {v w : Value} {vs ws : List Value} (h : Resembles v w) (hrest : ResembleItems vs ws) :
      ResembleItems (v :: vs) (w :: ws)

/-- The entries of two maps have the same keys, and their values resemble each other. -/
inductive ResembleEntries : List (String × Value) → List (String × Value) → Prop
  | nil : ResembleEntries [] []
  | cons {key : String} {v w : Value} {vs ws : List (String × Value)} (h : Resembles v w)
      (hrest : ResembleEntries vs ws) : ResembleEntries ((key, v) :: vs) ((key, w) :: ws)

/-- The fields of two records have the same names and the same readers, and the values of
the exported ones resemble each other. -/
inductive ResembleFields : List (Field Value) → List (Field Value) → Prop
  | nil : ResembleFields [] []
  | exported {name : String} {v w : Value} {vs ws : List (Field Value)} (h : Resembles v w)
      (hrest : ResembleFields vs ws) :
      ResembleFields (⟨name, v, .exported⟩ :: vs) (⟨name, w, .exported⟩ :: ws)
  | hidden {name : String} (v w : Value) {vs ws : List (Field Value)}
      (hrest : ResembleFields vs ws) :
      ResembleFields (⟨name, v, .hidden⟩ :: vs) (⟨name, w, .hidden⟩ :: ws)

end

/-! ### Resemblance and concealment -/

mutual

/-- Values that resemble each other have one concealed form. -/
theorem Resembles.alike : ∀ {v w : Value}, v.Resembles w → v.Alike w
  | _, _, .null => rfl
  | _, _, .bool _ => rfl
  | _, _, .number _ => rfl
  | _, _, .string _ => rfl
  | _, _, .list h => congrArg Value.list h.concealItems_eq
  | _, _, .map h => congrArg Value.map h.concealEntries_eq
  | _, _, .record h => congrArg (fun fields => Value.record ⟨_, fields⟩) h.concealFields_eq

theorem ResembleItems.concealItems_eq :
    ∀ {vs ws : List Value}, ResembleItems vs ws → concealItems vs = concealItems ws
  | _, _, .nil => rfl
  | _, _, .cons h hrest => by
    rw [concealItems, concealItems, h.alike, hrest.concealItems_eq]

theorem ResembleEntries.concealEntries_eq : ∀ {vs ws : List (String × Value)},
    ResembleEntries vs ws → concealEntries vs = concealEntries ws
  | _, _, .nil => rfl
  | _, _, .cons h hrest => by
    rw [concealEntries, concealEntries, h.alike, hrest.concealEntries_eq]

theorem ResembleFields.concealFields_eq : ∀ {vs ws : List (Field Value)},
    ResembleFields vs ws → concealFields vs = concealFields ws
  | _, _, .nil => rfl
  | _, _, .exported h hrest => by
    rw [concealFields, concealFields, h.alike, hrest.concealFields_eq]
  | _, _, .hidden _ _ hrest => by
    rw [concealFields, concealFields, hrest.concealFields_eq]

end

mutual

/-- Values with one concealed form resemble each other. -/
theorem resembles_of_conceal : ∀ v w : Value, v.conceal = w.conceal → v.Resembles w
  | null, w, h => by
    cases w <;> simp [conceal] at h
    exact .null
  | bool b, w, h => by
    cases w <;> simp [conceal] at h
    exact h ▸ .bool b
  | number n, w, h => by
    cases w <;> simp [conceal] at h
    exact h ▸ .number n
  | string s, w, h => by
    cases w <;> simp [conceal] at h
    exact h ▸ .string s
  | list vs, w, h => by
    cases w <;> simp [conceal] at h
    exact .list (resembleItems_of_conceal vs _ h)
  | map vs, w, h => by
    cases w <;> simp [conceal] at h
    exact .map (resembleEntries_of_conceal vs _ h)
  | record ⟨name, vs⟩, w, h => by
    cases w <;> simp [conceal] at h
    obtain ⟨rfl, hfields⟩ := h
    exact .record (resembleFields_of_conceal vs _ hfields)

theorem resembleItems_of_conceal :
    ∀ vs ws : List Value, concealItems vs = concealItems ws → ResembleItems vs ws
  | [], ws, h => by
    cases ws <;> simp [concealItems] at h
    exact .nil
  | v :: vs, ws, h => by
    cases ws <;> simp [concealItems] at h
    exact .cons (resembles_of_conceal v _ h.1) (resembleItems_of_conceal vs _ h.2)

theorem resembleEntries_of_conceal : ∀ vs ws : List (String × Value),
    concealEntries vs = concealEntries ws → ResembleEntries vs ws
  | [], ws, h => by
    cases ws <;> simp [concealEntries] at h
    exact .nil
  | (key, v) :: vs, ws, h => by
    cases ws <;> simp [concealEntries] at h
    obtain ⟨⟨rfl, hfirst⟩, hrest⟩ := h
    exact .cons (resembles_of_conceal v _ hfirst) (resembleEntries_of_conceal vs _ hrest)

theorem resembleFields_of_conceal : ∀ vs ws : List (Field Value),
    concealFields vs = concealFields ws → ResembleFields vs ws
  | [], ws, h => by
    rcases ws with _ | ⟨⟨_, w, _ | _⟩, ws⟩ <;> simp [concealFields] at h
    exact .nil
  | ⟨name, v, .exported⟩ :: vs, ws, h => by
    rcases ws with _ | ⟨⟨_, w, _ | _⟩, ws⟩ <;> simp [concealFields] at h
    obtain ⟨⟨rfl, hfirst⟩, hrest⟩ := h
    exact .exported (resembles_of_conceal v w hfirst) (resembleFields_of_conceal vs ws hrest)
  | ⟨name, v, .hidden⟩ :: vs, ws, h => by
    rcases ws with _ | ⟨⟨_, w, _ | _⟩, ws⟩ <;> simp [concealFields] at h
    obtain ⟨rfl, hrest⟩ := h
    exact .hidden v w (resembleFields_of_conceal vs ws hrest)

end

/-- **Resemblance is to have one concealed form.** -/
theorem resembles_iff_alike {v w : Value} : v.Resembles w ↔ v.Alike w :=
  ⟨Resembles.alike, resembles_of_conceal v w⟩

/-! ### Paths -/

/-- What a path finds, unless it is nothing at all, lies at the end of a walk. -/
theorem walk_of_resolve_eq_ok {root v : Value} {path : List String}
    (h : root.resolve path = .ok v) : v = .null ∨ root.Walk path v := by
  rcases resolve_eq_iff_walkEnds.mp h with hwalk | _ | _ | _
  · exact .inr hwalk
  · exact .inl rfl

/-- **Paths do not see what is private.** Two values that resemble each other are taken by
every path to values that resemble each other, or to one and the same error. Whatever a path
finds, if it is something at all, it found through the entries of maps and the exported
fields of records; and a path that comes to a private field ends there, whatever is stored
in the field and whatever names follow. -/
theorem resolve_hides {v w : Value} (h : v.Resembles w) (path : List String) :
    ((∃ a b, v.resolve path = .ok a ∧ w.resolve path = .ok b ∧ a.Resembles b) ∨
      ∃ error, v.resolve path = .error error ∧ w.resolve path = .error error) ∧
    (∀ a, v.resolve path = .ok a → a = .null ∨ v.Walk path a) ∧
    ∀ before r name part after, path = before ++ name :: after → v.Walk before (.record r) →
      Holds name (.record r) part .hidden →
      v.resolve path = .error (.unreadable r.name name) ∧
        w.resolve path = .error (.unreadable r.name name) := by
  have hcases := h.alike.resolve_cases path
  refine ⟨?_, fun a => walk_of_resolve_eq_ok, ?_⟩
  · refine hcases.imp_left ?_
    rintro ⟨a, b, hv, hw, halike⟩
    exact ⟨a, b, hv, hw, resembles_iff_alike.mpr halike⟩
  · rintro before r name part after hpath hwalk hhidden
    have hv : v.resolve path = .error (.unreadable r.name name) :=
      resolve_eq_iff_walkEnds.mpr (.barred hpath hwalk hhidden)
    rcases hcases with ⟨a, b, hok, -, -⟩ | ⟨error, herror, hw⟩
    · rw [hok] at hv
      cases hv
    · rw [herror] at hv
      exact ⟨herror.trans hv, hw.trans hv⟩

/-- A box with a private key, and with an exported key deeper inside. -/
def keyBox (secret : Value) : Value :=
  .map [("box", .record ⟨"Box", [⟨"key", secret, .hidden⟩,
    ⟨"tag", .record ⟨"Tag", [⟨"key", .string "k", .exported⟩]⟩, .exported⟩]⟩)]

theorem resolve_hides_keyBox :
    let v := keyBox (.list [.number .nan])
    let w := keyBox (.map [("key", .null)])
    v.Resembles w ∧ v.resolve ["box", "key", "key"] = .error (.unreadable "Box" "key") ∧
      w.resolve ["box", "key", "key"] = .error (.unreadable "Box" "key") ∧
      ∃ a b, v.resolve ["box", "tag", "key"] = .ok a ∧ w.resolve ["box", "tag", "key"] = .ok b ∧
        a.Resembles b := by
  intro v w
  have h : v.Resembles w := .map <| .cons (.record <| .hidden _ _ <|
    .exported (.record <| .exported (.string "k") .nil) .nil) .nil
  have hbarred := (resolve_hides h ["box", "key", "key"]).2.2 ["box"] _ "key" _ ["key"] rfl
    (.step (holds_map_iff.mpr rfl) (.here _)) (holds_record_iff.mpr rfl)
  refine ⟨h, hbarred.1, hbarred.2, ?_⟩
  rcases (resolve_hides h ["box", "tag", "key"]).1 with hfound | ⟨error, herror, -⟩
  · exact hfound
  · cases herror

end Value

end Stencil
