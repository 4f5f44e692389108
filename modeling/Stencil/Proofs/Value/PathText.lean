import Stencil.Proofs.Source.Leaf

/-!
# Paths and their text

The text of a path has a dot before every name. A text that spells a path may lack the
first of these dots, and only that one: what is left of it without a dot at its front has
to fall into names at its dots, none of them empty. So a path is spelled by its own text,
and by that text without its first dot, and by no other
(`Stencil.FieldPath.parse?_eq_some_iff`, `Stencil.FieldPath.display_of_parse?`).

In a template a path is recognised name by name, as identifiers with a dot before each.
`Stencil.FieldPath.text_roundTrips` says that the text recognised there always spells the
path with these names: cutting it at its dots finds the same names again.
-/

namespace Stencil

/-! ### Dots before and between -/

theorem splitAtChar_eq_splitOn (mark : Char) (cs : List Char) :
    splitAtChar mark cs = cs.splitOn mark := by
  induction cs with
  | nil => rfl
  | cons c cs ih =>
    rw [splitAtChar, ih, List.splitOn_cons_eq_if_modifyHead]
    by_cases hc : c = mark
    · simp [hc]
    · cases hparts : cs.splitOn mark with
      | nil => exact absurd hparts (List.splitOn_ne_nil _ _)
      | cons part parts => simp [hc]

/-- Parts with a dot before each. -/
def dotted (parts : List (List Char)) : List Char := parts.flatMap ('.' :: ·)

/-- **A dot before each part** is a dot in front, and dots between the parts. -/
theorem dotted_eq_cons_intercalate {parts : List (List Char)} (h : parts ≠ []) :
    dotted parts = '.' :: ['.'].intercalate parts := by
  induction parts with
  | nil => exact absurd rfl h
  | cons part rest ih =>
    cases rest with
    | nil => simp [dotted]
    | cons next others =>
      rw [dotted, List.flatMap_cons, ← dotted, ih (List.cons_ne_nil _ _)]
      simp [List.intercalate_cons_cons]

namespace FieldPath

/-- A text without the dot at its front, if there is one. -/
def undotted : List Char → List Char
  | '.' :: rest => rest
  | cs => cs

theorem undotted_of_ne {cs : List Char} (h : cs.head? ≠ some '.') : undotted cs = cs := by
  unfold undotted
  split
  · exact absurd rfl h
  · rfl

/-! ### Reading and writing -/

variable {s : String} {p : FieldPath}

theorem ofSegments?_eq_some_iff {segments : List String} :
    ofSegments? segments = some p ↔ p.segments = segments := by
  obtain ⟨segments', hne⟩ := p
  unfold ofSegments?
  split
  · next h => simp [h, hne]
  · simp [eq_comm]

/-- **A text spells a path** if none of its names is empty, and these are the names of the
path. -/
theorem parse?_eq_some_iff : parse? s = some p ↔
    [] ∉ (undotted s.toList).splitOn '.' ∧
      p.segments = ((undotted s.toList).splitOn '.').map String.ofList := by
  have hparse : parse? s = if (splitAtChar '.' (undotted s.toList)).any List.isEmpty then none
      else ofSegments? ((splitAtChar '.' (undotted s.toList)).map String.ofList) := rfl
  rw [hparse, splitAtChar_eq_splitOn]
  split
  · next hany =>
    simp only [List.any_eq_true, List.isEmpty_iff, exists_eq_right] at hany
    simp [hany]
  · next hall =>
    simp only [List.any_eq_true, List.isEmpty_iff, exists_eq_right] at hall
    rw [ofSegments?_eq_some_iff, and_iff_right hall]

theorem toList_display (p : FieldPath) :
    p.display.toList = dotted (p.segments.map String.toList) := by
  simp [display, dotted, String.toList_join, List.flatMap_map]

/-- **Which texts spell a path.** -/
theorem exists_parse?_iff (s : String) : (∃ p, parse? s = some p) ↔
    undotted s.toList ≠ [] ∧ [] ∉ (undotted s.toList).splitOn '.' := by
  constructor
  · rintro ⟨p, hp⟩
    obtain ⟨hparts, -⟩ := parse?_eq_some_iff.mp hp
    refine ⟨fun hnil => hparts ?_, hparts⟩
    rw [hnil]
    exact List.mem_singleton_self _
  · rintro ⟨-, hparts⟩
    have hne : ((undotted s.toList).splitOn '.').map String.ofList ≠ [] := by simp
    exact ⟨⟨_, hne⟩, parse?_eq_some_iff.mpr ⟨hparts, rfl⟩⟩

theorem toList_display_of_parse? (h : parse? s = some p) :
    p.display.toList = '.' :: undotted s.toList := by
  have hparts : ((undotted s.toList).splitOn '.').map (String.toList ∘ String.ofList) =
      (undotted s.toList).splitOn '.' := by
    simp [Function.comp_def]
  rw [toList_display, (parse?_eq_some_iff.mp h).2, List.map_map, hparts,
    dotted_eq_cons_intercalate (List.splitOn_ne_nil _ _), List.intercalate_splitOn]

/-- **The text of a path is the text that spells it**, with a dot at its front. -/
theorem display_of_parse? (h : parse? s = some p) :
    p.display = if s.toList.head? = some '.' then s else "." ++ s := by
  rw [← String.toList_inj, toList_display_of_parse? h]
  split
  · next hdot =>
    obtain ⟨rest, hrest⟩ := List.head?_eq_some_iff.mp hdot
    rw [hrest]
    rfl
  · next hdot =>
    rw [undotted_of_ne hdot]
    simp

/-- The dot at the front makes no difference. -/
theorem parse?_display_of_parse? (h : parse? s = some p) : parse? p.display = some p := by
  have hdisplay : undotted p.display.toList = undotted s.toList := by
    rw [toList_display_of_parse? h]
    rfl
  rw [parse?_eq_some_iff, hdisplay]
  exact parse?_eq_some_iff.mp h

/-- Names without dots, none of them empty, are found again in the text that has a dot
before each. -/
theorem parse?_dotted {parts : List (List Char)} (hne : parts ≠ [])
    (hparts : ∀ part ∈ parts, part ≠ [] ∧ '.' ∉ part) :
    parse? (String.ofList (dotted parts)) = some p ↔ p.segments = parts.map String.ofList := by
  have hsplit : (undotted (dotted parts)).splitOn '.' = parts := by
    rw [dotted_eq_cons_intercalate hne]
    exact List.splitOn_intercalate '.' (fun part hpart => (hparts part hpart).2) hne
  rw [parse?_eq_some_iff, String.toList_ofList, hsplit, and_iff_right]
  exact fun hmem => (hparts [] hmem).1 rfl

/-- **A path is spelled by its text**, if its names can be told apart in it. -/
theorem parse?_display (h : ∀ t ∈ p.segments, t ≠ "" ∧ '.' ∉ t.toList) :
    parse? p.display = some p := by
  have hparts : ∀ part ∈ p.segments.map String.toList, part ≠ [] ∧ '.' ∉ part := by
    refine List.forall_mem_map.mpr fun t ht => ?_
    exact ⟨by simpa using (h t ht).1, (h t ht).2⟩
  rw [← String.ofList_toList (s := p.display), toList_display,
    parse?_dotted (by simpa using p.nonempty) hparts]
  simp [Function.comp_def]

end FieldPath

/-! ### Paths in a template -/

/-- An identifier is a name that a path can have. -/
theorem Identifier.isSegment (i : Identifier) : i.chars ≠ [] ∧ '.' ∉ i.chars := by
  refine ⟨List.cons_ne_nil _ _, fun hdot => ?_⟩
  cases i.chars_arePart '.' hdot

/-- **The text of a path at a cursor**, as it is recognised name by name. -/
def Cursor.pathText (c : Cursor) : List Char := dotted (readDotted c).1

theorem Cursor.passes_pathText (c : Cursor) : c.Passes c.pathText (readDotted c).2 := by
  obtain ⟨names, hnames, hpasses⟩ := exists_dotted c
  have htext : c.pathText = dottedChars names := by
    rw [pathText, ← hnames, dotted, List.flatMap_map, dottedChars]
  rwa [htext]

theorem Cursor.pathText_eq_nil_iff {c : Cursor} : c.pathText = [] ↔ (readDotted c).1 = [] := by
  constructor
  · intro htext
    by_contra hnames
    rw [pathText, dotted_eq_cons_intercalate hnames] at htext
    cases htext
  · intro hnames
    rw [pathText, hnames]
    rfl

/-- The text that is recognised spells the path with the names that are recognised. -/
theorem Cursor.exists_parse?_pathText {c : Cursor} (h : c.pathText ≠ []) :
    ∃ p, FieldPath.parse? (String.ofList c.pathText) = some p ∧
      p.segments = (readDotted c).1.map String.ofList := by
  have hnames : (readDotted c).1 ≠ [] := mt pathText_eq_nil_iff.mpr h
  have hsegments : ∀ part ∈ (readDotted c).1, part ≠ [] ∧ '.' ∉ part := by
    obtain ⟨names, hidentifiers, -⟩ := exists_dotted c
    rw [← hidentifiers]
    exact List.forall_mem_map.mpr fun i _ => i.isSegment
  exact ⟨⟨_, by simpa using hnames⟩, (FieldPath.parse?_dotted hnames hsegments).mpr rfl, rfl⟩

/-- **A path in a template** is what the text recognised there spells. -/
theorem readField?_eq (c : Cursor) : readField? c =
    if c.pathText = [] then none
    else (FieldPath.parse? (String.ofList c.pathText)).map
      fun p => (.field p, (readDotted c).2) := by
  split
  · next htext =>
    simp [readField?, Cursor.pathText_eq_nil_iff.mp htext, FieldPath.ofSegments?]
  · next htext =>
    obtain ⟨p, hp, hsegments⟩ := Cursor.exists_parse?_pathText htext
    simp [readField?, FieldPath.ofSegments?_eq_some_iff.mpr hsegments, hp]

/-! ### The main result -/

/-- **Paths round-trip through their text.** A text spells a path if, without a dot at its
front, it is not empty and no name between its dots is; the path has these names, its own
text is the text with a dot at its front, and that spells the same path. Conversely,
whatever names a path is made of, as long as none is empty or has a dot, its text spells the
path with these names. And in a template, what is recognised as a path is passed over as a
whole, and spells a path with the names that were recognised, one by one. -/
theorem FieldPath.text_roundTrips :
    (∀ s : String,
      ((∃ p, parse? s = some p) ↔
        undotted s.toList ≠ [] ∧ [] ∉ (undotted s.toList).splitOn '.') ∧
      ∀ p, parse? s = some p →
        p.segments = ((undotted s.toList).splitOn '.').map String.ofList ∧
        p.display = (if s.toList.head? = some '.' then s else "." ++ s) ∧
        parse? p.display = some p) ∧
    (∀ segments : List String, segments ≠ [] → (∀ t ∈ segments, t ≠ "" ∧ '.' ∉ t.toList) →
      ∃ p, ofSegments? segments = some p ∧ p.segments = segments ∧ parse? p.display = some p) ∧
    ∀ c : Cursor, c.Passes c.pathText (readDotted c).2 ∧
      (c.pathText = [] → readField? c = none) ∧
      (c.pathText ≠ [] → ∃ p, parse? (String.ofList c.pathText) = some p ∧
        p.segments = (readDotted c).1.map String.ofList ∧
        readField? c = some (.field p, (readDotted c).2)) := by
  refine ⟨fun s => ⟨exists_parse?_iff s, fun p hp => ?_⟩, fun segments hne hsegments => ?_,
    fun c => ⟨c.passes_pathText, fun hnil => ?_, fun htext => ?_⟩⟩
  · exact ⟨(parse?_eq_some_iff.mp hp).2, display_of_parse? hp, parse?_display_of_parse? hp⟩
  · exact ⟨⟨segments, hne⟩, ofSegments?_eq_some_iff.mpr rfl, rfl, parse?_display hsegments⟩
  · rw [readField?_eq, if_pos hnil]
  · obtain ⟨p, hp, hsegments⟩ := Cursor.exists_parse?_pathText htext
    refine ⟨p, hp, hsegments, ?_⟩
    rw [readField?_eq, if_neg htext, hp]
    rfl

end Stencil
