import Mathlib.Tactic.SplitIfs
import Stencil.FileTree

/-!
# Writing to a file tree

Setting the contents of a file changes that file and nothing else
(`Stencil.FileTree.contents?_setContents`). If the file is at the place where a path
said it was to be created, the path leads to it afterwards
(`Stencil.FileTree.find_setContents`): the directories on the way are still there,
because the place is not one of them.
-/

namespace Stencil

namespace FileTree

variable {t : FileTree} {p q place : Place} {bytes : ByteArray} {names : List String}

/-! ### Contents -/

theorem lookup_cons (p q : Place) (bytes : ByteArray) (files : List (Place × ByteArray)) :
    ((p, bytes) :: files).lookup q = if q = p then some bytes else files.lookup q := by
  by_cases h : q = p
  · simp [h]
  · rw [List.lookup_cons, beq_false_of_ne h, if_neg h]

theorem lookup_putFile (p q : Place) (bytes : ByteArray) (files : List (Place × ByteArray)) :
    (putFile p bytes files).lookup q = if q = p then some bytes else files.lookup q := by
  induction files with
  | nil => exact lookup_cons p q bytes []
  | cons entry rest ih =>
    obtain ⟨place, old⟩ := entry
    rw [putFile]
    by_cases hplace : place = p
    · subst hplace
      rw [if_pos rfl, lookup_cons, lookup_cons]
      split_ifs <;> rfl
    · rw [if_neg hplace, lookup_cons, lookup_cons, ih]
      split_ifs with hq hq'
      · exact absurd (hq.symm.trans hq') hplace
      all_goals rfl

/-- **Only the contents of the file that is set change.** -/
theorem contents?_setContents (t : FileTree) (p q : Place) (bytes : ByteArray) :
    (t.setContents p bytes).contents? q = if q = p then some bytes else t.contents? q :=
  lookup_putFile p q bytes t.files

theorem putFile_putFile (p : Place) (old bytes : ByteArray) (files : List (Place × ByteArray)) :
    putFile p bytes (putFile p old files) = putFile p bytes files := by
  induction files with
  | nil => simp [putFile]
  | cons entry rest ih =>
    obtain ⟨place, contents⟩ := entry
    by_cases hplace : place = p <;> simp [putFile, hplace, ih]

/-- What was set before does not matter. -/
theorem setContents_setContents (t : FileTree) (p : Place) (old bytes : ByteArray) :
    (t.setContents p old).setContents p bytes = t.setContents p bytes := by
  simp only [setContents, putFile_putFile]

/-! ### Paths -/

/-- A path to a text leads somewhere. -/
theorem pathExists_of_readText {path text : String} (h : t.readText path = .ok text) :
    t.pathExists path = true := by
  unfold readText at h
  cases hfind : t.find path with
  | error e =>
    rw [hfind] at h
    cases h
  | ok target => simp [pathExists, hfind, Except.toOption]

/-- A file with the bytes of a text is read as the text. -/
theorem readText_of_find {path text : String} (h : t.find path = .ok (.file text.toUTF8)) :
    t.readText path = .ok text := by
  have htext : String.fromUTF8? text.toUTF8 = some text := by
    simpa [String.fromUTF8?] using ⟨text.isValidUTF8, rfl⟩
  simp only [readText, h, htext]

/-- **Names lead from a directory to a directory**, through directories only. -/
inductive Leads (t : FileTree) : Place → List String → Place → Prop
  | here (p : Place) : Leads t p [] p
  | idle {p q : Place} {name : String} {rest : List String} (hidle : isIdleName name = true)
    (hrest : Leads t p rest q) : Leads t p (name :: rest) q
  | up {p q : Place} {rest : List String} (hrest : Leads t p.dropLast rest q) :
    Leads t p (".." :: rest) q
  | down {p q : Place} {name : String} {rest : List String} (hidle : isIdleName name = false)
    (hup : name ≠ "..") (hlong : name.utf8ByteSize ≤ maxName)
    (hfile : t.contents? (p ++ [name]) = none) (hdirectory : t.isDirectory (p ++ [name]) = true)
    (hrest : Leads t (p ++ [name]) rest q) : Leads t p (name :: rest) q

theorem leads_of_walk (h : t.walk p names = .ok (.directory q)) : t.Leads p names q := by
  fun_induction walk t p names with
  | case1 p =>
    cases h
    exact .here _
  | case2 p name rest hidle ih => exact .idle hidle (ih h)
  | case3 p rest hidle ih => exact .up (ih h)
  | case4 => cases h
  | case5 => cases h
  | case6 => cases h
  | case7 p name rest hidle hup hlong next hfile hdirectory ih =>
    exact .down (by simpa using hidle) hup (Nat.le_of_not_lt hlong) hfile hdirectory (ih h)
  | case8 => cases h

/-- Names that lead to a directory can be followed first. -/
theorem Leads.walk_append (h : t.Leads p names q) (more : List String) :
    t.walk p (names ++ more) = t.walk q more := by
  induction h with
  | here p => rfl
  | idle hidle hrest ih => rw [List.cons_append, walk, if_pos hidle, ih]
  | up hrest ih =>
    rw [List.cons_append, walk, if_neg (by decide), if_pos rfl, ih]
  | down hidle hup hlong hfile hdirectory hrest ih =>
    rw [List.cons_append, walk, if_neg (by simp [hidle]), if_neg hup,
      if_neg (Nat.not_lt.mpr hlong)]
    simp only [hfile, hdirectory, if_true, ih]

/-- Names lead where they did when a file is set, which stands in the way of none. -/
theorem Leads.setContents (hplace : t.isDirectory place = false) (h : t.Leads p names q) :
    (t.setContents place bytes).Leads p names q := by
  induction h with
  | here p => exact .here p
  | idle hidle hrest ih => exact .idle hidle ih
  | up hrest ih => exact .up ih
  | @down p q name rest hidle hup hlong hfile hdirectory hrest ih =>
    -- A directory on the way is not where the file is.
    have hne : p ++ [name] ≠ place := by
      rintro rfl
      exact Bool.false_ne_true (hplace.symm.trans hdirectory)
    refine .down hidle hup hlong ?_ hdirectory ih
    rw [contents?_setContents, if_neg hne, hfile]

/-- A path to a file that is created goes through a directory and ends with a name,
which is not that of a directory there. -/
theorem exists_of_newPlace {path : String} (h : t.newPlace path = .ok place) :
    ∃ above name directory, checkPath path = .ok () ∧ pathNames path = above ++ [name] ∧
      t.Leads (t.origin path) above directory ∧ place = directory ++ [name] ∧
      isIdleName name = false ∧ name ≠ ".." ∧ name.utf8ByteSize ≤ maxName ∧
      t.isDirectory place = false := by
  unfold newPlace at h
  split at h
  · cases h
  · next hpath =>
    dsimp only at h
    split at h
    · cases h
    · next name above hnames =>
      split at h
      · cases h
      · cases h
      · next directory hwalk =>
        split_ifs at h with hend hlong hdirectory
        cases h
        simp only [Bool.or_eq_true, decide_eq_true_eq, not_or] at hend
        obtain ⟨⟨hlast, hidle⟩, hup⟩ := hend
        refine ⟨above.reverse, name, directory, hpath, ?_, leads_of_walk hwalk, rfl,
          by simpa using hidle, hup, Nat.le_of_not_lt hlong, by simpa using hdirectory⟩
        -- The last name is not empty, so none was dropped behind it.
        cases hreverse : (pathNames path).reverse with
        | nil => simp [hreverse] at hnames
        | cons last others =>
          have hne : last ≠ "" := by simpa [hreverse] using hlast
          rw [hreverse, List.dropWhile_cons_of_neg (by simpa using hne)] at hnames
          cases hnames
          rw [← List.reverse_reverse (pathNames path), hreverse, List.reverse_cons]

/-- **A path leads to the file that is created for it.** -/
theorem find_setContents {path : String} (h : t.newPlace path = .ok place) (bytes : ByteArray) :
    (t.setContents place bytes).find path = .ok (.file bytes) := by
  obtain ⟨above, name, directory, hpath, hnames, hleads, rfl, hidle, hup, hlong, hplace⟩ :=
    exists_of_newPlace h
  have horigin : (t.setContents (directory ++ [name]) bytes).origin path = t.origin path := rfl
  rw [find, hpath]
  dsimp only
  rw [hnames, horigin, (hleads.setContents hplace).walk_append, walk, if_neg (by simp [hidle]),
    if_neg hup, if_neg (Nat.not_lt.mpr hlong)]
  simp [contents?_setContents]

end FileTree

end Stencil
