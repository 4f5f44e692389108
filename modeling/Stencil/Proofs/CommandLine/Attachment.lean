import Stencil.Proofs.CommandLine.Diagnosis

/-!
# The file that is shown with a diagnostic

A diagnostic knows the name and the text of the template it is about, and not the path
of the file. The file that is shown with it is looked up by the name, which is the base
name of the path, and files of different directories can share one. The first file of
the name is shown, so it is the one that was rejected exactly if no file before that one
has the name (`Stencil.CommandLine.run_shows_rejected_iff`).
-/

namespace Stencil

/-- No source is both accepted and rejected. -/
theorem Rejects.not_accepts {delimiters : Delimiters} {s : String × String} {d : Diagnostic}
    (h : Rejects delimiters s d) : ¬Accepts delimiters s := by
  rintro ⟨nodes, steps, hparse, hsteps⟩
  cases h with
  | source hfailed =>
    rw [hfailed] at hparse
    cases hparse
  | compile hread hfailed =>
    rw [hread] at hparse
    cases hparse
    rw [hfailed] at hsteps
    cases hsteps

theorem Rejects.template_eq {delimiters : Delimiters} {s : String × String} {d : Diagnostic}
    (h : Rejects delimiters s d) : d.template = s.1 := by
  cases h <;> rfl

theorem Rejects.source_eq {delimiters : Delimiters} {s : String × String} {d : Diagnostic}
    (h : Rejects delimiters s d) : d.source = s.2 := by
  cases h <;> rfl

/-- The place of a diagnostic lies within the source it is about. -/
theorem Diagnostic.offset_add_length_le (d : Diagnostic) :
    d.offset + d.length ≤ d.source.utf8ByteSize := by
  have hoffset : d.offset ≤ d.source.utf8ByteSize := Nat.min_le_right ..
  unfold length
  split <;> omega

namespace CommandLine

variable {sources : List (String × String)} {request : Request} {w : World} {d : Diagnostic}
  {shown : Option (String × String)}

/-- **The file shown is the one that was rejected exactly if its name is new.** A run
that ends with a diagnostic has rejected one of the files, and the place of the
diagnostic lies within the text of that file. The file shown has its name. -/
theorem run_shows_rejected_iff
    (hname : ∀ name ∈ request.task.moduleName, Program.isModuleName name = true)
    (hread : ReadsAs w.tree request.files sources) (h : (run request).Diagnoses w d shown) :
    ∃ (before : List (String × String)) (name text : String) (after : List (String × String))
      (attached : String), sources = before ++ (name, text) :: after ∧
      Rejects request.delimiters (name, text) d ∧
      d.source = text ∧ d.offset + d.length ≤ text.utf8ByteSize ∧
      shown = some (name, attached) ∧ (attached = text ↔ name ∉ before.map Prod.fst) := by
  rw [Session.Diagnoses, run_of_readsAs hread] at h
  obtain ⟨⟨before, ⟨name, text⟩, after, hsources, haccepted, hrejects⟩, hshown⟩ :=
    (perform_diagnoses_iff hname).mp h
  have hsource : d.source = text := hrejects.source_eq
  have hplace := d.offset_add_length_le
  rw [hsource] at hplace
  rw [hsources, hrejects.template_eq, List.find?_append] at hshown
  cases hearlier : before.find? fun s => s.1 = name with
  | none =>
    have hnew : name ∉ before.map Prod.fst := by
      intro hmem
      obtain ⟨s, hs, hname⟩ := List.mem_map.mp hmem
      exact List.find?_eq_none.mp hearlier s hs (decide_eq_true hname)
    refine ⟨before, name, text, after, text, hsources, hrejects, hsource, hplace, ?_, ?_⟩
    · simpa [hearlier] using hshown
    · exact iff_of_true rfl hnew
  | some earlier =>
    obtain ⟨earlierName, attached⟩ := earlier
    have hmem := List.mem_of_find?_eq_some hearlier
    obtain rfl : earlierName = name := by simpa using List.find?_some hearlier
    refine ⟨before, earlierName, text, after, attached, hsources, hrejects, hsource, hplace, ?_, ?_⟩
    · simpa [hearlier] using hshown
    · -- An earlier file with the same name and text would have been rejected before.
      refine iff_of_false ?_ (not_not_intro (List.mem_map_of_mem hmem))
      rintro rfl
      exact hrejects.not_accepts (haccepted _ hmem)

/-- Two files of one name, of which the second is not in order. -/
def twinTree : FileTree where
  directories := [["a"], ["b"]]
  files := [(["a", "t.html"], "ok".toUTF8), (["b", "t.html"], "Hello \x7b\x7b.Name".toUTF8)]
  current := []

/-- The first file is shown though the second is rejected, and the place of the
diagnostic lies beyond its text. -/
theorem twin_shown : ∃ d,
    (run ⟨.check, .standard, ["a/t.html", "b/t.html"], .off⟩).Diagnoses
      (.start twinTree ByteArray.empty) d (some ("t.html", "ok")) ∧
    d.source = "Hello \x7b\x7b.Name" ∧ "ok".utf8ByteSize < d.offset := by
  refine ⟨⟨.source (.unclosedAction 6), "t.html", "Hello \x7b\x7b.Name"⟩, ?_, rfl,
    by decide +kernel⟩
  have hread : ReadsAs twinTree ["a/t.html", "b/t.html"]
      [("t.html", "ok"), ("t.html", "Hello \x7b\x7b.Name")] :=
    .cons ⟨by decide +kernel, FileTree.readText_of_find rfl⟩
      (.cons ⟨by decide +kernel, FileTree.readText_of_find rfl⟩ .nil)
  rw [Session.Diagnoses, run_of_readsAs hread]
  refine (perform_diagnoses_iff (by simp [Task.moduleName])).mpr ⟨?_, by decide +kernel⟩
  refine ⟨[("t.html", "ok")], _, [], rfl, List.forall_mem_singleton.mpr ?_, .source ?_⟩
  · exact ⟨_, _, by with_unfolding_all rfl, by with_unfolding_all rfl⟩
  · with_unfolding_all rfl

end CommandLine

end Stencil
