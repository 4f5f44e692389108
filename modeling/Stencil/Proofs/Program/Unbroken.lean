import Stencil.Proofs.Program.Emitted
import Stencil.Proofs.Program.Generation

/-!
# Lines without line breaks

No line of a program has a line break in it, whatever texts, paths, constants and names
of templates went into the program: they are on their lines as literals and as labels,
which have none, and everything else on a line is a fixed text, a numeral or an
identifier (`Stencil.Statement.unbroken_lines`, `Stencil.Program.Named.unbroken_lines`).

So a generator loses nothing when it cuts its text into lines again, and what it writes
in the end is the text of the program with the same routines
(`Stencil.Generator.finish_attemptAll`).
-/

namespace Stencil

open Token

/-! ### Parts of lines -/

/-- A fixed text is unbroken if its characters are. -/
theorem Unbroken.of_chars {s : String} {cs : List Char} (h : s = String.ofList cs)
    (hcs : cs.all (fun c => !isBreak c) = true) : Unbroken s.toList := by
  rw [h, String.toList_ofList]
  intro c hc
  simpa using List.all_eq_true.mp hcs c hc

/-- What can stand in an identifier breaks no line. -/
theorem isBreak_eq_false_of_part {c : Char} (h : isIdentifierPart c = true) :
    isBreak c = false := by
  rw [isBreak, Bool.or_eq_false_iff, beq_eq_false_iff_ne, beq_eq_false_iff_ne]
  constructor
  · rintro rfl
    exact absurd h (by decide)
  · rintro rfl
    exact absurd h (by decide)

theorem unbroken_identifier {name : String} (h : ∃ i : Identifier, i.text = name) :
    Unbroken name.toList := by
  obtain ⟨i, rfl⟩ := h
  rw [Identifier.text, String.toList_ofList, Identifier.chars]
  refine unbroken_cons.mpr ⟨?_, fun c hc => isBreak_eq_false_of_part (i.others_arePart c hc)⟩
  exact isBreak_eq_false_of_part (isIdentifierPart_of_start i.first_isStart)

theorem unbroken_digits (ds : DigitRun) : Unbroken ds.digits := fun c hc =>
  isBreak_eq_false_of_part (isIdentifierPart_of_isDigit (ds.all_isDigit c hc))

theorem unbroken_toString (n : Nat) : Unbroken (toString n).toList := by
  rw [Nat.toString_eq_repr, Nat.toList_repr]
  exact unbroken_digits (.ofNat n)

/-- **A numeral has no line break.** -/
theorem WrittenNumeral.unbroken_text (n : WrittenNumeral) : Unbroken n.text := by
  have hfraction : Unbroken n.fractionText := by
    unfold fractionText
    cases n.fraction? with
    | none => simp [Unbroken]
    | some ds => exact unbroken_cons.mpr ⟨by decide, unbroken_digits ds⟩
  have hexponent : Unbroken n.exponentText := by
    unfold exponentText
    cases n.exponent? with
    | none => simp [Unbroken]
    | some e =>
      have hsign : Unbroken e.1.text := by cases e.1 <;> simp [Sign.text, Unbroken, isBreak]
      exact unbroken_cons.mpr ⟨by decide, unbroken_append.mpr ⟨hsign, unbroken_digits e.2⟩⟩
  exact unbroken_append.mpr ⟨unbroken_append.mpr ⟨unbroken_digits n.whole, hfraction⟩, hexponent⟩

/-- A text between two others. -/
theorem unbroken_between {before s after : String} (hbefore : Unbroken before.toList)
    (h : Unbroken s.toList) (hafter : Unbroken after.toList) :
    Unbroken (before ++ s ++ after).toList := by
  rw [String.toList_append, String.toList_append]
  exact unbroken_append.mpr ⟨unbroken_append.mpr ⟨hbefore, h⟩, hafter⟩

/-- Texts with commas between them. -/
theorem unbroken_intercalate {items : List String} (h : ∀ s ∈ items, Unbroken s.toList) :
    Unbroken (", ".intercalate items).toList := by
  have hcomma : Unbroken ", ".toList := .of_chars rfl rfl
  rw [String.toList_intercalate]
  induction items with
  | nil => simp [Unbroken]
  | cons s rest ih =>
    obtain ⟨hs, hrest⟩ := List.forall_mem_cons.mp h
    cases rest with
    | nil => simpa using hs
    | cons t rest =>
      rw [List.map_cons, List.map_cons, List.intercalate_cons_cons]
      exact unbroken_append.mpr ⟨unbroken_append.mpr ⟨hs, hcomma⟩, ih hrest⟩

/-! ### Expressions -/

/-- **A constant has no line break.** -/
theorem Constant.unbroken_text (c : Constant) : Unbroken c.text.toList := by
  have hfrom : Unbroken "comtmpl_lang::Value::from(".toList := .of_chars rfl rfl
  have hclose : Unbroken ")".toList := .of_chars rfl rfl
  cases c with
  | null => exact .of_chars (s := "comtmpl_lang::Value::Null") rfl rfl
  | bool b =>
    have hbool : Unbroken "comtmpl_lang::Value::Bool(".toList := .of_chars rfl rfl
    rw [Constant.text_bool]
    refine unbroken_between hbool ?_ hclose
    cases b with
    | true => exact .of_chars (s := "true") rfl rfl
    | false => exact .of_chars (s := "false") rfl rfl
  | string s =>
    rw [Constant.text_string]
    exact unbroken_between hfrom (unbroken_quoted s) hclose
  | number n =>
    cases n with
    | nan => exact .of_chars (s := "comtmpl_lang::Value::from(NaN_f64)") rfl rfl
    | infinite s =>
      cases s with
      | true => exact .of_chars (s := "comtmpl_lang::Value::from(f64::NEG_INFINITY)") rfl rfl
      | false => exact .of_chars (s := "comtmpl_lang::Value::from(f64::INFINITY)") rfl rfl
    | finite s r =>
      obtain ⟨numeral, htext, -⟩ := Number.exists_numeral_literal s r
      have hsign : Unbroken (signText s).toList := by
        cases s with
        | true => exact .of_chars (s := "-") rfl rfl
        | false => exact .of_chars (s := "") rfl rfl
      rw [Constant.text_finite]
      refine unbroken_between hfrom ?_ (.of_chars rfl rfl)
      rw [htext]
      exact unbroken_append.mpr ⟨hsign, numeral.unbroken_text⟩

/-- **An expression has no line break.** -/
theorem Expression.unbroken_text : ∀ e : Expression, Unbroken e.text.toList
  | .data => .of_chars (s := "data") rfl rfl
  | .value => .of_chars (s := "value") rfl rfl
  | .constant c => c.unbroken_text
  | .field segments => by
    rw [Expression.text_field]
    refine unbroken_between (.of_chars rfl rfl) (unbroken_intercalate ?_) (.of_chars rfl rfl)
    intro s hs
    obtain ⟨segment, -, rfl⟩ := List.mem_map.mp hs
    exact unbroken_quoted segment
  | .borrow e => by
    rw [Expression.text_borrow, String.toList_append]
    exact unbroken_append.mpr ⟨.of_chars rfl rfl, e.unbroken_text⟩
  | .clone e => by
    rw [Expression.text_clone, String.toList_append]
    exact unbroken_append.mpr ⟨e.unbroken_text, .of_chars rfl rfl⟩
  | .call name args => by
    have hbefore : Unbroken ("funcs.call(" ++ quoted name ++ ", vec![").toList :=
      unbroken_between (.of_chars rfl rfl) (unbroken_quoted name) (.of_chars rfl rfl)
    rw [Expression.text_call]
    refine unbroken_between hbefore (unbroken_intercalate ?_) (.of_chars rfl rfl)
    intro s hs
    obtain ⟨e, -, rfl⟩ := List.mem_map.mp hs
    exact e.unbroken_text

/-! ### Lines -/

/-- Indentation breaks no line. -/
theorem unbroken_indentLines {lines : List String} (h : ∀ line ∈ lines, Unbroken line.toList) :
    ∀ line ∈ indentLines lines, Unbroken line.toList := by
  intro line hline
  obtain ⟨inner, hinner, rfl⟩ := List.mem_map.mp hline
  unfold indentLine
  split
  · exact h inner hinner
  · have hindentation : Unbroken indentation.toList := .of_chars (s := "    ") rfl rfl
    rw [String.toList_append]
    exact unbroken_append.mpr ⟨hindentation, h inner hinner⟩

/-- **No line of a statement has a line break in it.** -/
theorem Statement.unbroken_lines : ∀ s : Statement, ∀ line ∈ s.lines, Unbroken line.toList
  | .remark template n => by
    rw [Statement.lines_remark, List.forall_mem_singleton]
    have hbefore : Unbroken ("// " ++ label template ++ ":").toList :=
      unbroken_between (.of_chars rfl rfl) (unbroken_label template) (.of_chars rfl rfl)
    rw [String.toList_append]
    exact unbroken_append.mpr ⟨hbefore, unbroken_toString n⟩
  | .writeText s => by
    rw [Statement.lines_writeText, List.forall_mem_singleton]
    exact unbroken_between (.of_chars rfl rfl) (unbroken_quoted s) (.of_chars rfl rfl)
  | .write e => by
    rw [Statement.lines_write, List.forall_mem_singleton]
    exact unbroken_between (.of_chars rfl rfl) e.unbroken_text (.of_chars rfl rfl)
  | .bind e => by
    rw [Statement.lines_bind, List.forall_mem_singleton]
    exact unbroken_between (.of_chars rfl rfl) e.unbroken_text (.of_chars rfl rfl)
  | .block body => by
    have hinside : ∀ line ∈ body.flatMap Statement.lines, Unbroken line.toList := by
      intro line hline
      obtain ⟨s, hs, hline⟩ := List.mem_flatMap.mp hline
      exact s.unbroken_lines line hline
    rw [Statement.lines_block, List.cons_append, List.forall_mem_cons, List.forall_mem_append,
      List.forall_mem_singleton]
    exact ⟨.of_chars rfl rfl, unbroken_indentLines hinside, .of_chars rfl rfl⟩

/-- **No line of a routine has a line break in it**, if its name has none. -/
theorem Routine.unbroken_lines {r : Routine} (h : ∃ i : Identifier, i.text = r.name) :
    ∀ line ∈ r.lines, Unbroken line.toList := by
  have hparameters : Unbroken (String.join Routine.parameters).toList := by
    simp only [String.toList_join, Routine.parameters, List.flatMap_cons, List.flatMap_nil,
      List.append_nil, unbroken_append]
    exact ⟨.of_chars rfl rfl, .of_chars rfl rfl, .of_chars rfl rfl⟩
  have hhead : Unbroken ("pub fn " ++ r.name ++ String.join Routine.parameters).toList :=
    unbroken_between (.of_chars rfl rfl) (unbroken_identifier h) hparameters
  have hbody : ∀ line ∈ "let _ = (funcs, data);" :: r.body.flatMap Statement.lines ++ ["Ok(())"],
      Unbroken line.toList := by
    rw [List.forall_mem_append, List.forall_mem_cons, List.forall_mem_singleton]
    refine ⟨⟨.of_chars rfl rfl, fun line hline => ?_⟩, .of_chars rfl rfl⟩
    obtain ⟨s, -, hline⟩ := List.mem_flatMap.mp hline
    exact s.unbroken_lines line hline
  rw [Routine.lines_eq]
  have hinside := unbroken_indentLines hbody
  rw [List.forall_mem_append, List.forall_mem_append, List.forall_mem_cons,
    List.forall_mem_singleton, List.forall_mem_singleton]
  exact ⟨⟨⟨.of_chars rfl rfl, hhead⟩, hinside⟩, .of_chars rfl rfl⟩

namespace Program

variable {p : Program} {moduleName : Option String} {added : List (String × List Step)}

/-- The fixed lines of the table have no line breaks in them. -/
theorem unbroken_rows : ∀ row ∈ openingRows ++ closingRows, Unbroken row.1.toList := by
  simp only [openingRows, closingRows, List.forall_mem_append, List.forall_mem_cons,
    List.not_mem_nil, false_implies, implies_true, and_true]
  repeat' apply And.intro
  all_goals exact .of_chars rfl rfl

/-- No line of the table has a line break in it. -/
theorem Named.unbroken_tableLines (h : p.Named) : ∀ line ∈ p.tableLines, Unbroken line.toList := by
  have hrows : ∀ line ∈ (openingRows ++ closingRows).map (·.1), Unbroken line.toList := by
    simpa only [List.forall_mem_map] using unbroken_rows
  have hentries : ∀ line ∈ p.routines.map (fun entry => "            " ++ tableLine entry),
      Unbroken line.toList := by
    rw [List.forall_mem_map]
    intro entry hentry
    have hopen : Unbroken ("(" ++ quoted entry.1 ++ ", ").toList :=
      unbroken_between (.of_chars rfl rfl) (unbroken_quoted entry.1) (.of_chars rfl rfl)
    rw [String.toList_append]
    refine unbroken_append.mpr ⟨.of_chars rfl rfl, ?_⟩
    exact unbroken_between hopen (unbroken_identifier (h.routines entry hentry))
      (.of_chars rfl rfl)
  rw [List.map_append, List.forall_mem_append] at hrows
  exact List.forall_mem_append.mpr ⟨List.forall_mem_append.mpr ⟨hrows.1, hentries⟩, hrows.2⟩

/-- No line of the routines and the table has a line break in it. -/
theorem Named.unbroken_itemLines (h : p.Named) : ∀ line ∈ p.itemLines, Unbroken line.toList := by
  refine List.forall_mem_append.mpr ⟨fun line hline => ?_, h.unbroken_tableLines⟩
  obtain ⟨entry, hentry, hline⟩ := List.mem_flatMap.mp hline
  exact Routine.unbroken_lines (h.routines entry hentry) line hline

/-- **No line of a program has a line break in it.** -/
theorem Named.unbroken_lines (h : p.Named) : ∀ line ∈ p.lines, Unbroken line.toList := by
  have hheader : Unbroken header.toList := .of_chars rfl rfl
  unfold Program.lines
  cases hname : p.moduleName with
  | none => exact List.forall_mem_cons.mpr ⟨hheader, h.unbroken_itemLines⟩
  | some name =>
    have hidentifier : Unbroken name.toList :=
      unbroken_identifier (h.moduleName name (by simp [hname]))
    simp only [List.forall_mem_append, List.forall_mem_cons, List.not_mem_nil, false_implies,
      implies_true, and_true]
    refine ⟨⟨⟨hheader, .of_chars rfl rfl, ?_⟩, ?_⟩, .of_chars rfl rfl⟩
    · exact unbroken_between (.of_chars rfl rfl) hidentifier (.of_chars rfl rfl)
    · exact unbroken_indentLines h.unbroken_itemLines

/-- Registered templates have identifiers for the names of their routines. -/
theorem Registers.named (h : p.Registers moduleName added)
    (hmodule : ∀ name ∈ moduleName, isModuleName name = true) : p.Named := by
  refine ⟨fun name hname => ?_, fun entry hentry => ?_⟩
  · rw [h.moduleName] at hname
    exact exists_identifier_moduleName (hmodule name hname)
  · exact (h.shaped entry.2.name (List.mem_map_of_mem hentry)).exists_identifier

end Program

/-! ### The text of a generator -/

namespace Generator

variable {g : Generator} {moduleName : Option String}

/-- A generator starts without a module, or in one whose name is fit for it. -/
theorem start_eq_ok_iff : start moduleName = .ok g ↔
    (∀ name ∈ moduleName, Program.isModuleName name = true) ∧ g = ⟨moduleName, [], "", [], []⟩ := by
  unfold start Program.start
  cases moduleName with
  | none => simp [Except.map, @eq_comm _ g]
  | some name =>
    cases hname : Program.isModuleName name with
    | true => simp [hname, Except.map, @eq_comm _ g]
    | false => simp [hname, Except.map]

/-- The templates that were added are registered in the program. -/
theorem registers_attempts (moduleName : Option String) (attempts : List Attempt) :
    (attempts.foldl Program.attempt ⟨moduleName, []⟩).Registers moduleName
      (attempts.filterMap Attempt.added?) := by
  have hall := (Program.registers_start moduleName).foldl attempts
  rwa [List.nil_append] at hall

/-- **A generator ends with the text of the program** that is made of the same
templates. -/
theorem finish_attemptAll (h : start moduleName = .ok g) (attempts : List Attempt) :
    (attempts.foldl Program.attempt ⟨moduleName, []⟩).Named ∧
      (g.attemptAll attempts).finish = (attempts.foldl Program.attempt ⟨moduleName, []⟩).text := by
  obtain ⟨hmodule, rfl⟩ := start_eq_ok_iff.mp h
  have hnamed := (registers_attempts moduleName attempts).named hmodule
  refine ⟨hnamed, ?_⟩
  exact ((writes_start moduleName []).attemptAll attempts).finish_eq hnamed.unbroken_itemLines

end Generator

end Stencil
