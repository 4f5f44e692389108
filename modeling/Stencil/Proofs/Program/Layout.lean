import Stencil.Proofs.Program.ExpressionRoundTrip
import Stencil.Proofs.Program.Unbroken

/-!
# The layout of a program

Every line of a program is of a kind that can be told from the line alone, by the tokens
it begins with (`Stencil.lineKind`). A line has a kind only if each token that begins on
it also ends on it, so a line that is part of a longer literal has none.

All lines of a program have a kind. How many lines there are and which kinds they are of
is a matter of the *shapes* of the steps: whether a step writes a text, a lone term or a
chain, and of how many stages (`Stencil.Program.Registers.map_lineKind_lines`). What the
texts, terms and calls are does not matter. The comment lines are told apart in the same
way, and there is one for each step (`Stencil.Program.Registers.remarkLines_lines`).
-/

namespace Stencil

open Token

/-! ### Kinds of lines -/

/-- **What a line of a program is.** -/
inductive LineKind where
  /-- An empty line. -/
  | blank
  /-- A line with nothing but a comment. -/
  | remark
  /-- The first line of a module. -/
  | moduleHead
  /-- The first line of a function. -/
  | function
  /-- The first line of the body of a routine. -/
  | use
  | writeText
  | write
  | bind
  | opening
  | closing
  /-- The last line of the body of a routine. -/
  | result
  /-- A row of the table. -/
  | row
  /-- Another line of the table. -/
  | table
  deriving DecidableEq

namespace LineKind

/-- What the lines begin with, by their kinds. -/
def openings : List (List Token × LineKind) := [
  ([.word "pub", .word "mod"], moduleHead), ([.word "pub", .word "fn"], function),
  ([.word "let", .word "_"], use), ([.word "writer"], writeText), ([.word "write"], write),
  ([.word "let", .word "value"], bind), ([.mark '\x7b'], opening), ([.mark '\x7d'], closing),
  ([.word "Ok"], result), ([.mark '('], row)]

/-- The kind of a line with given tokens, of which there is one at least. -/
def ofTokens (ts : List Token) : LineKind :=
  ((openings.find? fun o => o.1.isPrefixOf ts).map Prod.snd).getD table

/-- **The kind of a line with given characters**, if every token that begins on the line
ends on it. -/
def ofChars (cs : List Char) : Option LineKind :=
  match scan .nothing (cs ++ ['\n']) with
  | some ([], .nothing) => some (if cs.isEmpty then blank else remark)
  | some (tokens, .nothing) => some (ofTokens tokens)
  | _ => none

theorem ofChars_of_closed_nil {cs : List Char} (h : Closed (cs ++ ['\n']) [])
    (hne : cs ≠ []) : ofChars cs = some remark := by
  have hscan : scan .nothing (cs ++ ['\n']) = some ([], .nothing) := h
  rw [ofChars, hscan]
  simp [hne]

theorem ofChars_of_closed {cs : List Char} {tokens : List Token}
    (h : Closed (cs ++ ['\n']) tokens) (hne : tokens ≠ []) :
    ofChars cs = some (ofTokens tokens) := by
  have hscan : scan .nothing (cs ++ ['\n']) = some (tokens, .nothing) := h
  obtain ⟨t, ts, rfl⟩ := List.exists_cons_of_ne_nil hne
  rw [ofChars, hscan]

end LineKind

/-- **The kind of a line.** -/
def lineKind (line : String) : Option LineKind := LineKind.ofChars line.toList

/-- The kind of a fixed line is found by looking at its characters. -/
theorem lineKind_of_chars {line : String} {cs : List Char} {kind : Option LineKind}
    (h : line = String.ofList cs) (hcs : LineKind.ofChars cs = kind) : lineKind line = kind := by
  rw [h, lineKind, String.toList_ofList, hcs]

@[simp] theorem lineKind_empty : lineKind "" = some .blank := lineKind_of_chars rfl rfl

@[simp] theorem lineKind_opening : lineKind "\x7b" = some .opening := lineKind_of_chars rfl rfl

@[simp] theorem lineKind_closing : lineKind "\x7d" = some .closing := lineKind_of_chars rfl rfl

@[simp] theorem lineKind_result : lineKind "Ok(())" = some .result := lineKind_of_chars rfl rfl

@[simp] theorem lineKind_use : lineKind "let _ = (funcs, data);" = some .use :=
  lineKind_of_chars rfl (by decide +kernel)

@[simp] theorem lineKind_header : lineKind Program.header = some .remark :=
  lineKind_of_chars rfl (by decide +kernel)

/-- A line that begins with a phrase. -/
theorem lineKind_of_phrase {line s : String} {cs : List Char} {rest : List Token}
    {kind : LineKind} (h : Closed (line.toList ++ ['\n']) (ofPhrase s ++ rest))
    (hs : s = String.ofList cs) (hne : Token.ofChars cs ≠ [])
    (hkind : ∀ rest, LineKind.ofTokens (Token.ofChars cs ++ rest) = kind) :
    lineKind line = some kind := by
  rw [hs, ofPhrase_ofList] at h
  rw [lineKind, LineKind.ofChars_of_closed h (by simp [hne]), hkind]

/-- A single line is a closed piece with its line feed. -/
theorem Token.Lines.of_single {line : String} {tokens : List Token} (h : Lines [line] tokens) :
    Closed (line.toList ++ ['\n']) tokens := by
  simpa using h.closed

/-- A blank between two tokens does nothing. -/
theorem Token.scan_blank (cs : List Char) : scan .nothing (' ' :: cs) = scan .nothing cs := by
  have hstep : step .nothing ' ' = some ([], .nothing) := rfl
  rw [scan, hstep]
  exact Option.map_id'

/-- **Indentation keeps the kind of a line.** -/
theorem lineKind_indentLine (line : String) : lineKind (indentLine line) = lineKind line := by
  unfold indentLine
  split
  · rfl
  · next hline =>
    have hchars : (indentation ++ line).toList = ' ' :: ' ' :: ' ' :: ' ' :: line.toList := by
      simp [indentation]
    have hne : line.toList ≠ [] := by simpa using hline
    unfold lineKind LineKind.ofChars
    rw [hchars]
    simp only [List.cons_append, scan_blank]
    simp [hne]

@[simp] theorem map_lineKind_indentLines (lines : List String) :
    (indentLines lines).map lineKind = lines.map lineKind := by
  rw [indentLines, List.map_map]
  exact List.map_congr_left fun line _ => lineKind_indentLine line

/-! ### Shapes -/

/-- **The shape of what a step writes**: a text, a lone term, or a chain with a number of
stages. -/
inductive OutputShape where
  | text
  | term
  | chain (stages : Nat)
  deriving DecidableEq

def Chain.shape (c : Chain) : OutputShape :=
  match c.head, c.stages with
  | .term _, [] => .term
  | _, stages => .chain stages.length

/-- **A chain is a lone term or a block**, which binds a value for its head and for each of
its stages. -/
theorem Chain.lone_or_block (c : Chain) : (∃ t, c = ⟨.term t, []⟩) ∨
    c.shape = .chain c.stages.length ∧
    c.statement = .block (Statement.bind c.head.expression ::
      (c.stages.map fun stage => Statement.bind (stage.expression [.value])) ++
        [Statement.write .value]) := by
  obtain ⟨head, stages⟩ := c
  rcases head with t | call
  · rcases stages with _ | ⟨stage, rest⟩
    · exact Or.inl ⟨t, rfl⟩
    · exact Or.inr ⟨rfl, rfl⟩
  · exact Or.inr ⟨rfl, rfl⟩

def Output.shape : Output → OutputShape
  | text _ => .text
  | chain c => c.shape

/-- The lines of a step behind its comment. -/
def OutputShape.kinds : OutputShape → List LineKind
  | text => [.writeText]
  | term => [.write]
  | chain stages => [.opening, .bind] ++ List.replicate stages .bind ++ [.write, .closing]

namespace LineKind

/-- The lines of a routine, by the shapes of its steps. -/
def ofRoutine (shapes : List OutputShape) : List LineKind :=
  [blank, function, use] ++ shapes.flatMap (fun s => remark :: s.kinds) ++ [result, closing]

/-- The lines of the table, by the number of its rows. -/
def ofTable (count : Nat) : List LineKind :=
  [blank, function, table, closing, blank, function, table, table, table] ++
    List.replicate count row ++ [table, table, closing]

/-- **The lines of a program**, by the shapes of the steps of its templates. -/
def ofProgram (inModule : Bool) (templates : List (List OutputShape)) : List LineKind :=
  let items := templates.flatMap ofRoutine ++ ofTable templates.length
  if inModule then [remark, blank, moduleHead] ++ items ++ [closing] else remark :: items

end LineKind

/-! ### The lines of statements -/

namespace Statement

/-- The one line of a statement is a closed piece with the tokens of the statement. -/
theorem closed_line {s : Statement} {line : String} (hline : s.lines = [line]) :
    Closed (line.toList ++ ['\n']) s.tokens := by
  have hlines := s.isLines
  rw [hline] at hlines
  exact hlines.of_single

theorem map_lineKind_remark (template : String) (n : Nat) :
    (remark template n).lines.map lineKind = [some .remark] := by
  have hne : ("// " ++ label template ++ ":" ++ toString n).toList ≠ [] := by simp
  have hline := closed_line (lines_remark template n)
  rw [lines_remark, List.map_singleton, lineKind, LineKind.ofChars_of_closed_nil hline hne]

theorem map_lineKind_writeText (s : String) :
    (writeText s).lines.map lineKind = [some .writeText] := by
  have hline := closed_line (lines_writeText s)
  rw [tokens, List.append_assoc] at hline
  rw [lines_writeText, List.map_singleton,
    lineKind_of_phrase hline rfl (by decide) fun _ => rfl]

theorem map_lineKind_write (e : Expression) : (write e).lines.map lineKind = [some .write] := by
  have hline := closed_line (lines_write e)
  rw [tokens, List.append_assoc] at hline
  rw [lines_write, List.map_singleton, lineKind_of_phrase hline rfl (by decide) fun _ => rfl]

theorem map_lineKind_bind (e : Expression) : (bind e).lines.map lineKind = [some .bind] := by
  have hline := closed_line (lines_bind e)
  rw [tokens, List.append_assoc] at hline
  rw [lines_bind, List.map_singleton, lineKind_of_phrase hline rfl (by decide) fun _ => rfl]

theorem map_lineKind_block (body : List Statement) : (block body).lines.map lineKind =
    some LineKind.opening :: (body.flatMap lines).map lineKind ++ [some LineKind.closing] := by
  rw [lines_block, List.map_append, List.map_cons, map_lineKind_indentLines, List.map_singleton,
    lineKind_opening, lineKind_closing]

end Statement

/-- **The lines of a chain depend on its shape only.** -/
theorem Chain.map_lineKind_statement (c : Chain) :
    c.statement.lines.map lineKind = c.shape.kinds.map some := by
  rcases c.lone_or_block with ⟨t, rfl⟩ | ⟨hshape, hstatement⟩
  · exact Statement.map_lineKind_write t.reference
  · rw [hshape, hstatement, Statement.map_lineKind_block, List.map_flatMap]
    simp only [List.cons_append, List.flatMap_cons, List.flatMap_append, List.flatMap_nil,
      List.flatMap_map, Statement.map_lineKind_bind, Statement.map_lineKind_write,
      ← List.map_eq_flatMap, List.map_const']
    simp [OutputShape.kinds]

/-- The lines of an output depend on its shape only. -/
theorem Output.map_lineKind_statement (o : Output) :
    o.statement.lines.map lineKind = o.shape.kinds.map some := by
  rcases o with s | c
  · exact Statement.map_lineKind_writeText s
  · exact c.map_lineKind_statement

/-- **The lines of steps depend on their shapes only.** -/
theorem Step.map_lineKind_statements (template : String) (steps : List Step) :
    ((Step.statements template steps).flatMap Statement.lines).map lineKind =
      ((steps.map (·.output.shape)).flatMap fun s => .remark :: s.kinds).map some := by
  simp only [Step.statements, List.flatMap_assoc, List.map_flatMap, List.flatMap_map]
  refine List.flatMap_congr fun step _ => ?_
  simp [Statement.map_lineKind_remark, step.output.map_lineKind_statement]

/-! ### The lines of routines and programs -/

/-- The first line of a routine. -/
theorem lineKind_routineHead {name : String} (h : ∃ i : Identifier, i.text = name) :
    lineKind ("pub fn " ++ name ++ String.join Routine.parameters) = some .function := by
  have hhead := (Routine.closed_head h).newline
  rw [List.append_assoc] at hhead
  exact lineKind_of_phrase hhead rfl (by decide) fun _ => rfl

/-- The first line of a module. -/
theorem lineKind_moduleHead {name : String} (h : ∃ i : Identifier, i.text = name) :
    lineKind ("pub mod " ++ name ++ " \x7b") = some .moduleHead := by
  have hhead := (Program.closed_moduleHead h).newline
  rw [List.append_assoc] at hhead
  exact lineKind_of_phrase hhead rfl (by decide) fun _ => rfl

theorem Routine.map_lineKind_lines {r : Routine} (h : ∃ i : Identifier, i.text = r.name) :
    r.lines.map lineKind = [some LineKind.blank, some .function, some .use] ++
      (r.body.flatMap Statement.lines).map lineKind ++ [some LineKind.result, some .closing] := by
  rw [Routine.lines_eq]
  simp only [List.map_append, map_lineKind_indentLines, List.map_cons, List.map_nil,
    lineKind_empty, lineKind_routineHead h, lineKind_use, lineKind_result, lineKind_closing]
  simp

namespace Program

variable {p : Program} {moduleName : Option String} {added : List (String × List Step)}

/-- The lines of the table before its rows. -/
theorem map_lineKind_openingRows : (openingRows.map (·.1)).map lineKind =
    [.blank, .function, .table, .closing, .blank, .function, .table, .table, .table].map some := by
  simp only [openingRows, List.map_cons, List.map_nil, List.cons.injEq, and_true]
  repeat' apply And.intro
  all_goals exact lineKind_of_chars rfl (by decide +kernel)

/-- The lines of the table behind its rows. -/
theorem map_lineKind_closingRows : (closingRows.map (·.1)).map lineKind =
    [.table, .table, .closing].map some := by
  simp only [closingRows, List.map_cons, List.map_nil, List.cons.injEq, and_true]
  repeat' apply And.intro
  all_goals exact lineKind_of_chars rfl (by decide +kernel)

theorem Named.map_lineKind_tableLines (h : p.Named) :
    p.tableLines.map lineKind = (LineKind.ofTable p.routines.length).map some := by
  have hrow (entry : String × Routine) (hentry : entry ∈ p.routines) :
      lineKind ("            " ++ tableLine entry) = some .row := by
    have hline := (closed_tableLine (h.routines entry hentry)).newline
    simp only [entryTokens, List.append_assoc] at hline
    exact lineKind_of_phrase hline rfl (by decide) fun _ => rfl
  have hrows : (p.routines.map fun entry => "            " ++ tableLine entry).map lineKind =
      (List.replicate p.routines.length .row).map some := by
    rw [List.map_replicate, List.eq_replicate_iff]
    refine ⟨by simp, ?_⟩
    simp only [List.forall_mem_map]
    exact hrow
  have hlines : p.tableLines = openingRows.map (·.1) ++
      (p.routines.map fun entry => "            " ++ tableLine entry) ++
        closingRows.map (·.1) := rfl
  rw [hlines, List.map_append, List.map_append, hrows, map_lineKind_openingRows,
    map_lineKind_closingRows, LineKind.ofTable, List.map_append, List.map_append]

/-- What holds of the statements of the routines holds of those of the steps. -/
theorem Registers.flatMap_routines {α : Type} (h : p.Registers moduleName added)
    (f : String → List Statement → List α) :
    (p.routines.flatMap fun e => f e.1 e.2.body) =
      added.flatMap fun s => f s.1 (Step.statements s.1 s.2) := by
  have hbodies := congrArg (List.flatMap fun s => f s.1 s.2) h.bodies
  rwa [List.flatMap_map, List.flatMap_map] at hbodies

/-- The lines of the routines depend on the shapes of the steps only. -/
theorem Registers.map_lineKind_routines (h : p.Registers moduleName added) (hnamed : p.Named) :
    (p.routines.flatMap fun entry => entry.2.lines).map lineKind =
      ((added.map fun s => s.2.map (·.output.shape)).flatMap LineKind.ofRoutine).map some := by
  have hroutines := List.flatMap_congr fun entry hentry =>
    Routine.map_lineKind_lines (hnamed.routines entry hentry)
  have hbodies := h.flatMap_routines fun _ body =>
    [some LineKind.blank, some .function, some .use] ++
      (body.flatMap Statement.lines).map lineKind ++ [some LineKind.result, some .closing]
  rw [List.map_flatMap, hroutines, hbodies, List.flatMap_map, List.map_flatMap]
  refine List.flatMap_congr fun s _ => ?_
  rw [Step.map_lineKind_statements, LineKind.ofRoutine, List.map_append, List.map_append]
  rfl

/-- **The lines of a program depend on the shapes of its steps only.** -/
theorem Registers.map_lineKind_lines (h : p.Registers moduleName added) (hnamed : p.Named) :
    p.lines.map lineKind = (LineKind.ofProgram moduleName.isSome
      (added.map fun s => s.2.map (·.output.shape))).map some := by
  have hlength : p.routines.length = added.length := by
    simpa using congrArg List.length h.bodies
  have hitems : p.itemLines.map lineKind =
      ((added.map fun s => s.2.map (·.output.shape)).flatMap LineKind.ofRoutine ++
        LineKind.ofTable added.length).map some := by
    rw [itemLines, List.map_append, h.map_lineKind_routines hnamed,
      hnamed.map_lineKind_tableLines, hlength, List.map_append]
  unfold lines LineKind.ofProgram
  rw [h.moduleName]
  rcases moduleName with _ | name
  · simp [hitems]
  · simp [hitems, lineKind_moduleHead (hnamed.moduleName name h.moduleName)]

end Program

/-! ### Comment lines -/

/-- The comment lines among given lines. -/
def remarkLines (lines : List String) : List String :=
  lines.filter fun line => lineKind line = some .remark

@[simp] theorem remarkLines_append (lines others : List String) :
    remarkLines (lines ++ others) = remarkLines lines ++ remarkLines others :=
  List.filter_append ..

@[simp] theorem remarkLines_indentLines (lines : List String) :
    remarkLines (indentLines lines) = indentLines (remarkLines lines) := by
  simp only [remarkLines, indentLines, List.filter_map, Function.comp_def, lineKind_indentLine]

/-- There are no comment lines among lines of other kinds. -/
theorem remarkLines_eq_nil {lines : List String} {kinds : List LineKind}
    (h : lines.map lineKind = kinds.map some) (hkinds : .remark ∉ kinds) :
    remarkLines lines = [] := by
  refine List.filter_eq_nil_iff.mpr fun line hline hremark => hkinds ?_
  have hmem : lineKind line ∈ kinds.map some := h ▸ List.mem_map_of_mem hline
  rw [of_decide_eq_true hremark] at hmem
  simpa using hmem

/-- The comment with the place that a step comes from. -/
def remarkOf (template : String) (step : Step) : String :=
  "// " ++ label template ++ ":" ++ toString step.line

/-- What a step writes has no comment lines. -/
theorem OutputShape.remark_notMem_kinds (s : OutputShape) : .remark ∉ s.kinds := by
  rcases s with _ | _ | stages <;> simp [OutputShape.kinds]

/-- **The comment lines of steps**: one for each. -/
theorem Step.remarkLines_statements (template : String) (steps : List Step) :
    remarkLines ((Step.statements template steps).flatMap Statement.lines) =
      steps.map (remarkOf template) := by
  induction steps with
  | nil => rfl
  | cons step rest ih =>
    have hremark : remarkLines (Statement.remark template step.line).lines =
        [remarkOf template step] := by
      have hkind := Statement.map_lineKind_remark template step.line
      rw [Statement.lines_remark] at hkind ⊢
      exact List.filter_eq_self.mpr (by simpa using hkind)
    have houtput : remarkLines step.output.statement.lines = [] :=
      remarkLines_eq_nil step.output.map_lineKind_statement (OutputShape.remark_notMem_kinds _)
    change remarkLines ((Statement.remark template step.line).lines ++
      (step.output.statement.lines ++ (Step.statements template rest).flatMap Statement.lines)) = _
    rw [remarkLines_append, remarkLines_append, hremark, houtput, ih]
    rfl

theorem Routine.remarkLines_lines {r : Routine} (h : ∃ i : Identifier, i.text = r.name) :
    remarkLines r.lines = indentLines (remarkLines (r.body.flatMap Statement.lines)) := by
  have hhead : remarkLines ["", "pub fn " ++ r.name ++ String.join Routine.parameters] = [] := by
    simp [remarkLines, lineKind_routineHead h]
  have hinside : remarkLines ("let _ = (funcs, data);" :: r.body.flatMap Statement.lines ++
      ["Ok(())"]) = remarkLines (r.body.flatMap Statement.lines) := by
    simp [remarkLines]
  have hclosing : remarkLines ["\x7d"] = [] := by simp [remarkLines]
  rw [Routine.lines_eq, remarkLines_append, remarkLines_append, remarkLines_indentLines, hhead,
    hinside, hclosing, List.nil_append, List.append_nil]

/-- What stands before the comments of a routine. -/
def margin (moduleName : Option String) : String :=
  match moduleName with
  | none => indentation
  | some _ => indentation ++ indentation

theorem indentLine_of_ne {line : String} (h : line ≠ "") : indentLine line = indentation ++ line :=
  if_neg (by simpa using h)

theorem remarkOf_ne_empty (before template : String) (step : Step) :
    before ++ remarkOf template step ≠ "" := by
  rw [remarkOf, ← String.toList_inj.ne]
  simp

namespace Program

variable {p : Program} {moduleName : Option String} {added : List (String × List Step)}

theorem Registers.remarkLines_itemLines (h : p.Registers moduleName added) (hnamed : p.Named) :
    remarkLines p.itemLines = added.flatMap fun s =>
      s.2.map fun step => indentation ++ remarkOf s.1 step := by
  have htable : remarkLines p.tableLines = [] :=
    remarkLines_eq_nil hnamed.map_lineKind_tableLines (by simp [LineKind.ofTable])
  have hroutines : remarkLines (p.routines.flatMap fun entry => entry.2.lines) =
      p.routines.flatMap fun entry =>
        indentLines (remarkLines (entry.2.body.flatMap Statement.lines)) := by
    rw [remarkLines, List.filter_flatMap]
    exact List.flatMap_congr fun entry hentry =>
      Routine.remarkLines_lines (hnamed.routines entry hentry)
  rw [itemLines, remarkLines_append, hroutines, htable, List.append_nil,
    h.flatMap_routines fun _ body => indentLines (remarkLines (body.flatMap Statement.lines))]
  refine List.flatMap_congr fun s _ => ?_
  rw [Step.remarkLines_statements, indentLines, List.map_map]
  refine List.map_congr_left fun step _ => indentLine_of_ne ?_
  simpa using remarkOf_ne_empty "" s.1 step

/-- **The comment lines of a program**: its first line, and one for each step. -/
theorem Registers.remarkLines_lines (h : p.Registers moduleName added) (hnamed : p.Named) :
    remarkLines p.lines = header :: added.flatMap fun s =>
      s.2.map fun step => margin moduleName ++ remarkOf s.1 step := by
  have hheader (lines : List String) : remarkLines (header :: lines) =
      header :: remarkLines lines := by
    simp [remarkLines]
  unfold lines
  rw [h.moduleName]
  rcases moduleName with _ | name
  · exact (hheader p.itemLines).trans (congrArg _ (h.remarkLines_itemLines hnamed))
  · have hhead : remarkLines [header, "", "pub mod " ++ name ++ " \x7b"] = [header] := by
      simp [remarkLines, lineKind_moduleHead (hnamed.moduleName name h.moduleName)]
    have hclosing : remarkLines ["\x7d"] = [] := by simp [remarkLines]
    have hindent : indentLines (added.flatMap fun s =>
        s.2.map fun step => indentation ++ remarkOf s.1 step) =
          added.flatMap fun s => s.2.map fun step => margin (some name) ++ remarkOf s.1 step := by
      rw [indentLines, List.map_flatMap]
      refine List.flatMap_congr fun s _ => ?_
      rw [List.map_map]
      refine List.map_congr_left fun step _ => ?_
      exact (indentLine_of_ne (remarkOf_ne_empty indentation s.1 step)).trans
        (String.append_assoc ..).symm
    simp only [remarkLines_append, remarkLines_indentLines, hhead, hclosing,
      h.remarkLines_itemLines hnamed, hindent, List.append_nil, List.singleton_append]

end Program

end Stencil
