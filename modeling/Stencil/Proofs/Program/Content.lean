import Stencil.Proofs.Program.Layout

/-!
# The content of templates in a program

The texts of a template come to stand in a program as literals: the texts it writes, the
segments of its paths, its constants, the names of the functions it calls, and its own
name in the table. Whatever these texts are, each of them has a literal of its own, and
there are no other literals but the format in which values are written
(`Stencil.Program.Registers.literals_tokens`).

Together with the layout of the lines this says that the content of a template cannot get
out of the places that are made for it (`Stencil.Generator.content_keeps_layout`). It is
why a program can be moved into a module by adding blanks before its lines.
-/

namespace Stencil

open Token

/-! ### Literals -/

namespace Token

/-- The text of a text literal. -/
def literal? : Token → Option String
  | text s => some s
  | _ => none

/-- **The text literals among tokens.** -/
def literals (ts : List Token) : List String := ts.filterMap literal?

@[simp] theorem literals_nil : literals [] = [] := rfl

@[simp] theorem literals_append (ts us : List Token) :
    literals (ts ++ us) = literals ts ++ literals us :=
  List.filterMap_append

@[simp] theorem literals_text (s : String) (ts : List Token) :
    literals (.text s :: ts) = s :: literals ts :=
  rfl

@[simp] theorem literals_word (w : String) (ts : List Token) :
    literals (.word w :: ts) = literals ts :=
  rfl

theorem literals_flatMap {α : Type} (f : α → List Token) (items : List α) :
    literals (items.flatMap f) = items.flatMap fun a => literals (f a) :=
  List.filterMap_flatMap ..

/-- Commas are no literals. -/
theorem literals_listed (items : List (List Token)) :
    literals (listed items) = items.flatMap literals := by
  unfold listed
  induction items with
  | nil => rfl
  | cons ts rest ih =>
    rcases rest with _ | ⟨us, rest⟩
    · simp
    · have hcomma : literals [.mark ','] = [] := rfl
      rw [List.intercalate_cons_cons, literals_append, literals_append, hcomma, ih,
        List.append_nil]
      rfl

/-- The literals of a phrase are found by looking at its characters. -/
theorem literals_phrase {s : String} {cs : List Char} {texts : List String}
    (h : s = String.ofList cs) (hcs : literals (ofChars cs) = texts) :
    literals (ofPhrase s) = texts := by
  rw [h, ofPhrase_ofList, hcs]

end Token

/-! ### The texts of steps -/

/-- The texts in a term. -/
def Term.texts : Term → List String
  | field path => path.segments
  | dot => []
  | constant (.string s) => [s]
  | constant _ => []

/-- The texts in a call: the name of the function, and those of its arguments. -/
def Call.texts (c : Call) : List String := c.name :: c.args.flatMap Term.texts

/-- The texts in the first value of a chain. -/
def Head.texts : Head → List String
  | term t => t.texts
  | call c => c.texts

/-- The format in which a value is written. -/
def valueFormat : String := "\x7b\x7d"

/-- The texts in a chain. Its value is written after all of them, unless it is a lone
term. -/
def Chain.texts (c : Chain) : List String :=
  match c.head, c.stages with
  | .term t, [] => valueFormat :: t.texts
  | head, stages => head.texts ++ stages.flatMap Call.texts ++ [valueFormat]

/-- **The texts in a step.** -/
def Step.texts (s : Step) : List String :=
  match s.output with
  | .text t => [t]
  | .chain c => c.texts

/-! ### The literals of a program -/

theorem literals_number (n : Number) : literals n.tokens = [] := by
  rcases n with _ | s | ⟨s, r⟩
  · exact literals_phrase (s := "NaN_f64") rfl rfl
  · rcases s with _ | _
    · exact literals_phrase (s := "f64::INFINITY") rfl rfl
    · exact literals_phrase (s := "f64::NEG_INFINITY") rfl rfl
  · rcases s with _ | _ <;> rfl

theorem literals_constant (c : Constant) : literals c.tokens = (Term.constant c).texts := by
  have hclose : literals (ofPhrase ")") = [] := literals_phrase rfl rfl
  have hfrom : literals (ofPhrase "comtmpl_lang::Value::from(") = [] := literals_phrase rfl rfl
  rcases c with _ | b | n | s
  · have hvalue : literals (ofPhrase "comtmpl_lang::Value::") = [] := literals_phrase rfl rfl
    simp [Constant.tokens, Term.texts, hvalue]
  · have hbool : literals (ofPhrase "comtmpl_lang::Value::Bool(") = [] := literals_phrase rfl rfl
    simp [Constant.tokens, Term.texts, hbool, hclose]
  · simp [Constant.tokens, Term.texts, hfrom, hclose, literals_number]
  · simp [Constant.tokens, Term.texts, hfrom, hclose]

theorem literals_field (segments : List String) :
    literals (Expression.field segments).tokens = segments := by
  have hopen : literals (ofPhrase "comtmpl_lang::eval_field(data, &[") = [] :=
    literals_phrase rfl rfl
  have hclose : literals (ofPhrase "])?") = [] := literals_phrase rfl rfl
  simp [Expression.tokens, hopen, hclose, literals_listed, List.flatMap_map,
    List.flatMap_singleton']

theorem literals_reference (t : Term) : literals t.reference.tokens = t.texts := by
  rcases t with path | _ | c
  · exact literals_field path.segments
  · rfl
  · have hborrow : literals (ofPhrase "&") = [] := literals_phrase rfl rfl
    simp [Term.reference, Expression.tokens, hborrow, literals_constant]

theorem literals_expression (t : Term) : literals t.expression.tokens = t.texts := by
  have hclone : literals (ofPhrase ".clone()") = [] := literals_phrase rfl rfl
  rcases t with path | _ | c
  · rw [Term.expression, Expression.tokens, literals_append, literals_field, hclone,
      List.append_nil]
    rfl
  · rw [Term.expression, Expression.tokens, literals_append, hclone]
    rfl
  · exact literals_constant c

/-- The literals of a call, after arguments that have none. -/
theorem literals_call (c : Call) {first : List Expression}
    (hfirst : ∀ e ∈ first, literals e.tokens = []) :
    literals (c.expression first).tokens = c.texts := by
  have hopen : literals (ofPhrase "funcs.call(") = [] := literals_phrase rfl rfl
  have hmiddle : literals (ofPhrase ", vec![") = [] := literals_phrase rfl rfl
  have hclose : literals (ofPhrase "])?") = [] := literals_phrase rfl rfl
  have hargs : (first ++ c.args.map Term.expression).flatMap (fun e => literals e.tokens) =
      c.args.flatMap Term.texts := by
    rw [List.flatMap_append, List.flatMap_eq_nil_iff.mpr hfirst, List.nil_append,
      List.flatMap_map]
    exact List.flatMap_congr fun t _ => literals_expression t
  rw [Call.expression, Expression.tokens_call]
  simp only [literals_append, literals_listed, List.flatMap_map, hopen, hmiddle, hclose, hargs]
  simp [Call.texts]

theorem literals_head (head : Head) : literals head.expression.tokens = head.texts := by
  rcases head with t | c
  · exact literals_expression t
  · exact literals_call c (by simp)

theorem literals_write (e : Expression) :
    literals (Statement.write e).tokens = valueFormat :: literals e.tokens := by
  have hopen : literals (ofPhrase "write!(writer, \"\x7b\x7d\", ") = [valueFormat] :=
    literals_phrase rfl rfl
  have hclose : literals (ofPhrase ")?;") = [] := literals_phrase rfl rfl
  simp [Statement.tokens, hopen, hclose]

theorem literals_bind (e : Expression) :
    literals (Statement.bind e).tokens = literals e.tokens := by
  have hopen : literals (ofPhrase "let value = ") = [] := literals_phrase rfl rfl
  have hclose : literals (ofPhrase ";") = [] := literals_phrase rfl rfl
  simp [Statement.tokens, hopen, hclose]

theorem literals_block (body : List Statement) :
    literals (Statement.block body).tokens = body.flatMap fun s => literals s.tokens := by
  have hopen : literals (ofPhrase "\x7b") = [] := literals_phrase rfl rfl
  have hclose : literals (ofPhrase "\x7d") = [] := literals_phrase rfl rfl
  simp [Statement.tokens_block, hopen, hclose, literals_flatMap]

/-- The literals of the block of a chain. -/
theorem literals_stages (head : Head) (stages : List Call) :
    literals (Statement.block (Statement.bind head.expression ::
      (stages.map fun stage => Statement.bind (stage.expression [.value])) ++
        [Statement.write .value])).tokens =
        head.texts ++ stages.flatMap Call.texts ++ [valueFormat] := by
  have hvalue : literals Expression.value.tokens = [] := rfl
  have hstage (stage : Call) : literals (stage.expression [.value]).tokens = stage.texts :=
    literals_call stage (by simpa using hvalue)
  simp only [literals_block, List.cons_append, List.flatMap_cons, List.flatMap_append,
    List.flatMap_map, List.flatMap_nil, literals_bind, literals_write, literals_head, hstage,
    hvalue]
  simp

/-- **The literals of a chain are its texts.** -/
theorem literals_chain (c : Chain) : literals c.statement.tokens = c.texts := by
  obtain ⟨head, stages⟩ := c
  rcases head with t | call
  · rcases stages with _ | ⟨stage, rest⟩
    · exact (literals_write _).trans (congrArg _ (literals_reference t))
    · exact literals_stages (.term t) (stage :: rest)
  · exact literals_stages (.call call) stages

/-- **The literals of steps are their texts.** -/
theorem literals_statements (template : String) (steps : List Step) :
    literals ((Step.statements template steps).flatMap Statement.tokens) =
      steps.flatMap Step.texts := by
  have houtput (step : Step) : literals step.output.statement.tokens = step.texts := by
    obtain ⟨line, s | c⟩ := step
    · have hopen : literals (ofPhrase "writer.write_all(") = [] := literals_phrase rfl rfl
      have hclose : literals (ofPhrase ".as_bytes())?;") = [] := literals_phrase rfl rfl
      simp [Output.statement, Statement.tokens, Step.texts, hopen, hclose]
    · exact literals_chain c
  have hremark (n : Nat) : (Statement.remark template n).tokens = [] := rfl
  rw [Step.statements, List.flatMap_assoc, literals_flatMap]
  refine List.flatMap_congr fun step _ => ?_
  simp [hremark, houtput]

theorem literals_routine (r : Routine) :
    literals r.tokens = literals (r.body.flatMap Statement.tokens) := by
  have hopen : literals (ofPhrase "pub fn ") = [] := literals_phrase rfl rfl
  have hfirst : literals (ofPhrase "let _ = (funcs, data);") = [] := literals_phrase rfl rfl
  have hresult : literals (ofPhrase "Ok(())") = [] := literals_phrase rfl rfl
  have hclose : literals (ofPhrase "\x7d") = [] := literals_phrase rfl rfl
  have hparameters : literals (Routine.parameters.flatMap ofPhrase) = [] := by
    rw [literals_flatMap, List.flatMap_eq_nil_iff, Routine.parameters]
    simp only [List.forall_mem_cons, List.not_mem_nil, false_implies, implies_true, and_true]
    exact ⟨literals_phrase rfl rfl, literals_phrase rfl rfl, literals_phrase rfl rfl⟩
  rw [Routine.tokens, Routine.closed_signature.ofPhrase_eq]
  simp only [literals_append, hopen, hfirst, hresult, hclose, hparameters, literals_word,
    literals_nil, List.nil_append, List.append_nil]

namespace Program

variable {p : Program} {moduleName : Option String} {added : List (String × List Step)}

theorem literals_tableOpening : literals (ofPhrase tableOpening) = [] := by
  rw [closed_tableOpening.ofPhrase_eq, literals_flatMap, List.flatMap_eq_nil_iff, tablePhrases]
  simp only [List.forall_mem_cons, List.not_mem_nil, false_implies, implies_true, and_true]
  repeat' apply And.intro
  all_goals exact literals_phrase rfl (by decide +kernel)

theorem literals_entryTokens (entry : String × Routine) :
    literals (entryTokens entry) = [entry.1] := by
  have hopen : literals (ofPhrase "(") = [] := literals_phrase rfl rfl
  have hcomma : literals (ofPhrase ", ") = [] := literals_phrase rfl rfl
  have hroutine : literals (ofPhrase " as comtmpl_lang::Routine") = [] := literals_phrase rfl rfl
  have hclose : literals (ofPhrase "),") = [] := literals_phrase rfl rfl
  simp [entryTokens, hopen, hcomma, hroutine, hclose]

/-- **The literals of a program are the texts of its steps, and the names of its
templates** in the rows of the table. -/
theorem Registers.literals_itemTokens (h : p.Registers moduleName added) :
    literals p.itemTokens =
      (added.flatMap fun s => s.2.flatMap Step.texts) ++ added.map Prod.fst := by
  have hroutines : literals (p.routines.flatMap (·.2.tokens)) =
      added.flatMap fun s => s.2.flatMap Step.texts := by
    have hbodies := h.flatMap_routines fun _ body => literals (body.flatMap Statement.tokens)
    rw [literals_flatMap, List.flatMap_congr fun entry _ => literals_routine entry.2, hbodies]
    exact List.flatMap_congr fun s _ => literals_statements s.1 s.2
  have hentries : literals (p.routines.flatMap entryTokens) = added.map Prod.fst := by
    have hnames := congrArg (List.map Prod.fst) h.bodies
    rw [List.map_map, List.map_map] at hnames
    rw [literals_flatMap, List.flatMap_congr fun entry _ => literals_entryTokens entry,
      ← List.map_eq_flatMap]
    exact hnames
  have hclose : literals (ofPhrase "],) \x7d") = [] := literals_phrase rfl rfl
  simp [itemTokens, hroutines, hentries, hclose, literals_tableOpening]

theorem Registers.literals_tokens (h : p.Registers moduleName added) :
    literals p.tokens = (added.flatMap fun s => s.2.flatMap Step.texts) ++ added.map Prod.fst := by
  rw [tokens]
  rcases p.moduleName with _ | name
  · exact h.literals_itemTokens
  · have hmodule : literals (ofPhrase "pub mod ") = [] := literals_phrase rfl rfl
    have hopen : literals (ofPhrase "\x7b") = [] := literals_phrase rfl rfl
    have hclose : literals (ofPhrase "\x7d") = [] := literals_phrase rfl rfl
    simp [hmodule, hopen, hclose, h.literals_itemTokens]

/-! ### Programs in modules -/

/-- The routines of a program do not depend on its module. -/
theorem routines_foldl_attempt {q : Program} (h : p.routines = q.routines)
    (attempts : List Attempt) : (attempts.foldl Program.attempt p).routines =
      (attempts.foldl Program.attempt q).routines := by
  induction attempts generalizing p q with
  | nil => exact h
  | cons a rest ih =>
    refine ih ?_
    rw [attempt_eq, attempt_eq]
    rcases a.added? with _ | ⟨template, steps⟩
    · exact h
    · simp [addSteps, routineNames, h]

theorem itemLines_congr {q : Program} (h : p.routines = q.routines) :
    p.itemLines = q.itemLines := by
  rw [itemLines, itemLines, tableLines, tableLines, h]

theorem itemTokens_congr {q : Program} (h : p.routines = q.routines) :
    p.itemTokens = q.itemTokens := by
  rw [itemTokens, itemTokens, h]

theorem lines_of_none (h : p.moduleName = none) : p.lines = header :: p.itemLines := by
  rw [lines, h]

theorem lines_of_some {name : String} (h : p.moduleName = some name) : p.lines =
    [header, "", "pub mod " ++ name ++ " \x7b"] ++ indentLines p.itemLines ++ ["\x7d"] := by
  rw [lines, h]

theorem tokens_of_none (h : p.moduleName = none) : p.tokens = p.itemTokens := by
  rw [tokens, h]

theorem tokens_of_some {name : String} (h : p.moduleName = some name) : p.tokens =
    [Token.word "pub", .word "mod", .word name, .mark '\x7b'] ++ p.itemTokens ++
      [Token.mark '\x7d'] := by
  have hmodule : ofPhrase "pub mod " = [.word "pub", .word "mod"] := ofPhrase_ofList _
  have hopen : ofPhrase "\x7b" = [.mark '\x7b'] := ofPhrase_ofList _
  have hclose : ofPhrase "\x7d" = [.mark '\x7d'] := ofPhrase_ofList _
  rw [tokens, h, hmodule, hopen, hclose]
  rfl

end Program

/-! ### The text of a generator -/

/-- **A text is laid out** for templates with given steps, in a module or not. -/
structure LaidOut (out : String) (moduleName : Option String)
    (added : List (String × List Step)) : Prop where
  /-- Every line ends with a line feed, and there are no other line breaks. -/
  joined : joinLines (textLines out) = out
  unbroken : ∀ line ∈ textLines out, Unbroken line.toList
  /-- The number and the kinds of the lines depend on the shapes of the steps only. -/
  kinds : (textLines out).map lineKind =
    (LineKind.ofProgram moduleName.isSome (added.map fun s => s.2.map (·.output.shape))).map some
  /-- Each step has a line for its comment. -/
  remarks : remarkLines (textLines out) = Program.header :: added.flatMap fun s =>
    s.2.map fun step => margin moduleName ++ remarkOf s.1 step
  /-- Each text of the steps has a literal, and so has each template in the table. -/
  literals : (Token.ofText? out).map Token.literals =
    some ((added.flatMap fun s => s.2.flatMap Step.texts) ++ added.map Prod.fst)

/-- A line one level further out. -/
def outdentLine (line : String) : String := String.ofList (line.toList.drop indentation.length)

/-- A text without the module around it. -/
def unwrapped (out : String) : String :=
  joinLines (Program.header :: ((textLines out).drop 3).dropLast.map outdentLine)

theorem outdentLine_indentLine (line : String) : outdentLine (indentLine line) = line := by
  have hlength : indentation.length = 4 := rfl
  unfold outdentLine indentLine
  split
  · next h => simp [String.isEmpty_iff.mp h]
  · have hchars : (indentation ++ line).toList = [' ', ' ', ' ', ' '] ++ line.toList := by
      simp [indentation]
    rw [hchars, hlength]
    exact String.ofList_toList

theorem map_outdentLine_indentLines (lines : List String) :
    (indentLines lines).map outdentLine = lines := by
  rw [indentLines, List.map_map]
  exact (List.map_congr_left fun line _ => outdentLine_indentLine line).trans (List.map_id lines)

theorem indentLines_eq (lines : List String) : indentLines lines =
    lines.map fun line => if line = "" then line else "    " ++ line := by
  refine List.map_congr_left fun line _ => ?_
  unfold indentLine indentation
  simp only [String.isEmpty_iff]

namespace Program

variable {p : Program} {moduleName : Option String} {added : List (String × List Step)}

theorem Named.textLines_text (h : p.Named) : textLines p.text = p.lines :=
  textLines_joinLines h.unbroken_lines

/-- **The text of a program is laid out** for its templates. -/
theorem Registers.laidOut (h : p.Registers moduleName added) (hnamed : p.Named) :
    LaidOut p.text moduleName added where
  joined := by rw [hnamed.textLines_text]; rfl
  unbroken := by
    rw [hnamed.textLines_text]
    exact hnamed.unbroken_lines
  kinds := by rw [hnamed.textLines_text, h.map_lineKind_lines hnamed]
  remarks := by rw [hnamed.textLines_text, h.remarkLines_lines hnamed]
  literals := by rw [hnamed.ofText?, Option.map_some, h.literals_tokens]

/-- **A module around a program** adds its first lines and its last, and moves all other
lines to the right. -/
theorem Named.text_inModule {q : Program} {name : String} (hp : p.Named) (hq : q.Named)
    (hplain : p.moduleName = none) (hmodule : q.moduleName = some name)
    (h : q.routines = p.routines) :
    textLines p.text = header :: p.itemLines ∧
    textLines q.text = [header, "", "pub mod " ++ name ++ " \x7b"] ++ indentLines p.itemLines ++
      ["\x7d"] ∧
    unwrapped q.text = p.text ∧
    Token.ofText? p.text = some p.itemTokens ∧
    Token.ofText? q.text = some ([Token.word "pub", .word "mod", .word name, .mark '\x7b'] ++
      p.itemTokens ++ [Token.mark '\x7d']) := by
  have hlines : textLines p.text = header :: p.itemLines := by
    rw [hp.textLines_text, lines_of_none hplain]
  have hlines' : textLines q.text = [header, "", "pub mod " ++ name ++ " \x7b"] ++
      indentLines p.itemLines ++ ["\x7d"] := by
    rw [hq.textLines_text, lines_of_some hmodule, itemLines_congr h]
  refine ⟨hlines, hlines', ?_, ?_, ?_⟩
  · have hinside : ((textLines q.text).drop 3).dropLast = indentLines p.itemLines := by
      rw [hlines', List.append_assoc]
      exact List.dropLast_concat
    rw [unwrapped, hinside, map_outdentLine_indentLines, ← lines_of_none hplain]
    rfl
  · rw [hp.ofText?, tokens_of_none hplain]
  · rw [hq.ofText?, tokens_of_some hmodule, itemTokens_congr h]

end Program

namespace Generator

/-- **The content of templates stays inside its lines and literals.** Whatever templates
are added to a generator, and whichever of them cannot be, the text it ends with is laid
out by the shapes of their steps, with all their texts in literals and all their names in
comments of one line. In a module it has the same lines, four blanks to the right if they
are not empty, between the first lines of the module and its last; so taking the module
away gives back the text without it, and the tokens are the same. -/
theorem content_keeps_layout {name : String} (hname : Program.isModuleName name = true)
    (attempts : List Attempt) : ∃ g h : Generator,
    start none = .ok g ∧ start (some name) = .ok h ∧
    let added := attempts.filterMap Attempt.added?
    let plain := (g.attemptAll attempts).finish
    let wrapped := (h.attemptAll attempts).finish
    LaidOut plain none added ∧ LaidOut wrapped (some name) added ∧
    (∃ items, textLines plain = Program.header :: items ∧
      textLines wrapped = [Program.header, "", "pub mod " ++ name ++ " \x7b"] ++
        items.map (fun line => if line = "" then line else "    " ++ line) ++ ["\x7d"]) ∧
    unwrapped wrapped = plain ∧
    ∃ tokens, Token.ofText? plain = some tokens ∧
      Token.ofText? wrapped = some ([Token.word "pub", .word "mod", .word name, .mark '\x7b'] ++
        tokens ++ [Token.mark '\x7d']) := by
  have hplain : start none = .ok ⟨none, [], "", [], []⟩ := start_eq_ok_iff.mpr ⟨by simp, rfl⟩
  have hwrapped : start (some name) = .ok ⟨some name, [], "", [], []⟩ :=
    start_eq_ok_iff.mpr ⟨by simpa using hname, rfl⟩
  refine ⟨_, _, hplain, hwrapped, ?_⟩
  obtain ⟨hnamed, hfinish⟩ := finish_attemptAll hplain attempts
  obtain ⟨hnamed', hfinish'⟩ := finish_attemptAll hwrapped attempts
  have hregisters := registers_attempts none attempts
  have hregisters' := registers_attempts (some name) attempts
  have hroutines : (attempts.foldl Program.attempt ⟨some name, []⟩).routines =
      (attempts.foldl Program.attempt ⟨none, []⟩).routines :=
    Program.routines_foldl_attempt (p := ⟨some name, []⟩) (q := ⟨none, []⟩) rfl attempts
  obtain ⟨hlines, hlines', hunwrapped, htokens, htokens'⟩ := hnamed.text_inModule hnamed'
    hregisters.moduleName hregisters'.moduleName hroutines
  rw [hfinish, hfinish']
  refine ⟨hregisters.laidOut hnamed, hregisters'.laidOut hnamed', ⟨_, hlines, ?_⟩, hunwrapped,
    _, htokens, htokens'⟩
  rw [hlines', indentLines_eq]

/-- Line breaks, quotes, backslashes and closing braces in a name, a text and a constant. -/
theorem content_keeps_layout_breaks : Program.isModuleName "views" = true ∧
    ∃ h : Generator, start (some "views") = .ok h ∧
    let out := (h.attemptAll [⟨"a\n\x7d", [.text 0 "\r\n\";", .action 4 ⟨4, [],
      [⟨4, [.string "*/\n\\"]⟩, ⟨9, [.identifier "upper"]⟩]⟩], ⟨[2]⟩⟩]).finish
    (textLines out).map lineKind = ([.remark, .blank, .moduleHead, .blank, .function, .use, .remark,
      .writeText, .remark, .opening, .bind, .bind, .write, .closing, .result, .closing, .blank,
      .function, .table, .closing, .blank, .function, .table, .table, .table, .row, .table, .table,
      .closing, .closing] : List LineKind).map some ∧
    remarkLines (textLines out) = ["// Code generated by comtmpl. DO NOT EDIT.",
      "        // a\\n\x7d:1", "        // a\\n\x7d:2"] ∧
    (Token.ofText? out).map Token.literals =
      some ["\r\n\";", "*/\n\\", "upper", "\x7b\x7d", "a\n\x7d"] := by
  have hname : Program.isModuleName "views" = true := by decide +kernel
  obtain ⟨g, h, -, hstart, -, hlaid, -⟩ := content_keeps_layout hname [⟨"a\n\x7d",
    [.text 0 "\r\n\";", .action 4 ⟨4, [],
      [⟨4, [.string "*/\n\\"]⟩, ⟨9, [.identifier "upper"]⟩]⟩], ⟨[2]⟩⟩]
  refine ⟨hname, h, hstart, hlaid.kinds.trans ?_, hlaid.remarks.trans ?_, hlaid.literals.trans ?_⟩
  · decide +kernel
  · decide +kernel
  · decide +kernel

end Generator

end Stencil
