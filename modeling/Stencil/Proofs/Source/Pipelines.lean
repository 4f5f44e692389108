import Stencil.Proofs.Source.Accepted
import Stencil.Proofs.Source.Choice

/-!
# Written pipelines are read back

An operand is read back before anything that cannot go on with it, a command before
the things that may stand behind a command, and a pipeline before its end
(`Stencil.PipelineText.readPipelineOf_of_passes`).

Two things shape the argument. A list ends where its next item is absent, so it has to
be known of everything that may stand behind a command that no operand begins there
(`Stencil.EndsWith`). And a variable in front of a pipeline looks like the beginning of
a declaration, so it has to be known that no sign of a declaration follows it
(`Stencil.NoSign`).
-/

namespace Stencil

open Cursor

variable {c d e : Cursor}

/-! ### What stands behind a command -/

/-- Blanks and one of some marks behind them, or a trim marker and a brace. -/
inductive EndsWith (marks : List Char) : List Char → Prop
  | mark (b : Blanks) {x : Char} (hx : x ∈ marks) (rest : List Char) :
      EndsWith marks (b.chars ++ x :: rest)
  | trim (g : Gap) (rest : List Char) : EndsWith marks (g.chars ++ '-' :: '\x7d' :: rest)

/-- **The end of a pipeline**: a closing parenthesis, or the margin before a right
delimiter. -/
abbrev EndsPipeline : List Char → Prop := EndsWith [')', '\x7d']

/-- **The end of a command**: the end of a pipeline, or a bar. -/
abbrev EndsCommand : List Char → Prop := EndsWith ['|', ')', '\x7d']

theorem EndsPipeline.endsCommand {rest : List Char} (h : EndsPipeline rest) : EndsCommand rest := by
  rcases h with ⟨b, hx, rest⟩ | ⟨g, rest⟩
  · exact .mark b (List.mem_cons_of_mem _ hx) rest
  · exact .trim g rest

/-- Blanks before a text stop what goes on with neither. -/
theorem Blanks.stops_append (b : Blanks) {p : Char → Bool} {rest : List Char}
    (hblank : ∀ x, isBlank x = true → p x = false) (hrest : Stops p rest) :
    Stops p (b.chars ++ rest) := by
  cases hchars : b.chars with
  | nil => exact hrest
  | cons x xs => exact (stops_cons _ _).mpr (hblank x (b.areBlank x (by simp [hchars])))

theorem isOperandPart_eq_false_of_isBlank {x : Char} (h : isBlank x = true) :
    isOperandPart x = false := by
  simp only [isBlank, Bool.or_eq_true, beq_iff_eq] at h
  rcases h with ((rfl | rfl) | rfl) | rfl <;> decide

/-- A gap ends the operand before it. -/
theorem Gap.stops_isOperandPart (g : Gap) (rest : List Char) :
    Stops isOperandPart (g.chars ++ rest) := by
  obtain ⟨x, xs, hchars⟩ := List.exists_cons_of_ne_nil g.nonempty
  rw [hchars]
  exact (stops_cons _ _).mpr
    (isOperandPart_eq_false_of_isBlank (g.areBlank x (by simp [hchars])))

/-- The end of a command ends the operand before it. -/
theorem EndsCommand.stops_isOperandPart {rest : List Char} (h : EndsCommand rest) :
    Stops isOperandPart rest := by
  have hmarks : ∀ x ∈ ['|', ')', '\x7d'], isOperandPart x = false := by
    simp only [List.mem_cons, List.not_mem_nil, or_false, forall_eq_or_imp, forall_eq]
    decide
  rcases h with ⟨b, hx, rest⟩ | ⟨g, rest⟩
  · exact b.stops_append (fun _ => isOperandPart_eq_false_of_isBlank)
      ((stops_cons _ _).mpr (hmarks _ hx))
  · exact g.stops_isOperandPart _

/-- A list of operands ends before blanks behind which no operand stands. -/
theorem readMore_of_absent {pipeline : Cursor → Reading (Pipeline Operand)} {b : Blanks}
    (hpasses : c.Passes b.chars d) (hblank : Stops isBlank d.rest)
    (habsent : readChoice pipeline d = .error (.absent d)) :
    readMore skipBlanks1? (readChoice pipeline) c = .ok ([], c) := by
  rcases eq_or_ne b.chars [] with hnil | hne
  · rw [hnil] at hpasses
    rw [hpasses.eq_of_nil] at hblank
    rw [readMore, skipBlanks1?_eq_none_iff.mpr hblank]
  · rw [readMore, skipBlanks1?_of_passes hpasses b.areBlank hne hblank]
    simp only [habsent]

/-- **No operand follows the end of a command.** -/
theorem EndsCommand.readMore_eq {depth : Nat} (h : EndsCommand c.rest) :
    readMore skipBlanks1? (readOperand depth) c = .ok ([], c) := by
  have hmarks : ∀ x ∈ ['|', ')', '\x7d'], isBlank x = false ∧ isOperandStart x = false := by
    simp only [List.mem_cons, List.not_mem_nil, or_false, forall_eq_or_imp, forall_eq]
    decide
  obtain ⟨pipeline, hdepth⟩ := exists_readOperand_eq depth
  rw [hdepth]
  generalize hrest : c.rest = rest at h
  rcases h with ⟨b, hx, rest⟩ | ⟨g, rest⟩
  · have hpasses : c.Passes b.chars ⟨c.offset + byteLength b.chars, _⟩ := ⟨hrest, rfl⟩
    exact readMore_of_absent hpasses ((stops_cons _ _).mpr (hmarks _ hx).1)
      (readChoice_absent pipeline ((stops_cons _ _).mpr (hmarks _ hx).2))
  · have hpasses : c.Passes g.chars ⟨c.offset + byteLength g.chars, _⟩ := ⟨hrest, rfl⟩
    have hminus : Passes ⟨c.offset + byteLength g.chars, '-' :: '\x7d' :: rest⟩ ['-', '\x7d']
      ⟨_, rest⟩ := ⟨rfl, rfl⟩
    exact readMore_of_absent hpasses ((stops_cons _ _).mpr (by decide))
      (readChoice_minus pipeline hminus)

/-- **No command follows the end of a pipeline.** -/
theorem EndsPipeline.readMore_eq {α : Type} {item : Cursor → Reading α} (h : EndsPipeline c.rest) :
    readMore (separator? '|') item c = .ok ([], c) := by
  obtain ⟨b, x, more, hrest, hblank, hbar⟩ : ∃ (b : Blanks) (x : Char) (more : List Char),
      c.rest = b.chars ++ x :: more ∧ isBlank x = false ∧ (x == '|') = false := by
    have hmarks : ∀ x ∈ [')', '\x7d'], isBlank x = false ∧ (x == '|') = false := by
      simp only [List.mem_cons, List.not_mem_nil, or_false, forall_eq_or_imp, forall_eq]
      decide
    generalize c.rest = rest at h
    rcases h with ⟨b, hx, rest⟩ | ⟨g, rest⟩
    · exact ⟨b, _, _, rfl, hmarks _ hx⟩
    · exact ⟨g.toBlanks, '-', _, rfl, by decide, by decide⟩
  have hpasses : c.Passes b.chars ⟨c.offset + byteLength b.chars, x :: more⟩ := ⟨hrest, rfl⟩
  have hskip := skipBlanks_of_passes hpasses b.areBlank ((stops_cons _ _).mpr hblank)
  have hstop : Stops (· == '|') (x :: more) := (stops_cons _ _).mpr hbar
  rw [readMore, separator?, hskip, expect?_of_stops hstop]
  rfl

/-! ### Lists -/

theorem readList_single {α : Type} {separator? : Cursor → Option Cursor} {item : Cursor → Reading α}
    {a : α} (hitem : item c = .ok (a, d)) (hmore : readMore separator? item d = .ok ([], d)) :
    readList separator? item c = .ok ([a], d) := by
  rw [readList, hitem]
  simp only [hmore]

/-- A list behind an item and a separator, if the next item makes the source shorter. -/
theorem readList_cons {α : Type} {separator? : Cursor → Option Cursor} {item : Cursor → Reading α}
    {a : α} {as : List α} {after : Cursor} (hitem : item c = .ok (a, d))
    (hseparator : separator? d = some e) (hlist : readList separator? item e = .ok (as, after))
    (hshorter : ∀ b f, item e = .ok (b, f) → f.rest.length < d.rest.length) :
    readList separator? item c = .ok (a :: as, after) := by
  have hmore : readMore separator? item d = .ok (as, after) := by
    unfold readList at hlist
    split at hlist
    · cases hlist
    · next b f hnext =>
      split at hlist
      · next hmore =>
        cases hlist
        rw [readMore, hseparator]
        simp only [hnext, hshorter b f hnext, if_true, hmore]
      · cases hlist
  rw [readList, hitem]
  simp only [hmore]

/-- A separator is read back before anything but a blank. -/
theorem separator?_of_passes {mark : Char} (hmark : isBlank mark = false) {before after : Blanks}
    (h : c.Passes (before.chars ++ mark :: after.chars) d) (hstops : Stops isBlank d.rest) :
    separator? mark c = some d := by
  obtain ⟨e, hbefore, hrest⟩ := h.split
  obtain ⟨f, hsign, hafter⟩ := hrest.split_cons
  rw [separator?, skipBlanks_of_passes hbefore before.areBlank (hsign.stops hmark),
    expect?_eq_some_iff.mpr hsign, Option.map_some,
    skipBlanks_of_passes hafter after.areBlank hstops]

/-! ### Declarations -/

/-- Whether a character goes on with a declaration behind a name. -/
def isDeclarationSign (c : Char) : Bool := c == ',' || c == ':' || c == '='

/-- **No sign of a declaration** stands behind the blanks that come next. -/
def NoSign (cs : List Char) : Prop := Stops isDeclarationSign (cs.dropWhile isBlank)

theorem Blanks.noSign_append (b : Blanks) {x : Char} (hblank : isBlank x = false)
    (hsign : isDeclarationSign x = false) (rest : List Char) : NoSign (b.chars ++ x :: rest) := by
  rw [NoSign, dropWhile_append_stops b.areBlank ((stops_cons _ _).mpr hblank)]
  exact (stops_cons _ _).mpr hsign

theorem EndsCommand.noSign {rest : List Char} (h : EndsCommand rest) : NoSign rest := by
  have hmarks : ∀ x ∈ ['|', ')', '\x7d'], isBlank x = false ∧ isDeclarationSign x = false := by
    simp only [List.mem_cons, List.not_mem_nil, or_false, forall_eq_or_imp, forall_eq]
    decide
  rcases h with ⟨b, hx, rest⟩ | ⟨g, rest⟩
  · exact b.noSign_append (hmarks _ hx).1 (hmarks _ hx).2 rest
  · exact g.noSign_append (by decide) (by decide) _

/-- **A name is no declaration without a sign.** -/
theorem readDeclarations?_of_noSign {name? : Option Identifier} (h : c.Passes (dollarChars name?) d)
    (hstops : Stops isIdentifierPart d.rest) (hsign : NoSign d.rest) :
    readDeclarations? c = none := by
  have hitem : readDeclared c = .ok (String.ofList (dollarChars name?), d) := by
    rw [readDeclared, readDollar?_of_passes h hstops]
  have hskip : Stops isDeclarationSign d.skipBlanks.rest := hsign
  have hnext {x : Char} (hx : isDeclarationSign x = true) (xs : List Char) :
      d.skipBlanks.expect? (x :: xs) = none :=
    expect?_of_stops (hskip.mono fun y hy => by rwa [eq_of_beq hy]) xs
  have hmore : readMore (separator? ',') readDeclared d = .ok ([], d) := by
    rw [readMore, separator?, hnext (by decide)]
    rfl
  rw [readDeclarations?, readList_single hitem hmore]
  simp only [hnext (x := ':') (by decide), hnext (x := '=') (by decide), Option.or_none]

theorem readDeclarations?_of_stops (h : Stops (· == '$') c.rest) : readDeclarations? c = none := by
  have hitem : readDeclared c = .error (.absent c) := by
    rw [readDeclared, readDollar?_eq_none h]
  rw [readDeclarations?, readList, hitem]

/-- Declared names are read back before the sign. -/
theorem readList_names {first : Option Identifier} {others : List FurtherName}
    (h : c.Passes (dollarChars first ++ others.flatMap FurtherName.chars) d)
    (hstops : Stops isIdentifierPart d.rest) (hcomma : Stops (· == ',') d.skipBlanks.rest) :
    readList (separator? ',') readDeclared c =
      .ok ((first :: others.map FurtherName.name?).map fun name? =>
        String.ofList (dollarChars name?), d) := by
  induction others generalizing c first with
  | nil =>
    rw [List.flatMap_nil, List.append_nil] at h
    refine readList_single ?_ ?_
    · rw [readDeclared, readDollar?_of_passes h hstops]
    · rw [readMore, separator?, expect?_of_stops hcomma]
      rfl
  | cons name others ih =>
    have hchars : name.chars = (name.before.chars ++ ',' :: name.after.chars) ++
        dollarChars name.name? := by
      simp [FurtherName.chars]
    rw [List.flatMap_cons, hchars, List.append_assoc] at h
    obtain ⟨e, hfirst, hrest⟩ := h.split
    obtain ⟨f, hbetween, hothers⟩ := hrest.split
    have hstop : Stops isIdentifierPart e.rest := by
      rw [hbetween.1, List.append_assoc]
      exact name.before.stops_append (fun _ => isIdentifierPart_eq_false_of_isBlank)
        ((stops_cons _ _).mpr (by decide))
    have hblank : Stops isBlank f.rest := by
      rw [hothers.1]
      exact (((dollarChars_beginsOperand name.name?).append _).append _).stops_isBlank
    refine readList_cons ?_ (separator?_of_passes (by decide) hbetween hblank) (ih hothers) ?_
    · rw [readDeclared, readDollar?_of_passes hfirst hstop]
    · intro b g hdeclared
      obtain ⟨_, -, hpasses⟩ := exists_declared hdeclared
      rw [hbetween.length_rest, hpasses.length_rest, List.length_append, List.length_cons]
      omega

/-- **Declarations are read back** before anything but a blank. -/
theorem readDeclarations?_of_passes {t : DeclarationsText} (h : c.Passes t.chars d)
    (hstops : Stops isBlank d.rest) : readDeclarations? c = some (t.names, d) := by
  rw [DeclarationsText.chars, ← List.append_assoc] at h
  obtain ⟨e, hnames, hrest⟩ := h.split
  obtain ⟨f, hbefore, hrest⟩ := hrest.split
  obtain ⟨g, hsign, hafter⟩ := hrest.split
  -- The sign begins with a colon or an equality sign.
  have hstart {p : Char → Bool} (hp : p ':' = false ∧ p '=' = false) : Stops p f.rest := by
    rw [hsign.1, DeclarationsText.sign]
    split
    · exact (stops_cons _ _).mpr hp.1
    · exact (stops_cons _ _).mpr hp.2
  have hskip : e.skipBlanks = f :=
    skipBlanks_of_passes hbefore t.before.areBlank (hstart (by decide))
  have hstop : Stops isIdentifierPart e.rest := by
    rw [hbefore.1]
    exact t.before.stops_append (fun _ => isIdentifierPart_eq_false_of_isBlank) (hstart (by decide))
  have hcomma : Stops (· == ',') e.skipBlanks.rest := hskip ▸ hstart (by decide)
  have hread : (f.expect? [':', '=']).or (f.expect? ['=']) = some g := by
    rw [DeclarationsText.sign] at hsign
    split at hsign
    · rw [expect?_eq_some_iff.mpr hsign, Option.some_or]
    · rw [expect?_of_stops (hsign.stops (by decide)), expect?_eq_some_iff.mpr hsign, Option.none_or]
  rw [readDeclarations?, readList_names hnames hstop hcomma]
  simp only [hskip, hread, skipBlanks_of_passes hafter t.after.areBlank hstops,
    DeclarationsText.names]

/-! ### The operand in front -/

theorem isDeclarationSign_eq_false_of_operandStart {x : Char} (h : isOperandStart x = true) :
    isDeclarationSign x = false := by
  rw [← Bool.not_eq_true]
  intro hsign
  simp only [isDeclarationSign, Bool.or_eq_true, beq_iff_eq] at hsign
  rcases hsign with (rfl | rfl) | rfl <;> exact absurd h (by decide)

/-- Behind the first operand of a command nothing goes on with it, and no sign of a
declaration stands there. -/
theorem CommandText.exists_behind_first (t : CommandText) {rest : List Char}
    (h : EndsCommand rest) :
    ∃ more, t.chars ++ rest = t.first.chars ++ more ∧ Stops isOperandPart more ∧ NoSign more := by
  cases t with
  | last o => exact ⟨rest, rfl, h.stops_isOperandPart, h.noSign⟩
  | more o gap others =>
    refine ⟨gap.chars ++ (others.chars ++ rest), ?_, gap.stops_isOperandPart _, ?_⟩
    · rw [chars, first, List.append_assoc, List.append_assoc]
    · obtain ⟨x, xs, hchars, hx, -⟩ := others.beginsOperand
      rw [hchars]
      exact gap.noSign_append (isBlank_eq_false_of_operandStart hx)
        (isDeclarationSign_eq_false_of_operandStart hx) _

theorem CommandsText.exists_behind_first (t : CommandsText) {rest : List Char}
    (h : EndsPipeline rest) :
    ∃ more, t.chars ++ rest = t.first.first.chars ++ more ∧ Stops isOperandPart more ∧
      NoSign more := by
  cases t with
  | last command => exact command.exists_behind_first h.endsCommand
  | more command before after others =>
    have hend : EndsCommand (before.chars ++ '|' :: (after.chars ++ others.chars ++ rest)) :=
      .mark before (by decide) _
    obtain ⟨more, hmore, hstops, hsign⟩ := command.exists_behind_first hend
    refine ⟨more, ?_, hstops, hsign⟩
    rw [first, ← hmore, chars]
    simp

/-- Only a variable begins with a dollar sign. -/
theorem LeafText.stops_dollar {l : LeafText} (h : ∀ name? path, l ≠ variableRef name? path)
    (rest : List Char) : Stops (· == '$') (l.chars ++ rest) := by
  have hclass {x : Char} {p : Char → Bool} (hx : p x = true) (hp : p '$' = false) :
      (x == '$') = false := by
    rw [beq_eq_false_iff_ne]
    rintro rfl
    rw [hp] at hx
    cases hx
  cases l with
  | field first others => exact (stops_cons _ _).mpr (by decide)
  | dot => exact (stops_cons _ _).mpr (by decide)
  | variableRef name? path => exact absurd rfl (h name? path)
  | quoted inside => exact (stops_cons _ _).mpr (by decide)
  | raw inside hraw => exact (stops_cons _ _).mpr (by decide)
  | numeral n =>
    obtain ⟨x, xs, hchars, hx, -⟩ := n.exists_start
    rw [chars, hchars]
    exact (stops_cons _ _).mpr (hclass hx (by decide))
  | bool b => cases b <;> exact (stops_cons _ _).mpr (by decide)
  | nil => exact (stops_cons _ _).mpr (by decide)
  | identifier name hname => exact (stops_cons _ _).mpr (hclass name.first_isStart (by decide))

/-- An operand in front of a pipeline begins no declaration. -/
theorem readDeclarations?_operand {o : OperandText} {more : List Char}
    (hrest : c.rest = o.chars ++ more) (hstops : Stops isOperandPart more) (hsign : NoSign more) :
    readDeclarations? c = none := by
  cases o with
  | parenthesized before p after =>
    refine readDeclarations?_of_stops ?_
    rw [hrest]
    exact (stops_cons _ _).mpr (by decide)
  | leaf l =>
    by_cases hl : ∀ name? path, l ≠ .variableRef name? path
    · refine readDeclarations?_of_stops ?_
      rw [hrest]
      exact LeafText.stops_dollar hl more
    · simp only [not_forall, not_not] at hl
      obtain ⟨name?, path, rfl⟩ := hl
      have hpasses : c.Passes (dollarChars name?)
          ⟨c.offset + byteLength (dollarChars name?), dottedChars path ++ more⟩ :=
        ⟨by rw [hrest, OperandText.chars, LeafText.chars, List.append_assoc], rfl⟩
      refine readDeclarations?_of_noSign hpasses
        (stops_dottedChars path hstops.of_operandPart.1) ?_
      cases path with
      | nil => exact hsign
      | cons i path => exact (stops_cons _ _).mpr (by decide)

/-- An operand in front of a pipeline is read as a keyword only if it is one. -/
theorem readKeyword?_operand {o : OperandText} {more : List Char}
    (hrest : c.rest = o.chars ++ more) (hstops : Stops isOperandPart more)
    (hkeyword : o.keyword? = none) : readKeyword? c = none := by
  have hnone (hstart : Stops isIdentifierStart c.rest) : readKeyword? c = none := by
    rw [readKeyword?, identifier?_eq_none hstart]
  cases o with
  | parenthesized before p after =>
    refine hnone ?_
    rw [hrest]
    exact (stops_cons _ _).mpr (by decide)
  | leaf l =>
    cases hword : l.word? with
    | none => exact hnone (hrest ▸ LeafText.stops_of_word?_eq_none hword more)
    | some i =>
      obtain ⟨hchars, -, hi⟩ := LeafText.eq_of_word? hword
      have hpasses : c.Passes i.chars ⟨c.offset + byteLength i.chars, more⟩ :=
        ⟨by rw [hrest, OperandText.chars, hchars], rfl⟩
      have hnone : Keyword.ofText? (String.ofList i.chars) = none := hi.trans hkeyword
      rw [readKeyword?, identifier?_of_passes hpasses hstops.of_operandPart.1]
      simp only [hnone, Option.map_none]

/-- A pipeline is read as a keyword only if it is led by one. -/
theorem PipelineText.readKeyword?_of_passes (p : PipelineText) (hkeyword : p.keyword? = none)
    (h : c.Passes p.chars d) (hend : EndsPipeline d.rest) : readKeyword? c = none := by
  cases p with
  | plain commands =>
    obtain ⟨more, hmore, hstops, -⟩ := commands.exists_behind_first hend
    exact readKeyword?_operand (h.1.trans hmore) hstops hkeyword
  | declaring declarations commands =>
    have hstart : Stops isIdentifierStart c.rest := by
      rw [h.1, chars, DeclarationsText.chars]
      cases declarations.first <;> exact (stops_cons _ _).mpr (by decide)
    rw [readKeyword?, identifier?_eq_none hstart]

/-! ### Operands, commands and pipelines -/

mutual

/-- **An operand is read back** before anything that cannot go on with it. -/
theorem OperandText.readOperand_of_passes (o : OperandText) {depth : Nat}
    (hdepth : o.chars.length ≤ depth) {c d : Cursor} (h : c.Passes o.chars d)
    (hstops : Stops isOperandPart d.rest) :
    readOperand depth c = .ok (o.operand c.offset, d) := by
  match o with
  | .leaf l =>
    obtain ⟨pipeline, heq⟩ := exists_readOperand_eq depth
    rw [heq]
    exact readChoice_leaf pipeline h hstops
  | .parenthesized before p after =>
    -- The parentheses themselves pay for one level of depth.
    obtain ⟨n, rfl⟩ : ∃ n, depth = n + 1 := by
      rw [OperandText.chars, List.length_cons] at hdepth
      exact ⟨depth - 1, by omega⟩
    have hshorter : p.chars.length ≤ n := by
      simp only [OperandText.chars, List.length_cons, List.length_append] at hdepth
      omega
    obtain ⟨inside, hopen, hrest⟩ := h.split_cons
    obtain ⟨start, hbefore, hrest⟩ := hrest.split
    obtain ⟨closing, hp, hrest⟩ := hrest.split
    obtain ⟨close, hafter, hclose⟩ := hrest.split
    have hend : EndsPipeline closing.rest := by
      rw [hafter.1, hclose.1]
      exact .mark after (by decide) _
    have hblank : Stops isBlank start.rest := by
      rw [hp.1]
      exact (p.beginsOperand.append _).stops_isBlank
    have hskip := skipBlanks_of_passes hbefore before.areBlank hblank
    have hpipeline := p.readPipelineOf_of_passes hshorter hp hend
    have hskip' := skipBlanks_of_passes hafter after.areBlank (hclose.stops (by decide))
    have hoffset : start.offset = c.offset + byteLength ('(' :: before.chars) :=
      (hopen.append hbefore).2
    have hread : readParenthesized (readPipelineOf (readOperand n)) c =
        .ok (.parenthesized (p.pipeline start.offset), d) := by
      rw [readParenthesized, expect?_eq_some_iff.mpr hopen]
      simp only [hskip, hpipeline, hskip', expect?_eq_some_iff.mpr hclose]
    rw [readOperand, readChoice, readMarked?_eq_none (hopen.stops (by decide)),
      numeral_eq_absent (hopen.stops (by decide))]
    simp only [hread, OperandText.operand, hoffset]

/-- **A command is read back** before its end. -/
theorem CommandText.readList_of_passes (t : CommandText) {depth : Nat}
    (hdepth : t.chars.length ≤ depth) {c d : Cursor} (h : c.Passes t.chars d)
    (hend : EndsCommand d.rest) :
    readList skipBlanks1? (readOperand depth) c = .ok (t.operands c.offset, d) := by
  match t with
  | .last o =>
    exact readList_single (o.readOperand_of_passes hdepth h hend.stops_isOperandPart)
      hend.readMore_eq
  | .more o gap others =>
    rw [CommandText.chars, List.length_append, List.length_append] at hdepth
    obtain ⟨e, ho, hrest⟩ := h.split
    obtain ⟨f, hgap, hothers⟩ := hrest.split
    have hstops : Stops isOperandPart e.rest := by
      rw [hgap.1]
      exact gap.stops_isOperandPart _
    have hblank : Stops isBlank f.rest := by
      rw [hothers.1]
      exact (others.beginsOperand.append _).stops_isBlank
    have hoffset : f.offset = c.offset + byteLength (o.chars ++ gap.chars) := (ho.append hgap).2
    rw [CommandText.operands, ← hoffset]
    refine readList_cons (o.readOperand_of_passes (by omega) ho hstops)
      (skipBlanks1?_of_passes hgap gap.areBlank gap.nonempty hblank)
      (others.readList_of_passes (by omega) hothers hend) ?_
    intro o' g hoperand
    obtain ⟨x, hx, -⟩ := acceptsWritten_readOperand depth _ _ _ hoperand
    have hpos := List.length_pos_iff.mpr gap.nonempty
    rw [hgap.length_rest, hx.length_rest]
    omega

/-- **Commands are read back** before the end of their pipeline. -/
theorem CommandsText.readList_of_passes (t : CommandsText) {depth : Nat}
    (hdepth : t.chars.length ≤ depth) {c d : Cursor} (h : c.Passes t.chars d)
    (hend : EndsPipeline d.rest) :
    readList (separator? '|') (readCommand (readOperand depth)) c =
      .ok (t.commands c.offset, d) := by
  match t with
  | .last command =>
    have hcommand : readCommand (readOperand depth) c =
        .ok (⟨c.offset, command.operands c.offset⟩, d) := by
      rw [readCommand, command.readList_of_passes hdepth h hend.endsCommand]
    exact readList_single hcommand hend.readMore_eq
  | .more command before after others =>
    have hchars : (CommandsText.more command before after others).chars =
        command.chars ++ ((before.chars ++ '|' :: after.chars) ++ others.chars) := by
      simp [CommandsText.chars]
    rw [hchars, List.length_append, List.length_append] at hdepth
    rw [hchars] at h
    obtain ⟨e, hcommand, hrest⟩ := h.split
    obtain ⟨f, hbar, hothers⟩ := hrest.split
    have hends : EndsCommand e.rest := by
      rw [hbar.1, List.append_assoc]
      exact .mark before (by decide) _
    have hblank : Stops isBlank f.rest := by
      rw [hothers.1]
      exact (others.beginsOperand.append _).stops_isBlank
    have hread : readCommand (readOperand depth) c =
        .ok (⟨c.offset, command.operands c.offset⟩, e) := by
      rw [readCommand, command.readList_of_passes (by omega) hcommand hends]
    have hoffset : f.offset = c.offset + byteLength
        (command.chars ++ (before.chars ++ '|' :: after.chars)) := (hcommand.append hbar).2
    rw [CommandsText.commands, ← hoffset]
    refine readList_cons hread (separator?_of_passes (by decide) hbar hblank)
      (others.readList_of_passes (by omega) hothers hend) ?_
    -- The list goes on only over what is shorter, and the bar has been taken.
    intro command' g hnext
    obtain ⟨x, hx, -⟩ := CommandText.exists_of_readCommand (acceptsWritten_readOperand depth) hnext
    rw [hbar.length_rest, hx.length_rest, List.length_append, List.length_cons]
    omega

/-- **A pipeline is read back** before its end. -/
theorem PipelineText.readPipelineOf_of_passes (p : PipelineText) {depth : Nat}
    (hdepth : p.chars.length ≤ depth) {c d : Cursor} (h : c.Passes p.chars d)
    (hend : EndsPipeline d.rest) :
    readPipelineOf (readOperand depth) c = .ok (p.pipeline c.offset, d) := by
  match p with
  | .plain commands =>
    obtain ⟨more, hmore, hstops, hsign⟩ := commands.exists_behind_first hend
    rw [readPipelineOf, readDeclarations?_operand (h.1.trans hmore) hstops hsign]
    simp only [Option.getD_none, commands.readList_of_passes hdepth h hend, PipelineText.pipeline]
  | .declaring declarations commands =>
    rw [PipelineText.chars, List.length_append] at hdepth
    obtain ⟨e, hdeclarations, hcommands⟩ := h.split
    have hblank : Stops isBlank e.rest := by
      rw [hcommands.1]
      exact (commands.beginsOperand.append _).stops_isBlank
    have hdepth' : commands.chars.length ≤ depth := by omega
    rw [readPipelineOf, readDeclarations?_of_passes hdeclarations hblank]
    simp only [Option.getD_some, commands.readList_of_passes hdepth' hcommands hend,
      PipelineText.pipeline, hdeclarations.2]

end

end Stencil
