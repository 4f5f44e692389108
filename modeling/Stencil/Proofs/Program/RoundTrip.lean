import Stencil.Proofs.Program.ExpressionRoundTrip

/-!
# Programs are read back

Reading the text of a program gives the program back, without its comment lines:
this is `Stencil.Program.Writable.read?_text`. The text is cut into the tokens of
the program, so what is left is to read the tokens, from the statements up to the
table that says which routine stands for which template.

Comment lines leave no trace in the tokens, and no trace in what a program does: a
routine without them renders as before (`Stencil.Routine.render_bare`).
-/

namespace Stencil

open Token

/-- A word is read before whatever follows. -/
theorem readWord_append (name : String) (ts : List Token) :
    readWord ([Token.word name] ++ ts) = some (name, ts) :=
  rfl

namespace Statement

/-! ### Comment lines -/

/-- Whether a statement is a comment line. -/
def isRemark : Statement → Bool
  | remark _ _ => true
  | _ => false

mutual

/-- A statement without the comment lines in it. -/
def bare : Statement → Statement
  | block body => block (allBare body)
  | s => s

/-- Statements without the comment lines among them and in them. -/
def allBare : List Statement → List Statement
  | [] => []
  | s :: rest => if s.isRemark then allBare rest else s.bare :: allBare rest

end

theorem allBare_eq (body : List Statement) :
    allBare body = (body.filter (!·.isRemark)).map bare := by
  induction body with
  | nil => rfl
  | cons s rest ih => cases h : s.isRemark <;> simp [allBare, h, ih]

/-- Comment lines have no tokens, and nothing else has none. -/
theorem tokens_eq_nil_iff (s : Statement) : s.tokens = [] ↔ s.isRemark = true := by
  have hlet : ofPhrase "let value = " = [.word "let", .word "value", .mark '='] := ofPhrase_eq rfl
  have hbrace : ofPhrase "\x7b" = [.mark '\x7b'] := ofPhrase_eq rfl
  have hclose : ofPhrase ")?;" = [.mark ')', .mark '?', .mark ';'] := ofPhrase_eq rfl
  cases s with
  | remark _ _ => exact ⟨fun _ => rfl, fun _ => rfl⟩
  | writeText s => simp [tokens, isRemark]
  | write e => simp [tokens, isRemark, hclose]
  | bind e => simp [tokens, isRemark, hlet]
  | block body => simp [tokens, isRemark, hbrace]

theorem flatMap_tokens_filter (body : List Statement) :
    (body.filter (!·.isRemark)).flatMap tokens = body.flatMap tokens := by
  induction body with
  | nil => rfl
  | cons s rest ih =>
    cases h : s.isRemark with
    | false => simp [h, ih]
    | true => simp [h, ih, (tokens_eq_nil_iff s).mpr h]

/-! ### Comment lines do nothing -/

section

variable (registry : Registry) (data : Value)

mutual

/-- A statement runs as it does without the comment lines in it. -/
theorem run_bare (local? : Option Value) (sink : Sink) (s : Statement) :
    s.bare.run registry data local? sink = s.run registry data local? sink := by
  cases s with
  | block body => simp only [bare, run, runAll_allBare local? sink body]
  | remark _ _ | writeText _ | write _ | bind _ => rfl

/-- **Statements run as they do without the comment lines among them.** -/
theorem runAll_allBare (local? : Option Value) (sink : Sink) (body : List Statement) :
    runAll registry data local? sink (allBare body) = runAll registry data local? sink body := by
  cases body with
  | nil => rfl
  | cons s rest =>
    cases s with
    | remark _ _ => exact runAll_allBare local? sink rest
    | writeText _ | write _ | bind _ | block _ =>
      simp only [allBare, isRemark, Bool.false_eq_true, if_false, runAll, run_bare local? sink,
        fun done sink => runAll_allBare done sink rest]

end

end

/-! ### Statements -/

/-- The phrases that a statement may begin with. -/
def openings : List String :=
  ["writer.write_all(", "write!(writer, \"\x7b\x7d\", ", "let value = ", "\x7b"]

/-- No statement is read where none begins. -/
theorem read_eq_none {t : String} (h : ∀ s ∈ openings, Apart s t) (depth : Nat)
    (rest : List Token) : Statement.read depth (ofPhrase t ++ rest) = none := by
  cases depth with
  | zero => rfl
  | succ depth =>
    unfold Statement.read
    rw [firstOf_cons_none (between_eq_none (h _ (by simp [openings])) _ _ _),
      firstOf_cons_none (between_eq_none (h _ (by simp [openings])) _ _ _),
      firstOf_cons_none (between_eq_none (h _ (by simp [openings])) _ _ _),
      firstOf_cons_none (between_eq_none (h _ (by simp [openings])) _ _ _)]
    rfl

/-- **A statement is read back**, without the comment lines in it. -/
def ReadsBack (s : Statement) : Prop :=
  ∀ depth, s.tokens.length ≤ depth → ∀ rest,
    Statement.read depth (s.tokens ++ rest) = some (s.bare, rest)

/-- **Statements are read back**, without the comment lines among them. -/
theorem many_read {body : List Statement} (hbody : ∀ s ∈ body, s.isRemark = false → s.ReadsBack)
    {t : String} (ht : ∀ s ∈ openings, Apart s t) {depth count : Nat}
    (hdepth : (body.flatMap tokens).length ≤ depth) (hcount : (body.flatMap tokens).length ≤ count)
    (rest : List Token) :
    many (Statement.read depth) count (body.flatMap tokens ++ (ofPhrase t ++ rest)) =
      some (allBare body, ofPhrase t ++ rest) := by
  rw [allBare_eq, ← flatMap_tokens_filter] at *
  refine many_flatMap (fun _ => True) tokens (fun s hs ts _ => ?_) (fun s hs => ?_)
    (fun _ _ _ => trivial) trivial (read_eq_none ht depth rest) hcount
  · obtain ⟨hmem, hremark⟩ := List.mem_filter.mp hs
    have hle : s.tokens.length ≤ ((body.filter (!·.isRemark)).flatMap tokens).length :=
      List.Sublist.length_le (List.sublist_flatten_of_mem (List.mem_map_of_mem hs))
    exact hbody s hmem (by simpa using hremark) depth (by omega) ts
  · have hremark := (List.mem_filter.mp hs).2
    simpa [tokens_eq_nil_iff] using hremark

theorem readsBack_of_succ {s : Statement} (hremark : s.isRemark = false)
    (h : ∀ depth, s.tokens.length ≤ depth + 1 → ∀ rest,
      Statement.read (depth + 1) (s.tokens ++ rest) = some (s.bare, rest)) : s.ReadsBack := by
  intro depth hdepth rest
  have hne : s.tokens ≠ [] := by simp [tokens_eq_nil_iff, hremark]
  have hpos : 0 < s.tokens.length := List.length_pos_iff.mpr hne
  obtain ⟨depth, rfl⟩ : ∃ n, depth = n + 1 := ⟨depth - 1, by omega⟩
  exact h depth hdepth rest

/-- An expression between two phrases is read back, if no copy stands at the end. -/
theorem between_expression {e : Expression} (he : e.Writable) (f : Expression → Statement)
    (opening closing : String) (hopening : Known opening) (hclosing : Known closing)
    (hclone : Apart ".clone()" closing) {depth : Nat} (hdepth : e.tokens.length ≤ depth)
    (rest : List Token) :
    between opening (mapped f (Expression.read depth)) closing
      (ofPhrase opening ++ e.tokens ++ ofPhrase closing ++ rest) = some (f e, rest) :=
  between_tokens hopening hclosing
    (mapped_eq_some f (he.readsBack depth hdepth _ (phrase_eq_none hclone rest)))

/-- A form is passed over where another form begins. -/
theorem between_eq_none_of_eq {opening t : String} (happart : Apart opening t)
    {ts more : List Token} (hts : ts = ofPhrase t ++ more) (item : TokenReader Statement)
    (closing : String) : between opening item closing ts = none :=
  hts ▸ between_eq_none happart item closing more

theorem readsBack_writeText (s : String) : (Statement.writeText s).ReadsBack := by
  refine readsBack_of_succ rfl fun depth _ rest => ?_
  have hopening : Known "writer.write_all(" := by simp [Known, phrases, -String.reduceEq]
  have hclosing : Known ".as_bytes())?;" := by simp [Known, phrases, -String.reduceEq]
  have htext : readText ([Token.text s] ++ (ofPhrase ".as_bytes())?;" ++ rest)) =
      some (s, ofPhrase ".as_bytes())?;" ++ rest) := rfl
  have hread := between_tokens hopening hclosing (mapped_eq_some Statement.writeText htext)
  exact firstOf_cons_some hread _

theorem readsBack_write {e : Expression} (he : e.Writable) : (Statement.write e).ReadsBack := by
  refine readsBack_of_succ rfl fun depth _ rest => ?_
  have hopening : Known "write!(writer, \"\x7b\x7d\", " := by
    simp [Known, phrases, -String.reduceEq]
  have hclosing : Known ")?;" := by simp [Known, phrases, -String.reduceEq]
  have hts : (Statement.write e).tokens ++ rest = ofPhrase "write!(writer, \"\x7b\x7d\", " ++
      (e.tokens ++ (ofPhrase ")?;" ++ rest)) := by
    simp only [tokens, List.append_assoc]
  have hlength : e.tokens.length ≤ ((Statement.write e).tokens ++ rest).length := by
    simp only [hts, List.length_append]
    omega
  have hread := between_expression he Statement.write _ _ hopening hclosing
    (by simp [Apart, Token.openings]) hlength rest
  have hskip {opening : String} (happart : Apart opening "write!(writer, \"\x7b\x7d\", ") :=
    between_eq_none_of_eq happart hts
  exact (firstOf_cons_none (hskip (by simp [Apart, Token.openings]) _ _) _).trans
    (firstOf_cons_some hread _)

theorem readsBack_bind {e : Expression} (he : e.Writable) : (Statement.bind e).ReadsBack := by
  refine readsBack_of_succ rfl fun depth _ rest => ?_
  have hopening : Known "let value = " := by simp [Known, phrases, -String.reduceEq]
  have hclosing : Known ";" := by simp [Known, phrases, -String.reduceEq]
  have hts : (Statement.bind e).tokens ++ rest = ofPhrase "let value = " ++
      (e.tokens ++ (ofPhrase ";" ++ rest)) := by
    simp only [tokens, List.append_assoc]
  have hlength : e.tokens.length ≤ ((Statement.bind e).tokens ++ rest).length := by
    simp only [hts, List.length_append]
    omega
  have hread := between_expression he Statement.bind _ _ hopening hclosing
    (by simp [Apart, Token.openings]) hlength rest
  have hskip {opening : String} (happart : Apart opening "let value = ") :=
    between_eq_none_of_eq happart hts
  refine (firstOf_cons_none (hskip (by simp [Apart, Token.openings]) _ _) _).trans ?_
  exact (firstOf_cons_none (hskip (by simp [Apart, Token.openings]) _ _) _).trans
    (firstOf_cons_some hread _)

/-- A block is read back if the statements in it are. -/
theorem readsBack_block {body : List Statement}
    (hbody : ∀ s ∈ body, s.isRemark = false → s.ReadsBack) : (Statement.block body).ReadsBack := by
  refine readsBack_of_succ rfl fun depth hdepth rest => ?_
  have hopening : Known "\x7b" := by simp [Known, phrases, -String.reduceEq]
  have hclosing : Known "\x7d" := by simp [Known, phrases, -String.reduceEq]
  have hts : (Statement.block body).tokens ++ rest = ofPhrase "\x7b" ++
      (body.flatMap tokens ++ (ofPhrase "\x7d" ++ rest)) := by
    simp only [tokens_block, List.append_assoc]
  have hlength : (body.flatMap tokens).length ≤
      ((Statement.block body).tokens ++ rest).length := by
    simp only [hts, List.length_append]
    omega
  -- The opening brace is a token of its own, so what is inside is one level down.
  have hinner : (body.flatMap tokens).length ≤ depth := by
    have hbrace : ofPhrase "\x7b" = [.mark '\x7b'] := ofPhrase_eq rfl
    simp only [tokens_block, hbrace, List.length_append, List.length_cons] at hdepth
    omega
  have hclose : ∀ s ∈ openings, Apart s "\x7d" := by simp [openings, Apart, Token.openings]
  have hread := between_tokens hopening hclosing (mapped_eq_some Statement.block
    (many_read hbody hclose hinner hlength rest))
  rw [← tokens_block] at hread
  have hskip {opening : String} (happart : Apart opening "\x7b") :=
    between_eq_none_of_eq happart hts
  refine (firstOf_cons_none (hskip (by simp [Apart, Token.openings]) _ _) _).trans ?_
  refine (firstOf_cons_none (hskip (by simp [Apart, Token.openings]) _ _) _).trans ?_
  exact (firstOf_cons_none (hskip (by simp [Apart, Token.openings]) _ _) _).trans
    (firstOf_cons_some hread _)

/-- **Every statement that can be written is read back**, unless it is a comment
line. -/
theorem Writable.readsBack {s : Statement} (h : s.Writable) (hremark : s.isRemark = false) :
    s.ReadsBack := by
  induction h with
  | remark _ _ => simp [isRemark] at hremark
  | writeText s => exact readsBack_writeText s
  | write he => exact readsBack_write he
  | bind he => exact readsBack_bind he
  | block _ ih => exact readsBack_block ih

end Statement

/-! ### Routines -/

namespace Routine

/-- A routine without comment lines. -/
def bare (r : Routine) : Routine := ⟨r.name, Statement.allBare r.body⟩

/-- **A routine renders as it does without comment lines.** -/
theorem render_bare (registry : Registry) (data : Value) (sink : Sink) (r : Routine) :
    r.bare.render registry data sink = r.render registry data sink := by
  simp only [Routine.render, bare, Statement.runAll_allBare]

theorem isPhrase_signature : IsPhrase signature := by
  rw [IsPhrase, closed_signature.ofPhrase_eq]
  exact closed_signature

theorem tokens_ne_nil (r : Routine) : r.tokens ≠ [] := by
  intro h
  simp only [tokens, List.append_eq_nil_iff, List.cons_ne_nil, false_and, and_false] at h

/-- **A routine is read back**, without its comment lines. -/
theorem Writable.read_tokens {r : Routine} (h : r.Writable) (rest : List Token) :
    Routine.read (r.tokens ++ rest) = some (r.bare, rest) := by
  have hfn : Known "pub fn " := by simp [Known, phrases, -String.reduceEq]
  have hsignature : Known signature := Or.inl isPhrase_signature
  have hok : ∀ s ∈ Statement.openings, Apart s "Ok(())" := by
    simp [Statement.openings, Apart, openings]
  have hts : r.tokens ++ rest = ofPhrase "pub fn " ++ ([Token.word r.name] ++ (ofPhrase signature ++
      r.body.flatMap Statement.tokens ++ ofPhrase "Ok(())")) ++ ofPhrase "\x7d" ++ rest := by
    simp only [tokens, List.append_assoc]
  have hstatements : Statement.readAll (r.body.flatMap Statement.tokens ++ (ofPhrase "Ok(())" ++
      (ofPhrase "\x7d" ++ rest))) =
      some (Statement.allBare r.body, ofPhrase "Ok(())" ++ (ofPhrase "\x7d" ++ rest)) :=
    Statement.many_read (fun s hs hremark => (h.body s hs).readsBack hremark) hok (by simp)
      (by simp) _
  have hbody := between_tokens hsignature (by simp [Known, phrases, -String.reduceEq]) hstatements
  have hname : readWord ([Token.word r.name] ++ (ofPhrase signature ++
      r.body.flatMap Statement.tokens ++ ofPhrase "Ok(())") ++ (ofPhrase "\x7d" ++ rest)) =
      some (r.name, ofPhrase signature ++
      r.body.flatMap Statement.tokens ++ ofPhrase "Ok(())" ++ (ofPhrase "\x7d" ++ rest)) := by
    rw [List.append_assoc, readWord_append]
  have hinside := mapped_eq_some (fun entry => Routine.mk entry.1 entry.2)
    (both_eq_some hname hbody)
  rw [hts]
  exact between_tokens hfn (by simp [Known, phrases, -String.reduceEq]) hinside

end Routine

/-! ### Programs -/

namespace Program

/-- A program without comment lines. -/
def bare (p : Program) : Program :=
  ⟨p.moduleName, p.routines.map fun entry => (entry.1, entry.2.bare)⟩

/-- The table begins with a function that is no routine: it has no parameters. -/
theorem exists_tableOpening_eq : ∃ ts, ofPhrase tableOpening = ofPhrase "pub fn " ++
    ([Token.word "templates"] ++ (ofPhrase "() -> comtmpl_lang::Templates \x7b" ++ ts)) := by
  have hhead : ofPhrase "pub fn templates() -> comtmpl_lang::Templates \x7b" = _ :=
    (closed_compound ["pub fn ", "templates", "() -> comtmpl_lang::Templates \x7b"]
      (by simp [compounds, -String.reduceEq])).ofPhrase_eq
  have hname : ofPhrase "templates" = [.word "templates"] := ofPhrase_eq rfl
  rw [closed_tableOpening.ofPhrase_eq, tablePhrases, List.flatMap_cons, hhead]
  simp only [List.flatMap_cons, hname, List.append_assoc, List.append_cancel_left_eq]
  exact ⟨_, rfl⟩

/-- No routine is read where the table begins. -/
theorem read_tableOpening (rest : List Token) :
    Routine.read (ofPhrase tableOpening ++ rest) = none := by
  obtain ⟨ts, hts⟩ := exists_tableOpening_eq
  have hfn : Known "pub fn " := by simp [Known, phrases, -String.reduceEq]
  have hsignature : Known Routine.signature := Or.inl Routine.isPhrase_signature
  have hapart : Apart "(funcs: &comtmpl_lang::Functions, "
    "() -> comtmpl_lang::Templates \x7b" := by simp [Apart, openings]
  have hnone (more : List Token) : phrase Routine.signature
      (ofPhrase "() -> comtmpl_lang::Templates \x7b" ++ more) = none := by
    rw [phrase, hsignature.ofText?_eq, Routine.closed_signature.ofPhrase_eq, Routine.parameters,
      List.flatMap_cons, List.append_assoc]
    exact strip_eq_none (clash_append_left hapart.clash _) more
  have hbody (item : TokenReader (List Statement)) (closing : String) (more : List Token) :
      both readWord (between Routine.signature item closing) ([Token.word "templates"] ++
        (ofPhrase "() -> comtmpl_lang::Templates \x7b" ++ more)) = none :=
    both_second_none (readWord_append _ _) (between_opening_none (hnone more) item closing)
  rw [hts, List.append_assoc]
  refine between_item_none hfn (mapped_eq_none _ ?_) _
  rw [List.append_assoc, List.append_assoc]
  exact hbody _ _ _

/-- An entry of the table is read back. -/
theorem readEntry_tokens (entry : String × Routine) (rest : List Token) :
    readEntry (entryTokens entry ++ rest) = some ((entry.1, entry.2.name), rest) := by
  have hopen : Known "(" := by simp [Known, phrases, -String.reduceEq]
  have hcomma : Known ", " := by simp [Known, phrases, -String.reduceEq]
  have hts : entryTokens entry ++ rest = ofPhrase "(" ++ ([Token.text entry.1] ++
      (ofPhrase ", " ++ [Token.word entry.2.name] ++ ofPhrase " as comtmpl_lang::Routine")) ++
      ofPhrase ")," ++ rest := by
    simp only [entryTokens, List.append_assoc]
  have hword : readWord ([Token.word entry.2.name] ++ (ofPhrase " as comtmpl_lang::Routine" ++
      (ofPhrase ")," ++ rest))) = some (entry.2.name, ofPhrase " as comtmpl_lang::Routine" ++
      (ofPhrase ")," ++ rest)) := readWord_append _ _
  have hroutine := between_tokens hcomma (by simp [Known, openings, -String.reduceEq]) hword
  rw [hts]
  refine between_tokens hopen (by simp [Known, phrases, -String.reduceEq])
    (both_eq_some ?_ hroutine)
  rw [List.append_assoc]
  rfl

theorem readEntry_close (rest : List Token) : readEntry (ofPhrase "],) \x7d" ++ rest) = none := by
  have hopen : Known "(" := by simp [Known, phrases, -String.reduceEq]
  have hbracket : ofPhrase "(" = [.mark '('] := ofPhrase_eq rfl
  have hclose : ofPhrase "],) \x7d" = [.mark ']', .mark ',', .mark ')', .mark '\x7d'] :=
    ofPhrase_eq rfl
  simp [readEntry, between, phrase, hopen.ofText?_eq, hbracket, hclose, strip]

variable {p : Program}

/-- **The routines and the table are read back**, the routines without comment
lines. -/
theorem Writable.readItems (h : p.Writable) (rest : List Token) :
    readItems (p.itemTokens ++ rest) = some ((p.routines.map fun entry => entry.2.bare,
      p.routines.map fun entry => (entry.1, entry.2.name)), rest) := by
  have hitems : p.itemTokens ++ rest = p.routines.flatMap (·.2.tokens) ++ (ofPhrase tableOpening ++
      p.routines.flatMap entryTokens ++ ofPhrase "],) \x7d" ++ rest) := by
    simp only [itemTokens, List.append_assoc]
  have hopening : Known tableOpening := by
    refine Or.inl ?_
    rw [IsPhrase, closed_tableOpening.ofPhrase_eq]
    exact closed_tableOpening
  have hentries := manyAll_flatMap (fun _ => True) entryTokens
    (fun entry _ more _ => readEntry_tokens entry more)
    (fun entry (_ : entry ∈ p.routines) => by simp [entryTokens]) (fun _ _ _ => trivial) trivial
    (readEntry_close rest)
  have htable := between_tokens hopening (by simp [Known, phrases, -String.reduceEq]) hentries
  have hstop : Routine.read (ofPhrase tableOpening ++ p.routines.flatMap entryTokens ++
      ofPhrase "],) \x7d" ++ rest) = none := by
    rw [List.append_assoc, List.append_assoc]
    exact read_tableOpening _
  have hroutines := manyAll_flatMap (fun _ => True) (fun entry => entry.2.tokens)
    (fun entry hentry more _ => (h.routines entry hentry).read_tokens more)
    (fun entry _ => entry.2.tokens_ne_nil) (fun _ _ _ => trivial) trivial hstop
  rw [hitems]
  exact both_eq_some hroutines htable

theorem exists_itemTokens_eq (p : Program) : ∃ ts, p.itemTokens = ofPhrase "pub fn " ++ ts := by
  cases h : p.routines with
  | nil =>
    obtain ⟨ts, hts⟩ := exists_tableOpening_eq
    simp only [itemTokens, h, hts, List.flatMap_nil, List.nil_append, List.append_assoc]
    exact ⟨_, rfl⟩
  | cons entry others =>
    simp only [itemTokens, h, List.flatMap_cons, Routine.tokens, List.append_assoc]
    exact ⟨_, rfl⟩

/-- The table leads from each template to its routine. -/
theorem Writable.resolve? (h : p.Writable) :
    resolve? (p.routines.map fun entry => entry.2.bare,
      p.routines.map fun entry => (entry.1, entry.2.name)) = some p.bare.routines := by
  have hnames : (p.bare.routines.map fun entry => entry.2.name) = p.routineNames := by
    simp [bare, routineNames, Routine.bare]
  have hnodup := h.names
  rw [← hnames] at hnodup
  simpa [bare, Routine.bare, Function.comp_def] using resolve?_table hnodup

/-- **The tokens of a program are read back.** -/
theorem Writable.readSource (h : p.Writable) : readSource p.tokens =
    some ((p.moduleName, p.routines.map fun entry => entry.2.bare,
      p.routines.map fun entry => (entry.1, entry.2.name)), []) := by
  unfold Program.readSource tokens
  cases hname : p.moduleName with
  | none =>
    obtain ⟨ts, hts⟩ := p.exists_itemTokens_eq
    have hitems := h.readItems []
    rw [List.append_nil, hts] at hitems
    dsimp only
    rw [hts, firstOf_cons_none (follows_eq_none (by simp [Apart, openings]) _ ts)]
    exact firstOf_cons_some (mapped_eq_some (fun items => (none, items)) hitems) _
  | some name =>
    have hmod : Known "pub mod " := by simp [Known, phrases, -String.reduceEq]
    have hopen : Known "\x7b" := by simp [Known, phrases, -String.reduceEq]
    have hitems := between_tokens hopen (by simp [Known, phrases, -String.reduceEq])
      (h.readItems (ofPhrase "\x7d" ++ []))
    refine firstOf_cons_some ?_ _
    simp only [List.append_nil, List.append_assoc] at hitems ⊢
    rw [follows_ofPhrase hmod]
    have hword : readWord ([Token.word name] ++
        (ofPhrase "\x7b" ++ (p.itemTokens ++ ofPhrase "\x7d"))) =
        some (name, ofPhrase "\x7b" ++ (p.itemTokens ++ ofPhrase "\x7d")) := readWord_append _ _
    exact mapped_eq_some _ (both_eq_some hword hitems)

/-- **The text of a program is read back as the program**, without its comment
lines. -/
theorem Writable.read?_text (h : p.Writable) : Program.read? p.text = some p.bare := by
  rw [Program.read?, h.named.ofText?, Option.bind_some, h.readSource]
  simp only [h.resolve?, Option.map_some]
  rfl

end Program

end Stencil
