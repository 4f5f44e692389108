import Stencil.Program.Text
import Stencil.Proofs.Number.ReadBack
import Stencil.Proofs.Program.Reader
import Stencil.Proofs.Text.Lines

/-!
# The tokens of a program

What the text of a program is cut into. Every form of the language has its tokens,
written down here next to its text, and the text of a form is a piece with those
tokens: an expression is an open piece, as it may end in a word, and a line of a
program with its line feed is a closed one. Comment lines have no tokens.

Nothing is assumed of the texts, paths and constants that stand in a program; the names
of its functions and of its module are identifiers. For not-a-number there is no literal.
What is written for it is a word like others, and it can be cut off but not read.
-/

namespace Stencil

open Token

namespace Token

/-! ### Phrases -/

/-- The tokens of a phrase. -/
@[irreducible] def ofPhrase (s : String) : List Token := (ofText? s).getD []

/-- **A phrase**: a closed piece with its tokens. -/
def IsPhrase (s : String) : Prop := Closed s.toList (ofPhrase s)

instance (s : String) : Decidable (IsPhrase s) := inferInstanceAs (Decidable (Closed _ _))

/-- The phrases of the language that end where a token ends. -/
def phrases : List String := [
  "comtmpl_lang::Value::", "comtmpl_lang::Value::Bool(", "comtmpl_lang::Value::from(", ")",
  "comtmpl_lang::eval_field(data, &[", "])?", "&", ".clone()", "funcs.call(", ", vec![",
  "writer.write_all(", ".as_bytes())?;", "write!(writer, \"\x7b\x7d\", ", ")?;", "let value = ",
  ";", "\x7b", "\x7d", "pub fn ", "(funcs: &comtmpl_lang::Functions, ",
  "writer: &mut dyn std::io::Write, data: &comtmpl_lang::Value) ",
  "-> Result<(), comtmpl_lang::RenderError> \x7b", "let _ = (funcs, data);", "Ok(())", "(", ", ",
  "pub fn templates() -> comtmpl_lang::Templates \x7b",
  "with_functions(comtmpl_lang::Functions::builtins())",
  "pub fn with_functions(functions: comtmpl_lang::Functions) -> comtmpl_lang::Templates \x7b",
  "comtmpl_lang::Templates::from_routines(", "functions,", "[", "),", "],) \x7d", "pub mod "]

/-- The lines of the table before its entries, with the phrases on them. -/
def openingRows : List (String × List String) := [
  ("", []),
  ("pub fn templates() -> comtmpl_lang::Templates \x7b",
    ["pub fn templates() -> comtmpl_lang::Templates \x7b"]),
  ("    with_functions(comtmpl_lang::Functions::builtins())",
    ["with_functions(comtmpl_lang::Functions::builtins())"]),
  ("\x7d", ["\x7d"]),
  ("", []),
  ("pub fn with_functions(functions: comtmpl_lang::Functions) -> comtmpl_lang::Templates \x7b",
    ["pub fn with_functions(functions: comtmpl_lang::Functions) -> comtmpl_lang::Templates \x7b"]),
  ("    comtmpl_lang::Templates::from_routines(", ["comtmpl_lang::Templates::from_routines("]),
  ("        functions,", ["functions,"]),
  ("        [", ["["])]

/-- The lines of the table after its entries, with the phrases on them. -/
def closingRows : List (String × List String) := [
  ("        ],", ["],"]), ("    )", [")"]), ("\x7d", ["\x7d"])]

/-- Other fixed texts that are made of phrases, or of no phrase at all. -/
def compounds : List (String × List String) := [
  ("comtmpl_lang::Value::from(f64::INFINITY)",
    ["comtmpl_lang::Value::from(", "f64::INFINITY", ")"]),
  ("comtmpl_lang::Value::from(f64::NEG_INFINITY)",
    ["comtmpl_lang::Value::from(", "f64::NEG_INFINITY", ")"]),
  (" as comtmpl_lang::Routine),", [" as comtmpl_lang::Routine", "),"]),
  ("pub fn templates() -> comtmpl_lang::Templates \x7b",
    ["pub fn ", "templates", "() -> comtmpl_lang::Templates \x7b"]),
  ("],) \x7d", ["],", ")", "\x7d"]), (" \x7b", ["\x7b"]),
  ("// Code generated by comtmpl. DO NOT EDIT.\n", [])]

/-- The tokens of a phrase, by its characters. -/
def ofChars (cs : List Char) : List Token :=
  match scan .nothing cs with
  | none => []
  | some (tokens, p) => ((flush p).map (tokens ++ ·)).getD []

theorem ofPhrase_ofList (cs : List Char) : ofPhrase (String.ofList cs) = ofChars cs := by
  unfold ofPhrase ofText? ofChars
  rw [String.toList_ofList]
  cases scan .nothing cs <;> rfl

/-- A text whose characters are a closed piece is a phrase. -/
theorem IsPhrase.of_chars {s : String} {cs : List Char} (h : s = String.ofList cs)
    (hcs : Closed cs (ofChars cs)) : IsPhrase s := by
  rw [h, IsPhrase, String.toList_ofList, ofPhrase_ofList]
  exact hcs

/-- A text is made of phrases if its characters have the tokens of theirs. -/
theorem Closed.of_chars {s : String} {cs : List Char} {parts : List String}
    {pieces : List (List Char)} (h : s = String.ofList cs)
    (hparts : List.Forall₂ (fun t ds => t = String.ofList ds) parts pieces)
    (hcs : Closed cs (pieces.flatMap ofChars)) : Closed s.toList (parts.flatMap ofPhrase) := by
  have htokens : parts.flatMap ofPhrase = pieces.flatMap ofChars := by
    clear hcs
    induction hparts with
    | nil => rfl
    | cons hpart _ ih => rw [List.flatMap_cons, List.flatMap_cons, hpart, ofPhrase_ofList, ih]
  rw [h, String.toList_ofList, htokens]
  exact hcs

/-- The fixed texts are what they are said to be. -/
theorem closed_phrases_compounds : (∀ s ∈ phrases, IsPhrase s) ∧
    ∀ c ∈ openingRows ++ closingRows ++ compounds, Closed c.1.toList (c.2.flatMap ofPhrase) := by
  -- Texts are compared with their characters, which is fast; taking them apart is not.
  constructor
  · simp only [phrases, List.forall_mem_cons, List.not_mem_nil, false_implies, implies_true,
      and_true]
    repeat' apply And.intro
    all_goals exact IsPhrase.of_chars rfl (by decide +kernel)
  · simp only [openingRows, closingRows, compounds, List.forall_mem_append, List.forall_mem_cons,
      List.not_mem_nil, false_implies, implies_true, and_true]
    repeat' apply And.intro
    all_goals exact Closed.of_chars rfl (by repeat' constructor) (by decide +kernel)

theorem isPhrase {s : String} (h : s ∈ phrases) : IsPhrase s := closed_phrases_compounds.1 s h

theorem closed_compound {s : String} (parts : List String) (h : (s, parts) ∈ compounds) :
    Closed s.toList (parts.flatMap ofPhrase) :=
  closed_phrases_compounds.2 (s, parts) (by simp [h])

/-- An open piece has the tokens of its text. -/
theorem Open.ofText?_eq {s : String} {tokens : List Token} (h : Open s.toList tokens) :
    ofText? s = some tokens := by
  rcases h with h | ⟨before, reversed, h, rfl⟩
  · have hscan : scan .nothing s.toList = some (tokens, .nothing) := h
    simp [ofText?, hscan, flush]
  · simp [ofText?, h, flush]

theorem ofPhrase_eq {s : String} {tokens : List Token} (h : ofText? s = some tokens) :
    ofPhrase s = tokens := by
  simp [ofPhrase, h]

/-- A closed piece has the tokens of its text. -/
theorem Closed.ofPhrase_eq {s : String} {tokens : List Token} (h : Closed s.toList tokens) :
    ofPhrase s = tokens :=
  Token.ofPhrase_eq (Open.ofText?_eq (Or.inl h))

/-- Phrases one after another have their tokens one after another. -/
theorem closed_join {parts : List String} (h : ∀ s ∈ parts, IsPhrase s) :
    Closed (String.join parts).toList (parts.flatMap ofPhrase) := by
  induction parts with
  | nil => rfl
  | cons s rest ih =>
    have hs : Closed s.toList (ofPhrase s) := h s (by simp)
    simpa using hs.append (ih fun t ht => h t (by simp [ht]))

end Token

/-! ### Expressions -/

/-- The tokens of a number. -/
def Number.tokens : Number → List Token
  | nan => ofPhrase "NaN_f64"
  | infinite s => if s then ofPhrase "f64::NEG_INFINITY" else ofPhrase "f64::INFINITY"
  | finite s r => (if s then [.mark '-'] else []) ++ [.number (.finite false r)]

/-- The tokens of a constant. -/
def Constant.tokens : Constant → List Token
  | null => ofPhrase "comtmpl_lang::Value::" ++ [Token.word "Null"]
  | bool b =>
    ofPhrase "comtmpl_lang::Value::Bool(" ++ [Token.word (if b then "true" else "false")] ++
      ofPhrase ")"
  | number n => ofPhrase "comtmpl_lang::Value::from(" ++ n.tokens ++ ofPhrase ")"
  | string s => ofPhrase "comtmpl_lang::Value::from(" ++ [Token.text s] ++ ofPhrase ")"

/-- Tokens with commas between them. -/
def Token.listed (items : List (List Token)) : List Token := [.mark ','].intercalate items

mutual

/-- **The tokens of an expression.** -/
def Expression.tokens : Expression → List Token
  | data => [.word "data"]
  | field segments =>
    ofPhrase "comtmpl_lang::eval_field(data, &[" ++ listed (segments.map fun s => [.text s]) ++
      ofPhrase "])?"
  | constant c => c.tokens
  | borrow e => ofPhrase "&" ++ e.tokens
  | clone e => e.tokens ++ ofPhrase ".clone()"
  | value => [.word "value"]
  | call name args =>
    ofPhrase "funcs.call(" ++ [Token.text name] ++ ofPhrase ", vec![" ++
      listed (Expression.tokensOfAll args) ++ ofPhrase "])?"

/-- The tokens of expressions. -/
def Expression.tokensOfAll : List Expression → List (List Token)
  | [] => []
  | e :: rest => e.tokens :: Expression.tokensOfAll rest

end

/-- **An expression that can be written**: none of its constants is not-a-number, and
it copies no reference, as the sign of a reference before a copy would be read as
referring to the copy. -/
inductive Expression.Writable : Expression → Prop
  | data : Writable .data
  | field (segments : List String) : Writable (.field segments)
  | constant {c : Constant} (hc : c ≠ .number .nan) : Writable (.constant c)
  | borrow {e : Expression} (he : Writable e) : Writable (.borrow e)
  | clone {e : Expression} (he : Writable e) (hborrow : ∀ e', e ≠ .borrow e') :
    Writable (.clone e)
  | value : Writable .value
  | call (name : String) {args : List Expression} (hargs : ∀ e ∈ args, Writable e) :
    Writable (.call name args)

/-- Pieces with commas and blanks between them are a piece with commas between the
tokens. -/
theorem open_intercalate {α : Type} {text : α → String} {tokens : α → List Token} {items : List α}
    (h : ∀ a ∈ items, Open (text a).toList (tokens a)) :
    Open (", ".intercalate (items.map text)).toList (listed (items.map tokens)) := by
  have hcomma : Closed ", ".toList [.mark ','] := rfl
  rw [String.toList_intercalate, List.map_map]
  unfold listed Function.comp
  induction items with
  | nil => exact Or.inl rfl
  | cons a rest ih =>
    cases rest with
    | nil => simpa using h a (by simp)
    | cons b rest =>
      have hfirst := (h a (by simp)).append hcomma (by simp) (by simp [isIdentifierPart])
      have hrest := ih fun c hc => h c (by simp [hc])
      simp only [List.map_cons, List.intercalate_cons_cons] at hrest ⊢
      simpa only [List.append_assoc] using hfirst.append_open hrest

theorem Constant.text_finite (s : Bool) (r : Fin rankCount) :
    (Constant.number (.finite s r)).text =
      "comtmpl_lang::Value::from(" ++ (Number.finite s r).literal ++ "_f64)" :=
  rfl

theorem Constant.text_bool (b : Bool) : (Constant.bool b).text =
    "comtmpl_lang::Value::Bool(" ++ (if b then "true" else "false") ++ ")" :=
  rfl

theorem Constant.text_string (s : String) : (Constant.string s).text =
    "comtmpl_lang::Value::from(" ++ quoted s ++ ")" :=
  rfl

theorem Expression.text_field (segments : List String) : (Expression.field segments).text =
    "comtmpl_lang::eval_field(data, &[" ++ ", ".intercalate (segments.map quoted) ++ "])?" :=
  rfl

theorem Expression.text_borrow (e : Expression) : e.borrow.text = "&" ++ e.text := rfl

theorem Expression.text_clone (e : Expression) : e.clone.text = e.text ++ ".clone()" := rfl

theorem Expression.texts_eq_map (args : List Expression) :
    Expression.texts args = args.map Expression.text := by
  induction args with
  | nil => rfl
  | cons e rest ih => exact congrArg (e.text :: ·) ih

theorem Expression.tokensOfAll_eq_map (args : List Expression) :
    Expression.tokensOfAll args = args.map Expression.tokens := by
  induction args with
  | nil => rfl
  | cons e rest ih => exact congrArg (e.tokens :: ·) ih

theorem Expression.tokens_call (name : String) (args : List Expression) :
    (Expression.call name args).tokens = ofPhrase "funcs.call(" ++ [Token.text name] ++
      ofPhrase ", vec![" ++ listed (args.map Expression.tokens) ++ ofPhrase "])?" := by
  rw [← Expression.tokensOfAll_eq_map]
  rfl

theorem Expression.text_call (name : String) (args : List Expression) :
    (Expression.call name args).text = "funcs.call(" ++ quoted name ++ ", vec![" ++
      ", ".intercalate (args.map Expression.text) ++ "])?" := by
  rw [← Expression.texts_eq_map]
  rfl

/-- What every constant but nothing and the truth values begins with. -/
theorem closed_from : IsPhrase "comtmpl_lang::Value::from(" :=
  isPhrase (by simp [phrases, -String.reduceEq])

/-- A number is written as a closed piece. -/
theorem closed_number (n : Number) :
    Closed (Constant.number n).text.toList (Constant.number n).tokens := by
  cases n with
  | nan =>
    have hclose : IsPhrase ")" := isPhrase (by simp [phrases, -String.reduceEq])
    have hname : Open "NaN_f64".toList [.word "NaN_f64"] :=
      open_word ⟨'N', ['a', 'N', '_', 'f', '6', '4'], by decide, List.all_eq_true.mp rfl⟩
    have htokens : ofPhrase "NaN_f64" = [.word "NaN_f64"] := ofPhrase_eq hname.ofText?_eq
    have htext : (Constant.number .nan).text =
        "comtmpl_lang::Value::from(" ++ "NaN_f64" ++ ")" := rfl
    rw [htext, String.toList_append, String.toList_append, Constant.tokens, Number.tokens, htokens]
    exact (closed_from.append_open hname).append hclose (by simp) (by simp [isIdentifierPart])
  | infinite s =>
    cases s with
    | false =>
      change Closed "comtmpl_lang::Value::from(f64::INFINITY)".toList
        (ofPhrase "comtmpl_lang::Value::from(" ++ ofPhrase "f64::INFINITY" ++ ofPhrase ")")
      have hclosed := closed_compound (s := "comtmpl_lang::Value::from(f64::INFINITY)")
        ["comtmpl_lang::Value::from(", "f64::INFINITY", ")"] (by simp [compounds, -String.reduceEq])
      simpa only [List.flatMap_cons, List.flatMap_nil, List.append_nil, List.append_assoc]
        using hclosed
    | true =>
      change Closed "comtmpl_lang::Value::from(f64::NEG_INFINITY)".toList
        (ofPhrase "comtmpl_lang::Value::from(" ++ ofPhrase "f64::NEG_INFINITY" ++ ofPhrase ")")
      have hclosed := closed_compound (s := "comtmpl_lang::Value::from(f64::NEG_INFINITY)")
        ["comtmpl_lang::Value::from(", "f64::NEG_INFINITY", ")"]
        (by simp [compounds, -String.reduceEq])
      simpa only [List.flatMap_cons, List.flatMap_nil, List.append_nil, List.append_assoc]
        using hclosed
  | finite s r =>
    obtain ⟨numeral, htext, hvalue⟩ := Number.exists_numeral_literal s r
    have hnumeral := closed_numeral numeral
    rw [hvalue false] at hnumeral
    have hsign : Closed (signText s).toList (if s then [.mark '-'] else []) := by
      cases s <;> rfl
    have hclosed := (closed_from.append hsign).append hnumeral
    have hsuffix : "_f64)".toList = floatSuffix ++ [')'] := rfl
    have hclose : ofPhrase ")" = [.mark ')'] := Closed.ofPhrase_eq rfl
    rw [Constant.text_finite, String.toList_append, String.toList_append, htext, hsuffix]
    simpa [Constant.tokens, Number.tokens, hclose] using hclosed

/-- **A constant is a piece with its tokens.** -/
theorem open_constant (c : Constant) : Open c.text.toList c.tokens := by
  cases c with
  | null =>
    have hfirst : IsPhrase "comtmpl_lang::Value::" := isPhrase (by simp [phrases, -String.reduceEq])
    have hlast := open_word ⟨'N', ['u', 'l', 'l'], by decide, List.all_eq_true.mp rfl⟩
    exact hfirst.append_open hlast
  | bool b =>
    have hopen : IsPhrase "comtmpl_lang::Value::Bool(" :=
      isPhrase (by simp [phrases, -String.reduceEq])
    have hclose : IsPhrase ")" := isPhrase (by simp [phrases, -String.reduceEq])
    have hword : Open (if b then "true" else "false").toList
        [.word (if b then "true" else "false")] := by
      cases b with
      | true => exact open_word ⟨'t', ['r', 'u', 'e'], by decide, List.all_eq_true.mp rfl⟩
      | false => exact open_word ⟨'f', ['a', 'l', 's', 'e'], by decide, List.all_eq_true.mp rfl⟩
    refine Or.inl ?_
    rw [Constant.text_bool, String.toList_append, String.toList_append]
    exact (hopen.append_open hword).append hclose (by simp) (by simp [isIdentifierPart])
  | number n => exact Or.inl (closed_number n)
  | string s =>
    have hclose : IsPhrase ")" := isPhrase (by simp [phrases, -String.reduceEq])
    refine Or.inl ?_
    rw [Constant.text_string, String.toList_append, String.toList_append]
    exact (closed_from.append (closed_quoted s)).append hclose

/-- A path is a closed piece. -/
theorem closed_field (segments : List String) :
    Closed (Expression.field segments).text.toList (Expression.field segments).tokens := by
  have hopen : IsPhrase "comtmpl_lang::eval_field(data, &[" :=
    isPhrase (by simp [phrases, -String.reduceEq])
  have hclose : IsPhrase "])?" := isPhrase (by simp [phrases, -String.reduceEq])
  have hsegments : Open (", ".intercalate (segments.map quoted)).toList
      (listed (segments.map fun s => [.text s])) :=
    open_intercalate fun s _ => Or.inl (closed_quoted s)
  rw [Expression.text_field, String.toList_append, String.toList_append]
  exact (hopen.append_open hsegments).append hclose (by simp) (by simp [isIdentifierPart])

/-- A reference is a piece if what it refers to is one. -/
theorem open_borrow {e : Expression} (h : Open e.text.toList e.tokens) :
    Open e.borrow.text.toList e.borrow.tokens := by
  have hopen : IsPhrase "&" := isPhrase (by simp [phrases, -String.reduceEq])
  rw [Expression.text_borrow, String.toList_append]
  exact hopen.append_open h

/-- A copy is a closed piece if what it copies is a piece. -/
theorem closed_clone {e : Expression} (h : Open e.text.toList e.tokens) :
    Closed e.clone.text.toList e.clone.tokens := by
  have hclose : IsPhrase ".clone()" := isPhrase (by simp [phrases, -String.reduceEq])
  rw [Expression.text_clone, String.toList_append]
  exact h.append hclose (by simp) (by simp [isIdentifierPart])

/-- A call is a closed piece if its arguments are pieces. -/
theorem closed_call (name : String) {args : List Expression}
    (h : ∀ e ∈ args, Open e.text.toList e.tokens) :
    Closed (Expression.call name args).text.toList (Expression.call name args).tokens := by
  have hopen : IsPhrase "funcs.call(" := isPhrase (by simp [phrases, -String.reduceEq])
  have hmiddle : IsPhrase ", vec![" := isPhrase (by simp [phrases, -String.reduceEq])
  have hclose : IsPhrase "])?" := isPhrase (by simp [phrases, -String.reduceEq])
  have hbefore := (hopen.append (closed_quoted name)).append hmiddle
  rw [Expression.text_call, Expression.tokens_call]
  simp only [String.toList_append]
  exact (hbefore.append_open (open_intercalate h)).append hclose (by simp)
    (by simp [isIdentifierPart])

/-- **An expression is a piece with its tokens.** -/
theorem Expression.isOpen : ∀ e : Expression, Open e.text.toList e.tokens
  | .data => open_word ⟨'d', ['a', 't', 'a'], by decide, List.all_eq_true.mp rfl⟩
  | .field segments => Or.inl (closed_field segments)
  | .constant c => open_constant c
  | .borrow e => open_borrow e.isOpen
  | .clone e => Or.inl (closed_clone e.isOpen)
  | .value => open_word ⟨'v', ['a', 'l', 'u', 'e'], by decide, List.all_eq_true.mp rfl⟩
  | .call name _ => Or.inl (closed_call name fun e _ => e.isOpen)

/-! ### Lines -/

/-- **Lines with their tokens**: each line is a closed piece together with its line
feed. -/
inductive Token.Lines : List String → List Token → Prop
  | nil : Lines [] []
  | cons {line : String} {lines : List String} {tokens more : List Token}
    (hline : Closed (line.toList ++ ['\n']) tokens) (hlines : Lines lines more) :
    Lines (line :: lines) (tokens ++ more)

namespace Token.Lines

variable {lines others : List String} {tokens more : List Token}

/-- One line. -/
theorem single {line : String} (h : Closed (line.toList ++ ['\n']) tokens) :
    Lines [line] tokens := by
  simpa using cons h nil

/-- Lines can be joined. -/
theorem append (h : Lines lines tokens) (h' : Lines others more) :
    Lines (lines ++ others) (tokens ++ more) := by
  induction h with
  | nil => exact h'
  | cons hline _ ih => simpa only [List.cons_append, List.append_assoc] using cons hline ih

/-- Lines of some things, one after another, are the lines of all of them. -/
theorem flatMap {α : Type} {text : α → List String} {tokens : α → List Token} {items : List α}
    (h : ∀ a ∈ items, Lines (text a) (tokens a)) :
    Lines (items.flatMap text) (items.flatMap tokens) := by
  induction items with
  | nil => exact nil
  | cons a rest ih =>
    simpa only [List.flatMap_cons] using (h a (by simp)).append (ih fun b hb => h b (by simp [hb]))

/-- Lines that are each made of phrases have the tokens of all the phrases. -/
theorem ofRows {rows : List (String × List String)}
    (h : ∀ row ∈ rows, Closed row.1.toList (row.2.flatMap ofPhrase)) :
    Lines (rows.map (·.1)) ((rows.flatMap (·.2)).flatMap ofPhrase) := by
  induction rows with
  | nil => exact nil
  | cons row rest ih =>
    have hnewline : Closed ['\n'] [] := rfl
    have hrow := (h row (by simp)).append hnewline
    rw [List.append_nil] at hrow
    simpa only [List.map_cons, List.flatMap_cons, List.flatMap_append] using
      cons hrow (ih fun other hother => h other (by simp [hother]))

/-- Indentation has no tokens. -/
theorem indent (h : Lines lines tokens) : Lines (indentLines lines) tokens := by
  induction h with
  | nil => exact nil
  | @cons line _ _ _ hline _ ih =>
    refine cons ?_ ih
    unfold indentLine
    split
    · exact hline
    · have hblank : Closed indentation.toList [] := rfl
      simpa using hblank.append hline

/-- Lines are a closed piece. -/
theorem closed (h : Lines lines tokens) :
    Closed (lines.flatMap fun line => line.toList ++ ['\n']) tokens := by
  induction h with
  | nil => rfl
  | cons hline _ ih => simpa only [List.flatMap_cons] using hline.append ih

end Token.Lines

/-! ### Statements -/

mutual

/-- **The tokens of a statement.** A comment line has none. -/
def Statement.tokens : Statement → List Token
  | remark _ _ => []
  | writeText s => ofPhrase "writer.write_all(" ++ [Token.text s] ++ ofPhrase ".as_bytes())?;"
  | write e => ofPhrase "write!(writer, \"\x7b\x7d\", " ++ e.tokens ++ ofPhrase ")?;"
  | bind e => ofPhrase "let value = " ++ e.tokens ++ ofPhrase ";"
  | block body => ofPhrase "\x7b" ++ Statement.allTokens body ++ ofPhrase "\x7d"

/-- The tokens of statements. -/
def Statement.allTokens : List Statement → List Token
  | [] => []
  | s :: rest => s.tokens ++ Statement.allTokens rest

end

/-- **A statement that can be written**: all its expressions can be. -/
inductive Statement.Writable : Statement → Prop
  | remark (template : String) (line : Nat) : Writable (.remark template line)
  | writeText (s : String) : Writable (.writeText s)
  | write {e : Expression} (he : e.Writable) : Writable (.write e)
  | bind {e : Expression} (he : e.Writable) : Writable (.bind e)
  | block {body : List Statement} (hbody : ∀ s ∈ body, Writable s) : Writable (.block body)

namespace Statement

theorem allLines_eq_flatMap (body : List Statement) : allLines body = body.flatMap lines := by
  induction body with
  | nil => rfl
  | cons s rest ih => exact congrArg (s.lines ++ ·) ih

theorem allTokens_eq_flatMap (body : List Statement) : allTokens body = body.flatMap tokens := by
  induction body with
  | nil => rfl
  | cons s rest ih => exact congrArg (s.tokens ++ ·) ih

theorem lines_remark (template : String) (line : Nat) : (remark template line).lines =
    ["// " ++ label template ++ ":" ++ toString line] :=
  rfl

theorem lines_writeText (s : String) : (writeText s).lines =
    ["writer.write_all(" ++ quoted s ++ ".as_bytes())?;"] :=
  rfl

theorem lines_write (e : Expression) : (write e).lines =
    ["write!(writer, \"\x7b\x7d\", " ++ e.text ++ ")?;"] :=
  rfl

theorem lines_bind (e : Expression) : (bind e).lines = ["let value = " ++ e.text ++ ";"] := rfl

theorem lines_block (body : List Statement) : (block body).lines =
    "\x7b" :: indentLines (body.flatMap lines) ++ ["\x7d"] := by
  rw [← allLines_eq_flatMap]
  rfl

theorem tokens_block (body : List Statement) : (block body).tokens =
    ofPhrase "\x7b" ++ body.flatMap tokens ++ ofPhrase "\x7d" := by
  rw [← allTokens_eq_flatMap]
  rfl

end Statement

/-! ### Comment lines -/

/-- A comment line has no tokens. -/
theorem closed_remark {cs : List Char} (h : '\n' ∉ cs) :
    Closed ('/' :: '/' :: cs ++ ['\n']) [] := by
  have hopen : scan .nothing ['/', '/'] = some ([], .remark) := rfl
  have hclose : scan .remark ['\n'] = some ([], .nothing) := rfl
  exact scan_append (scan_append hopen (scan_remark h)) hclose

/-! ### Statements are lines with their tokens -/

/-- A line feed behind a closed piece changes nothing. -/
theorem Token.Closed.newline {cs : List Char} {tokens : List Token} (h : Closed cs tokens) :
    Closed (cs ++ ['\n']) tokens := by
  have hnewline : Closed ['\n'] [] := rfl
  simpa using h.append hnewline

theorem lines_remark_tokens (template : String) (line : Nat) :
    Lines (Statement.remark template line).lines (Statement.remark template line).tokens := by
  rw [Statement.lines_remark]
  refine .single ?_
  have hline : '\n' ∉ Nat.toDigits 10 line := fun h =>
    absurd ((DigitRun.ofNat line).all_isDigit _ h) (by decide)
  have htext : ("// " ++ label template ++ ":" ++ toString line).toList =
      '/' :: '/' :: ' ' :: ((label template).toList ++ ':' :: (toString line).toList) := by
    simp
  rw [htext]
  exact closed_remark (by simp [(unbroken_label template).newline_notMem, hline])

/-- A line with an expression between two phrases. -/
theorem closed_around (e : Expression) {opening closing : List Char}
    {before after : List Token} (hopening : Closed opening before) (hclosing : Closed closing after)
    (hne : closing ≠ []) (hstop : Stops isIdentifierPart closing) :
    Closed (opening ++ e.text.toList ++ closing) (before ++ e.tokens ++ after) :=
  (hopening.append_open e.isOpen).append hclosing hne hstop

/-- **A statement is lines with its tokens.** -/
theorem Statement.isLines : ∀ s : Statement, Lines s.lines s.tokens
  | .remark template line => lines_remark_tokens template line
  | .writeText s => by
    have hopening : IsPhrase "writer.write_all(" := isPhrase (by simp [phrases, -String.reduceEq])
    have hclosing : IsPhrase ".as_bytes())?;" := isPhrase (by simp [phrases, -String.reduceEq])
    rw [Statement.lines_writeText]
    refine .single ?_
    rw [String.toList_append, String.toList_append]
    exact ((hopening.append (closed_quoted s)).append hclosing).newline
  | .write e => by
    have hopening : IsPhrase "write!(writer, \"\x7b\x7d\", " :=
      isPhrase (by simp [phrases, -String.reduceEq])
    have hclosing : IsPhrase ")?;" := isPhrase (by simp [phrases, -String.reduceEq])
    rw [Statement.lines_write]
    refine .single ?_
    rw [String.toList_append, String.toList_append]
    exact (closed_around e hopening hclosing (by simp) (by simp [isIdentifierPart])).newline
  | .bind e => by
    have hopening : IsPhrase "let value = " := isPhrase (by simp [phrases, -String.reduceEq])
    have hclosing : IsPhrase ";" := isPhrase (by simp [phrases, -String.reduceEq])
    rw [Statement.lines_bind]
    refine .single ?_
    rw [String.toList_append, String.toList_append]
    exact (closed_around e hopening hclosing (by simp) (by simp [isIdentifierPart])).newline
  | .block body => by
    have hopening : IsPhrase "\x7b" := isPhrase (by simp [phrases, -String.reduceEq])
    have hclosing : IsPhrase "\x7d" := isPhrase (by simp [phrases, -String.reduceEq])
    rw [Statement.lines_block, Statement.tokens_block]
    have hinside := (Lines.flatMap fun s (_ : s ∈ body) => s.isLines).indent
    exact ((Lines.single hopening.newline).append hinside).append (.single hclosing.newline)

/-! ### Routines and programs -/

/-- The tokens of a routine. -/
def Routine.tokens (r : Routine) : List Token :=
  ofPhrase "pub fn " ++ [Token.word r.name] ++ ofPhrase Routine.signature ++
    r.body.flatMap Statement.tokens ++ ofPhrase "Ok(())" ++ ofPhrase "\x7d"

/-- **A routine that can be written**: its name is an identifier, and its statements
can be written. -/
structure Routine.Writable (r : Routine) : Prop where
  name : ∃ i : Identifier, i.text = r.name
  body : ∀ s ∈ r.body, s.Writable

theorem Routine.lines_eq (r : Routine) : r.lines =
    ["", "pub fn " ++ r.name ++ String.join Routine.parameters] ++
      indentLines ("let _ = (funcs, data);" :: r.body.flatMap Statement.lines ++ ["Ok(())"]) ++
        ["\x7d"] := by
  have hjoin (a b c : String) : String.join [a, b, c] = a ++ (b ++ c) := by
    simp [String.join_cons]
  rw [← Statement.allLines_eq_flatMap, Routine.parameters, hjoin]
  simp only [Routine.lines, String.append_assoc]

theorem Routine.closed_parameters :
    Closed (String.join Routine.parameters).toList (Routine.parameters.flatMap ofPhrase) := by
  refine closed_join fun s hs => isPhrase ?_
  simp only [Routine.parameters, List.mem_cons, List.not_mem_nil, or_false] at hs
  rcases hs with rfl | rfl | rfl <;> simp [phrases, -String.reduceEq]

theorem Routine.closed_signature : Closed Routine.signature.toList
    (Routine.parameters.flatMap ofPhrase ++ ofPhrase "let _ = (funcs, data);") := by
  have hfirst : IsPhrase "let _ = (funcs, data);" := isPhrase (by simp [phrases, -String.reduceEq])
  have hclosed := Routine.closed_parameters.append hfirst
  simpa [Routine.signature, String.join_append] using hclosed

/-- A name that is an identifier is a piece with one word. -/
theorem open_name {name : String} (h : ∃ i : Identifier, i.text = name) :
    Open name.toList [.word name] := by
  obtain ⟨i, rfl⟩ := h
  simpa [Identifier.text] using open_word i

/-- An empty line has no tokens. -/
theorem closed_empty : Closed ("".toList ++ ['\n']) [] := rfl

/-- The first line of a routine is a closed piece. -/
theorem Routine.closed_head {name : String} (h : ∃ i : Identifier, i.text = name) :
    Closed ("pub fn " ++ name ++ String.join Routine.parameters).toList
      (ofPhrase "pub fn " ++ [Token.word name] ++ Routine.parameters.flatMap ofPhrase) := by
  have hfn : IsPhrase "pub fn " := isPhrase (by simp [phrases, -String.reduceEq])
  obtain ⟨more, hmore⟩ : ∃ more, (String.join Routine.parameters).toList =
      "(funcs: &comtmpl_lang::Functions, ".toList ++ more :=
    ⟨_, by rw [String.toList_join, Routine.parameters, List.flatMap_cons]⟩
  rw [String.toList_append, String.toList_append]
  refine (hfn.append_open (open_name h)).append Routine.closed_parameters ?_ ?_ <;>
    simp [hmore, isIdentifierPart]

/-- **A routine is lines with its tokens.** -/
theorem Routine.isLines {r : Routine} (h : ∃ i : Identifier, i.text = r.name) :
    Lines r.lines r.tokens := by
  have hfirst : IsPhrase "let _ = (funcs, data);" := isPhrase (by simp [phrases, -String.reduceEq])
  have hok : IsPhrase "Ok(())" := isPhrase (by simp [phrases, -String.reduceEq])
  have hclosing : IsPhrase "\x7d" := isPhrase (by simp [phrases, -String.reduceEq])
  have hbody := (Lines.flatMap fun s (_ : s ∈ r.body) => s.isLines).append (.single hok.newline)
  have hinside := (Lines.cons hfirst.newline hbody).indent
  have hlines := Lines.cons closed_empty (Lines.cons (Routine.closed_head h).newline
    (hinside.append (.single hclosing.newline)))
  rw [Routine.lines_eq, Routine.tokens, Routine.closed_signature.ofPhrase_eq]
  simpa only [List.append_assoc, List.cons_append, List.nil_append] using hlines

namespace Program

/-- The tokens of an entry of the table. -/
def entryTokens (entry : String × Routine) : List Token :=
  ofPhrase "(" ++ [Token.text entry.1] ++ ofPhrase ", " ++ [Token.word entry.2.name] ++
    ofPhrase " as comtmpl_lang::Routine" ++ ofPhrase "),"

/-- The tokens of the routines and of the table. -/
def itemTokens (p : Program) : List Token :=
  p.routines.flatMap (·.2.tokens) ++ ofPhrase tableOpening ++ p.routines.flatMap entryTokens ++
    ofPhrase "],) \x7d"

/-- **The tokens of a program.** -/
def tokens (p : Program) : List Token :=
  match p.moduleName with
  | none => p.itemTokens
  | some name =>
    ofPhrase "pub mod " ++ [Token.word name] ++ ofPhrase "\x7b" ++ p.itemTokens ++ ofPhrase "\x7d"

/-- **A program that can be written**: its module has an identifier for a name, its
routines can be written, and every function in it has a name of its own. -/
structure Writable (p : Program) : Prop where
  moduleName : ∀ name ∈ p.moduleName, ∃ i : Identifier, i.text = name
  routines : ∀ entry ∈ p.routines, entry.2.Writable
  names : ("templates" :: "with_functions" :: p.routineNames).Nodup

/-- **A program whose names are identifiers**: the name of its module and those of its
routines. -/
structure Named (p : Program) : Prop where
  moduleName : ∀ name ∈ p.moduleName, ∃ i : Identifier, i.text = name
  routines : ∀ entry ∈ p.routines, ∃ i : Identifier, i.text = entry.2.name

variable {p : Program}

theorem Writable.named (h : p.Writable) : p.Named :=
  ⟨h.moduleName, fun entry hentry => (h.routines entry hentry).name⟩

/-- The line of an entry has the tokens of the entry. -/
theorem closed_tableLine {entry : String × Routine}
    (h : ∃ i : Identifier, i.text = entry.2.name) :
    Closed ("            " ++ tableLine entry).toList (entryTokens entry) := by
  have hblank : Closed "            ".toList [] := rfl
  have hopen : IsPhrase "(" := isPhrase (by simp [phrases, -String.reduceEq])
  have hcomma : IsPhrase ", " := isPhrase (by simp [phrases, -String.reduceEq])
  have hclose : Closed " as comtmpl_lang::Routine),".toList
      (ofPhrase " as comtmpl_lang::Routine" ++ ofPhrase "),") := by
    have hclosed : Closed " as comtmpl_lang::Routine),".toList _ :=
      closed_compound [" as comtmpl_lang::Routine", "),"] (by simp [compounds, -String.reduceEq])
    simpa only [List.flatMap_cons, List.flatMap_nil, List.append_nil] using hclosed
  have hbefore := (hopen.append (closed_quoted entry.1)).append hcomma
  have hentry := (hbefore.append_open (open_name h)).append hclose (by simp)
    (by simp [isIdentifierPart])
  have hall := hblank.append hentry
  simp only [tableLine, String.toList_append, entryTokens]
  simpa only [List.append_assoc, List.nil_append] using hall

theorem closed_tableOpening : Closed tableOpening.toList (tablePhrases.flatMap ofPhrase) := by
  refine closed_join fun s hs => isPhrase ?_
  simp only [tablePhrases, List.mem_cons, List.not_mem_nil, or_false] at hs
  rcases hs with rfl | rfl | rfl | rfl | rfl | rfl | rfl <;> simp [phrases, -String.reduceEq]

/-- The lines of the table before its entries. -/
theorem lines_openingRows : Lines (openingRows.map (·.1)) (ofPhrase tableOpening) := by
  have hrows := Lines.ofRows fun row (hrow : row ∈ openingRows) =>
    closed_phrases_compounds.2 row (by simp [hrow])
  rw [closed_tableOpening.ofPhrase_eq]
  exact hrows

/-- The lines of the table after its entries. -/
theorem lines_closingRows : Lines (closingRows.map (·.1)) (ofPhrase "],) \x7d") := by
  have hrows := Lines.ofRows fun row (hrow : row ∈ closingRows) =>
    closed_phrases_compounds.2 row (by simp [hrow])
  rw [(closed_compound ["],", ")", "\x7d"] (by simp [compounds, -String.reduceEq])).ofPhrase_eq]
  exact hrows

/-- **The table is lines with its tokens.** -/
theorem Named.tableLines (h : p.Named) : Lines p.tableLines
    (ofPhrase tableOpening ++ p.routines.flatMap entryTokens ++ ofPhrase "],) \x7d") := by
  have hentries : Lines (p.routines.flatMap fun entry => ["            " ++ tableLine entry])
      (p.routines.flatMap entryTokens) :=
    .flatMap fun entry hentry => .single (closed_tableLine (h.routines entry hentry)).newline
  rw [← List.map_eq_flatMap] at hentries
  exact (lines_openingRows.append hentries).append lines_closingRows

/-- The routines and the table are lines with their tokens. -/
theorem Named.itemLines (h : p.Named) : Lines p.itemLines p.itemTokens := by
  have hroutines : Lines (p.routines.flatMap fun entry => entry.2.lines)
      (p.routines.flatMap fun entry => entry.2.tokens) :=
    .flatMap fun entry hentry => Routine.isLines (h.routines entry hentry)
  simpa only [Program.itemLines, itemTokens, List.append_assoc] using
    hroutines.append h.tableLines

/-- The first line of a module is a closed piece. -/
theorem closed_moduleHead {name : String} (h : ∃ i : Identifier, i.text = name) :
    Closed ("pub mod " ++ name ++ " \x7b").toList
      (ofPhrase "pub mod " ++ [Token.word name] ++ ofPhrase "\x7b") := by
  have hmod : IsPhrase "pub mod " := isPhrase (by simp [phrases, -String.reduceEq])
  have hopen : Closed " \x7b".toList (ofPhrase "\x7b") := by
    have hclosed : Closed " \x7b".toList _ :=
      closed_compound ["\x7b"] (by simp [compounds, -String.reduceEq])
    simpa only [List.flatMap_cons, List.flatMap_nil, List.append_nil] using hclosed
  rw [String.toList_append, String.toList_append]
  exact (hmod.append_open (open_name h)).append hopen (by simp) (by simp [isIdentifierPart])

/-- **A program is lines with its tokens.** -/
theorem Named.lines (h : p.Named) : Lines p.lines p.tokens := by
  have hheader : Closed (header.toList ++ ['\n']) [] := by
    have hclosed : Closed "// Code generated by comtmpl. DO NOT EDIT.\n".toList _ :=
      closed_compound [] (by simp [compounds, -String.reduceEq])
    simpa [header] using hclosed
  unfold Program.lines tokens
  cases hname : p.moduleName with
  | none => simpa only [List.nil_append] using Lines.cons hheader h.itemLines
  | some name =>
    have hclosing : IsPhrase "\x7d" := isPhrase (by simp [phrases, -String.reduceEq])
    have hhead := closed_moduleHead (h.moduleName name (by simp [hname]))
    have hitems := h.itemLines.indent.append (.single hclosing.newline)
    have hall := Lines.cons hheader (.cons closed_empty (.cons hhead.newline hitems))
    simpa only [List.append_assoc, List.cons_append, List.nil_append] using hall

/-- **The text of a program is cut into its tokens.** -/
theorem Named.ofText? (h : p.Named) : ofText? p.text = some p.tokens := by
  have htext : p.text.toList = p.lines.flatMap fun line => line.toList ++ ['\n'] := by
    simp [text, String.toList_join, List.flatMap_map]
  have hscan : scan .nothing p.text.toList = some (p.tokens, .nothing) := by
    rw [htext]
    exact h.lines.closed
  simp [Token.ofText?, hscan, flush]

end Program

end Stencil
