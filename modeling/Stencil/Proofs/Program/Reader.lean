import Stencil.Program.Basic
import Stencil.Proofs.Program.Token

/-!
# Reading programs

The second stage of reading the text of a program: from tokens to expressions,
statements, routines and the table that registers them. The fixed parts of a form
are given by their text (`Stencil.Token.phrase`), so the grammar below reads like
the programs it accepts; what lies between the fixed parts is read for what it is.

Nothing here looks at how programs are printed. A name in the table stands for the
routine that was defined under it, and a program that defines a name twice has no
reading.
-/

namespace Stencil

/-- A reader: what was read, and the tokens after it. -/
abbrev TokenReader (α : Type) := List Token → Option (α × List Token)

namespace Token

variable {α β : Type}

/-! ### Fixed phrases -/

/-- What follows given tokens. -/
def strip : List Token → List Token → Option (List Token)
  | [], ts => some ts
  | _ :: _, [] => none
  | p :: ps, t :: ts => if p = t then strip ps ts else none

/-- Reads a phrase, given by its text. -/
def phrase (s : String) (ts : List Token) : Option (List Token) :=
  match ofText? s with
  | none => none
  | some ps => strip ps ts

/-! ### Combinations of readers -/

/-- Reads a phrase that stands for something. -/
def phraseFor (s : String) (a : α) : TokenReader α := fun ts => (phrase s ts).map (a, ·)

/-- Reads something and makes something else of it. -/
def mapped (f : α → β) (item : TokenReader α) : TokenReader β :=
  fun ts => (item ts).map fun (a, rest) => (f a, rest)

/-- Reads something between two phrases. -/
def between (opening : String) (item : TokenReader α) (closing : String) : TokenReader α :=
  fun ts => do
    let inside ← phrase opening ts
    let (a, after) ← item inside
    let rest ← phrase closing after
    some (a, rest)

/-- Reads something after a phrase. -/
def follows (opening : String) (item : TokenReader α) : TokenReader α :=
  fun ts => (phrase opening ts).bind item

/-- Reads one thing and then another. -/
def both (first : TokenReader α) (second : TokenReader β) : TokenReader (α × β) :=
  fun ts => do
    let (a, rest) ← first ts
    let (b, after) ← second rest
    some ((a, b), after)

/-- Reads by the first of some readers that succeeds. -/
def firstOf (readers : List (TokenReader α)) : TokenReader α :=
  fun ts => readers.findSome? (· ts)

/-- Reads items one after another, at most `count` of them. -/
def many (item : TokenReader α) : (count : Nat) → TokenReader (List α)
  | 0, ts => some ([], ts)
  | count + 1, ts =>
    match item ts with
    | none => some ([], ts)
    | some (a, rest) => (many item count rest).map fun (more, after) => (a :: more, after)

/-- Reads items one after another, as many as there are. -/
def manyAll (item : TokenReader α) : TokenReader (List α) := fun ts => many item ts.length ts

/-- Reads items with commas between them. -/
def separated (item : TokenReader α) : TokenReader (List α) :=
  fun ts =>
    match item ts with
    | none => some ([], ts)
    | some (a, rest) =>
      (manyAll (fun us => (strip [.mark ','] us).bind item) rest).map
        fun (more, after) => (a :: more, after)

/-- Reads a word. -/
def readWord : TokenReader String
  | .word w :: ts => some (w, ts)
  | _ => none

/-- Reads a text literal. -/
def readText : TokenReader String
  | .text s :: ts => some (s, ts)
  | _ => none

end Token

open Token

/-! ### Expressions -/

/-- The number of the other sign. -/
def Number.negate : Number → Number
  | nan => nan
  | infinite s => infinite !s
  | finite s r => finite (!s) r

/-- Reads a number: a literal, one with a minus before it, or the name of an
infinity. -/
def Number.read : TokenReader Number
  | .number n :: ts => some (n, ts)
  | .mark '-' :: .number n :: ts => some (n.negate, ts)
  | ts => firstOf [phraseFor "f64::INFINITY" (.infinite false),
      phraseFor "f64::NEG_INFINITY" (.infinite true)] ts

/-- Reads a constant. -/
def Constant.read : TokenReader Constant :=
  firstOf [
    phraseFor "comtmpl_lang::Value::Null" .null,
    between "comtmpl_lang::Value::Bool("
      (firstOf [phraseFor "true" (.bool true), phraseFor "false" (.bool false)]) ")",
    between "comtmpl_lang::Value::from("
      (firstOf [mapped .string readText, mapped .number Number.read]) ")"]

/-- Reads copies of an expression that was read. -/
def Expression.readClones (e : Expression) : (count : Nat) → List Token → Expression × List Token
  | 0, ts => (e, ts)
  | count + 1, ts =>
    match phrase ".clone()" ts with
    | none => (e, ts)
    | some rest => readClones (.clone e) count rest

/-- Reads a call, given how to read its arguments. -/
def Expression.readCall (argument : TokenReader Expression) : TokenReader Expression :=
  mapped (fun (name, args) => .call name args)
    (follows "funcs.call(" (both readText (between ", vec![" (separated argument) "])?")))

/-- Reads an expression that is neither a reference nor a copy, given how to read the
arguments of a call. -/
def Expression.readAtom (argument : TokenReader Expression) : TokenReader Expression :=
  firstOf [
    phraseFor "data" .data,
    phraseFor "value" .value,
    between "comtmpl_lang::eval_field(data, &[" (mapped .field (separated readText)) "])?",
    mapped .constant Constant.read,
    Expression.readCall argument]

/-- **Reads an expression**, descending at most `depth` levels. -/
def Expression.read : (depth : Nat) → TokenReader Expression
  | 0, _ => none
  | depth + 1, ts =>
    match phrase "&" ts with
    | some rest => mapped .borrow (Expression.read depth) rest
    | none =>
      (Expression.readAtom (Expression.read depth) ts).map
        fun (e, rest) => e.readClones rest.length rest

/-! ### Statements -/

/-- **Reads a statement**, descending at most `depth` levels of blocks. -/
def Statement.read : (depth : Nat) → TokenReader Statement
  | 0, _ => none
  | depth + 1, ts =>
    firstOf [
      between "writer.write_all(" (mapped .writeText readText) ".as_bytes())?;",
      between "write!(writer, \"\x7b\x7d\", " (mapped .write (Expression.read ts.length)) ")?;",
      between "let value = " (mapped .bind (Expression.read ts.length)) ";",
      between "\x7b" (mapped .block (many (Statement.read depth) ts.length)) "\x7d"] ts

/-! ### Routines and programs -/

/-- The parameters of a routine and its result. -/
def Routine.parameters : List String := [
  "(funcs: &comtmpl_lang::Functions, ",
  "writer: &mut dyn std::io::Write, data: &comtmpl_lang::Value) ",
  "-> Result<(), comtmpl_lang::RenderError> \x7b"]

/-- What stands between the name of a routine and its statements. -/
def Routine.signature : String := String.join (Routine.parameters ++ ["let _ = (funcs, data);"])

/-- Reads statements, as many as there are. -/
def Statement.readAll : TokenReader (List Statement) :=
  fun ts => many (Statement.read ts.length) ts.length ts

/-- Reads a routine. -/
def Routine.read : TokenReader Routine :=
  between "pub fn "
    (mapped (fun (name, body) => ⟨name, body⟩)
      (both readWord (between signature Statement.readAll "Ok(())"))) "\x7d"

namespace Program

/-- Reads an entry of the table: the name of a template and the name of a routine. -/
def readEntry : TokenReader (String × String) :=
  between "(" (both readText (between ", " readWord " as comtmpl_lang::Routine")) "),"

/-- The phrases before the entries of the table: a function that registers the
routines with the built-in functions, and the beginning of one that registers them
with given functions. -/
def tablePhrases : List String := [
  "pub fn templates() -> comtmpl_lang::Templates \x7b",
  "with_functions(comtmpl_lang::Functions::builtins())", "\x7d",
  "pub fn with_functions(functions: comtmpl_lang::Functions) -> comtmpl_lang::Templates \x7b",
  "comtmpl_lang::Templates::from_routines(", "functions,", "["]

/-- What stands before the entries of the table. -/
def tableOpening : String := String.join tablePhrases

/-- Reads the routines of a program and its table. -/
def readItems : TokenReader (List Routine × List (String × String)) :=
  both (manyAll Routine.read) (between tableOpening (manyAll readEntry) "],) \x7d")

/-- Reads a program, in a module or not. -/
def readSource : TokenReader (Option String × List Routine × List (String × String)) :=
  firstOf [
    follows "pub mod "
      (mapped (fun (name, items) => (some name, items)) (both readWord (between "\x7b" readItems "\x7d"))),
    mapped (fun items => (none, items)) readItems]

/-- The routines that the table names, if every function of the program has a name
of its own. -/
def resolve? (items : List Routine × List (String × String)) : Option (List (String × Routine)) :=
  if ("templates" :: "with_functions" :: items.1.map Routine.name).Nodup then
    items.2.mapM fun entry =>
      (items.1.find? (·.name = entry.2)).map fun routine => (entry.1, routine)
  else none

/-- **Reads a program from its text.** -/
def read? (s : String) : Option Program :=
  match (ofText? s).bind readSource with
  | some ((moduleName, items), []) => (resolve? items).map fun routines => ⟨moduleName, routines⟩
  | _ => none

variable {routines : List (String × Routine)}

/-- Of routines with names of their own, each is found by its name. -/
theorem find?_name (h : (routines.map fun e => e.2.name).Nodup) {entry : String × Routine}
    (hentry : entry ∈ routines) :
    (routines.map Prod.snd).find? (·.name = entry.2.name) = some entry.2 := by
  induction routines with
  | nil => simp at hentry
  | cons first others ih =>
    rw [List.map_cons, List.nodup_cons] at h
    rcases List.mem_cons.mp hentry with rfl | hentry
    · simp
    · have hne : first.2.name ≠ entry.2.name := by
        intro heq
        exact h.1 (heq ▸ List.mem_map_of_mem (f := fun e => e.2.name) hentry)
      simpa [hne] using ih h.2 hentry

/-- **A table leads from each template to its routine**, if every function has a name of
its own. -/
theorem resolve?_table
    (h : ("templates" :: "with_functions" :: routines.map fun e => e.2.name).Nodup) :
    resolve? (routines.map Prod.snd, routines.map fun e => (e.1, e.2.name)) = some routines := by
  have hnodup : (routines.map fun e => e.2.name).Nodup := h.of_cons.of_cons
  have hmapM (entries : List (String × Routine)) (hsub : ∀ entry ∈ entries, entry ∈ routines) :
      (entries.map fun e => (e.1, e.2.name)).mapM (fun entry =>
        ((routines.map Prod.snd).find? (·.name = entry.2)).map fun routine =>
          (entry.1, routine)) = some entries := by
    induction entries with
    | nil => rfl
    | cons entry others ih =>
      have hfind := find?_name hnodup (hsub entry (by simp))
      have hothers := ih fun other hother => hsub other (by simp [hother])
      rw [List.map_cons, List.mapM_cons, hfind, hothers]
      rfl
  rw [resolve?, List.map_map]
  exact (if_pos h).trans (hmapM routines fun _ hentry => hentry)

end Program

end Stencil
