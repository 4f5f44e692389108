import Stencil.Source.Nodes

/-!
# Moving a source

No reader looks at an offset; it only counts. So what is read of a text that stands
further behind in a source is the same, with all positions moved by the same number of
bytes, and so are the errors (`Stencil.readNodes_shift`). Every reader is shown to move
with its cursor, from the elementary readings up to whole templates.
-/

namespace Stencil

/-! ### Positions in trees -/

mutual

/-- An operand with all positions in it moved. -/
def Operand.shift (k : Nat) : Operand → Operand
  | .parenthesized ⟨pos, declarations, commands⟩ =>
    .parenthesized ⟨pos + k, declarations, Command.shiftAll k commands⟩
  | o => o

/-- Operands with all positions in them moved. -/
def Operand.shiftAll (k : Nat) : List Operand → List Operand
  | [] => []
  | o :: others => o.shift k :: Operand.shiftAll k others

/-- Commands with all positions in them moved. -/
def Command.shiftAll (k : Nat) : List (Command Operand) → List (Command Operand)
  | [] => []
  | ⟨pos, operands⟩ :: others => ⟨pos + k, Operand.shiftAll k operands⟩ :: Command.shiftAll k others

end

/-- A command with all positions in it moved. -/
def Command.shift (k : Nat) (c : Command Operand) : Command Operand :=
  ⟨c.pos + k, c.operands.map (Operand.shift k)⟩

/-- **A pipeline with all positions in it moved**, nested ones included. -/
def Pipeline.shift (k : Nat) (p : Pipeline Operand) : Pipeline Operand :=
  ⟨p.pos + k, p.declarations, p.commands.map (Command.shift k)⟩

theorem Operand.shiftAll_eq_map (k : Nat) (os : List Operand) :
    Operand.shiftAll k os = os.map (Operand.shift k) := by
  induction os with
  | nil => rfl
  | cons o os ih => rw [shiftAll, ih, List.map_cons]

theorem Command.shiftAll_eq_map (k : Nat) (cs : List (Command Operand)) :
    Command.shiftAll k cs = cs.map (Command.shift k) := by
  induction cs with
  | nil => rfl
  | cons c cs ih => rw [shiftAll, ih, Operand.shiftAll_eq_map, List.map_cons, shift]

theorem Operand.shift_parenthesized (k : Nat) (p : Pipeline Operand) :
    (Operand.parenthesized p).shift k = .parenthesized (p.shift k) := by
  rw [shift, Command.shiftAll_eq_map, Pipeline.shift]

/-- A node with all positions in it moved. -/
def Node.shift (k : Nat) : Node → Node
  | .text pos s => .text (pos + k) s
  | .action pos p => .action (pos + k) (p.shift k)
  | .comment pos => .comment (pos + k)
  | .control pos keyword => .control (pos + k) keyword

/-- An error with its offset moved. -/
def SourceError.shift (k : Nat) : SourceError → SourceError
  | .unclosedAction offset => .unclosedAction (offset + k)
  | .unclosedComment offset => .unclosedComment (offset + k)
  | .emptyCommand offset => .emptyCommand (offset + k)
  | .unexpectedInput offset found => .unexpectedInput (offset + k) found

/-! ### Elementary readings -/

namespace Cursor

/-- **The same place in a source that stands further behind.** -/
def shift (k : Nat) (c : Cursor) : Cursor := ⟨c.offset + k, c.rest⟩

variable (k : Nat) (c : Cursor)

@[simp] theorem rest_shift : (c.shift k).rest = c.rest := rfl

@[simp] theorem offset_shift : (c.shift k).offset = c.offset + k := rfl

theorem past_shift (taken rest : List Char) :
    (c.shift k).past taken rest = (c.past taken rest).shift k := by
  simp only [past, shift, Nat.add_right_comm]

theorem expect?_shift (text : List Char) :
    (c.shift k).expect? text = (c.expect? text).map (shift k) := by
  rw [expect?, expect?, Option.map_map]
  exact congrArg (Option.map · _) (funext fun rest => past_shift k c text rest)

theorem until?_shift (text : List Char) :
    (c.shift k).until? text = (c.until? text).map (Prod.map id (shift k)) := by
  rw [until?, until?, Option.map_map]
  exact congrArg (Option.map · _) (funext fun (before, rest) =>
    congrArg (Prod.mk before) (past_shift k c before rest))

theorem takeWhile_shift (p : Char → Bool) :
    (c.shift k).takeWhile p = Prod.map id (shift k) (c.takeWhile p) :=
  congrArg (Prod.mk _) (past_shift k c _ _)

theorem skipBlanks_shift : (c.shift k).skipBlanks = c.skipBlanks.shift k :=
  congrArg Prod.snd (takeWhile_shift k c isBlank)

theorem skipBlanks1?_shift : (c.shift k).skipBlanks1? = c.skipBlanks1?.map (shift k) := by
  rw [skipBlanks1?, takeWhile_shift, skipBlanks1?]
  simp only [Prod.map_fst, Prod.map_snd, id]
  split <;> rfl

theorem identifier?_shift :
    (c.shift k).identifier? = c.identifier?.map (Prod.map id (shift k)) := by
  rw [identifier?, takeWhile_shift, identifier?]
  simp only [shift]
  split
  · rfl
  · split <;> rfl

theorem leaving_shift (rest : List Char) : (c.shift k).leaving rest = (c.leaving rest).shift k :=
  past_shift k c _ _

theorem quotedText?_shift :
    (c.shift k).quotedText? = c.quotedText?.map (Prod.map id (shift k)) := by
  unfold quotedText?
  simp only [leaving_shift]
  simp only [shift]
  split
  · rw [Option.map_map]
    rfl
  · rfl

theorem rawText?_shift : (c.shift k).rawText? = c.rawText?.map (Prod.map id (shift k)) := by
  simp only [rawText?, expect?_shift, until?_shift, Option.bind_eq_bind, Option.bind_map,
    Option.map_bind, Function.comp_def, Prod.map_fst, Prod.map_snd, id, Option.map_some,
    Prod.map_apply]

/-- A numeral with the cursor behind it moved. -/
def Numeral.shift : Numeral → Numeral
  | absent => absent
  | complete n after => complete n (after.shift k)
  | broken => broken

theorem numeral_shift : (c.shift k).numeral = c.numeral.shift k := by
  unfold numeral
  simp only [leaving_shift]
  simp only [shift]
  split
  · rfl
  · split
    · split
      · rfl
      · split <;> rfl
    · rfl

/-! ### Trim markers and right delimiters -/

theorem openingTrim_shift : (c.shift k).openingTrim = Prod.map id (shift k) c.openingTrim := by
  rw [openingTrim, expect?_shift, openingTrim]
  rcases c.expect? ['-'] with _ | d
  · rfl
  · simp only [Option.map_some, skipBlanks1?_shift, Option.isSome_map]
    split <;> rfl

theorem close?_shift (right : List Char) :
    (c.shift k).close? right = (c.close? right).map (Prod.map id (shift k)) := by
  have hmarked : (((c.shift k).skipBlanks1?.bind (·.expect? ['-'])).bind (·.expect? right)) =
      ((c.skipBlanks1?.bind (·.expect? ['-'])).bind (·.expect? right)).map (shift k) := by
    simp only [skipBlanks1?_shift, expect?_shift, Option.bind_assoc, Option.bind_map,
      Option.map_bind, Function.comp_def]
  rw [close?, hmarked, skipBlanks_shift, expect?_shift, close?]
  rcases (c.skipBlanks1?.bind (·.expect? ['-'])).bind (·.expect? right) with _ | after
  · simp only [Option.map_none, Option.map_map]
    rfl
  · rfl

theorem splitText_shift (left : List Char) :
    (c.shift k).splitText left = Prod.map id (shift k) (c.splitText left) := by
  rw [splitText, until?_shift, splitText]
  rcases c.until? left with _ | r
  · exact congrArg (Prod.mk _) (past_shift k c _ _)
  · rfl

end Cursor

/-! ### Lists

A reading moves with its cursor; what is read may contain positions, and these are
moved by a function of their own. -/

/-- Where a reading stopped, moved. -/
def Stop.shift (k : Nat) : Stop → Stop
  | absent c => absent (c.shift k)
  | broken c => broken (c.shift k)

/-- **The result of a reading, moved**: what was read, by `move`, and the cursor. -/
def Reading.shift {α : Type} (move : α → α) (k : Nat) : Reading α → Reading α
  | .ok (a, after) => .ok (move a, after.shift k)
  | .error stop => .error (stop.shift k)

section

variable {α : Type} {separator? : Cursor → Option Cursor} {item : Cursor → Reading α}
  {move : α → α} {k : Nat}

theorem readMore_shift (hseparator : ∀ c, separator? (c.shift k) = (separator? c).map (.shift k))
    (hitem : ∀ c, item (c.shift k) = (item c).shift move k) (c : Cursor) :
    readMore separator? item (c.shift k) =
      (readMore separator? item c).shift (List.map move) k := by
  fun_induction readMore separator? item c with
  | case1 c hc =>
    rw [readMore, hseparator, hc]
    rfl
  | case2 c d hc place hd | case3 c d hc place hd =>
    rw [readMore, hseparator, hc]
    simp only [Option.map_some, hitem, hd, Reading.shift, Stop.shift, List.map_nil]
  | case4 c d hc a e hd hlength more after hmore ih
  | case5 c d hc a e hd hlength stop hmore ih =>
    rw [readMore, hseparator, hc]
    simp only [Option.map_some, hitem, hd, Reading.shift, Cursor.rest_shift, hlength, if_true, ih,
      hmore, List.map_cons]
  | case6 c d hc a e hd hlength =>
    rw [readMore, hseparator, hc]
    simp only [Option.map_some, hitem, hd, Reading.shift, Cursor.rest_shift, hlength, if_false,
      Stop.shift]

theorem readList_shift (hseparator : ∀ c, separator? (c.shift k) = (separator? c).map (.shift k))
    (hitem : ∀ c, item (c.shift k) = (item c).shift move k) (c : Cursor) :
    readList separator? item (c.shift k) =
      (readList separator? item c).shift (List.map move) k := by
  rw [readList, hitem, readList]
  rcases item c with stop | ⟨a, d⟩
  · rfl
  simp only [Reading.shift, readMore_shift hseparator hitem]
  rcases readMore separator? item d with stop | ⟨more, after⟩ <;> rfl

end

/-! ### Operands -/

section

variable (k : Nat) (c : Cursor)

theorem separator?_shift (mark : Char) :
    separator? mark (c.shift k) = (separator? mark c).map (.shift k) := by
  simp only [separator?, Cursor.skipBlanks_shift, Cursor.expect?_shift, Option.map_map,
    Function.comp_def]

theorem readDotted_shift : readDotted (c.shift k) = Prod.map id (.shift k) (readDotted c) := by
  have hstep (c : Cursor) : ((c.shift k).expect? ['.']).bind Cursor.identifier? =
      ((c.expect? ['.']).bind Cursor.identifier?).map (Prod.map id (.shift k)) := by
    simp only [Cursor.expect?_shift, Option.bind_map, Option.map_bind, Function.comp_def,
      Cursor.identifier?_shift]
  fun_induction readDotted c with
  | case1 c hc =>
    rw [readDotted, hstep, hc]
    rfl
  | case2 c name d hc hlength names after hmore ih =>
    rw [readDotted, hstep, hc]
    simp only [Option.map_some, Prod.map_apply, Cursor.rest_shift, hlength, if_true, ih, hmore, id]
  | case3 c name d hc hlength =>
    rw [readDotted, hstep, hc]
    simp only [Option.map_some, Prod.map_apply, Cursor.rest_shift, hlength, if_false, id]

theorem readDollar?_shift :
    readDollar? (c.shift k) = (readDollar? c).map (Prod.map id (.shift k)) := by
  rw [readDollar?, Cursor.expect?_shift, readDollar?]
  rcases c.expect? ['$'] with _ | d
  · rfl
  simp only [Option.map_some, Cursor.identifier?_shift]
  rcases d.identifier? with _ | ⟨name, after⟩ <;> rfl

theorem readField?_shift :
    readField? (c.shift k) = (readField? c).map (Prod.map (.shift k) (.shift k)) := by
  simp only [readField?, readDotted_shift, Prod.map_fst, Prod.map_snd, id, Option.map_map]
  rfl

theorem readDot?_shift :
    readDot? (c.shift k) = (readDot? c).map (Prod.map (.shift k) (.shift k)) := by
  simp only [readDot?, Cursor.expect?_shift, Option.map_map]
  rfl

theorem readVariable?_shift :
    readVariable? (c.shift k) = (readVariable? c).map (Prod.map (.shift k) (.shift k)) := by
  rw [readVariable?, readDollar?_shift, readVariable?]
  rcases readDollar? c with _ | ⟨head, d⟩
  · rfl
  · simp only [Option.map_some, Prod.map_apply, readDotted_shift, id]
    rfl

theorem readText?_shift :
    readText? (c.shift k) = (readText? c).map (Prod.map (.shift k) (.shift k)) := by
  rw [readText?, Cursor.quotedText?_shift, Cursor.rawText?_shift, readText?]
  rcases c.quotedText? with _ | ⟨text, after⟩
  · simp only [Option.map_none, Option.map_map]
    rfl
  · rfl

theorem readMarked?_shift :
    readMarked? (c.shift k) = (readMarked? c).map (Prod.map (.shift k) (.shift k)) := by
  rw [readMarked?, readField?_shift, readDot?_shift, readVariable?_shift, readText?_shift,
    readMarked?]
  rcases readField? c with _ | r
  · rcases readDot? c with _ | r
    · rcases readVariable? c with _ | r <;> rfl
    · rfl
  · rfl

theorem wordOperand_shift (name : String) : (wordOperand name).shift k = wordOperand name := by
  simp only [wordOperand, apply_ite (Operand.shift k)]
  rfl

theorem readWord?_shift :
    readWord? (c.shift k) = (readWord? c).map (Prod.map (.shift k) (.shift k)) := by
  simp only [readWord?, Cursor.identifier?_shift, Option.map_map, Function.comp_def,
    Prod.map_apply, wordOperand_shift]
  rfl

end

section

variable {k : Nat} {pipeline : Cursor → Reading (Pipeline Operand)}
  {operand : Cursor → Reading Operand}

theorem readParenthesized_shift
    (hpipeline : ∀ c, pipeline (c.shift k) = (pipeline c).shift (.shift k) k) (c : Cursor) :
    readParenthesized pipeline (c.shift k) =
      (readParenthesized pipeline c).shift (.shift k) k := by
  rw [readParenthesized, Cursor.expect?_shift, readParenthesized]
  rcases c.expect? ['('] with _ | inside
  · rfl
  simp only [Option.map_some, Cursor.skipBlanks_shift, hpipeline]
  rcases pipeline inside.skipBlanks with (_ | _) | ⟨p, closing⟩
  · rfl
  · rfl
  simp only [Reading.shift, Cursor.skipBlanks_shift, Cursor.expect?_shift]
  rcases closing.skipBlanks.expect? [')'] with _ | after
  · rfl
  · simp only [Option.map_some, Operand.shift_parenthesized]

theorem readChoice_shift
    (hpipeline : ∀ c, pipeline (c.shift k) = (pipeline c).shift (.shift k) k) (c : Cursor) :
    readChoice pipeline (c.shift k) = (readChoice pipeline c).shift (.shift k) k := by
  rw [readChoice, readMarked?_shift, Cursor.numeral_shift, readParenthesized_shift hpipeline,
    readWord?_shift, readChoice]
  -- Each alternative is absent on both sides or on none, so the same one is chosen.
  rcases readMarked? c with _ | r
  · rcases c.numeral with _ | _ | _
    · rcases readParenthesized pipeline c with (_ | _) | r
      · rcases readWord? c with _ | r <;> rfl
      · rfl
      · rfl
    · rfl
    · rfl
  · rfl

theorem readCommand_shift
    (hoperand : ∀ c, operand (c.shift k) = (operand c).shift (.shift k) k) (c : Cursor) :
    readCommand operand (c.shift k) = (readCommand operand c).shift (.shift k) k := by
  rw [readCommand, readList_shift (Cursor.skipBlanks1?_shift k) hoperand, readCommand]
  rcases readList Cursor.skipBlanks1? operand c with stop | ⟨operands, after⟩ <;> rfl

theorem readDeclared_shift (c : Cursor) :
    readDeclared (c.shift k) = (readDeclared c).shift id k := by
  rw [readDeclared, readDollar?_shift, readDeclared]
  rcases readDollar? c with _ | ⟨name, after⟩ <;> rfl

theorem readDeclarations?_shift (c : Cursor) :
    readDeclarations? (c.shift k) = (readDeclarations? c).map (Prod.map id (.shift k)) := by
  rw [readDeclarations?, readList_shift (separator?_shift k · ',') readDeclared_shift,
    readDeclarations?]
  rcases readList (separator? ',') readDeclared c with stop | ⟨names, d⟩
  · rfl
  simp only [Reading.shift, Cursor.skipBlanks_shift, Cursor.expect?_shift, ← Option.map_or,
    List.map_id]
  rcases (d.skipBlanks.expect? [':', '=']).or (d.skipBlanks.expect? ['=']) with _ | after
  · rfl
  · simp only [Option.map_some, Cursor.skipBlanks_shift, Prod.map_apply, id]

theorem readPipelineOf_shift
    (hoperand : ∀ c, operand (c.shift k) = (operand c).shift (.shift k) k) (c : Cursor) :
    readPipelineOf operand (c.shift k) = (readPipelineOf operand c).shift (.shift k) k := by
  have hdeclarations : (readDeclarations? (c.shift k)).getD ([], c.shift k) =
      Prod.map id (.shift k) ((readDeclarations? c).getD ([], c)) := by
    rw [readDeclarations?_shift]
    rcases readDeclarations? c with _ | r <;> rfl
  rw [readPipelineOf, hdeclarations, readPipelineOf]
  rcases (readDeclarations? c).getD ([], c) with ⟨declarations, d⟩
  simp only [Prod.map_apply, id,
    readList_shift (separator?_shift k · '|') (readCommand_shift hoperand)]
  rcases readList (separator? '|') (readCommand operand) d with stop | ⟨commands, after⟩ <;> rfl

theorem readOperand_shift (depth : Nat) (c : Cursor) :
    readOperand depth (c.shift k) = (readOperand depth c).shift (.shift k) k := by
  induction depth generalizing c with
  | zero => exact readChoice_shift (fun c => rfl) c
  | succ depth ih => exact readChoice_shift (readPipelineOf_shift ih) c

/-- **A pipeline is read the same further behind.** -/
theorem readPipeline_shift (c : Cursor) :
    readPipeline (c.shift k) = (readPipeline c).shift (.shift k) k :=
  readPipelineOf_shift (readOperand_shift c.rest.length) c

end

/-! ### Items and nodes -/

section

variable (k : Nat) (c : Cursor) (right : List Char)

theorem SourceError.unexpectedAt_shift :
    SourceError.unexpectedAt (c.shift k) = (SourceError.unexpectedAt c).shift k := rfl

theorem Stop.place_shift (stop : Stop) : (stop.shift k).place = stop.place.shift k := by
  cases stop <;> rfl

theorem Cursor.startsWith_shift (text : List Char) :
    (c.shift k).startsWith text = c.startsWith text := rfl

theorem textNodes_shift (text : List Char) (trimStart trimEnd : Bool) :
    textNodes (c.shift k) text trimStart trimEnd =
      (textNodes c text trimStart trimEnd).map (.shift k) := by
  simp only [textNodes, Cursor.offset_shift, apply_ite (List.map (Node.shift k)), List.map_nil,
    List.map_cons, Node.shift, Nat.add_right_comm]

theorem readComment?_shift :
    readComment? right (c.shift k) = (readComment? right c).map (Prod.map id (.shift k)) := by
  simp only [readComment?, Cursor.expect?_shift, Cursor.until?_shift, Cursor.close?_shift,
    Option.bind_eq_bind, Option.bind_map, Option.map_bind, Function.comp_def, Prod.map_snd]

theorem readKeyword?_shift :
    readKeyword? (c.shift k) = (readKeyword? c).map (Prod.map id (.shift k)) := by
  rw [readKeyword?, Cursor.identifier?_shift, readKeyword?]
  rcases c.identifier? with _ | ⟨name, after⟩
  · rfl
  · simp only [Option.map_some, Prod.map_apply, Option.map_map, id]
    rfl

/-- What was read or the error, moved: what was read by `move`. -/
def shiftResult {α : Type} (move : α → α) (k : Nat) :
    Except SourceError α → Except SourceError α
  | .ok a => .ok (move a)
  | .error e => .error (e.shift k)

theorem readControl_shift :
    readControl right (c.shift k) =
      shiftResult (Prod.map id (.shift k)) k (readControl right c) := by
  rw [readControl, Cursor.until?_shift, readControl]
  rcases c.until? right with _ | ⟨skipped, closing⟩
  · rfl
  simp only [Option.map_some, Prod.map_apply, Cursor.expect?_shift, id]
  rcases closing.expect? right with _ | after <;> rfl

theorem readAction_shift :
    readAction right (c.shift k) =
      shiftResult (Prod.map (.shift k) (Prod.map id (.shift k))) k (readAction right c) := by
  rw [readAction, Cursor.close?_shift, Option.isSome_map, readPipeline_shift, readAction,
    Cursor.startsWith_shift]
  split
  · rfl
  rcases readPipeline c with stop | ⟨pipeline, d⟩
  · simp only [Reading.shift, Stop.place_shift]
    rfl
  simp only [Reading.shift, Cursor.close?_shift]
  rcases d.close? right with _ | ⟨trim, after⟩
  · simp only [Option.map_none, Cursor.skipBlanks_shift, Cursor.startsWith_shift]
    split <;> rfl
  · rfl

theorem readItem_shift (pos : Nat) :
    readItem right (pos + k) (c.shift k) =
      shiftResult (Prod.map (.shift k) (Prod.map id (.shift k))) k (readItem right pos c) := by
  rw [readItem, Cursor.skipBlanks_shift, Cursor.rest_shift, readItem]
  split
  · rfl
  simp only [Cursor.startsWith_shift, readComment?_shift, readKeyword?_shift, readAction_shift]
  split
  · rcases readComment? right c.skipBlanks with _ | r <;> rfl
  rcases readKeyword? c.skipBlanks with _ | ⟨keyword, d⟩
  · rcases readAction right c.skipBlanks with e | r <;> rfl
  · simp only [Option.map_some, Prod.map_apply, readControl_shift, id]
    rcases readControl right d with e | r <;> rfl

end

/-- **A source is read the same further behind**, with every position moved. -/
theorem readNodes_shift (k : Nat) (left right : List Char) (trim : Bool) (c : Cursor) :
    readNodes left right trim (c.shift k) =
      shiftResult (List.map (.shift k)) k (readNodes left right trim c) := by
  rcases hsplit : c.splitText left with ⟨text, opening⟩
  have hsplit' : (c.shift k).splitText left = (text, opening.shift k) := by
    rw [Cursor.splitText_shift, hsplit, Prod.map_apply, id]
  -- The two readings see the same characters, so they stop and go on together.
  rw [readNodes, hsplit', readNodes, hsplit]
  dsimp only
  by_cases hend : opening.atEnd = true
  · have hend' : (opening.shift k).atEnd = true := hend
    rw [if_pos hend', if_pos hend, textNodes_shift, shiftResult]
  have hend' : ¬(opening.shift k).atEnd = true := hend
  rw [if_neg hend', if_neg hend, Cursor.expect?_shift]
  rcases opening.expect? left with _ | inside
  · rfl
  simp only [Option.map_some, Cursor.openingTrim_shift]
  rcases inside.openingTrim with ⟨trimEnd, body⟩
  simp only [Prod.map_apply, Cursor.offset_shift, readItem_shift, id]
  rcases readItem right opening.offset body with e | ⟨node, trimNext, after⟩
  · rfl
  simp only [shiftResult, Prod.map_apply, id]
  by_cases hlength : after.rest.length < c.rest.length
  · have hlength' : (after.shift k).rest.length < (c.shift k).rest.length := hlength
    rw [if_pos hlength', if_pos hlength, readNodes_shift k left right trimNext after,
      textNodes_shift]
    rcases readNodes left right trimNext after with e | nodes
    · rfl
    · simp only [shiftResult, List.map_append, List.map_cons]
  · have hlength' : ¬(after.shift k).rest.length < (c.shift k).rest.length := hlength
    rw [if_neg hlength', if_neg hlength, SourceError.unexpectedAt_shift]
termination_by c.rest.length

end Stencil
