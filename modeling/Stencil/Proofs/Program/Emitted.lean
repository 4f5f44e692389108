import Stencil.Engine
import Stencil.Proofs.Program.Names
import Stencil.Proofs.Program.Scan
import Stencil.Proofs.Source.Derivation

/-!
# Emitted programs can be written

A program can be written if its names are identifiers, each with one meaning, and
if no constant in it is the number that equals nothing: that number has no literal.
Every emitted program is of this kind (`Stencil.Program.Writable.addSteps`). For the
names this is what they are made for. For the numbers it is a fact about sources: a
numeral never reads as the number that equals nothing, whatever its digits and its
exponent (`Stencil.numeral_ne_nan`), and from there the fact is handed on from
operands to terms, to calls, to chains and to steps.
-/

namespace Stencil

/-! ### Numbers of a source -/

/-- No numeral reads as the number that equals nothing. -/
theorem numeral_ne_nan {c after : Cursor} {n : Number} (h : c.numeral = .complete n after) :
    n ≠ .nan := by
  unfold Cursor.numeral at h
  split at h
  · cases h
  · split at h
    · dsimp only at h
      split at h
      · cases h
      · split at h
        · cases h
          exact Decimal.toNumber_ne_nan _ _
        · cases h
          exact Decimal.toNumber_ne_nan _ _
        · cases h
    · cases h

theorem readMarked?_ne_number {c after : Cursor} {o : Operand}
    (h : readMarked? c = some (o, after)) (n : Number) : o ≠ .number n := by
  rintro rfl
  have hfield : readField? c ≠ some (.number n, after) := by simp [readField?]
  have hdot : readDot? c ≠ some (.number n, after) := by simp [readDot?]
  have hvariable : readVariable? c ≠ some (.number n, after) := by
    unfold readVariable?
    split <;> simp
  have htext : readText? c ≠ some (.number n, after) := by
    unfold readText?
    split <;> simp
  unfold readMarked? at h
  split at h
  · simp_all
  · split at h
    · simp_all
    · split at h <;> simp_all

theorem readWord?_ne_number {c after : Cursor} {o : Operand} (h : readWord? c = some (o, after))
    (n : Number) : o ≠ .number n := by
  rintro rfl
  simp only [readWord?, Option.map_eq_some_iff, Prod.mk.injEq, wordOperand] at h
  obtain ⟨_, -, hword, -⟩ := h
  repeat' split at hword
  all_goals cases hword

/-- An operand that is a number or no number at all, but not the one that equals
nothing. -/
def Operand.Proper (o : Operand) : Prop := o ≠ .number .nan

theorem Operand.proper_of_readOperand {depth : Nat} {c after : Cursor} {o : Operand}
    (h : readOperand depth c = .ok (o, after)) : o.Proper := by
  obtain ⟨pipeline, hdepth⟩ := exists_readOperand_eq depth
  rw [hdepth] at h
  cases OperandRead.of_readChoice h with
  | marked hmarked => exact readMarked?_ne_number hmarked _
  | numeral hnumeral =>
    intro heq
    exact numeral_ne_nan hnumeral (Operand.number.inj heq)
  | parenthesized => exact nofun
  | word hword => exact readWord?_ne_number hword _

/-- A pipeline with proper operands. -/
def Pipeline.Proper (p : Pipeline Operand) : Prop :=
  ∀ command ∈ p.commands, ∀ o ∈ command.operands, o.Proper

theorem Pipeline.proper_of_readPipeline {c after : Cursor} {p : Pipeline Operand}
    (h : readPipeline c = .ok (p, after)) : p.Proper := by
  unfold readPipeline readPipelineOf at h
  dsimp only at h
  split at h
  · next commands _ hcommands =>
    cases h
    refine forall_of_readList (fun d command e hcommand => ?_) hcommands
    unfold readCommand at hcommand
    split at hcommand
    · next hoperands =>
      cases hcommand
      exact forall_of_readList (fun _ _ _ => Operand.proper_of_readOperand) hoperands
    · cases hcommand
  · cases h

theorem NodesRead.proper {left right : List Char} {trim : Bool} {c : Cursor} {nodes : List Node}
    (h : NodesRead left right trim c nodes) {pos : Nat} {p : Pipeline Operand}
    (hnode : .action pos p ∈ nodes) : p.Proper := by
  have htext (d : Cursor) (text : List Char) (trimStart trimEnd : Bool) :
      Node.action pos p ∉ textNodes d text trimStart trimEnd := by
    simp only [textNodes]
    split <;> simp
  induction h with
  | last => exact absurd hnode (htext _ _ _ _)
  | item _ _ _ _ hitem _ ih =>
    rcases List.mem_append.mp hnode with hnode | hnode
    · exact absurd hnode (htext _ _ _ _)
    rcases List.mem_cons.mp hnode with rfl | hnode
    · cases hitem with
      | action hpipeline _ => exact Pipeline.proper_of_readPipeline hpipeline
    · exact ih hnode

/-- **The numbers of a source are proper**: every pipeline that is read is. -/
theorem Pipeline.proper_of_parse {delimiters : Delimiters} {source : String} {nodes : List Node}
    (h : parse delimiters source = .ok nodes) {pos : Nat} {p : Pipeline Operand}
    (hnode : .action pos p ∈ nodes) : p.Proper :=
  (NodesRead.of_readNodes h).proper hnode

/-! ### Numbers of steps -/

theorem exists_of_map_eq_ok {ε α β : Type} {f : α → β} {x : Except ε α} {b : β}
    (h : x.map f = .ok b) : ∃ a, x = .ok a ∧ f a = b := by
  cases x with
  | error e => cases h
  | ok a => exact ⟨a, rfl, Except.ok.inj h⟩

/-- A term that is not the number that equals nothing. -/
def Term.Proper (t : Term) : Prop := t ≠ .constant (.number .nan)

/-- A call with proper arguments. -/
def Call.Proper (c : Call) : Prop := ∀ t ∈ c.args, t.Proper

/-- A first value that is made from proper terms. -/
def Head.Proper : Head → Prop
  | term t => t.Proper
  | call c => c.Proper

/-- A chain that is made from proper terms. -/
def Chain.Proper (c : Chain) : Prop := c.head.Proper ∧ ∀ stage ∈ c.stages, stage.Proper

/-- A step that is made from proper terms. -/
def Step.Proper (s : Step) : Prop := ∀ c, s.output = .chain c → c.Proper

theorem Term.proper_of_ofOperand {pos : Nat} {o : Operand} {t : Term}
    (h : Term.ofOperand pos o = .ok t) (ho : o.Proper) : t.Proper := by
  rintro rfl
  cases o with
  | number n =>
    cases h
    exact ho rfl
  | field _ | dot | bool _ | string _ | nil | identifier _ | variableRef _ | parenthesized _ =>
    cases h

theorem Term.proper_of_ofOperands {pos : Nat} {operands : List Operand} {ts : List Term}
    (h : Term.ofOperands pos operands = .ok ts) (ho : ∀ o ∈ operands, o.Proper) :
    ∀ t ∈ ts, t.Proper := by
  induction operands generalizing ts with
  | nil =>
    cases h
    simp
  | cons o rest ih =>
    obtain ⟨hfirst, hrest⟩ := List.forall_mem_cons.mp ho
    unfold Term.ofOperands at h
    split at h
    · cases h
    · next t ht =>
      split at h
      · cases h
      · next ts hts =>
        cases h
        exact List.forall_mem_cons.mpr ⟨proper_of_ofOperand ht hfirst, ih hts hrest⟩

theorem Call.proper_of_ofOperands {pos : Nat} {name : String} {operands : List Operand} {c : Call}
    (h : Call.ofOperands pos name operands = .ok c) (ho : ∀ o ∈ operands, o.Proper) :
    c.Proper := by
  obtain ⟨ts, hts, rfl⟩ := exists_of_map_eq_ok h
  exact Term.proper_of_ofOperands hts ho

theorem Head.proper_of_ofCommand {command : Command Operand} {head : Head}
    (h : Head.ofCommand command = .ok head) (ho : ∀ o ∈ command.operands, o.Proper) :
    head.Proper := by
  unfold Head.ofCommand at h
  split at h
  · cases h
  · next name rest hoperands =>
    obtain ⟨c, hc, rfl⟩ := exists_of_map_eq_ok h
    rw [hoperands] at ho
    exact Call.proper_of_ofOperands hc (List.forall_mem_cons.mp ho).2
  · next o _ hoperands =>
    obtain ⟨t, ht, rfl⟩ := exists_of_map_eq_ok h
    rw [hoperands] at ho
    exact Term.proper_of_ofOperand ht (ho o (by simp))
  all_goals cases h

theorem Call.proper_of_ofCommands {commands : List (Command Operand)} {calls : List Call}
    (h : Call.ofCommands commands = .ok calls)
    (ho : ∀ command ∈ commands, ∀ o ∈ command.operands, o.Proper) :
    ∀ call ∈ calls, call.Proper := by
  induction commands generalizing calls with
  | nil =>
    cases h
    simp
  | cons command rest ih =>
    obtain ⟨hfirst, hrest⟩ := List.forall_mem_cons.mp ho
    unfold Call.ofCommands at h
    split at h
    · cases h
    · next call hcall =>
      split at h
      · cases h
      · next calls hcalls =>
        cases h
        refine List.forall_mem_cons.mpr ⟨?_, ih hcalls hrest⟩
        unfold Call.ofCommand at hcall
        split at hcall
        case h_2 name operands hoperands =>
          rw [hoperands] at hfirst
          exact proper_of_ofOperands hcall (List.forall_mem_cons.mp hfirst).2
        all_goals cases hcall

theorem Chain.proper_of_ofPipeline {p : Pipeline Operand} {chain : Chain}
    (h : Chain.ofPipeline p = .ok chain) (hp : p.Proper) : chain.Proper := by
  unfold Chain.ofPipeline at h
  split at h
  · split at h
    · cases h
    · next first rest hcommands =>
      rw [Pipeline.Proper, hcommands] at hp
      obtain ⟨hfirst, hrest⟩ := List.forall_mem_cons.mp hp
      split at h
      · cases h
      · next head hhead =>
        obtain ⟨stages, hstages, rfl⟩ := exists_of_map_eq_ok h
        exact ⟨Head.proper_of_ofCommand hhead hfirst, Call.proper_of_ofCommands hstages hrest⟩
  · cases h

theorem Step.proper_of_listOfNodes {lines : LineIndex} {nodes : List Node} {steps : List Step}
    (h : Step.listOfNodes lines nodes = .ok steps)
    (hnodes : ∀ pos p, .action pos p ∈ nodes → p.Proper) : ∀ s ∈ steps, s.Proper := by
  induction nodes generalizing steps with
  | nil =>
    cases h
    simp
  | cons node rest ih =>
    unfold Step.listOfNodes at h
    split at h
    · cases h
    · next output? houtput =>
      split at h
      · cases h
      · next steps hsteps =>
        have hrest := ih hsteps fun pos p hp => hnodes pos p (by simp [hp])
        cases h
        split
        · next output =>
          refine List.forall_mem_cons.mpr ⟨fun chain hchain => ?_, hrest⟩
          cases node with
          | action pos p =>
            obtain ⟨c, hc, hsome⟩ := exists_of_map_eq_ok houtput
            cases hchain.symm.trans (Option.some.inj hsome).symm
            exact Chain.proper_of_ofPipeline hc (hnodes pos p (by simp))
          | text | comment | control => simp_all [Output.ofNode?]
        · exact hrest

/-- **The steps of a source are proper.** -/
theorem Step.proper_of_ofNodes {delimiters : Delimiters} {source template : String}
    {nodes : List Node} {lines : LineIndex} {steps : List Step}
    (hparse : parse delimiters source = .ok nodes)
    (h : Step.ofNodes template nodes lines = .ok steps) : ∀ s ∈ steps, s.Proper := by
  unfold Step.ofNodes at h
  split at h
  · next hsteps =>
    cases h
    exact proper_of_listOfNodes hsteps fun pos p => Pipeline.proper_of_parse hparse
  · cases h

/-! ### Expressions and statements -/

theorem Term.Proper.writable_expression {t : Term} (h : t.Proper) : t.expression.Writable := by
  cases t with
  | field path => exact .clone (.field path.segments) nofun
  | dot => exact .clone .data nofun
  | constant c => exact .constant fun hc => h (congrArg Term.constant hc)

theorem Term.Proper.writable_reference {t : Term} (h : t.Proper) : t.reference.Writable := by
  cases t with
  | field path => exact .field path.segments
  | dot => exact .data
  | constant c => exact .borrow (.constant fun hc => h (congrArg Term.constant hc))

theorem Call.Proper.writable_expression {c : Call} (h : c.Proper) {first : List Expression}
    (hfirst : ∀ e ∈ first, e.Writable) : (c.expression first).Writable := by
  refine .call c.name fun e he => ?_
  rcases List.mem_append.mp he with he | he
  · exact hfirst e he
  · obtain ⟨t, ht, rfl⟩ := List.mem_map.mp he
    exact (h t ht).writable_expression

theorem Head.Proper.writable_expression {head : Head} (h : head.Proper) :
    head.expression.Writable := by
  cases head with
  | term t => exact Term.Proper.writable_expression h
  | call c => exact Call.Proper.writable_expression h (by simp)

theorem Chain.Proper.writable_statement {c : Chain} (h : c.Proper) : c.statement.Writable := by
  obtain ⟨hhead, hstages⟩ := h
  unfold Chain.statement
  split
  · next t ht _ =>
    rw [ht] at hhead
    exact .write (Term.Proper.writable_reference hhead)
  · refine .block fun s hs => ?_
    simp only [List.cons_append, List.mem_cons, List.mem_append, List.mem_map, List.not_mem_nil,
      or_false] at hs
    rcases hs with rfl | ⟨stage, hstage, rfl⟩ | rfl
    · exact .bind hhead.writable_expression
    · refine .bind ((hstages stage hstage).writable_expression ?_)
      simpa using Expression.Writable.value
    · exact .write .value

/-- The statements of proper steps can be written. -/
theorem Step.writable_statements {steps : List Step} (h : ∀ s ∈ steps, s.Proper)
    (template : String) : ∀ s ∈ Step.statements template steps, s.Writable := by
  intro statement hstatement
  obtain ⟨step, hstep, hmem⟩ := List.mem_flatMap.mp hstatement
  rcases List.mem_pair.mp hmem with rfl | rfl
  · exact .remark template step.line
  · cases houtput : step.output with
    | text s => exact .writeText s
    | chain c => exact (h step hstep c houtput).writable_statement

/-! ### Programs -/

namespace Program

/-- Whatever can name a module is an identifier. -/
theorem exists_identifier_moduleName {name : String} (h : isModuleName name = true) :
    ∃ i : Identifier, i.text = name := by
  unfold isModuleName at h
  split at h
  · cases h
  · next c cs hname =>
    simp only [Bool.and_eq_true, List.all_eq_true] at h
    obtain ⟨⟨⟨hfirst, hothers⟩, -⟩, -⟩ := h
    refine ⟨⟨c, cs, hfirst, hothers⟩, ?_⟩
    rw [Identifier.text, Identifier.chars, ← hname, String.ofList_toList]

/-- A program without routines can be written. -/
theorem writable_start {moduleName : Option String} {p : Program}
    (h : start moduleName = .ok p) : p.Writable := by
  unfold start at h
  split at h
  · cases h
    exact ⟨by simp, by simp, by simp [routineNames]⟩
  · next name =>
    split at h
    · next hname =>
      cases h
      refine ⟨?_, by simp, by simp [routineNames]⟩
      simpa using exists_identifier_moduleName hname
    · cases h

/-- **Adding a routine for proper steps keeps a program one that can be written.** -/
theorem Writable.addSteps {p : Program} (h : p.Writable) {steps : List Step}
    (hsteps : ∀ s ∈ steps, s.Proper) (template : String) :
    (p.addSteps template steps).Writable := by
  refine ⟨h.moduleName, ?_, ?_⟩
  · intro entry hentry
    rcases List.mem_append.mp hentry with hentry | hentry
    · exact h.routines entry hentry
    · obtain rfl := List.mem_singleton.mp hentry
      exact ⟨(isRoutineName_routineName _ _).exists_identifier,
        Step.writable_statements hsteps template⟩
  · exact nodup_names_addSteps h.names template steps

end Program

end Stencil
