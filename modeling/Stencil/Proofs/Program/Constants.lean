import Stencil.Proofs.Program.ExpressionRoundTrip
import Stencil.Proofs.Program.Emitted
import Stencil.Proofs.Program.Meaning
import Stencil.Proofs.Step.Fragment

/-!
# Constants keep their values

The literals of a template are numbers, texts, truth values and `nil`. A step takes them
for the values they denote, and the routine of the template has an expression for each of
them, in the same order. If such an expression is read as a text of the target language
and evaluated, it gives the value that the step has
(`Stencil.Step.literals_keep_their_values`): the same text, the same number, down to the
sign of a zero and the last bit of the smallest magnitude.

There is one exception. Not-a-number has no literal in the target language, and what is
written for it, `NaN_f64`, is a name that nothing has. No source text denotes
not-a-number, but a tree that is made by hand may hold it.
-/

namespace Stencil

/-! ### Literals of a template -/

/-- **The value that a literal operand denotes.** -/
def Operand.value? : Operand → Option Value
  | nil => some .null
  | bool b => some (.bool b)
  | number n => some (.number n)
  | string s => some (.string s)
  | _ => none

/-- The literals among the operands of a node, from left to right. -/
def Node.literals : Node → List Operand
  | action _ p => p.commands.flatMap fun c => c.operands.filter (·.value?.isSome)
  | _ => []

/-! ### Literals of a routine -/

/-- Whether an expression is a constant, or a reference to one. -/
def Expression.isLiteral : Expression → Bool
  | constant _ => true
  | borrow (constant _) => true
  | _ => false

/-- The literals of an expression: itself, or those among the arguments of a call. -/
def Expression.literals : Expression → List Expression
  | call _ args => args.filter isLiteral
  | e => [e].filter isLiteral

mutual

/-- **The literals of a statement**, from left to right. -/
def Statement.literals : Statement → List Expression
  | write e => e.literals
  | bind e => e.literals
  | block body => Statement.allLiterals body
  | _ => []

/-- The literals of statements. -/
def Statement.allLiterals : List Statement → List Expression
  | [] => []
  | s :: rest => s.literals ++ Statement.allLiterals rest

end

theorem Statement.allLiterals_eq_flatMap (body : List Statement) :
    Statement.allLiterals body = body.flatMap Statement.literals := by
  induction body with
  | nil => rfl
  | cons s rest ih => exact congrArg (s.literals ++ ·) ih

/-! ### Literals in the text -/

/-- A text is part of a list that it is in. -/
theorem infix_intercalate {s : String} {items : List String} (h : s ∈ items) :
    s.toList <:+: (", ".intercalate items).toList := by
  rw [String.toList_intercalate]
  induction items with
  | nil => simp at h
  | cons t rest ih =>
    rcases rest with _ | ⟨u, rest⟩
    · obtain rfl := List.mem_singleton.mp h
      simp
    · rw [List.map_cons, List.map_cons, List.intercalate_cons_cons]
      rcases List.mem_cons.mp h with rfl | h
      · exact (List.prefix_append _ _).isInfix.trans (List.prefix_append _ _).isInfix
      · exact (ih h).trans (List.suffix_append _ _).isInfix

/-- A text is part of what is written around it. -/
theorem infix_between (before s after : String) : s.toList <:+: (before ++ s ++ after).toList := by
  rw [String.toList_append, String.toList_append]
  exact List.infix_append _ _ _

theorem Expression.infix_of_mem_literals {e literal : Expression} (h : literal ∈ e.literals) :
    literal.text.toList <:+: e.text.toList := by
  unfold Expression.literals at h
  split at h
  · next name args =>
    have hmem : literal.text ∈ args.map Expression.text :=
      List.mem_map_of_mem (List.mem_of_mem_filter h)
    rw [Expression.text_call]
    exact (infix_intercalate hmem).trans (infix_between _ _ _)
  · obtain rfl := List.mem_singleton.mp (List.mem_of_mem_filter h)
    exact List.infix_rfl

/-- **The text of a literal stands on a line of its statement.** -/
theorem Statement.exists_line_of_mem_literals : ∀ (s : Statement), ∀ literal ∈ s.literals,
    ∃ line ∈ s.lines, literal.text.toList <:+: line.toList
  | .remark _ _, _, h => absurd h List.not_mem_nil
  | .writeText _, _, h => absurd h List.not_mem_nil
  | .write e, _, h => by
    refine ⟨_, List.mem_singleton.mpr rfl, ?_⟩
    exact (Expression.infix_of_mem_literals h).trans (infix_between _ _ _)
  | .bind e, _, h => by
    refine ⟨_, List.mem_singleton.mpr rfl, ?_⟩
    exact (Expression.infix_of_mem_literals h).trans (infix_between _ _ _)
  | .block body, literal, h => by
    rw [Statement.literals, Statement.allLiterals_eq_flatMap] at h
    obtain ⟨s, hs, hliteral⟩ := List.mem_flatMap.mp h
    obtain ⟨line, hline, hinfix⟩ := s.exists_line_of_mem_literals literal hliteral
    refine ⟨indentLine line, ?_, hinfix.trans ?_⟩
    · have hmem : indentLine line ∈ indentLines (body.flatMap Statement.lines) :=
        List.mem_map_of_mem (List.mem_flatMap.mpr ⟨s, hs, hline⟩)
      rw [Statement.lines_block]
      simp [hmem]
    · unfold indentLine
      split
      · exact List.infix_rfl
      · rw [String.toList_append]
        exact (List.suffix_append _ _).isInfix

/-! ### Reading one expression -/

/-- **The expression with a text**, of which nothing may be left over. -/
def Expression.ofText? (s : String) : Option Expression :=
  match Token.ofText? s with
  | none => none
  | some ts =>
    match Expression.read ts.length ts with
    | some (e, []) => some e
    | _ => none

/-- An expression that can be written is read from its text. -/
theorem Expression.Writable.ofText?_text {e : Expression} (h : e.Writable) :
    Expression.ofText? e.text = some e := by
  have hend : Token.phrase ".clone()" [] = none := by decide +kernel
  have hread := h.readsBack e.tokens.length le_rfl [] hend
  rw [List.append_nil] at hread
  rw [Expression.ofText?, e.isOpen.ofText?_eq]
  simp only [hread]

/-- **What is written for not-a-number cannot be read.** -/
theorem Expression.ofText?_nan : Expression.ofText? (constant (.number .nan)).text = none ∧
    Expression.ofText? (borrow (constant (.number .nan))).text = none := by
  decide +kernel

/-! ### One literal -/

/-- **An expression stands for a literal operand.** The operand denotes a value, which the
step that it becomes a part of takes it for; and if it is not not-a-number, the text of
the expression is one of the target language, and of that value too. -/
structure Operand.EmittedAs (o : Operand) (e : Expression) (v : Value) : Prop where
  denotes : o.value? = some v
  run : ∀ pos, ∃ t, Term.ofOperand pos o = .ok t ∧ ∀ data, t.eval data = .ok v
  read : o ≠ .number .nan → ∃ read, Expression.ofText? e.text = some read ∧
    ∀ registry data local?, read.eval registry data local? = .quiet (.ok v)
  unreadable : o = .number .nan → Expression.ofText? e.text = none

/-- Expressions stand for literal operands, in the same order. -/
def Emits (operands : List Operand) (es : List Expression) : Prop :=
  List.Forall₂ (fun o e => ∃ v, o.EmittedAs e v) operands es

theorem Emits.append {operands others : List Operand} {es fs : List Expression}
    (h : Emits operands es) (h' : Emits others fs) : Emits (operands ++ others) (es ++ fs) :=
  List.rel_append h h'

theorem Constant.value?_operand (c : Constant) : c.operand.value? = some c.toValue := by
  rcases c with _ | b | n | s <;> rfl

theorem Constant.operand_eq_nan_iff (c : Constant) :
    c.operand = .number .nan ↔ c = .number .nan := by
  rcases c with _ | b | n | s <;> simp [Constant.operand]

/-- **A constant stands for its operand**, by itself and after a reference. -/
theorem Constant.emittedAs (c : Constant) : c.operand.EmittedAs (.constant c) c.toValue ∧
    c.operand.EmittedAs (.borrow (.constant c)) c.toValue := by
  have hrun : ∀ pos, ∃ t, Term.ofOperand pos c.operand = .ok t ∧
      ∀ data, t.eval data = .ok c.toValue := fun pos =>
    ⟨.constant c, Term.ofOperand_operand pos (.constant c), fun _ => rfl⟩
  have hwritable (hc : c.operand ≠ .number .nan) : (Expression.constant c).Writable :=
    .constant (mt c.operand_eq_nan_iff.mpr hc)
  constructor
  · refine ⟨c.value?_operand, hrun, fun hc => ?_, fun hc => ?_⟩
    · exact ⟨_, (hwritable hc).ofText?_text, fun _ _ _ => rfl⟩
    · rw [c.operand_eq_nan_iff.mp hc]
      exact Expression.ofText?_nan.1
  · refine ⟨c.value?_operand, hrun, fun hc => ?_, fun hc => ?_⟩
    · exact ⟨_, (hwritable hc).borrow.ofText?_text, fun _ _ _ => rfl⟩
    · rw [c.operand_eq_nan_iff.mp hc]
      exact Expression.ofText?_nan.2

/-! ### All literals, in their order -/

/-- A term is emitted in two ways, as a value and as a reference, and both keep its literal. -/
theorem Term.emits (t : Term) :
    Emits ([t.operand].filter (·.value?.isSome)) ([t.expression].filter Expression.isLiteral) ∧
      Emits ([t.operand].filter (·.value?.isSome)) ([t.reference].filter Expression.isLiteral) := by
  rcases t with path | _ | c
  · exact ⟨.nil, .nil⟩
  · exact ⟨.nil, .nil⟩
  · have hoperand : [c.operand].filter (·.value?.isSome) = [c.operand] := by
      simp [c.value?_operand]
    rw [Term.operand, hoperand]
    exact ⟨.cons ⟨_, c.emittedAs.1⟩ .nil, .cons ⟨_, c.emittedAs.2⟩ .nil⟩

theorem Term.emits_expressions (ts : List Term) :
    Emits ((ts.map Term.operand).filter (·.value?.isSome))
      ((ts.map Term.expression).filter Expression.isLiteral) := by
  induction ts with
  | nil => exact .nil
  | cons t rest ih =>
    have happend := t.emits.1.append ih
    simpa only [← List.filter_append, List.singleton_append, List.map_cons] using happend

/-- The literals of a call, after arguments that are none. -/
theorem Call.emits (c : Call) {first : List Expression}
    (hfirst : first.filter Expression.isLiteral = []) :
    Emits (c.operands.filter (·.value?.isSome)) (c.expression first).literals := by
  have hoperands : c.operands.filter (·.value?.isSome) =
      (c.args.map Term.operand).filter (·.value?.isSome) :=
    List.filter_cons_of_neg (by simp [Operand.value?])
  have hliterals : (c.expression first).literals =
      (c.args.map Term.expression).filter Expression.isLiteral := by
    rw [Call.expression, Expression.literals, List.filter_append, hfirst, List.nil_append]
  rw [hoperands, hliterals]
  exact Term.emits_expressions c.args

theorem Head.emits (h : Head) :
    Emits (h.operands.filter (·.value?.isSome)) h.expression.literals := by
  rcases h with t | c
  · have hliterals : t.expression.literals = [t.expression].filter Expression.isLiteral := by
      rcases t with path | _ | c <;> rfl
    rw [Head.expression, hliterals]
    exact t.emits.1
  · exact c.emits rfl

theorem Call.emits_stages (stages : List Call) :
    Emits (stages.flatMap fun stage => stage.operands.filter (·.value?.isSome))
      (stages.flatMap fun stage => (stage.expression [.value]).literals) := by
  induction stages with
  | nil => exact .nil
  | cons stage rest ih => exact (stage.emits rfl).append ih

/-- The literals of a chain with a block. -/
theorem Chain.emits_block (head : Head) (stages : List Call) :
    Emits (head.operands.filter (·.value?.isSome) ++
        stages.flatMap fun stage => stage.operands.filter (·.value?.isSome))
      (Statement.block (Statement.bind head.expression ::
        (stages.map fun stage => Statement.bind (stage.expression [.value])) ++
          [Statement.write .value])).literals := by
  have hliterals : (Statement.block (Statement.bind head.expression ::
      (stages.map fun stage => Statement.bind (stage.expression [.value])) ++
        [Statement.write .value])).literals =
        head.expression.literals ++
          stages.flatMap fun stage => (stage.expression [.value]).literals := by
    have hbind (e : Expression) : (Statement.bind e).literals = e.literals := rfl
    have hwrite : (Statement.write .value).literals = [] := rfl
    rw [Statement.literals, Statement.allLiterals_eq_flatMap]
    simp [List.flatMap_map, hbind, hwrite]
  rw [hliterals]
  exact head.emits.append (Call.emits_stages stages)

/-- **The literals of a chain.** -/
theorem Chain.emits (c : Chain) :
    Emits (c.head.operands.filter (·.value?.isSome) ++
        c.stages.flatMap fun stage => stage.operands.filter (·.value?.isSome))
      c.statement.literals := by
  obtain ⟨head, stages⟩ := c
  rcases head with t | call
  · rcases stages with _ | ⟨stage, rest⟩
    · have hliterals : (Statement.write t.reference).literals =
          [t.reference].filter Expression.isLiteral := by
        rcases t with path | _ | c <;> rfl
      have hemits := t.emits.2.append .nil
      rwa [List.append_nil ([t.reference].filter _), ← hliterals] at hemits
    · exact Chain.emits_block (.term t) (stage :: rest)
  · exact Chain.emits_block (.call call) stages

/-- The literals of steps stand for those of the nodes that spell them. -/
theorem Step.SpelledBy.emits {lines : LineIndex} {steps : List Step} {nodes : List Node}
    (h : Step.SpelledBy lines steps nodes) (template : String) :
    Emits (nodes.flatMap Node.literals)
      ((Step.statements template steps).flatMap Statement.literals) := by
  induction h with
  | nil => exact .nil
  | text _ ih => exact ih
  | comment _ ih => exact ih
  | @action pos p c steps rest hc _ ih =>
    have hoperands : (Node.action pos p).literals =
        c.head.operands.filter (·.value?.isSome) ++
          c.stages.flatMap fun stage => stage.operands.filter (·.value?.isSome) := by
      have hcommands := congrArg (List.flatMap fun os => os.filter (·.value?.isSome)) hc.2
      rwa [List.flatMap_map, List.flatMap_cons, List.flatMap_map] at hcommands
    rw [List.flatMap_cons, hoperands]
    exact c.emits.append ih

/-- **Literals keep their values.** Every literal of a template that can be compiled has
a value, which the steps of the template use. The statements of its routine have a
literal for each of them, in the same order and on one of their lines; and the text of
that literal, read and evaluated in the target language, gives the same value, whatever
the functions and the data are. Only for not-a-number there is nothing to be read. -/
theorem Step.literals_keep_their_values {template : String} {nodes : List Node}
    {lines : LineIndex} {steps : List Step} (h : Step.ofNodes template nodes lines = .ok steps) :
    List.Forall₂ (fun o e => ∃ v, Operand.EmittedAs o e v) (nodes.flatMap Node.literals)
      ((Step.statements template steps).flatMap Statement.literals) ∧
    ∀ e ∈ (Step.statements template steps).flatMap Statement.literals,
      ∃ line ∈ (Step.statements template steps).flatMap Statement.lines,
        e.text.toList <:+: line.toList := by
  have hspelled : Step.SpelledBy lines steps nodes := by
    refine Step.listOfNodes_eq_ok_iff.mp ?_
    unfold Step.ofNodes at h
    split at h
    · next hlist => rw [hlist, Except.ok.inj h]
    · cases h
  refine ⟨hspelled.emits template, fun e he => ?_⟩
  obtain ⟨s, hs, he⟩ := List.mem_flatMap.mp he
  obtain ⟨line, hline, hinfix⟩ := s.exists_line_of_mem_literals e he
  exact ⟨line, List.mem_flatMap.mpr ⟨s, hs, hline⟩, hinfix⟩

/-- The sign of a zero is kept, and so is a text with a quote and a line feed. -/
theorem Step.literals_keep_their_values_zero :
    Step.ofNodes "t" [.action 0 ⟨2, [], [⟨2, [.identifier "f",
        .number (.finite true ⟨0, by decide⟩), .string "\"\n"]⟩]⟩] ⟨[]⟩ =
      .ok [⟨1, .chain ⟨.call ⟨"f", [.constant (.number (.finite true ⟨0, by decide⟩)),
        .constant (.string "\"\n")]⟩, []⟩⟩] ∧
    (∃ e, Expression.ofText? "comtmpl_lang::Value::from(-0.0_f64)" = some e ∧
      ∀ registry data local?, e.eval registry data local? =
        .quiet (.ok (.number (.finite true ⟨0, by decide⟩)))) ∧
    ∃ e, Expression.ofText? "comtmpl_lang::Value::from(\"\\\"\\n\")" = some e ∧
      ∀ registry data local?, e.eval registry data local? = .quiet (.ok (.string "\"\n")) := by
  have hsteps : Step.ofNodes "t" [.action 0 ⟨2, [], [⟨2, [.identifier "f",
      .number (.finite true ⟨0, by decide⟩), .string "\"\n"]⟩]⟩] ⟨[]⟩ =
    .ok [⟨1, .chain ⟨.call ⟨"f", [.constant (.number (.finite true ⟨0, by decide⟩)),
      .constant (.string "\"\n")]⟩, []⟩⟩] := rfl
  obtain ⟨⟨v, hzero⟩, hrest⟩ := List.forall₂_cons.mp (Step.literals_keep_their_values hsteps).1
  obtain ⟨⟨w, htext⟩, -⟩ := List.forall₂_cons.mp hrest
  obtain rfl := Option.some.inj hzero.denotes
  obtain rfl := Option.some.inj htext.denotes
  have hzeroText : (Expression.constant (.number (.finite true ⟨0, by decide⟩))).text =
      "comtmpl_lang::Value::from(-0.0_f64)" := by decide +kernel
  have htextText : (Expression.constant (.string "\"\n")).text =
      "comtmpl_lang::Value::from(\"\\\"\\n\")" := by decide +kernel
  refine ⟨hsteps, ?_, ?_⟩
  · rw [← hzeroText]
    exact hzero.read (by simp)
  · rw [← htextText]
    exact htext.read (by simp)

/-- **Not-a-number is written as a name that nothing has.** -/
theorem Step.nan_has_no_literal : ∃ steps,
    Step.ofNodes "t" [.action 0 ⟨2, [], [⟨2, [.number .nan]⟩]⟩] ⟨[]⟩ = .ok steps ∧
    (Step.statements "t" steps).flatMap Statement.lines =
      ["// t:1", "write!(writer, \"\x7b\x7d\", &comtmpl_lang::Value::from(NaN_f64))?;"] ∧
    Expression.ofText? "&comtmpl_lang::Value::from(NaN_f64)" = none := by
  have htext : (Expression.borrow (.constant (.number .nan))).text =
      "&comtmpl_lang::Value::from(NaN_f64)" := by decide +kernel
  refine ⟨[⟨1, .chain ⟨.term (.constant (.number .nan)), []⟩⟩], rfl, ?_, ?_⟩
  · decide +kernel
  · rw [← htext]
    exact Expression.ofText?_nan.2

end Stencil
