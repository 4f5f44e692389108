import Stencil.Library

/-!
# Routines mean what their steps do

The emitted routine of a list of steps, run by the meaning of the target language,
leaves behind exactly what running the steps leaves behind: the same sink and the
same outcome. The argument follows the shape of what is emitted. A term is an
expression of the same value, a call evaluates the same arguments in the same
order, a chain is a block whose local name always holds the value that the chain
has reached, and a comment line does nothing.

The main statement is `Stencil.Routine.render_statements`.
-/

namespace Stencil

variable (registry : Registry) (data : Value) (local? : Option Value) (sink : Sink)

/-! ### What a step leaves behind -/

/-- The rendering of an evaluation: its text is written, its failure is kept. -/
def Rendering.ofResult (sink : Sink) : Except RenderError String → Rendering
  | .error e => ⟨sink, .error e⟩
  | .ok text => .ofText sink text

/-- A step leaves behind the rendering of its evaluation. -/
theorem Step.render_value (s : Step) :
    (s.render registry data sink).value =
      Rendering.ofResult sink (s.output.eval registry data).value := by
  simp only [Step.render]
  cases (s.output.eval registry data).value <;> rfl

/-- Running one step and then others: the others only run if the first succeeds,
and they find the sink as the first left it. -/
theorem Step.renderAll_cons_value (template : String) (s : Step) (rest : List Step) :
    (Step.renderAll registry data template sink (s :: rest)).value =
      match (s.render registry data sink).value with
      | ⟨sink', .error e⟩ => ⟨sink', .error e⟩
      | ⟨sink', .ok ()⟩ => (Step.renderAll registry data template sink' rest).value := by
  rcases h : (s.render registry data sink).value with ⟨sink', e | u⟩
  · simp [Step.renderAll, h]
  · simp [Step.renderAll, h, Logged.after]

/-! ### Terms and calls -/

/-- An emitted term is a quiet expression with the value of the term. -/
theorem Term.eval_expression (t : Term) :
    t.expression.eval registry data local? = .quiet ((t.eval data).mapError .access) := by
  cases t with
  | field path =>
    simp only [Term.expression, Expression.eval, Term.eval]
    cases data.resolve path.segments <;> rfl
  | dot => rfl
  | constant c => rfl

/-- An emitted reference to a term has the value of the term. -/
theorem Term.eval_reference (t : Term) :
    t.reference.eval registry data local? = .quiet ((t.eval data).mapError .access) := by
  cases t with
  | field path =>
    simp only [Term.reference, Expression.eval, Term.eval]
    cases data.resolve path.segments <;> rfl
  | dot => rfl
  | constant c => rfl

/-- Emitted arguments are evaluated from left to right, as terms are, and the first
failure is the same. -/
theorem Term.evalAll_expressions (ts : List Term) :
    Expression.evalAll registry data local? (ts.map Term.expression) =
      .quiet ((Term.evalAll data ts).mapError .access) := by
  induction ts with
  | nil => rfl
  | cons t rest ih =>
    simp only [List.map_cons, Expression.evalAll, Term.evalAll, Term.eval_expression, ih]
    cases t.eval data with
    | error e => rfl
    | ok v => cases Term.evalAll data rest <;> rfl

/-- Arguments that evaluate quietly can be evaluated before the others. -/
theorem Expression.evalAll_append {first : List Expression} {vs : List Value}
    (hfirst : Expression.evalAll registry data local? first = .quiet (.ok vs))
    (others : List Expression) :
    Expression.evalAll registry data local? (first ++ others) =
      ⟨(Expression.evalAll registry data local? others).value.map (vs ++ ·),
        (Expression.evalAll registry data local? others).events⟩ := by
  induction first generalizing vs with
  | nil =>
    have hvs : vs = [] := by
      simp only [Expression.evalAll, Logged.quiet, Logged.mk.injEq, Except.ok.injEq] at hfirst
      exact hfirst.1.symm
    subst hvs
    cases h : Expression.evalAll registry data local? others with
    | mk value events => cases value <;> simp [Except.map, h]
  | cons e rest ih =>
    simp only [Expression.evalAll] at hfirst
    rcases he : e.eval registry data local? with ⟨_ | v, events⟩
    · simp [he, Logged.quiet] at hfirst
    rcases hr : Expression.evalAll registry data local? rest with ⟨_ | ws, events'⟩
    · simp [he, hr, Logged.quiet] at hfirst
    simp only [he, hr, Logged.quiet, Logged.mk.injEq, Except.ok.injEq,
      List.append_eq_nil_iff] at hfirst
    obtain ⟨rfl, rfl, rfl⟩ := hfirst
    rw [List.cons_append, Expression.evalAll, he, ih hr]
    cases (Expression.evalAll registry data local? others).value <;> rfl

/-- **An emitted call is the call**, after first arguments that stand for values. -/
theorem Call.eval_expression {first : List Expression} {vs : List Value}
    (hfirst : Expression.evalAll registry data local? first = .quiet (.ok vs)) (c : Call) :
    (c.expression first).eval registry data local? = c.eval registry data vs := by
  simp only [Call.expression, Expression.eval, Call.eval,
    Expression.evalAll_append registry data local? hfirst, Term.evalAll_expressions]
  cases Term.evalAll data c.args <;> rfl

/-- The first value of a chain is the value of its expression. -/
theorem Head.eval_expression (h : Head) :
    h.expression.eval registry data local? = h.eval registry data := by
  cases h with
  | term t =>
    simp only [Head.expression, Term.eval_expression, Head.eval]
    cases t.eval data <;> rfl
  | call c => exact Call.eval_expression registry data local? rfl c

/-- A stage calls with the local name as its first argument. -/
theorem Call.eval_stage (v : Value) (c : Call) :
    (c.expression [.value]).eval registry data (some v) = c.eval registry data [v] :=
  Call.eval_expression registry data (some v) rfl c

/-! ### Chains -/

/-- **The local name carries the value of a chain**: from a value `v` on, binding it
again for every stage and writing it at the end writes what the stages make of
`v`. -/
theorem Statement.runAll_stages (v : Value) (stages : List Call) :
    (Statement.runAll registry data (some v) sink
        ((stages.map fun stage => Statement.bind (stage.expression [.value])) ++
          [Statement.write .value])).value.rendering =
      .ofResult sink ((evalStages registry data v stages).value.map Value.display) := by
  induction stages generalizing v with
  | nil =>
    simp only [List.map_nil, List.nil_append, Statement.runAll, Statement.run, Expression.eval,
      Logged.quiet, evalStages, Except.map, Rendering.ofResult]
    rcases Rendering.ofText sink v.display with ⟨sink', e | u⟩ <;> rfl
  | cons c rest ih =>
    simp only [List.map_cons, List.cons_append, Statement.runAll, Statement.run, Call.eval_stage,
      evalStages]
    cases (c.eval registry data [v]).value with
    | error e => rfl
    | ok w => exact ih w

/-- **The statement of a chain writes the value of the chain.** -/
theorem Chain.run_statement (c : Chain) :
    (c.statement.run registry data local? sink).value =
      ⟨local?, .ofResult sink ((c.eval registry data).value.map Value.display)⟩ := by
  obtain ⟨head, stages⟩ := c
  unfold Chain.statement
  split
  · -- A lone term is written without being bound.
    rename_i t hhead hstages
    obtain rfl : head = .term t := hhead
    obtain rfl : stages = [] := hstages
    simp only [Statement.run, Term.eval_reference, Chain.eval, Head.eval]
    cases t.eval data <;> rfl
  · simp only [Statement.run, List.cons_append, Statement.runAll, Head.eval_expression, Chain.eval]
    cases (head.eval registry data).value with
    | error e => rfl
    | ok v =>
      simp only [Logged.after]
      rw [Statement.runAll_stages]

/-- The statement of a step leaves behind what the step leaves behind, and does not
touch the local name. -/
theorem Step.run_statement (s : Step) :
    (s.output.statement.run registry data local? sink).value =
      ⟨local?, (s.render registry data sink).value⟩ := by
  rw [Step.render_value]
  cases h : s.output with
  | text t => rfl
  | chain c => exact Chain.run_statement registry data local? sink c

/-! ### Routines -/

/-- Statements of steps run as the steps do. -/
theorem Statement.runAll_statements (template template' : String) (steps : List Step) :
    (Statement.runAll registry data local? sink
        (Step.statements template steps)).value.rendering =
      (Step.renderAll registry data template' sink steps).value := by
  induction steps generalizing sink with
  | nil => rfl
  | cons s rest ih =>
    have hcons : Step.statements template (s :: rest) =
        .remark template s.line :: s.output.statement :: Step.statements template rest := rfl
    rw [hcons, Step.renderAll_cons_value]
    simp only [Statement.runAll, Statement.run, Logged.quiet, Logged.after, Step.run_statement]
    rcases h : (s.render registry data sink).value with ⟨sink', e | u⟩
    · simp [Step.run_statement, h]
    · exact ih sink'

/-- **The routine of a list of steps renders as the steps do.** -/
theorem Routine.render_statements (name template template' : String) (steps : List Step) :
    (Routine.render registry data sink ⟨name, Step.statements template steps⟩).value =
      (Step.renderAll registry data template' sink steps).value :=
  Statement.runAll_statements registry data none sink template template' steps

end Stencil
