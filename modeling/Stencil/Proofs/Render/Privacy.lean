import Stencil.Engine
import Stencil.Proofs.Value.Concealment

/-!
# What a template shows of private fields

A path never reads a private field, but a template that writes or compares a whole
record shows what is stored there: the printed form of a record lists all its fields
(`Stencil.Template.private_field_shown`). That is the only way. A template whose
terms all stand for values without private fields renders alike values alike, for all
functions and sinks: `Stencil.Template.render_eq_of_alike`. For the data enters a
rendering only through the values of the terms in it.
-/

namespace Stencil

/-! ### The terms of a template -/

/-- The terms that a chain starts from. -/
def Head.terms : Head → List Term
  | term t => [t]
  | call c => c.args

/-- The terms that a step writes or passes to functions. -/
def Output.terms : Output → List Term
  | text _ => []
  | chain c => c.head.terms ++ c.stages.flatMap Call.args

section

variable {v w : Value} (registry : Registry)

theorem Term.evalAll_congr {ts : List Term} (h : ∀ t ∈ ts, t.eval v = t.eval w) :
    Term.evalAll v ts = Term.evalAll w ts := by
  induction ts with
  | nil => rfl
  | cons t rest ih =>
    obtain ⟨hfirst, hrest⟩ := List.forall_mem_cons.mp h
    rw [Term.evalAll, Term.evalAll, hfirst, ih hrest]

theorem Call.eval_congr {c : Call} (h : ∀ t ∈ c.args, t.eval v = t.eval w) (first : List Value) :
    c.eval registry v first = c.eval registry w first := by
  rw [Call.eval, Call.eval, Term.evalAll_congr h]

theorem Head.eval_congr {h : Head} (hterms : ∀ t ∈ h.terms, t.eval v = t.eval w) :
    h.eval registry v = h.eval registry w := by
  cases h with
  | term t => rw [Head.eval, Head.eval, hterms t (List.mem_singleton_self t)]
  | call c => exact Call.eval_congr registry hterms []

theorem evalStages_congr {stages : List Call}
    (h : ∀ t ∈ stages.flatMap Call.args, t.eval v = t.eval w) (a : Value) :
    evalStages registry v a stages = evalStages registry w a stages := by
  induction stages generalizing a with
  | nil => rfl
  | cons c rest ih =>
    rw [List.flatMap_cons, List.forall_mem_append] at h
    rw [evalStages, evalStages, Call.eval_congr registry h.1]
    split
    · rfl
    · rw [ih h.2]

/-- **The data enters a step through the values of its terms.** -/
theorem Output.eval_congr {o : Output} (h : ∀ t ∈ o.terms, t.eval v = t.eval w) :
    o.eval registry v = o.eval registry w := by
  cases o with
  | text s => rfl
  | chain c =>
    rw [Output.terms, List.forall_mem_append] at h
    have hchain : c.eval registry v = c.eval registry w := by
      rw [Chain.eval, Chain.eval, Head.eval_congr registry h.1]
      split
      · rfl
      · rw [evalStages_congr registry h.2]
    rw [Output.eval, Output.eval, hchain]

theorem Step.renderAll_congr {steps : List Step}
    (h : ∀ s ∈ steps, ∀ t ∈ s.output.terms, t.eval v = t.eval w) (template : String)
    (sink : Sink) :
    Step.renderAll registry v template sink steps =
      Step.renderAll registry w template sink steps := by
  induction steps generalizing sink with
  | nil => rfl
  | cons s rest ih =>
    obtain ⟨hfirst, hrest⟩ := List.forall_mem_cons.mp h
    have hrender : s.render registry v sink = s.render registry w sink := by
      rw [Step.render, Step.render, Output.eval_congr registry hfirst]
    rw [Step.renderAll, Step.renderAll, hrender]
    split
    · rfl
    · rw [ih hrest]

end

/-- A term that stands for a value without private fields stands for the same value
over alike data. -/
theorem Term.eval_eq_of_alike {v w : Value} (h : v.Alike w) {t : Term}
    (hopen : ∀ a, t.eval v = .ok a → a.isOpen = true) : t.eval v = t.eval w := by
  cases t with
  | dot => exact congrArg Except.ok (h.eq_of_isOpen (hopen v rfl))
  | constant c => rfl
  | field path =>
    -- Both lookups fail in the same way or find alike values, and open ones are equal.
    simp only [Term.eval] at hopen ⊢
    rcases h.resolve_cases path.segments with ⟨a, b, hv, hw, halike⟩ | ⟨e, hv, hw⟩
    · rw [hv, hw, halike.eq_of_isOpen (hopen a hv)]
    · rw [hv, hw]

namespace Template

/-- **Private fields do not show where records do not.** If two data are alike, and
every term of a compiled template stands for a value without private fields, or for
none, then the template is rendered in the same way over both, for all functions and
sinks. -/
theorem render_eq_of_alike {v w : Value} (h : v.Alike w) {steps : List Step}
    (hopen : ∀ s ∈ steps, ∀ t ∈ s.output.terms, ∀ a, t.eval v = .ok a → a.isOpen = true)
    (registry : Registry) (sink : Sink) (name : String) :
    Template.render registry v sink ⟨name, .steps steps⟩ =
      Template.render registry w sink ⟨name, .steps steps⟩ :=
  Step.renderAll_congr registry
    (fun s hs t ht => Term.eval_eq_of_alike h (hopen s hs t ht)) name sink

/-- An account with a private number that a template does not reach. -/
def account (secret : Value) : Value :=
  .map [("Account", .record ⟨"Account",
    [⟨"Owner", .string "Ann", .exported⟩, ⟨"secret", secret, .hidden⟩]⟩)]

/-- Steps that write the owner of an account, and a field that cannot be read. -/
def ownerSteps : List Step :=
  [⟨1, .text "Owner: "⟩,
    ⟨1, .chain ⟨.term (.field ⟨["Account", "Owner"], by decide⟩), [⟨"upper", []⟩]⟩⟩,
    ⟨2, .chain ⟨.call ⟨"print", [.field ⟨["Account", "secret"], by decide⟩]⟩, []⟩⟩]

theorem render_eq_of_alike_owner : (account (.number .nan)).Alike (account (.bool true)) ∧
    (∀ s ∈ ownerSteps, ∀ t ∈ s.output.terms, ∀ a,
      t.eval (account (.number .nan)) = .ok a → a.isOpen = true) ∧
    Template.render .builtins (account (.number .nan)) .unlimited ⟨"owner", .steps ownerSteps⟩ =
      Template.render .builtins (account (.bool true)) .unlimited ⟨"owner", .steps ownerSteps⟩ := by
  have halike : (account (.number .nan)).Alike (account (.bool true)) := rfl
  have hopen : ∀ s ∈ ownerSteps, ∀ t ∈ s.output.terms, ∀ a,
      t.eval (account (.number .nan)) = .ok a → a.isOpen = true := by
    simp [ownerSteps, Output.terms, Head.terms, Term.eval, account, Value.resolve, lookupEntry,
      Record.get?, Field.isReadable, Value.isOpen]
  exact ⟨halike, hopen, render_eq_of_alike halike hopen .builtins .unlimited "owner"⟩

/-- **A private field shows in the printed form of its record**: two alike accounts,
written by a template that is only a dot. -/
theorem private_field_shown :
    let source := ("t", "\x7b\x7b.\x7d\x7d")
    let render (v : Value) := (Engine.standard.compileAll [source]).value.toOption.map
      fun l => (l.render "t" v .unlimited).value.sink.written
    let data (secret : String) : Value := .record ⟨"Account", [⟨"secret", .string secret, .hidden⟩]⟩
    (data "x").Alike (data "y") ∧ render (data "x") = some "\x7bx\x7d".toUTF8 ∧
      render (data "y") = some "\x7by\x7d".toUTF8 :=
  ⟨rfl, by decide +kernel, by decide +kernel⟩

end Template

end Stencil
