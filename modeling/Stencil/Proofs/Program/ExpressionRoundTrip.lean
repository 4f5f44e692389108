import Mathlib.Data.List.Pairwise
import Stencil.Proofs.Program.Scan

/-!
# Expressions are read back

Reading the tokens of an expression gives the expression back, whatever follows it
that is not a further part of it: `Stencil.Expression.Writable.readsBack`.

Two facts carry every form. Reading a phrase where it stands goes through, and
reading it where another phrase stands fails if the two *clash*, which is a matter
of the two phrases alone, whatever follows them. The phrases that have to be told
apart are listed once (`Stencil.Token.openings`), and any two of them clash. A list
is read up to the first place where no item can be read.
-/

namespace Stencil

namespace Token

variable {α β : Type}

/-! ### Phrases -/

/-- Whether two lists of tokens differ at a place that both have. -/
def clash : List Token → List Token → Bool
  | p :: ps, q :: qs => p != q || clash ps qs
  | _, _ => false

theorem clash_comm (ps qs : List Token) : clash ps qs = clash qs ps := by
  induction ps generalizing qs with
  | nil => cases qs <;> rfl
  | cons p ps ih =>
    cases qs with
    | nil => rfl
    | cons q qs => simp [clash, ih qs, bne_comm]

theorem clash_append_left {ps qs : List Token} (h : clash ps qs = true) (more : List Token) :
    clash (ps ++ more) qs = true := by
  induction ps generalizing qs with
  | nil => simp [clash] at h
  | cons p ps ih =>
    cases qs with
    | nil => simp [clash] at h
    | cons q qs =>
      simp only [clash, List.cons_append, Bool.or_eq_true] at h ⊢
      exact h.imp_right ih

/-- The phrases of which one has to be told from another. -/
def openings : List String := [
  "&", "data", "value", "comtmpl_lang::eval_field(data, &[", "comtmpl_lang::Value::Null",
  "comtmpl_lang::Value::Bool(", "comtmpl_lang::Value::from(", "funcs.call(", ".clone()", ",", "])?",
  ")?;", ";", "true", "false", "f64::INFINITY", "f64::NEG_INFINITY", "writer.write_all(",
  "write!(writer, \"\x7b\x7d\", ", "let value = ", "\x7b", "\x7d", "Ok(())", "pub fn ", "pub mod ",
  "(funcs: &comtmpl_lang::Functions, ", "() -> comtmpl_lang::Templates \x7b",
  " as comtmpl_lang::Routine"]

/-- The phrases can be read, and any two of them clash. -/
theorem openings_clash : (∀ s ∈ openings, (ofText? s).isSome = true) ∧
    openings.Pairwise fun s t => clash (ofPhrase s) (ofPhrase t) = true := by
  decide +kernel

/-- A phrase that can be read. -/
def Known (s : String) : Prop := IsPhrase s ∨ s ∈ phrases ∨ s ∈ openings

theorem Known.ofText?_eq {s : String} (h : Known s) : ofText? s = some (ofPhrase s) := by
  rcases h with h | h | h
  · exact Open.ofText?_eq (Or.inl h)
  · exact Open.ofText?_eq (Or.inl (isPhrase h))
  · obtain ⟨tokens, htokens⟩ := Option.isSome_iff_exists.mp (openings_clash.1 s h)
    rw [htokens, ofPhrase_eq htokens]

/-- Two phrases that clash. -/
def Apart (s t : String) : Prop := s ∈ openings ∧ t ∈ openings ∧ s ≠ t

theorem Apart.clash {s t : String} (h : Apart s t) : clash (ofPhrase s) (ofPhrase t) = true := by
  have hsymm : Std.Symm fun s t => Token.clash (ofPhrase s) (ofPhrase t) = true :=
    ⟨fun s t hst => by rwa [clash_comm]⟩
  exact openings_clash.2.forall h.1 h.2.1 h.2.2

theorem strip_append (ps rest : List Token) : strip ps (ps ++ rest) = some rest := by
  induction ps with
  | nil => rfl
  | cons p ps ih => simp [strip, ih]

/-- **A phrase is read where it stands.** -/
theorem phrase_ofPhrase {s : String} (h : Known s) (rest : List Token) :
    phrase s (ofPhrase s ++ rest) = some rest := by
  simp [phrase, h.ofText?_eq, strip_append]

theorem strip_eq_none {ps qs : List Token} (h : clash ps qs = true) (rest : List Token) :
    strip ps (qs ++ rest) = none := by
  induction ps generalizing qs with
  | nil => simp [clash] at h
  | cons p ps ih =>
    cases qs with
    | nil => simp [clash] at h
    | cons q qs =>
      by_cases hpq : p = q
      · have hclash : clash ps qs = true := by simpa [clash, hpq] using h
        simp [strip, hpq, ih hclash]
      · simp [strip, hpq]

/-- **A phrase is not read where another stands.** -/
theorem phrase_eq_none {s t : String} (h : Apart s t) (rest : List Token) :
    phrase s (ofPhrase t ++ rest) = none := by
  have hs : Known s := Or.inr (Or.inr h.1)
  simp [phrase, hs.ofText?_eq, strip_eq_none h.clash]

/-! ### Combinations of readers -/

theorem phraseFor_ofPhrase {s : String} (h : Known s) (a : α) (rest : List Token) :
    phraseFor s a (ofPhrase s ++ rest) = some (a, rest) := by
  simp [phraseFor, phrase_ofPhrase h]

theorem phraseFor_eq_none {s t : String} (h : Apart s t) (a : α) (rest : List Token) :
    phraseFor s a (ofPhrase t ++ rest) = none := by
  simp [phraseFor, phrase_eq_none h]

theorem mapped_eq_some {item : TokenReader α} {a : α} {ts rest : List Token} (f : α → β)
    (h : item ts = some (a, rest)) : mapped f item ts = some (f a, rest) := by
  simp [mapped, h]

/-- Something between two phrases is read if it is read before the second. -/
theorem between_tokens {opening closing : String} {item : TokenReader α} {a : α}
    {ts rest : List Token} (hopening : Known opening) (hclosing : Known closing)
    (hitem : item (ts ++ (ofPhrase closing ++ rest)) = some (a, ofPhrase closing ++ rest)) :
    between opening item closing (ofPhrase opening ++ ts ++ ofPhrase closing ++ rest) =
      some (a, rest) := by
  simp only [List.append_assoc]
  simp [between, phrase_ofPhrase hopening, hitem, phrase_ofPhrase hclosing]

/-- Nothing between two phrases is read where the first does not stand. -/
theorem between_opening_none {opening : String} {ts : List Token} (h : phrase opening ts = none)
    (item : TokenReader α) (closing : String) : between opening item closing ts = none := by
  simp [between, h]

theorem between_eq_none {opening t : String} (h : Apart opening t) (item : TokenReader α)
    (closing : String) (rest : List Token) :
    between opening item closing (ofPhrase t ++ rest) = none :=
  between_opening_none (phrase_eq_none h rest) item closing

theorem mapped_eq_none {item : TokenReader α} {ts : List Token} (f : α → β) (h : item ts = none) :
    mapped f item ts = none := by
  simp [mapped, h]

/-- Nothing is read between two phrases where nothing is read after the first. -/
theorem between_item_none {opening : String} (hopening : Known opening) {item : TokenReader α}
    {ts : List Token} (hitem : item ts = none) (closing : String) :
    between opening item closing (ofPhrase opening ++ ts) = none := by
  simp [between, phrase_ofPhrase hopening, hitem]

theorem follows_ofPhrase {s : String} (h : Known s) (item : TokenReader α) (rest : List Token) :
    follows s item (ofPhrase s ++ rest) = item rest := by
  simp [follows, phrase_ofPhrase h]

theorem follows_eq_none {s t : String} (h : Apart s t) (item : TokenReader α) (rest : List Token) :
    follows s item (ofPhrase t ++ rest) = none := by
  simp [follows, phrase_eq_none h]

theorem both_eq_some {first : TokenReader α} {second : TokenReader β} {a : α} {b : β}
    {ts middle rest : List Token} (hfirst : first ts = some (a, middle))
    (hsecond : second middle = some (b, rest)) : both first second ts = some ((a, b), rest) := by
  simp [both, hfirst, hsecond]

theorem both_second_none {first : TokenReader α} {second : TokenReader β} {a : α}
    {ts middle : List Token} (hfirst : first ts = some (a, middle))
    (hsecond : second middle = none) : both first second ts = none := by
  simp [both, hfirst, hsecond]

theorem firstOf_cons_none {item : TokenReader α} {ts : List Token} (h : item ts = none)
    (others : List (TokenReader α)) : firstOf (item :: others) ts = firstOf others ts := by
  simp [firstOf, h]

theorem firstOf_cons_some {item : TokenReader α} {ts : List Token} {result : α × List Token}
    (h : item ts = some result) (others : List (TokenReader α)) :
    firstOf (item :: others) ts = some result := by
  simp [firstOf, h]

theorem firstOf_phraseFor {s : String} (h : s ∈ openings) (a : α) (rest : List Token)
    (others : List (TokenReader α)) :
    firstOf (phraseFor s a :: others) (ofPhrase s ++ rest) = some (a, rest) :=
  firstOf_cons_some (phraseFor_ofPhrase (.inr (.inr h)) a rest) others

/-! ### Lists -/

section Lists

variable {item : TokenReader β} {tokens : α → List Token} (Follow : List Token → Prop)
  {rest : List Token}

/-- **Items one after another are read**, if each is read before what may follow it,
and none stands at the end. -/
theorem many_flatMap (tokens : α → List Token) {value : α → β} {items : List α}
    (hitem : ∀ a ∈ items, ∀ ts, Follow ts → item (tokens a ++ ts) = some (value a, ts))
    (hne : ∀ a ∈ items, tokens a ≠ []) (hfollow : ∀ a ∈ items, ∀ ts, Follow (tokens a ++ ts))
    (hrest : Follow rest) (hstop : item rest = none) {count : Nat}
    (hcount : (items.flatMap tokens).length ≤ count) :
    many item count (items.flatMap tokens ++ rest) = some (items.map value, rest) := by
  induction items generalizing count with
  | nil => cases count <;> simp [many, hstop]
  | cons a others ih =>
    have hpos : 0 < (tokens a).length := List.length_pos_iff.mpr (hne a (by simp))
    rw [List.flatMap_cons, List.length_append] at hcount
    obtain ⟨count, rfl⟩ : ∃ n, count = n + 1 := ⟨count - 1, by omega⟩
    have hnext : Follow (others.flatMap tokens ++ rest) := by
      cases others with
      | nil => exact hrest
      | cons b others =>
        rw [List.flatMap_cons, List.append_assoc]
        exact hfollow b (by simp) _
    have hlength : (others.flatMap tokens).length ≤ count := by omega
    have hothers := ih (fun b hb => hitem b (by simp [hb])) (fun b hb => hne b (by simp [hb]))
      (fun b hb => hfollow b (by simp [hb])) hlength
    simp [many, hitem a (by simp) _ hnext, hothers]

theorem manyAll_flatMap (tokens : α → List Token) {value : α → β} {items : List α}
    (hitem : ∀ a ∈ items, ∀ ts, Follow ts → item (tokens a ++ ts) = some (value a, ts))
    (hne : ∀ a ∈ items, tokens a ≠ []) (hfollow : ∀ a ∈ items, ∀ ts, Follow (tokens a ++ ts))
    (hrest : Follow rest) (hstop : item rest = none) :
    manyAll item (items.flatMap tokens ++ rest) = some (items.map value, rest) :=
  many_flatMap Follow tokens hitem hne hfollow hrest hstop (by simp)

theorem listed_cons (first : List Token) (others : List (List Token)) :
    listed (first :: others) = first ++ others.flatMap (.mark ',' :: ·) := by
  unfold listed
  induction others generalizing first with
  | nil => simp
  | cons second others ih => simp [List.intercalate_cons_cons, ih]

theorem length_le_listed {item : List Token} {items : List (List Token)} (h : item ∈ items) :
    item.length ≤ (listed items).length := by
  induction items with
  | nil => simp at h
  | cons first others ih =>
    rw [listed_cons]
    rcases List.mem_cons.mp h with rfl | h
    · simp
    · cases others with
      | nil => simp at h
      | cons second others =>
        have hothers := ih h
        rw [listed_cons] at hothers
        simp at hothers ⊢
        omega

/-- **Items with commas between them are read**, if each is read before what may
follow it, and neither an item nor a comma stands at the end. -/
theorem separated_listed {item : TokenReader α} {items : List α}
    (hitem : ∀ a ∈ items, ∀ ts, Follow ts → item (tokens a ++ ts) = some (a, ts))
    (hcomma : ∀ ts, Follow (.mark ',' :: ts)) (hrest : Follow rest) (hnone : item rest = none)
    (hstop : strip [.mark ','] rest = none) :
    separated item (listed (items.map tokens) ++ rest) = some (items, rest) := by
  cases items with
  | nil => simp [separated, listed, hnone]
  | cons a others =>
    have hnext : Follow (others.flatMap (fun b => .mark ',' :: tokens b) ++ rest) := by
      cases others with
      | nil => exact hrest
      | cons b others => exact hcomma _
    have hothers : ∀ b ∈ others, ∀ ts, Follow ts →
        (strip [.mark ','] (.mark ',' :: tokens b ++ ts)).bind item = some (id b, ts) := by
      intro b hb ts hts
      simp [strip, hitem b (by simp [hb]) ts hts]
    have hmany : manyAll (fun us => (strip [.mark ','] us).bind item)
        (others.flatMap (fun b => .mark ',' :: tokens b) ++ rest) = some (others.map id, rest) :=
      manyAll_flatMap Follow (fun b => .mark ',' :: tokens b) hothers (by simp)
        (fun b _ ts => hcomma (tokens b ++ ts)) hrest (by simp [hstop])
    rw [List.map_cons, listed_cons, List.flatMap_map, List.append_assoc]
    rw [List.map_id] at hmany
    simp only [separated, hitem a (by simp) _ hnext, hmany, Option.map_some]

end Lists

end Token

open Token

/-! ### Constants -/

/-- The names of the infinities begin with a word, so they are no literals. -/
theorem Number.exists_tokens_infinite (s : Bool) :
    ∃ ts, (Number.infinite s).tokens = .word "f64" :: ts := by
  cases s with
  | false =>
    exact ⟨[.mark ':', .mark ':', .word "INFINITY"], ofPhrase_eq rfl⟩
  | true =>
    exact ⟨[.mark ':', .mark ':', .word "NEG_INFINITY"], ofPhrase_eq rfl⟩

/-- A number is read back. -/
theorem Number.read_tokens {n : Number} (hn : n ≠ .nan) (rest : List Token) :
    Number.read (n.tokens ++ rest) = some (n, rest) := by
  cases n with
  | nan => exact absurd rfl hn
  | infinite s =>
    obtain ⟨ts, hts⟩ := Number.exists_tokens_infinite s
    have hread : Number.read ((Number.infinite s).tokens ++ rest) =
        firstOf [phraseFor "f64::INFINITY" (.infinite false),
          phraseFor "f64::NEG_INFINITY" (.infinite true)] ((Number.infinite s).tokens ++ rest) := by
      rw [hts]
      rfl
    rw [hread]
    cases s with
    | false => exact firstOf_phraseFor (by simp [openings, -String.reduceEq]) _ rest _
    | true =>
      have hfalse : phraseFor "f64::INFINITY" (Number.infinite false)
          (ofPhrase "f64::NEG_INFINITY" ++ rest) = none :=
        phraseFor_eq_none (by simp [Apart, openings]) _ rest
      refine (firstOf_cons_none hfalse _).trans ?_
      exact firstOf_phraseFor (by simp [openings, -String.reduceEq]) _ rest _
  | finite s r => cases s <;> rfl

/-- No text literal stands where a number does. -/
theorem Number.readText_tokens {n : Number} (hn : n ≠ .nan) (rest : List Token) :
    readText (n.tokens ++ rest) = none := by
  cases n with
  | nan => exact absurd rfl hn
  | infinite s =>
    obtain ⟨ts, hts⟩ := Number.exists_tokens_infinite s
    rw [hts]
    rfl
  | finite s r => cases s <;> rfl

/-- Nothing is read as a constant where no constant begins. -/
theorem Constant.read_eq_none {t : String} (h : ∀ s ∈ ["comtmpl_lang::Value::Null",
    "comtmpl_lang::Value::Bool(", "comtmpl_lang::Value::from("], Apart s t) (rest : List Token) :
    Constant.read (ofPhrase t ++ rest) = none := by
  unfold Constant.read
  rw [firstOf_cons_none (phraseFor_eq_none (h _ (by simp)) _ _),
    firstOf_cons_none (between_eq_none (h _ (by simp)) _ _ _),
    firstOf_cons_none (between_eq_none (h _ (by simp)) _ _ _)]
  rfl

theorem Constant.read_null (rest : List Token) :
    Constant.read (Constant.null.tokens ++ rest) = some (.null, rest) := by
  have hopen : Open Constant.null.text.toList Constant.null.tokens := open_constant _
  have htokens : ofPhrase "comtmpl_lang::Value::Null" = Constant.null.tokens :=
    ofPhrase_eq hopen.ofText?_eq
  rw [← htokens]
  exact firstOf_phraseFor (by simp [openings, -String.reduceEq]) _ rest _

theorem Constant.read_bool (b : Bool) (rest : List Token) :
    Constant.read ((Constant.bool b).tokens ++ rest) = some (.bool b, rest) := by
  have htrue : ofPhrase "true" = [.word "true"] := ofPhrase_eq rfl
  have hfalse : ofPhrase "false" = [.word "false"] := ofPhrase_eq rfl
  have hword : firstOf [phraseFor "true" (Constant.bool true), phraseFor "false" (.bool false)]
      ([Token.word (if b then "true" else "false")] ++ (ofPhrase ")" ++ rest)) =
      some (.bool b, ofPhrase ")" ++ rest) := by
    cases b with
    | true =>
      rw [if_pos rfl, ← htrue]
      exact firstOf_phraseFor (by simp [openings, -String.reduceEq]) _ _ _
    | false =>
      rw [if_neg (by decide), ← hfalse,
        firstOf_cons_none (phraseFor_eq_none (by simp [Apart, openings]) _ _)]
      exact firstOf_phraseFor (by simp [openings, -String.reduceEq]) _ _ _
  have hopening : Known "comtmpl_lang::Value::Bool(" := by simp [Known, openings, -String.reduceEq]
  have hread := between_tokens hopening (by simp [Known, phrases, -String.reduceEq]) hword
  simp only [Constant.tokens, List.append_assoc] at hread ⊢
  unfold Constant.read
  rw [firstOf_cons_none (phraseFor_eq_none (by simp [Apart, openings]) _ _)]
  exact firstOf_cons_some hread _

/-- A constant with something in brackets is read as what stands there. -/
theorem Constant.read_from {c : Constant} {ts rest : List Token}
    (h : firstOf [mapped .string readText, mapped .number Number.read]
      (ts ++ (ofPhrase ")" ++ rest)) = some (c, ofPhrase ")" ++ rest)) :
    Constant.read (ofPhrase "comtmpl_lang::Value::from(" ++ ts ++ ofPhrase ")" ++ rest) =
      some (c, rest) := by
  have hopening : Known "comtmpl_lang::Value::from(" := by simp [Known, openings, -String.reduceEq]
  have hread := between_tokens hopening (by simp [Known, phrases, -String.reduceEq]) h
  simp only [List.append_assoc] at hread ⊢
  unfold Constant.read
  rw [firstOf_cons_none (phraseFor_eq_none (by simp [Apart, openings]) _ _),
    firstOf_cons_none (between_eq_none (by simp [Apart, openings]) _ _ _)]
  exact firstOf_cons_some hread _

/-- **A constant is read back.** -/
theorem Constant.read_tokens {c : Constant} (hc : c ≠ .number .nan) (rest : List Token) :
    Constant.read (c.tokens ++ rest) = some (c, rest) := by
  cases c with
  | null => exact Constant.read_null rest
  | bool b => exact Constant.read_bool b rest
  | number n =>
    have hn : n ≠ .nan := fun h => hc (congrArg Constant.number h)
    refine Constant.read_from ?_
    have htext : mapped Constant.string readText (n.tokens ++ (ofPhrase ")" ++ rest)) = none := by
      simp [mapped, Number.readText_tokens hn]
    rw [firstOf_cons_none htext]
    exact firstOf_cons_some (mapped_eq_some _ (Number.read_tokens hn _)) _
  | string s =>
    have htext : readText ([Token.text s] ++ (ofPhrase ")" ++ rest)) =
        some (s, ofPhrase ")" ++ rest) := rfl
    exact Constant.read_from (firstOf_cons_some (mapped_eq_some _ htext) _)

namespace Expression

/-! ### Expressions -/

section Atoms

variable (argument : TokenReader Expression)

theorem readAtom_data (rest : List Token) :
    readAtom argument (ofPhrase "data" ++ rest) = some (data, rest) :=
  firstOf_phraseFor (by simp [openings, -String.reduceEq]) _ rest _

theorem readAtom_value (rest : List Token) :
    readAtom argument (ofPhrase "value" ++ rest) = some (value, rest) := by
  refine (firstOf_cons_none (phraseFor_eq_none (by simp [Apart, openings]) _ rest) _).trans ?_
  exact firstOf_phraseFor (by simp [openings, -String.reduceEq]) _ rest _

/-- Text literals with commas between them are read back. -/
theorem separated_readText (segments : List String) (rest : List Token) :
    separated readText (listed (segments.map fun s => [.text s]) ++ (ofPhrase "])?" ++ rest)) =
      some (segments, ofPhrase "])?" ++ rest) := by
  have hclose : ofPhrase "])?" = [.mark ']', .mark ')', .mark '?'] := ofPhrase_eq rfl
  rw [hclose]
  exact separated_listed (fun _ => True) (fun _ _ _ _ => rfl) (fun _ => trivial) trivial rfl rfl

theorem readAtom_field (segments : List String) (rest : List Token) :
    readAtom argument ((field segments).tokens ++ rest) = some (field segments, rest) := by
  have hopening : Known "comtmpl_lang::eval_field(data, &[" := by
    simp [Known, openings, -String.reduceEq]
  have hread := between_tokens hopening (by simp [Known, phrases, -String.reduceEq])
    (mapped_eq_some field (separated_readText segments rest))
  simp only [tokens, List.append_assoc] at hread ⊢
  unfold readAtom
  rw [firstOf_cons_none (phraseFor_eq_none (by simp [Apart, openings]) _ _),
    firstOf_cons_none (phraseFor_eq_none (by simp [Apart, openings]) _ _)]
  exact firstOf_cons_some hread _

/-- A call is read back if its arguments are. -/
theorem readAtom_call (name : String) {args : List Expression} {rest : List Token}
    (h : separated argument (listed (args.map tokens) ++ (ofPhrase "])?" ++ rest)) =
      some (args, ofPhrase "])?" ++ rest)) :
    readAtom argument ((call name args).tokens ++ rest) = some (call name args, rest) := by
  have hcall : Known "funcs.call(" := by simp [Known, openings, -String.reduceEq]
  have hvec : Known ", vec![" := by simp [Known, phrases, -String.reduceEq]
  have hargs := between_tokens hvec (by simp [Known, phrases, -String.reduceEq]) h
  have hname : readText ([Token.text name] ++ (ofPhrase ", vec![" ++ listed (args.map tokens) ++
      ofPhrase "])?" ++ rest)) = some (name, ofPhrase ", vec![" ++ listed (args.map tokens) ++
      ofPhrase "])?" ++ rest) := rfl
  have hread : readCall argument ((call name args).tokens ++ rest) =
      some (call name args, rest) := by
    simp only [tokens_call, List.append_assoc] at hargs hname ⊢
    exact mapped_eq_some _
      ((follows_ofPhrase hcall _ _).trans (both_eq_some hname hargs))
  have hconstant (ts : List Token) :
      mapped constant Constant.read (ofPhrase "funcs.call(" ++ ts) = none := by
    simp [mapped, Constant.read_eq_none (t := "funcs.call(") (by simp [Apart, openings])]
  simp only [tokens_call, List.append_assoc] at hread ⊢
  unfold readAtom
  rw [firstOf_cons_none (phraseFor_eq_none (by simp [Apart, openings]) _ _),
    firstOf_cons_none (phraseFor_eq_none (by simp [Apart, openings]) _ _),
    firstOf_cons_none (between_eq_none (by simp [Apart, openings]) _ _ _),
    firstOf_cons_none (hconstant _)]
  exact firstOf_cons_some hread _

/-- A constant begins like one of three phrases. -/
theorem exists_tokens_constant {c : Constant} (hc : c ≠ .number .nan) :
    ∃ s ∈ ["comtmpl_lang::Value::Null", "comtmpl_lang::Value::Bool(", "comtmpl_lang::Value::from("],
      ∃ ts, (constant c).tokens = ofPhrase s ++ ts := by
  cases c with
  | null =>
    have hopen : Open Constant.null.text.toList Constant.null.tokens := open_constant _
    refine ⟨"comtmpl_lang::Value::Null", by simp, [], ?_⟩
    rw [List.append_nil]
    exact (ofPhrase_eq hopen.ofText?_eq).symm
  | bool b => exact ⟨_, by simp, _, List.append_assoc _ _ _⟩
  | number n => exact ⟨_, by simp, _, List.append_assoc _ _ _⟩
  | string s => exact ⟨_, by simp, _, List.append_assoc _ _ _⟩

theorem readAtom_constant {c : Constant} (hc : c ≠ .number .nan) (rest : List Token) :
    readAtom argument ((constant c).tokens ++ rest) = some (constant c, rest) := by
  obtain ⟨s, hs, ts, hts⟩ := exists_tokens_constant hc
  have hapart : ∀ t ∈ ["data", "value", "comtmpl_lang::eval_field(data, &["], Apart t s := by
    simp only [List.mem_cons, List.not_mem_nil, or_false] at hs
    rcases hs with rfl | rfl | rfl <;> simp [Apart, openings]
  have hread := mapped_eq_some constant (Constant.read_tokens hc rest)
  have htokens : (constant c).tokens = c.tokens := rfl
  rw [← htokens, hts, List.append_assoc] at hread
  rw [hts, List.append_assoc]
  unfold readAtom
  rw [firstOf_cons_none (phraseFor_eq_none (hapart _ (by simp)) _ _),
    firstOf_cons_none (phraseFor_eq_none (hapart _ (by simp)) _ _),
    firstOf_cons_none (between_eq_none (hapart _ (by simp)) _ _ _)]
  exact firstOf_cons_some hread _

/-- No expression begins with a closing bracket. -/
theorem read_bracket (depth : Nat) (rest : List Token) :
    Expression.read depth (ofPhrase "])?" ++ rest) = none := by
  have hborrow : phrase "&" (ofPhrase "])?" ++ rest) = none :=
    phrase_eq_none (by simp [Apart, openings]) rest
  have hconstant : mapped constant Constant.read (ofPhrase "])?" ++ rest) = none := by
    simp [mapped, Constant.read_eq_none (t := "])?") (by simp [Apart, openings])]
  have hcall (argument : TokenReader Expression) :
      readCall argument (ofPhrase "])?" ++ rest) = none := by
    simp [readCall, mapped, follows_eq_none (s := "funcs.call(") (t := "])?")
      (by simp [Apart, openings])]
  have hatom (argument : TokenReader Expression) :
      readAtom argument (ofPhrase "])?" ++ rest) = none := by
    unfold readAtom
    rw [firstOf_cons_none (phraseFor_eq_none (by simp [Apart, openings]) _ _),
      firstOf_cons_none (phraseFor_eq_none (by simp [Apart, openings]) _ _),
      firstOf_cons_none (between_eq_none (by simp [Apart, openings]) _ _ _),
      firstOf_cons_none hconstant, firstOf_cons_none (hcall argument)]
    rfl
  cases depth with
  | zero => rfl
  | succ depth => simp [Expression.read, hborrow, hatom]

end Atoms

/-- Nothing is copied where no copy follows. -/
theorem readClones_settled {rest : List Token} (h : phrase ".clone()" rest = none) (e : Expression)
    (count : Nat) : e.readClones count rest = (e, rest) := by
  cases count <;> simp [readClones, h]

theorem readClones_clone (e : Expression) (count : Nat) (rest : List Token) :
    e.readClones (count + 1) (ofPhrase ".clone()" ++ rest) = e.clone.readClones count rest := by
  have hclone : Known ".clone()" := by simp [Known, openings, -String.reduceEq]
  simp [readClones, phrase_ofPhrase hclone]

/-- **An expression is read back** before anything but a copy. -/
def ReadsBack (e : Expression) : Prop :=
  ∀ depth, e.tokens.length ≤ depth → ∀ rest, phrase ".clone()" rest = none →
    Expression.read depth (e.tokens ++ rest) = some (e, rest)

/-- An expression is read, and then what follows is looked through for copies. -/
def ReadsOn (e : Expression) : Prop :=
  ∀ depth, e.tokens.length ≤ depth → ∀ rest, ∃ count, rest.length ≤ count ∧
    Expression.read depth (e.tokens ++ rest) = some (e.readClones count rest)

theorem ReadsOn.readsBack {e : Expression} (h : e.ReadsOn) : e.ReadsBack := by
  intro depth hdepth rest hrest
  obtain ⟨count, -, hread⟩ := h depth hdepth rest
  rw [hread, readClones_settled hrest]

/-- An expression that is neither a reference nor a copy is read on. -/
theorem readsOn_of_readAtom {e : Expression} {s : String} {ts : List Token}
    (htokens : e.tokens = ofPhrase s ++ ts) (hborrow : Apart "&" s)
    (hatom : ∀ depth, e.tokens.length ≤ depth + 1 → ∀ rest,
      readAtom (Expression.read depth) (e.tokens ++ rest) = some (e, rest)) : e.ReadsOn := by
  intro depth hdepth rest
  have hpos : 0 < e.tokens.length := by
    have hclash := hborrow.clash
    cases h : ofPhrase s with
    | nil => cases h' : ofPhrase "&" <;> simp [h, h', clash] at hclash
    | cons t q => simp [htokens, h]
  obtain ⟨depth, rfl⟩ : ∃ n, depth = n + 1 := ⟨depth - 1, by omega⟩
  refine ⟨rest.length, le_rfl, ?_⟩
  have hnone : phrase "&" (e.tokens ++ rest) = none := by
    rw [htokens, List.append_assoc]
    exact phrase_eq_none hborrow _
  simp [Expression.read, hnone, hatom depth hdepth rest]

theorem ReadsOn.clone {e : Expression} (h : e.ReadsOn) : (Expression.clone e).ReadsOn := by
  intro depth hdepth rest
  have hclone : ofPhrase ".clone()" =
      [.mark '.', .word "clone", .mark '(', .mark ')'] := ofPhrase_eq rfl
  simp only [tokens, List.length_append] at hdepth
  obtain ⟨count, hcount, hread⟩ := h depth (by omega) (ofPhrase ".clone()" ++ rest)
  rw [List.length_append, hclone, List.length_cons] at hcount
  obtain ⟨count, rfl⟩ : ∃ n, count = n + 1 := ⟨count - 1, by omega⟩
  refine ⟨count, by omega, ?_⟩
  rw [tokens, List.append_assoc, hread, readClones_clone]

theorem ReadsBack.borrow {e : Expression} (h : e.ReadsBack) : (Expression.borrow e).ReadsBack := by
  intro depth hdepth rest hrest
  have hborrow : ofPhrase "&" = [.mark '&'] := ofPhrase_eq rfl
  simp only [tokens, List.length_append, hborrow, List.length_cons] at hdepth
  obtain ⟨depth, rfl⟩ : ∃ n, depth = n + 1 := ⟨depth - 1, by omega⟩
  have hphrase : phrase "&" (ofPhrase "&" ++ (e.tokens ++ rest)) = some (e.tokens ++ rest) :=
    phrase_ofPhrase (by simp [Known, openings, -String.reduceEq]) _
  rw [tokens, List.append_assoc]
  simp [Expression.read, hphrase, mapped, h depth (by omega) rest hrest]

theorem ReadsOn.call (name : String) {args : List Expression} (h : ∀ e ∈ args, e.ReadsBack) :
    (Expression.call name args).ReadsOn := by
  have htokens : (Expression.call name args).tokens = ofPhrase "funcs.call(" ++
      ([Token.text name] ++ (ofPhrase ", vec![" ++ (listed (args.map tokens) ++ ofPhrase "])?"))) := by
    simp only [tokens_call, List.append_assoc]
  have hcomma : ofPhrase "," = [.mark ','] := ofPhrase_eq rfl
  refine readsOn_of_readAtom htokens (by simp [Apart, openings]) fun depth hdepth rest => ?_
  refine readAtom_call _ name (separated_listed (phrase ".clone()" · = none)
    (fun e he ts hnext => ?_) (fun ts => ?_) (phrase_eq_none (by simp [Apart, openings]) _)
    (read_bracket _ _) ?_)
  · have hle := length_le_listed (List.mem_map_of_mem (f := tokens) he)
    simp only [tokens_call, List.length_append, List.length_cons] at hdepth
    exact h e he depth (by omega) ts hnext
  · have hnext := phrase_eq_none (s := ".clone()") (t := ",") (by simp [Apart, openings]) ts
    rwa [hcomma] at hnext
  · rw [← hcomma]
    exact strip_eq_none (Apart.clash (by simp [Apart, openings])) _

/-- **Every expression that can be written is read back.** -/
theorem Writable.readsBack {e : Expression} (h : e.Writable) : e.ReadsBack := by
  -- A copy is read after what it copies, so that is carried along: all but references are read on.
  suffices hboth : e.ReadsBack ∧ ((∀ e', e ≠ .borrow e') → e.ReadsOn) from hboth.1
  have hon {e : Expression} (h : e.ReadsOn) : e.ReadsBack ∧ ((∀ e', e ≠ .borrow e') → e.ReadsOn) :=
    ⟨h.readsBack, fun _ => h⟩
  induction h with
  | data =>
    have htokens : Expression.data.tokens = ofPhrase "data" := (ofPhrase_eq rfl).symm
    refine hon (readsOn_of_readAtom (htokens.trans (List.append_nil _).symm)
      (by simp [Apart, openings]) fun _ _ rest => ?_)
    rw [htokens]
    exact readAtom_data _ rest
  | field segments =>
    have htokens : (Expression.field segments).tokens =
        ofPhrase "comtmpl_lang::eval_field(data, &[" ++ (listed (segments.map fun s => [.text s]) ++
          ofPhrase "])?") :=
      List.append_assoc _ _ _
    exact hon (readsOn_of_readAtom htokens (by simp [Apart, openings])
      fun _ _ rest => readAtom_field _ segments rest)
  | constant hc =>
    obtain ⟨s, hs, ts, hts⟩ := exists_tokens_constant hc
    have hborrow : Apart "&" s := by
      simp only [List.mem_cons, List.not_mem_nil, or_false] at hs
      rcases hs with rfl | rfl | rfl <;> simp [Apart, openings]
    exact hon (readsOn_of_readAtom hts hborrow fun _ _ rest => readAtom_constant _ hc rest)
  | borrow _ ih => exact ⟨ih.1.borrow, fun hne => absurd rfl (hne _)⟩
  | clone _ hborrow ih => exact hon (ih.2 hborrow).clone
  | value =>
    have htokens : Expression.value.tokens = ofPhrase "value" := (ofPhrase_eq rfl).symm
    refine hon (readsOn_of_readAtom (htokens.trans (List.append_nil _).symm)
      (by simp [Apart, openings]) fun _ _ rest => ?_)
    rw [htokens]
    exact readAtom_value _ rest
  | call name _ ih => exact hon (ReadsOn.call name fun e he => (ih e he).1)

end Expression

end Stencil
