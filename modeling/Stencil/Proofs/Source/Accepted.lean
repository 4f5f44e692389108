import Stencil.Proofs.Source.Derivation
import Stencil.Proofs.Source.Shape

/-!
# What is accepted was written

Every source that is read is the text of a written template, and the nodes that are
read are what the template says (`Stencil.TemplateText.exists_of_nodesRead`). This
holds for all delimiters, as long as the left one is not empty. The proof follows
the derivations of successful readings, with an induction on the depth of the
parentheses for operands.
-/

namespace Stencil

open Cursor

variable {c d : Cursor}

/-! ### Lists -/

theorem exists_separator {mark : Char} (h : separator? mark c = some d) :
    ∃ before after : Blanks, c.Passes (before.chars ++ mark :: after.chars) d := by
  obtain ⟨e, hmark, rfl⟩ := Option.map_eq_some_iff.mp h
  obtain ⟨before, hbefore, -⟩ := c.exists_blanks
  obtain ⟨after, hafter, -⟩ := e.exists_blanks
  exact ⟨before, after, hbefore.append ((expect?_eq_some_iff.mp hmark).append hafter)⟩

theorem exists_declared {name : String} (h : readDeclared c = .ok (name, d)) :
    ∃ name? : Option Identifier, String.ofList (dollarChars name?) = name ∧
      c.Passes (dollarChars name?) d := by
  unfold readDeclared at h
  split at h
  · next hdollar =>
    cases h
    obtain ⟨name?, rfl, hpasses⟩ := exists_dollar hdollar
    exact ⟨name?, rfl, hpasses⟩
  · cases h

theorem exists_furtherNames {names : List String}
    (h : FurtherRead (separator? ',') readDeclared c names d) :
    ∃ others : List FurtherName, c.Passes (others.flatMap FurtherName.chars) d ∧
      others.map (fun n => String.ofList (dollarChars n.name?)) = names := by
  induction h with
  | done c => exact ⟨[], .nil c, rfl⟩
  | more hseparator hitem _ ih =>
    obtain ⟨others, hothers, hnames⟩ := ih
    obtain ⟨before, after, hbetween⟩ := exists_separator hseparator
    obtain ⟨name?, hname, hpasses⟩ := exists_declared hitem
    refine ⟨⟨before, after, name?⟩ :: others, ?_, ?_⟩
    · have hall := (hbetween.append hpasses).append hothers
      simpa [FurtherName.chars] using hall
    · rw [List.map_cons, hname, hnames]

theorem DeclarationsText.exists_of_readDeclarations? {names : List String}
    (h : readDeclarations? c = some (names, d)) :
    ∃ t : DeclarationsText, c.Passes t.chars d ∧ t.names = names := by
  unfold readDeclarations? at h
  split at h
  · cases h
  · next e hlist =>
    obtain ⟨_, f, _, rfl, hitem, hfurther⟩ := furtherRead_of_readList hlist
    obtain ⟨first, rfl, hfirst⟩ := exists_declared hitem
    obtain ⟨others, hothers, rfl⟩ := exists_furtherNames hfurther
    obtain ⟨before, hbefore, -⟩ := e.exists_blanks
    dsimp only at h
    split at h
    · next sign hsign =>
      cases h
      obtain ⟨after, hafter, -⟩ := sign.exists_blanks
      have hnames : ∀ isShort, (DeclarationsText.mk first others before isShort after).names =
          String.ofList (dollarChars first) ::
            others.map fun n => String.ofList (dollarChars n.name?) := by
        intro isShort
        simp [names]
      rw [Option.or_eq_some_iff] at hsign
      rcases hsign with hsign | ⟨-, hsign⟩
      · rw [expect?_eq_some_iff] at hsign
        exact ⟨⟨first, others, before, true, after⟩,
          hfirst.append (hothers.append (hbefore.append (hsign.append hafter))), hnames _⟩
      · rw [expect?_eq_some_iff] at hsign
        exact ⟨⟨first, others, before, false, after⟩,
          hfirst.append (hothers.append (hbefore.append (hsign.append hafter))), hnames _⟩
    · cases h

/-! ### Commands and pipelines -/

/-- **A reader of operands accepts only what was written**: behind every operand that it
reads stands a written one, and it is no keyword where none can be read. -/
def AcceptsWritten (operand : Cursor → Reading Operand) : Prop :=
  ∀ c o d, operand c = .ok (o, d) → ∃ x : OperandText, c.Passes x.chars d ∧
    x.operand c.offset = o ∧ (readKeyword? c = none → x.keyword? = none)

section

variable {operand : Cursor → Reading Operand} (hoperand : AcceptsWritten operand)

include hoperand

/-- Further operands behind one that was written make a command. -/
theorem CommandText.exists_of_furtherRead {after : Cursor} {operands : List Operand}
    (h : FurtherRead skipBlanks1? operand d operands after) {x : OperandText}
    (hx : c.Passes x.chars d) :
    ∃ t : CommandText, t.first = x ∧ c.Passes t.chars after ∧
      t.operands c.offset = x.operand c.offset :: operands := by
  induction h generalizing c x with
  | done d => exact ⟨.last x, rfl, hx, rfl⟩
  | more hgap hitem _ ih =>
    obtain ⟨gap, hgap⟩ := exists_gap hgap
    obtain ⟨y, hy, rfl, -⟩ := hoperand _ _ _ hitem
    obtain ⟨others, -, hothers, hoperands⟩ := ih hy
    have hoffset := (hx.append hgap).2
    refine ⟨.more x gap others, rfl, hx.append (hgap.append hothers), ?_⟩
    rw [CommandText.operands, ← hoffset, hoperands]

theorem CommandText.exists_of_readCommand {command : Command Operand}
    (h : readCommand operand c = .ok (command, d)) :
    ∃ t : CommandText, c.Passes t.chars d ∧ ⟨c.offset, t.operands c.offset⟩ = command ∧
      (readKeyword? c = none → t.first.keyword? = none) := by
  unfold readCommand at h
  split at h
  · next hlist =>
    cases h
    obtain ⟨o, e, others, rfl, hitem, hfurther⟩ := furtherRead_of_readList hlist
    obtain ⟨x, hx, rfl, hkeyword⟩ := hoperand _ _ _ hitem
    obtain ⟨t, rfl, ht, hoperands⟩ := exists_of_furtherRead hoperand hfurther hx
    exact ⟨t, ht, by rw [hoperands], hkeyword⟩
  · cases h

/-- Further commands behind one that was written. -/
theorem CommandsText.exists_of_furtherRead {after : Cursor} {commands : List (Command Operand)}
    (h : FurtherRead (separator? '|') (readCommand operand) d commands after) {x : CommandText}
    (hx : c.Passes x.chars d) :
    ∃ t : CommandsText, t.first = x ∧ c.Passes t.chars after ∧
      t.commands c.offset = ⟨c.offset, x.operands c.offset⟩ :: commands := by
  induction h generalizing c x with
  | done d => exact ⟨.last x, rfl, hx, rfl⟩
  | more hbar hitem _ ih =>
    obtain ⟨before, behind, hbar⟩ := exists_separator hbar
    obtain ⟨y, hy, rfl, -⟩ := CommandText.exists_of_readCommand hoperand hitem
    obtain ⟨others, -, hothers, hcommands⟩ := ih hy
    have hoffset := (hx.append hbar).2
    refine ⟨.more x before behind others, rfl, ?_, ?_⟩
    · simpa [chars] using hx.append (hbar.append hothers)
    · rw [CommandsText.commands, ← hoffset, hcommands]

theorem CommandsText.exists_of_readList {commands : List (Command Operand)}
    (h : readList (separator? '|') (readCommand operand) c = .ok (commands, d)) :
    ∃ t : CommandsText, c.Passes t.chars d ∧ t.commands c.offset = commands ∧
      (readKeyword? c = none → t.first.first.keyword? = none) := by
  obtain ⟨command, e, others, rfl, hitem, hfurther⟩ := furtherRead_of_readList h
  obtain ⟨x, hx, rfl, hkeyword⟩ := CommandText.exists_of_readCommand hoperand hitem
  obtain ⟨t, rfl, ht, hcommands⟩ := exists_of_furtherRead hoperand hfurther hx
  exact ⟨t, ht, hcommands, hkeyword⟩

/-- **A pipeline that is read was written.** -/
theorem PipelineText.exists_of_readPipelineOf {p : Pipeline Operand}
    (h : readPipelineOf operand c = .ok (p, d)) :
    ∃ t : PipelineText, c.Passes t.chars d ∧ t.pipeline c.offset = p ∧
      (readKeyword? c = none → t.keyword? = none) := by
  unfold readPipelineOf at h
  cases hdeclarations : readDeclarations? c with
  | none =>
    simp only [hdeclarations, Option.getD_none] at h
    split at h
    · next hlist =>
      cases h
      obtain ⟨t, ht, rfl, hkeyword⟩ := CommandsText.exists_of_readList hoperand hlist
      exact ⟨.plain t, ht, rfl, hkeyword⟩
    · cases h
  | some declared =>
    obtain ⟨names, e⟩ := declared
    obtain ⟨declarations, hnames, rfl⟩ := DeclarationsText.exists_of_readDeclarations? hdeclarations
    simp only [hdeclarations, Option.getD_some] at h
    split at h
    · next hlist =>
      cases h
      obtain ⟨t, ht, rfl, -⟩ := CommandsText.exists_of_readList hoperand hlist
      refine ⟨.declaring declarations t, hnames.append ht, ?_, fun _ => rfl⟩
      rw [pipeline, ← hnames.2]
    · cases h

end

/-- **Operands that are read were written**, however deep they stand. -/
theorem acceptsWritten_readOperand (depth : Nat) : AcceptsWritten (readOperand depth) := by
  -- A pipeline inside parentheses is read by an operand reader of smaller depth.
  have hchoice {pipeline : Cursor → Reading (Pipeline Operand)}
      (hpipeline : ∀ c p d, pipeline c = .ok (p, d) →
        ∃ t : PipelineText, c.Passes t.chars d ∧ t.pipeline c.offset = p) :
      AcceptsWritten (readChoice pipeline) := by
    intro c o d h
    rcases OperandRead.of_readChoice h with hmarked | hnumeral | ⟨hopen, hinside, hclose⟩ | hword
    · obtain ⟨l, hl, rfl, hkeyword⟩ := LeafText.exists_of_readMarked? hmarked
      exact ⟨.leaf l, hl, rfl, fun _ => hkeyword⟩
    · obtain ⟨n, hn, rfl⟩ := NumeralText.exists_of_numeral hnumeral
      exact ⟨.leaf (.numeral n), hn, rfl, fun _ => rfl⟩
    · obtain ⟨t, ht, rfl⟩ := hpipeline _ _ _ hinside
      rw [expect?_eq_some_iff] at hopen hclose
      obtain ⟨before, hbefore, -⟩ := exists_blanks _
      obtain ⟨after, hafter, -⟩ := exists_blanks _
      have hoffset := (hopen.append hbefore).2
      refine ⟨.parenthesized before t after,
        hopen.append (hbefore.append (ht.append (hafter.append hclose))), ?_, fun _ => rfl⟩
      rw [OperandText.operand, hoffset]
      rfl
    · obtain ⟨l, hl, rfl, hkeyword⟩ := LeafText.exists_of_readWord? hword
      exact ⟨.leaf l, hl, rfl, hkeyword⟩
  induction depth with
  | zero => exact hchoice nofun
  | succ depth ih =>
    refine hchoice fun c p d h => ?_
    obtain ⟨t, ht, hsays, -⟩ := PipelineText.exists_of_readPipelineOf ih h
    exact ⟨t, ht, hsays⟩

/-! ### Items -/

theorem Margin.exists_of_openingTrim {body : Cursor} {trims : Bool}
    (h : c.openingTrim = (trims, body)) :
    ∃ m : Margin, m.trims = trims ∧ c.Passes m.opening body.skipBlanks := by
  obtain ⟨blanks, hblanks, hsome⟩ := body.exists_blanks
  unfold openingTrim at h
  split at h
  · next inside hminus =>
    rw [expect?_eq_some_iff] at hminus
    split at h
    · next hblank =>
      cases h
      exact ⟨⟨true, blanks, fun _ => hsome hblank⟩, rfl, hminus.append hblanks⟩
    · cases h
      exact ⟨⟨false, blanks, nofun⟩, rfl, hblanks⟩
  · cases h
    exact ⟨⟨false, blanks, nofun⟩, rfl, hblanks⟩

theorem Margin.exists_of_close? {right : List Char} {trims : Bool}
    (h : c.close? right = some (trims, d)) :
    ∃ m : Margin, m.trims = trims ∧ c.Passes (m.closing ++ right) d := by
  unfold close? at h
  split at h
  · next after hafter =>
    cases h
    simp only [Option.bind_eq_some_iff, expect?_eq_some_iff] at hafter
    obtain ⟨e, ⟨f, hgap, hminus⟩, hright⟩ := hafter
    obtain ⟨gap, hgap⟩ := exists_gap hgap
    exact ⟨⟨true, gap.toBlanks, fun _ => gap.nonempty⟩, rfl, (hgap.append hminus).append hright⟩
  · obtain ⟨blanks, hblanks, -⟩ := c.exists_blanks
    simp only [Option.map_eq_some_iff, Prod.mk.injEq, expect?_eq_some_iff] at h
    obtain ⟨e, hright, rfl, rfl⟩ := h
    refine ⟨⟨false, blanks, nofun⟩, rfl, ?_⟩
    simpa [closing, marker] using hblanks.append hright

theorem exists_of_readKeyword? {keyword : Keyword} (h : readKeyword? c = some (keyword, d)) :
    c.Passes keyword.text.toList d ∧ Stops isIdentifierPart d.rest := by
  unfold readKeyword? at h
  split at h
  · next hname =>
    obtain ⟨i, rfl, hpasses, hstops⟩ := identifier?_eq_some hname
    simp only [Option.map_eq_some_iff, Prod.mk.injEq] at h
    obtain ⟨k, hkeyword, rfl, rfl⟩ := h
    have htext : k.text = String.ofList i.chars := by
      simpa using List.find?_some hkeyword
    rw [htext, String.toList_ofList]
    exact ⟨hpasses, hstops⟩
  · cases h

/-- **What an item holds was written.** -/
theorem ContentText.exists_of_itemRead {right : List Char} {pos : Nat} {body : Cursor} {node : Node}
    {trims : Bool} (h : ItemRead right pos body node trims d) :
    ∃ t : ContentText right, t.trims = trims ∧ body.skipBlanks.Passes (t.chars ++ right) d ∧
      t.node pos body.skipBlanks.offset = node := by
  rcases h with hcomment | ⟨hkeyword, hcontrol⟩ | ⟨hpipeline, hclose, hkeyword⟩
  · simp only [readComment?, Option.bind_eq_bind, Option.bind_eq_some_iff, Prod.exists,
      expect?_eq_some_iff] at hcomment
    obtain ⟨opened, hopen, inside, closing, huntil, after, hend, hclose⟩ := hcomment
    obtain ⟨hinside, -, hnone⟩ := until?_eq_some_iff.mp huntil
    obtain ⟨margin, rfl, hmargin⟩ := Margin.exists_of_close? hclose
    rw [hend.1] at hnone
    refine ⟨.comment inside hnone.of_append margin, rfl, ?_, rfl⟩
    simpa [chars] using hopen.append (hinside.append (hend.append hmargin))
  · obtain ⟨hword, hstops⟩ := exists_of_readKeyword? hkeyword
    unfold readControl at hcontrol
    split at hcontrol
    · cases hcontrol
    · next skipped closing huntil =>
      obtain ⟨hskipped, -, hnone⟩ := until?_eq_some_iff.mp huntil
      split at hcontrol
      · cases hcontrol
      · next hright =>
        cases hcontrol
        rw [expect?_eq_some_iff] at hright
        rw [hright.1] at hnone
        rw [(hskipped.append hright).1] at hstops
        refine ⟨.control _ skipped _ hstops.of_append hnone.of_append
          endsWithTrim_eq_true_iff.symm, rfl, ?_, rfl⟩
        simpa [chars] using hword.append (hskipped.append hright)
  · obtain ⟨p, hp, rfl, hfirst⟩ :=
      PipelineText.exists_of_readPipelineOf (acceptsWritten_readOperand _) hpipeline
    obtain ⟨margin, rfl, hmargin⟩ := Margin.exists_of_close? hclose
    refine ⟨.action p (hfirst hkeyword) margin, rfl, ?_, rfl⟩
    simpa [chars] using hp.append hmargin

/-! ### Texts -/

theorem trimBlankStart_append {lead rest : List Char} (hlead : ∀ x ∈ lead, isBlank x = true)
    (hrest : Stops isBlank rest) : trimBlankStart (lead ++ rest) = rest :=
  dropWhile_append_stops hlead hrest

theorem trimBlankEnd_append {kept trail : List Char} (htrail : ∀ x ∈ trail, isBlank x = true)
    (hkept : Stops isBlank kept.reverse) : trimBlankEnd (kept ++ trail) = kept := by
  have hreverse : ∀ x ∈ trail.reverse, isBlank x = true := fun x hx =>
    htrail x (List.mem_reverse.mp hx)
  rw [trimBlankEnd, List.reverse_append, dropWhile_append_stops hreverse hkept,
    List.reverse_reverse]

namespace TextPart

variable {trimStart trimEnd : Bool}

/-- **The node of a text holds what its trim markers keep.** -/
theorem textNodes_chars (t : TextPart trimStart trimEnd) (c : Cursor) :
    textNodes c t.chars trimStart trimEnd = t.nodes c.offset := by
  have hstart : (if trimStart then trimBlankStart t.chars else t.chars) =
      t.kept ++ t.trail.chars := by
    split
    · next htrim => exact trimBlankStart_append t.lead.areBlank (t.kept_start htrim)
    · next htrim => rw [chars, t.lead_eq_nil (by simpa using htrim), List.nil_append]
  have hend : (if trimEnd then trimBlankEnd (t.kept ++ t.trail.chars)
      else t.kept ++ t.trail.chars) = t.kept := by
    split
    · next htrim => exact trimBlankEnd_append t.trail.areBlank (t.kept_end htrim)
    · next htrim => rw [t.trail_eq_nil (by simpa using htrim), List.append_nil]
  have hoffset : byteLength t.chars - byteLength (t.kept ++ t.trail.chars) =
      byteLength t.lead.chars := by
    rw [chars, byteLength_append, Nat.add_sub_cancel]
  simp only [textNodes, hstart, hend, hoffset, nodes, List.isEmpty_iff]

/-- Every text can be divided for its trim markers. -/
theorem exists_chars_eq (trimStart trimEnd : Bool) (text : List Char) :
    ∃ t : TextPart trimStart trimEnd, t.chars = text := by
  -- The blanks in front, then the blanks at the end of what is left.
  obtain ⟨lead, rest, rfl, hlead, hnone, hrest⟩ : ∃ lead rest : List Char, lead ++ rest = text ∧
      (∀ x ∈ lead, isBlank x = true) ∧ (trimStart = false → lead = []) ∧
      (trimStart = true → Stops isBlank rest) := by
    cases trimStart with
    | false => exact ⟨[], text, rfl, List.forall_mem_nil _, fun _ => rfl, nofun⟩
    | true => exact ⟨_, _, List.takeWhile_append_dropWhile, fun _ hx => List.mem_takeWhile_imp hx,
        nofun, fun _ => stops_dropWhile isBlank text⟩
  obtain ⟨kept, trail, rfl, htrail, hnone', hkept⟩ : ∃ kept trail : List Char,
      kept ++ trail = rest ∧ (∀ x ∈ trail, isBlank x = true) ∧ (trimEnd = false → trail = []) ∧
      (trimEnd = true → Stops isBlank kept.reverse) := by
    cases trimEnd with
    | false => exact ⟨rest, [], List.append_nil _, List.forall_mem_nil _, fun _ => rfl, nofun⟩
    | true =>
      refine ⟨(rest.reverse.dropWhile isBlank).reverse, (rest.reverse.takeWhile isBlank).reverse,
        ?_, fun _ hx => List.mem_takeWhile_imp (List.mem_reverse.mp hx), nofun, fun _ => ?_⟩
      · rw [← List.reverse_append, List.takeWhile_append_dropWhile, List.reverse_reverse]
      · rw [List.reverse_reverse]
        exact stops_dropWhile isBlank _
  exact ⟨⟨⟨lead, hlead⟩, kept, ⟨trail, htrail⟩, hnone, hnone', hrest, hkept⟩, rfl⟩

end TextPart

/-! ### Templates -/

/-- A source is split at its first left delimiter, or it has none. -/
theorem Cursor.splitText_cases {left text : List Char} (hleft : left ≠ []) {opening : Cursor}
    (h : c.splitText left = (text, opening)) :
    (opening.atEnd = true ∧ text = c.rest ∧ ¬left <:+: c.rest) ∨
      (opening.atEnd = false ∧ c.Passes text opening ∧ NoneInside left text opening.rest) := by
  unfold splitText at h
  cases huntil : c.until? left with
  | none =>
    rw [huntil] at h
    cases h
    exact Or.inl ⟨rfl, rfl, until?_eq_none_iff.mp huntil⟩
  | some found =>
    rw [huntil] at h
    obtain rfl : found = (text, opening) := h
    obtain ⟨hpasses, hprefix, hnone⟩ := until?_eq_some_iff.mp huntil
    refine Or.inr ⟨?_, hpasses, hnone⟩
    rw [atEnd, List.isEmpty_eq_false_iff]
    intro hend
    rw [hend, List.prefix_nil] at hprefix
    exact hleft hprefix

/-- **An item that is read was written**, from its left delimiter to its right one. -/
theorem ItemText.exists_of_itemRead {left right : List Char} {opening inside body after : Cursor}
    {trimEnd trimNext : Bool} {node : Node} (hleft : opening.expect? left = some inside)
    (htrim : inside.openingTrim = (trimEnd, body))
    (hitem : ItemRead right opening.offset body node trimNext after) :
    ∃ i : ItemText right, i.margin.trims = trimEnd ∧ i.content.trims = trimNext ∧
      opening.Passes (left ++ (i.chars ++ right)) after ∧
      i.node opening.offset (opening.offset + byteLength left) = node := by
  rw [expect?_eq_some_iff] at hleft
  obtain ⟨margin, hmarked, hmargin⟩ := Margin.exists_of_openingTrim htrim
  obtain ⟨content, hclosed, hcontent, rfl⟩ := ContentText.exists_of_itemRead hitem
  refine ⟨⟨margin, content⟩, hmarked, hclosed, ?_, ?_⟩
  · simpa [ItemText.chars] using hleft.append (hmargin.append hcontent)
  · rw [ItemText.node, hmargin.2, hleft.2]

/-- **Nodes that are read were written.** -/
theorem TemplateText.exists_of_nodesRead {left right : List Char} (hleft : left ≠ []) {trim : Bool}
    {nodes : List Node} (h : NodesRead left right trim c nodes) :
    ∃ t : TemplateText left right trim, t.chars = c.rest ∧ t.nodes c.offset = nodes := by
  induction h with
  | @last trim c opening text hsplit hend =>
    rcases splitText_cases hleft hsplit with ⟨-, rfl, hnone⟩ | ⟨hnot, -⟩
    · obtain ⟨t, ht⟩ := TextPart.exists_chars_eq trim false c.rest
      have hnodes := t.textNodes_chars c
      rw [ht] at hnodes
      exact ⟨.last t (ht ▸ hnone), ht, hnodes.symm⟩
    · rw [hend] at hnot
      cases hnot
  | @item trim trimEnd trimNext c opening inside body after text node nodes hsplit hend hopen htrim
      hitem _ ih =>
    rcases splitText_cases hleft hsplit with ⟨hat, -⟩ | ⟨-, htext, hnone⟩
    · rw [hend] at hat
      cases hat
    · -- The parts are written from behind: what follows, then the item, then the text, whose
      -- trimming is known only once the item is.
      obtain ⟨others, hothers, rfl⟩ := ih
      have hstands := (expect?_eq_some_iff.mp hopen).1
      obtain ⟨i, rfl, rfl, hspan, rfl⟩ := ItemText.exists_of_itemRead hopen htrim hitem
      obtain ⟨t, rfl⟩ := TextPart.exists_chars_eq trim i.margin.trims text
      rw [hstands] at hnone
      refine ⟨.item i t hnone.of_append others, ?_, ?_⟩
      · rw [(htext.append hspan).1, ← hothers]
        simp [chars]
      · rw [t.textNodes_chars, hspan.2, htext.2, byteLength_append, ← Nat.add_assoc]
        rfl

end Stencil
