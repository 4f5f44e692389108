import Stencil.Proofs.Source.Pipelines

/-!
# Written templates are read back

The other direction: every written template between double braces is read, as what it
says. Together with the fact that only written templates are accepted, this says what
the parser does with every source that it reads
(`Stencil.parse_standard_eq_ok_iff`).

The reading of a segment, a text with the item behind it, is said for whatever follows
(`Stencil.readNodes_segment`): no item looks beyond its own right delimiter.
-/

namespace Stencil

open Cursor

variable {c d : Cursor}

/-! ### Items -/

/-- Double braces on the left. -/
def openBraces : List Char := ['\x7b', '\x7b']

/-- Double braces on the right. -/
def closeBraces : List Char := ['\x7d', '\x7d']

/-- **A margin is read back** before double braces. -/
theorem Margin.close?_of_passes {m : Margin} (h : c.Passes (m.closing ++ closeBraces) d) :
    c.close? closeBraces = some (m.trims, d) := by
  rw [closing, List.append_assoc] at h
  obtain ⟨e, hblanks, hrest⟩ := h.split
  rw [marker] at hrest
  unfold close?
  cases htrims : m.trims with
  | true =>
    rw [htrims] at hrest
    have hmarked : e.Passes (['-'] ++ closeBraces) d := hrest
    obtain ⟨f, hminus, hright⟩ := hmarked.split
    have hgap := skipBlanks1?_of_passes hblanks m.blanks.areBlank (m.nonempty htrims)
      (hminus.stops (by decide))
    simp only [hgap, Option.bind_some, expect?_eq_some_iff.mpr hminus,
      expect?_eq_some_iff.mpr hright]
  | false =>
    rw [htrims] at hrest
    have hright : e.Passes closeBraces d := hrest
    have hblank : Stops isBlank e.rest := hright.stops (by decide)
    -- Whether or not there are blanks, the delimiter follows where the marker would be.
    have hnone : c.skipBlanks1?.bind (·.expect? ['-']) = none := by
      rcases eq_or_ne m.blanks.chars [] with hnil | hne
      · rw [hnil] at hblanks
        rw [← hblanks.eq_of_nil, skipBlanks1?_eq_none_iff.mpr hblank]
        rfl
      · rw [skipBlanks1?_of_passes hblanks m.blanks.areBlank hne hblank]
        exact expect?_of_stops (hright.stops (by decide)) []
    simp only [hnone, Option.bind_none, skipBlanks_of_passes hblanks m.blanks.areBlank hblank,
      expect?_eq_some_iff.mpr hright, Option.map_some]

/-- A margin is the end of a pipeline. -/
theorem Margin.endsPipeline (m : Margin) (rest : List Char) :
    EndsPipeline (m.closing ++ closeBraces ++ rest) := by
  rw [closing, marker]
  cases htrims : m.trims with
  | true =>
    have hend : EndsPipeline (m.blanks.chars ++ '-' :: '\x7d' :: '\x7d' :: rest) :=
      .trim ⟨m.blanks, m.nonempty htrims⟩ _
    simpa [closeBraces] using hend
  | false =>
    have hend : EndsPipeline (m.blanks.chars ++ '\x7d' :: '\x7d' :: rest) :=
      .mark m.blanks (by decide) _
    simpa [closeBraces] using hend

theorem readAction_of_passes {p : PipelineText} {margin : Margin}
    (h : c.Passes (p.chars ++ (margin.closing ++ closeBraces)) d) :
    readAction closeBraces c = .ok (p.pipeline c.offset, margin.trims, d) := by
  obtain ⟨e, hp, hmargin⟩ := h.split
  have hbegins : BeginsOperand c.rest := by
    rw [hp.1]
    exact p.beginsOperand.append _
  have hend : EndsPipeline e.rest := by
    rw [hmargin.1]
    exact margin.endsPipeline _
  have hblank := hbegins.stops_isBlank
  -- An operand stands in front, so the action is not empty and begins with no bar.
  have hclose : c.close? closeBraces = none := by
    rw [close?, skipBlanks1?_eq_none_iff.mpr hblank, skipBlanks_eq_self hblank, closeBraces,
      expect?_of_stops (hbegins.stops_char (by decide))]
    rfl
  have hbar : c.startsWith ['|'] = false := by
    rw [startsWith_eq_isSome, expect?_of_stops (hbegins.stops_char (by decide))]
    rfl
  have hlength : p.chars.length ≤ c.rest.length := by
    rw [hp.length_rest]
    omega
  have hread : readPipeline c = .ok (p.pipeline c.offset, e) :=
    p.readPipelineOf_of_passes hlength hp hend
  simp only [readAction, hbar, hclose, Option.isSome_none, Bool.or_self, Bool.false_eq_true,
    if_false, hread, margin.close?_of_passes hmargin]

theorem readComment?_of_passes {inside : List Char}
    (hnone : NoneInside ['*', '/'] inside ['*', '/']) {margin : Margin}
    (h : c.Passes (['/', '*'] ++ (inside ++ (['*', '/'] ++ (margin.closing ++ closeBraces)))) d) :
    readComment? closeBraces c = some (margin.trims, d) := by
  obtain ⟨opened, hopen, hrest⟩ := h.split
  obtain ⟨closing, hinside, hrest⟩ := hrest.split
  obtain ⟨after, hend, hmargin⟩ := hrest.split
  simp only [readComment?, expect?_eq_some_iff.mpr hopen, until?_of_passes hinside hend hnone,
    expect?_eq_some_iff.mpr hend, margin.close?_of_passes hmargin, Option.bind_eq_bind,
    Option.bind_some]

theorem readControl_of_passes {skipped : List Char} {trims : Bool}
    (hnone : NoneInside closeBraces skipped closeBraces)
    (htrims : ClosesTrimmed skipped ↔ trims = true) (h : c.Passes (skipped ++ closeBraces) d) :
    readControl closeBraces c = .ok (trims, d) := by
  obtain ⟨e, hskipped, hright⟩ := h.split
  have hends : endsWithTrim skipped = trims :=
    Bool.eq_iff_iff.mpr (endsWithTrim_eq_true_iff.trans htrims)
  simp only [readControl, until?_of_passes hskipped hright hnone, expect?_eq_some_iff.mpr hright,
    hends]

theorem Keyword.ofText?_text (k : Keyword) : Keyword.ofText? k.text = some k := by
  cases k <;> decide

theorem readKeyword?_of_passes {k : Keyword} (h : c.Passes k.text.toList d)
    (hstops : Stops isIdentifierPart d.rest) : readKeyword? c = some (k, d) := by
  obtain ⟨i, hi⟩ := k.exists_identifier
  rw [← hi] at h
  rw [readKeyword?, identifier?_of_passes h hstops]
  simp only [hi, String.ofList_toList, k.ofText?_text, Option.map_some]

/-- **The content of an item is read back**, behind blanks. -/
theorem ContentText.readItem_of_passes (t : ContentText closeBraces) {body start : Cursor}
    {blanks : Blanks} (hblanks : body.Passes blanks.chars start)
    (h : start.Passes (t.chars ++ closeBraces) d) (pos : Nat) :
    readItem closeBraces pos body = .ok (t.node pos start.offset, t.trims, d) := by
  have hcontains : containsText closeBraces body.rest = true := by
    rw [hblanks.1, h.1, List.append_assoc, ← List.append_assoc]
    exact containsText_of_append _ _ _
  -- What begins like an operand begins no comment.
  have hoperand (hbegins : BeginsOperand start.rest) :
      body.skipBlanks = start ∧ start.startsWith ['/', '*'] = false := by
    refine ⟨skipBlanks_of_passes hblanks blanks.areBlank hbegins.stops_isBlank, ?_⟩
    rw [startsWith_eq_isSome, expect?_of_stops (hbegins.stops_char (by decide))]
    rfl
  cases t with
  | comment inside hnone margin =>
    have hpasses : start.Passes
        (['/', '*'] ++ (inside ++ (['*', '/'] ++ (margin.closing ++ closeBraces)))) d := by
      simpa [chars] using h
    have hskip : body.skipBlanks = start :=
      skipBlanks_of_passes hblanks blanks.areBlank (Passes.stops hpasses (by decide))
    obtain ⟨opened, hopen, -⟩ := hpasses.split
    have hslash : start.startsWith ['/', '*'] = true := by
      rw [startsWith_eq_isSome, expect?_eq_some_iff.mpr hopen]
      rfl
    simp only [readItem, hcontains, Bool.not_true, Bool.false_eq_true, if_false, hskip, hslash,
      if_true, readComment?_of_passes hnone hpasses, node, trims]
  | control keyword skipped trims hstops hnone htrims =>
    rw [chars, List.append_assoc] at h
    obtain ⟨e, hword, hrest⟩ := h.split
    have hbegins : BeginsOperand start.rest := by
      obtain ⟨i, hi⟩ := keyword.exists_identifier
      rw [hword.1, ← hi]
      exact i.beginsOperand.append _
    obtain ⟨hskip, hslash⟩ := hoperand hbegins
    have hstop : Stops isIdentifierPart e.rest := by
      rw [hrest.1]
      exact hstops.append (by simp [closeBraces]) _
    simp only [readItem, hcontains, Bool.not_true, Bool.false_eq_true, if_false, hskip, hslash,
      readKeyword?_of_passes hword hstop, readControl_of_passes hnone htrims hrest, node,
      ContentText.trims]
  | action p hkeyword margin =>
    rw [chars, List.append_assoc] at h
    obtain ⟨e, hp, hmargin⟩ := h.split
    have hbegins : BeginsOperand start.rest := by
      rw [hp.1]
      exact p.beginsOperand.append _
    obtain ⟨hskip, hslash⟩ := hoperand hbegins
    have hend : EndsPipeline e.rest := by
      rw [hmargin.1]
      exact margin.endsPipeline _
    simp only [readItem, hcontains, Bool.not_true, Bool.false_eq_true, if_false, hskip, hslash,
      p.readKeyword?_of_passes hkeyword hp hend, readAction_of_passes h, node, trims]

/-- A trim marker behind a left delimiter is read where one stands. -/
theorem Cursor.openingTrim_eq (c : Cursor) :
    (∃ body, OpensTrimmed c.rest ∧ c.Passes ['-'] body ∧ c.openingTrim = (true, body)) ∨
      ¬OpensTrimmed c.rest ∧ c.openingTrim = (false, c) := by
  unfold openingTrim
  cases hminus : c.expect? ['-'] with
  | none =>
    refine Or.inr ⟨?_, rfl⟩
    rintro ⟨x, -, hprefix⟩
    rw [expect?_eq_none_iff] at hminus
    exact hminus ((List.prefix_append ['-'] [x]).trans hprefix)
  | some body =>
    rw [expect?_eq_some_iff] at hminus
    cases hblank : body.skipBlanks1? with
    | none =>
      -- A minus sign without a blank behind it is no marker, and is given back.
      refine Or.inr ⟨?_, by simp [hblank]⟩
      rintro ⟨x, hx, hprefix⟩
      rw [hminus.1, List.singleton_append] at hprefix
      obtain ⟨more, hmore⟩ := (List.cons_prefix_cons.mp hprefix).2
      have hstops := skipBlanks1?_eq_none_iff.mp hblank
      rw [← hmore, List.singleton_append, stops_cons, hx] at hstops
      cases hstops
    | some after =>
      obtain ⟨taken, hne, htaken, hpasses⟩ := skipBlanks1?_eq_some hblank
      obtain ⟨x, xs, rfl⟩ := List.exists_cons_of_ne_nil hne
      refine Or.inl ⟨body, ⟨x, htaken x List.mem_cons_self, ?_⟩, hminus, by simp [hblank]⟩
      rw [hminus.1, hpasses.1]
      exact ⟨xs ++ after.rest, rfl⟩

/-- **The margin behind a left delimiter is read back.** -/
theorem ItemText.openingTrim_of_passes {right : List Char} {i : ItemText right} {start : Cursor}
    (hmargin : c.Passes i.margin.opening start)
    (hcontent : start.Passes (i.content.chars ++ right) d) :
    ∃ body, c.openingTrim = (i.margin.trims, body) ∧ body.Passes i.margin.blanks.chars start := by
  have hopens := i.opensTrimmed_iff (right ++ d.rest)
  have hrest : c.rest = i.chars ++ (right ++ d.rest) := by
    rw [hmargin.1, hcontent.1, chars]
    simp
  rw [← hrest] at hopens
  rw [Margin.opening, Margin.marker] at hmargin
  rcases c.openingTrim_eq with ⟨body, htrims, hminus, hread⟩ | ⟨hnot, hread⟩
  · rw [hopens] at htrims
    rw [htrims] at hmargin ⊢
    have hmarked : c.Passes (['-'] ++ i.margin.blanks.chars) start := hmargin
    obtain ⟨body', hminus', hblanks⟩ := hmarked.split
    rw [hminus'.unique hminus] at hblanks
    exact ⟨body, hread, hblanks⟩
  · rw [hopens, Bool.not_eq_true] at hnot
    rw [hnot] at hmargin ⊢
    exact ⟨c, hread, hmargin⟩

/-! ### Templates -/

/-- **One segment of a template is read back**: a text, an item, and whatever is read
behind it. -/
theorem readNodes_segment {trim : Bool} (i : ItemText closeBraces)
    (text : TextPart trim i.margin.trims) (hnone : NoneInside openBraces text.chars openBraces)
    (h : c.Passes (text.chars ++ (openBraces ++ (i.chars ++ closeBraces))) d) :
    readNodes openBraces closeBraces trim c =
      (readNodes openBraces closeBraces i.content.trims d).map fun nodes =>
        text.nodes c.offset ++ i.node (c.offset + byteLength text.chars)
          (c.offset + byteLength text.chars + byteLength openBraces) :: nodes := by
  obtain ⟨opening, htext, hrest⟩ := h.split
  obtain ⟨inside, hopen, hitem⟩ := hrest.split
  rw [ItemText.chars, List.append_assoc] at hitem
  obtain ⟨start, hmargin, hcontent⟩ := hitem.split
  obtain ⟨body, htrim, hblanks⟩ := ItemText.openingTrim_of_passes hmargin hcontent
  have hsplit : c.splitText openBraces = (text.chars, opening) := by
    rw [splitText, until?_of_passes htext hopen hnone]
    rfl
  have hend : opening.atEnd = false := by
    rw [atEnd, hopen.1]
    rfl
  have hlength : d.rest.length < c.rest.length := by
    rw [h.length_rest, List.length_append, List.length_append]
    simp only [openBraces, List.length_cons]
    omega
  have hread := i.content.readItem_of_passes hblanks hcontent opening.offset
  have hnode : i.content.node opening.offset start.offset =
      i.node (c.offset + byteLength text.chars)
        (c.offset + byteLength text.chars + byteLength openBraces) := by
    rw [ItemText.node, hmargin.2, hopen.2, htext.2]
  rw [readNodes, hsplit]
  simp only [hend, Bool.false_eq_true, if_false, expect?_eq_some_iff.mpr hopen, htrim, hread,
    hlength, if_true, text.textNodes_chars, hnode]
  cases readNodes openBraces closeBraces i.content.trims d <;> rfl

/-- **A written template is read back.** -/
theorem TemplateText.readNodes_chars {trim : Bool} (t : TemplateText openBraces closeBraces trim)
    {c : Cursor} (h : c.rest = t.chars) :
    readNodes openBraces closeBraces trim c = .ok (t.nodes c.offset) := by
  induction t generalizing c with
  | last text hnone =>
    rw [chars] at h
    have hsplit : c.splitText openBraces = (c.rest, c.past c.rest []) := by
      rw [splitText, until?_eq_none_iff.mpr (h ▸ hnone)]
      rfl
    rw [readNodes, hsplit]
    simp only [atEnd, past, List.isEmpty_nil, if_true, h, text.textNodes_chars, nodes]
  | item i text hnone others ih =>
    have hpasses : c.Passes (text.chars ++ (openBraces ++ (i.chars ++ closeBraces)))
        ⟨_, others.chars⟩ := ⟨by rw [h, chars]; simp, rfl⟩
    rw [readNodes_segment i text hnone hpasses, ih rfl, nodes]
    simp [Except.map, Nat.add_assoc]

theorem parse_standard (source : String) :
    parse .standard source = readNodes openBraces closeBraces false (.start source) := by
  have hleft : Delimiters.standard.left.toList = openBraces := by decide
  have hright : Delimiters.standard.right.toList = closeBraces := by decide
  rw [parse, hleft, hright]

/-- What is read of a source is what some template of this text says. -/
theorem TemplateText.exists_of_parse {source : String} {nodes : List Node}
    (h : parse .standard source = .ok nodes) :
    ∃ t : TemplateText openBraces closeBraces false,
      t.chars = source.toList ∧ t.nodes 0 = nodes := by
  have hleft : openBraces ≠ [] := by decide
  rw [parse_standard] at h
  exact exists_of_nodesRead hleft (.of_readNodes h)

/-- **The parser recovers every written template, and accepts nothing else.** A source
between double braces is read exactly if it is the text of a written template, and
what is read is what the template says, with the offset of every node, pipeline and
command. -/
theorem parse_standard_eq_ok_iff (source : String) (nodes : List Node) :
    parse .standard source = .ok nodes ↔
      ∃ t : TemplateText openBraces closeBraces false,
        String.ofList t.chars = source ∧ t.nodes 0 = nodes := by
  constructor
  · intro h
    obtain ⟨t, hchars, hnodes⟩ := TemplateText.exists_of_parse h
    refine ⟨t, ?_, hnodes⟩
    rw [hchars, String.ofList_toList]
  · rintro ⟨t, rfl, rfl⟩
    rw [parse_standard]
    have hrest : (start (String.ofList t.chars)).rest = t.chars := String.toList_ofList
    exact t.readNodes_chars hrest

end Stencil
