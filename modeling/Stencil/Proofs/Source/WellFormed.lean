import Mathlib.Data.List.Chain
import Stencil.Proofs.Source.Forward
import Stencil.Proofs.Source.Recovered
import Stencil.Proofs.Step.Fragment

/-!
# Well-formed trees

What can be relied on in a tree that was read, for all sources and all delimiters,
empty ones included. The parts of the statement are

* the shape of a pipeline and of everything nested in it, with all positions inside
  the item it stands in: `Stencil.Pipeline.WellFormed`;
* the nodes of a template, in the order of the source and each at its place in it:
  `Stencil.WellFormed`.

The facts about pipelines are facts about how pipelines are written, and are proved by
the structure of written pipelines; those about nodes follow the reading of the source
item by item. A tree of this form never lacks what the steps of a template need
(`Stencil.Node.WellFormed.kind_notMem`).
-/

namespace Stencil

open Cursor

/-! ### Pipelines -/

/-- **The shape of a pipeline** in an item with these places: it has commands, these
have operands and stand one behind the other, and what it declares is written with a
dollar sign. -/
structure Pipeline.Shaped (places : Set Nat) (p : Pipeline Operand) : Prop where
  pos_mem : p.pos ∈ places
  commands_ne_nil : p.commands ≠ []
  operands_ne_nil : ∀ c ∈ p.commands, c.operands ≠ []
  commands_mem : ∀ c ∈ p.commands, c.pos ∈ places
  increasing : p.commands.Pairwise (·.pos < ·.pos)
  declared : ∀ name ∈ p.declarations, name.toList.head? = some '$'

/-- **A well-formed operand**, in an item with these places. Pipelines nested in it are
well formed too. -/
inductive Operand.WellFormed (places : Set Nat) : Operand → Prop
  | field {path : FieldPath} (hne : path.segments ≠ [])
      (h : ∀ s ∈ path.segments, ∃ i : Identifier, i.text = s) : WellFormed places (.field path)
  | dot : WellFormed places .dot
  | identifier {name : String} (h : ∃ i : Identifier, i.text = name) :
      WellFormed places (.identifier name)
  | bool (b : Bool) : WellFormed places (.bool b)
  | number {n : Number} (h : n ≠ .nan) : WellFormed places (.number n)
  | string (s : String) : WellFormed places (.string s)
  | nil : WellFormed places .nil
  | variableRef {name : String} (h : name.toList.head? = some '$') :
      WellFormed places (.variableRef name)
  | parenthesized {p : Pipeline Operand} (hshape : p.Shaped places)
      (h : ∀ c ∈ p.commands, ∀ o ∈ c.operands, WellFormed places o) :
      WellFormed places (.parenthesized p)

/-- **A well-formed pipeline**, in an item with these places. -/
structure Pipeline.WellFormed (places : Set Nat) (p : Pipeline Operand) : Prop where
  shaped : p.Shaped places
  operands : ∀ c ∈ p.commands, ∀ o ∈ c.operands, o.WellFormed places

/-- A pipeline that declares nothing and whose first command begins with a name. -/
def Pipeline.LedBy (p : Pipeline Operand) (name : String) : Prop :=
  p.declarations = [] ∧
    ∃ first others args, p.commands = first :: others ∧ first.operands = .identifier name :: args

/-! ### Written pipelines are well formed -/

theorem head?_dollarChars (name? : Option Identifier) :
    (dollarChars name?).head? = some '$' := by
  cases name? <;> rfl

theorem LeafText.wellFormed (l : LeafText) (places : Set Nat) :
    l.operand.WellFormed places := by
  cases l with
  | field first others =>
    refine .field (List.cons_ne_nil _ _) fun s hs => ?_
    obtain ⟨i, -, hi⟩ := List.mem_map.mp hs
    exact ⟨i, hi⟩
  | dot => exact .dot
  | variableRef name? path =>
    refine .variableRef ?_
    rw [String.toList_ofList, List.head?_append, head?_dollarChars, Option.some_or]
  | quoted inside => exact .string _
  | raw inside h => exact .string _
  | numeral n => exact .number (Decimal.toNumber_ne_nan _ _)
  | bool b => exact .bool b
  | nil => exact .nil
  | identifier name h => exact .identifier ⟨name, rfl⟩

theorem CommandText.exists_operands_eq (t : CommandText) (offset : Nat) :
    ∃ others, t.operands offset = t.first.operand offset :: others := by
  cases t with
  | last o => exact ⟨[], rfl⟩
  | more o gap others => exact ⟨_, rfl⟩

theorem CommandsText.exists_commands_eq (t : CommandsText) (offset : Nat) :
    ∃ others, t.commands offset = ⟨offset, t.first.operands offset⟩ :: others := by
  cases t with
  | last c => exact ⟨[], rfl⟩
  | more c before after others => exact ⟨_, rfl⟩

/-- A written command is not empty. -/
theorem CommandText.chars_ne_nil (t : CommandText) : t.chars ≠ [] := by
  obtain ⟨x, xs, hchars, -⟩ := t.beginsOperand
  exact hchars ▸ List.cons_ne_nil x xs

theorem CommandsText.chars_ne_nil (t : CommandsText) : t.chars ≠ [] := by
  obtain ⟨x, xs, hchars, -⟩ := t.beginsOperand
  exact hchars ▸ List.cons_ne_nil x xs

/-- Commands lie where they are written. -/
theorem CommandsText.pos_mem (t : CommandsText) {offset : Nat} :
    ∀ c ∈ t.commands offset, c.pos ∈ charOffsets offset t.chars := by
  match t with
  | .last c =>
    intro command hcommand
    obtain rfl := List.mem_singleton.mp hcommand
    exact self_mem_charOffsets offset c.chars_ne_nil
  | .more c before after others =>
    intro command hcommand
    rcases List.mem_cons.mp hcommand with rfl | hcommand
    · exact self_mem_charOffsets offset (CommandsText.chars_ne_nil _)
    · exact charOffsets_back (by simp [CommandsText.chars]) (others.pos_mem command hcommand)

/-- Commands stand one behind the other. -/
theorem CommandsText.increasing (t : CommandsText) (offset : Nat) :
    (t.commands offset).Pairwise (·.pos < ·.pos) := by
  match t with
  | .last c => exact List.pairwise_singleton _ _
  | .more c before after others =>
    refine List.pairwise_cons.mpr ⟨fun command hcommand => ?_, others.increasing _⟩
    have hpos := byteLength_pos c.chars_ne_nil
    obtain ⟨hlow, -⟩ := bounds_of_mem_charOffsets (others.pos_mem command hcommand)
    rw [byteLength_append] at hlow
    dsimp only
    omega

theorem CommandsText.operands_ne_nil (t : CommandsText) {offset : Nat} :
    ∀ c ∈ t.commands offset, c.operands ≠ [] := by
  have hcommand (c : CommandText) (offset : Nat) : c.operands offset ≠ [] := by
    obtain ⟨others, hothers⟩ := c.exists_operands_eq offset
    rw [hothers]
    exact List.cons_ne_nil _ _
  match t with
  | .last c =>
    intro command hmem
    obtain rfl := List.mem_singleton.mp hmem
    exact hcommand c offset
  | .more c before after others =>
    intro command hmem
    rcases List.mem_cons.mp hmem with rfl | hmem
    · exact hcommand c offset
    · exact others.operands_ne_nil command hmem

theorem DeclarationsText.head?_names (t : DeclarationsText) :
    ∀ name ∈ t.names, name.toList.head? = some '$' := by
  intro name hname
  obtain ⟨name?, -, rfl⟩ := List.mem_map.mp hname
  rw [String.toList_ofList]
  exact head?_dollarChars name?

/-- **The shape of a written pipeline.** -/
theorem PipelineText.shaped (t : PipelineText) {offset : Nat} {places : Set Nat}
    (hplaces : charOffsets offset t.chars ⊆ places) : (t.pipeline offset).Shaped places := by
  have hpos : offset ∈ places := by
    obtain ⟨x, xs, hchars, -⟩ := t.beginsOperand
    exact hplaces (self_mem_charOffsets offset (hchars ▸ List.cons_ne_nil x xs))
  -- The commands are written at the end of the pipeline, behind its declarations.
  have hcommands (names : List String) (hnames : ∀ name ∈ names, name.toList.head? = some '$')
      (commands : CommandsText) (start : Nat)
      (hstart : charOffsets start commands.chars ⊆ places) :
      Pipeline.Shaped places ⟨offset, names, commands.commands start⟩ := by
    refine ⟨hpos, ?_, commands.operands_ne_nil, fun c hc => hstart (commands.pos_mem c hc),
      commands.increasing start, hnames⟩
    obtain ⟨others, hothers⟩ := commands.exists_commands_eq start
    rw [hothers]
    exact List.cons_ne_nil _ _
  cases t with
  | plain commands => exact hcommands [] (by simp) commands offset hplaces
  | declaring declarations commands =>
    refine hcommands declarations.names declarations.head?_names commands _ ?_
    exact (charOffsets_back rfl).trans hplaces

mutual

/-- **A written operand is well formed.** -/
theorem OperandText.wellFormed (t : OperandText) {offset : Nat} {places : Set Nat}
    (hplaces : charOffsets offset t.chars ⊆ places) : (t.operand offset).WellFormed places := by
  match t with
  | .leaf l => exact l.wellFormed places
  | .parenthesized before p after =>
    have hinside : charOffsets (offset + byteLength ('(' :: before.chars)) p.chars ⊆ places :=
      (charOffsets_front rfl).trans ((charOffsets_back rfl).trans hplaces)
    exact .parenthesized (p.shaped hinside) (p.wellFormed hinside)

/-- The operands of a written command are well formed. -/
theorem CommandText.wellFormed (t : CommandText) {offset : Nat} {places : Set Nat}
    (hplaces : charOffsets offset t.chars ⊆ places) :
    ∀ o ∈ t.operands offset, o.WellFormed places := by
  match t with
  | .last x =>
    intro o ho
    obtain rfl := List.mem_singleton.mp ho
    exact x.wellFormed hplaces
  | .more x gap others =>
    intro o ho
    rcases List.mem_cons.mp ho with rfl | ho
    · exact x.wellFormed ((charOffsets_front rfl).trans hplaces)
    · have hback : (CommandText.more x gap others).chars =
          (x.chars ++ gap.chars) ++ others.chars := by
        simp [CommandText.chars]
      exact others.wellFormed ((charOffsets_back hback).trans hplaces) o ho

/-- The operands of written commands are well formed. -/
theorem CommandsText.wellFormed (t : CommandsText) {offset : Nat} {places : Set Nat}
    (hplaces : charOffsets offset t.chars ⊆ places) :
    ∀ c ∈ t.commands offset, ∀ o ∈ c.operands, o.WellFormed places := by
  match t with
  | .last x =>
    intro c hc
    obtain rfl := List.mem_singleton.mp hc
    exact x.wellFormed hplaces
  | .more x before after others =>
    intro c hc
    rcases List.mem_cons.mp hc with rfl | hc
    · exact x.wellFormed ((charOffsets_front rfl).trans hplaces)
    · have hback : (CommandsText.more x before after others).chars =
          (x.chars ++ (before.chars ++ '|' :: after.chars)) ++ others.chars := by
        simp [CommandsText.chars]
      exact others.wellFormed ((charOffsets_back hback).trans hplaces) c hc

/-- The operands of a written pipeline are well formed. -/
theorem PipelineText.wellFormed (t : PipelineText) {offset : Nat} {places : Set Nat}
    (hplaces : charOffsets offset t.chars ⊆ places) :
    ∀ c ∈ (t.pipeline offset).commands, ∀ o ∈ c.operands, o.WellFormed places := by
  match t with
  | .plain commands => exact commands.wellFormed hplaces
  | .declaring declarations commands =>
    exact commands.wellFormed ((charOffsets_back rfl).trans hplaces)

end

/-- A written pipeline is led by no keyword, unless it could be taken for one. -/
theorem PipelineText.not_ledBy (t : PipelineText) (h : t.keyword? = none) (offset : Nat)
    (k : Keyword) : ¬(t.pipeline offset).LedBy k.text := by
  rintro ⟨hnone, first, others, args, hcommands, hoperands⟩
  cases t with
  | declaring declarations commands => simp [pipeline, DeclarationsText.names] at hnone
  | plain commands =>
    obtain ⟨behind, hbehind⟩ := commands.exists_commands_eq offset
    obtain ⟨rest, hrest⟩ := commands.first.exists_operands_eq offset
    have hfirst : commands.first.operands offset = .identifier k.text :: args := by
      rw [pipeline, hbehind, List.cons.injEq] at hcommands
      rw [← hoperands, ← hcommands.1]
    rw [hrest, List.cons.injEq] at hfirst
    -- Only a name says that it is an identifier, and a keyword would be taken for one.
    have hoperand := hfirst.1
    rw [keyword?] at h
    cases hleaf : commands.first.first with
    | parenthesized before p after =>
      rw [hleaf, OperandText.operand] at hoperand
      cases hoperand
    | leaf l =>
      rw [hleaf] at h hoperand
      cases l with
      | identifier name hname =>
        have hname : name.text = k.text := Operand.identifier.inj hoperand
        have hkeyword : Keyword.ofText? name.text = none := h
        rw [hname, k.ofText?_text] at hkeyword
        cases hkeyword
      | _ => cases hoperand

/-! ### Nodes -/

/-- Whether a node is a text. -/
def Node.isText : Node → Bool
  | text .. => true
  | _ => false

/-- **A well-formed node** of an item with these places: the pipeline of an action is
well formed, and led by no keyword. -/
def Node.WellFormed (places : Set Nat) : Node → Prop
  | action _ p => p.WellFormed places ∧ ∀ k : Keyword, ¬p.LedBy k.text
  | _ => True

/-- What stands in a source for an item, from its left delimiter to its right one. -/
def Delimiters.around (delimiters : Delimiters) (inside : List Char) : List Char :=
  delimiters.left.toList ++ (inside ++ delimiters.right.toList)

/-- **A node occupies an item of a source**, which is not empty: it stands at the
position of the node, and all later nodes stand behind it. -/
def Node.Occupies (node : Node) (delimiters : Delimiters) (source : String) (nodes : List Node)
    (inside : List Char) : Prop :=
  inside ≠ [] ∧ StandsAt source node.pos (delimiters.around inside) ∧
    ∀ other ∈ nodes, node.pos < other.pos →
      node.pos + byteLength (delimiters.around inside) ≤ other.pos

/-- **The well-formed nodes of a source.** They stand one behind the other, between the
characters of the source, and no two texts in a row. A text is not empty, and it is what
stands at its position. Every other node occupies an item, and is well formed inside
it. -/
structure WellFormed (delimiters : Delimiters) (source : String) (nodes : List Node) : Prop where
  increasing : nodes.Pairwise (·.pos < ·.pos)
  onBoundary : ∀ node ∈ nodes, IsBoundary source node.pos
  textsApart : nodes.IsChain fun a b => ¬(a.isText = true ∧ b.isText = true)
  texts : ∀ pos s, .text pos s ∈ nodes → s ≠ "" ∧ StandsAt source pos s.toList
  items : ∀ node ∈ nodes, node.isText = false →
    ∃ inside, node.Occupies delimiters source nodes inside ∧
      node.WellFormed (charOffsets (node.pos + byteLength delimiters.left.toList) inside)

/-! ### Nodes that are read are well formed -/

/-- What is kept of a text is at most one node, not empty and at its place, before the
place where the text ends. -/
theorem textNodes_cases {source : String} {c opening : Cursor} {text : List Char}
    (hc : (start source).Reaches c) (h : c.Passes text opening) (trimStart trimEnd : Bool) :
    textNodes c text trimStart trimEnd = [] ∨
      ∃ pos s, textNodes c text trimStart trimEnd = [.text pos s] ∧ c.offset ≤ pos ∧
        pos < opening.offset ∧ s ≠ "" ∧ StandsAt source pos s.toList := by
  obtain ⟨t, rfl⟩ := TextPart.exists_chars_eq trimStart trimEnd text
  rw [t.textNodes_chars, TextPart.nodes]
  rcases eq_or_ne t.kept [] with hkept | hkept
  · exact Or.inl (if_pos hkept)
  · have hpos := byteLength_pos hkept
    have hplace := h.2
    rw [TextPart.chars, byteLength_append, byteLength_append] at hplace
    refine Or.inr ⟨_, _, if_neg hkept, by omega, by omega, ?_, ?_⟩
    · simpa using hkept
    · rw [String.toList_ofList]
      exact (hc.standsAt h).behind.front

/-- The node of a written item is well formed between its delimiters. -/
theorem ItemText.wellFormed_node {right : List Char} (i : ItemText right) (pos offset : Nat) :
    (i.node pos offset).isText = false ∧ (i.node pos offset).pos = pos ∧
      (i.node pos offset).WellFormed (charOffsets offset i.chars) := by
  rw [node, chars]
  cases i.content with
  | comment => exact ⟨rfl, rfl, trivial⟩
  | control => exact ⟨rfl, rfl, trivial⟩
  | action p hkeyword margin =>
    have hplaces : charOffsets (offset + byteLength i.margin.opening) p.chars ⊆
        charOffsets offset (i.margin.opening ++
          (ContentText.action p hkeyword margin : ContentText right).chars) :=
      (charOffsets_front rfl).trans (charOffsets_back rfl)
    refine ⟨rfl, rfl, ⟨p.shaped hplaces, p.wellFormed hplaces⟩, ?_⟩
    exact p.not_ledBy hkeyword _

/-- **One node more** in front of well-formed nodes. -/
theorem WellFormed.cons {delimiters : Delimiters} {source : String} {node : Node}
    {nodes : List Node} (h : WellFormed delimiters source nodes)
    (hboundary : IsBoundary source node.pos) (hlater : ∀ other ∈ nodes, node.pos < other.pos)
    (hapart : ∀ other ∈ nodes.head?, ¬(node.isText = true ∧ other.isText = true))
    (htext : ∀ pos s, node = .text pos s → s ≠ "" ∧ StandsAt source pos s.toList)
    (hitem : node.isText = false → ∃ inside, node.Occupies delimiters source nodes inside ∧
      node.WellFormed (charOffsets (node.pos + byteLength delimiters.left.toList) inside)) :
    WellFormed delimiters source (node :: nodes) := by
  refine ⟨List.pairwise_cons.mpr ⟨hlater, h.increasing⟩,
    List.forall_mem_cons.mpr ⟨hboundary, h.onBoundary⟩,
    List.isChain_cons.mpr ⟨hapart, h.textsApart⟩, ?_, ?_⟩
  · intro pos s hmem
    rcases List.mem_cons.mp hmem with heq | hmem
    · exact htext pos s heq.symm
    · exact h.texts pos s hmem
  · -- The new node stands before all others, so it lies in the way of no item.
    have hoccupies {item : Node} {inside : List Char} (hle : node.pos ≤ item.pos)
        (hitem : item.Occupies delimiters source nodes inside) :
        item.Occupies delimiters source (node :: nodes) inside := by
      refine ⟨hitem.1, hitem.2.1, fun other hother hlt => ?_⟩
      rcases List.mem_cons.mp hother with rfl | hother
      · exact absurd hlt (Nat.not_lt.mpr hle)
      · exact hitem.2.2 other hother hlt
    intro item hmem hkind
    rcases List.mem_cons.mp hmem with rfl | hmem
    · obtain ⟨inside, hinside, hwell⟩ := hitem hkind
      exact ⟨inside, hoccupies le_rfl hinside, hwell⟩
    · obtain ⟨inside, hinside, hwell⟩ := h.items item hmem hkind
      exact ⟨inside, hoccupies (hlater item hmem).le hinside, hwell⟩

theorem wellFormed_nil (delimiters : Delimiters) (source : String) :
    WellFormed delimiters source [] :=
  ⟨.nil, by simp, .nil, by simp, by simp⟩

variable {delimiters : Delimiters} {source : String} {c opening after : Cursor}
  {nodes : List Node} {text : List Char}

/-- A text in front of well-formed nodes, of which the first is no text. -/
theorem WellFormed.append_text (h : WellFormed delimiters source nodes)
    (hc : (start source).Reaches c) (htext : c.Passes text opening)
    (hbehind : ∀ node ∈ nodes, opening.offset ≤ node.pos)
    (hfirst : ∀ node ∈ nodes.head?, node.isText = false) (trimStart trimEnd : Bool) :
    WellFormed delimiters source (textNodes c text trimStart trimEnd ++ nodes) ∧
      ∀ node ∈ textNodes c text trimStart trimEnd ++ nodes, c.offset ≤ node.pos := by
  have hlater : ∀ node ∈ nodes, c.offset ≤ node.pos := fun node hnode =>
    htext.reaches.offset_le.trans (hbehind node hnode)
  rcases textNodes_cases hc htext trimStart trimEnd with hnil | ⟨pos, s, hs, hlow, hhigh, hne, hat⟩
  · rw [hnil]
    exact ⟨h, hlater⟩
  · rw [hs]
    refine ⟨h.cons hat.isBoundary (fun node hnode => hhigh.trans_le (hbehind node hnode)) ?_ ?_
      (by simp [Node.isText]), List.forall_mem_cons.mpr ⟨hlow, hlater⟩⟩
    · intro node hnode hboth
      rw [hfirst node hnode] at hboth
      cases hboth.2
    · rintro _ _ ⟨⟩
      exact ⟨hne, hat⟩

/-- A written item in front of well-formed nodes. -/
theorem WellFormed.cons_item (h : WellFormed delimiters source nodes)
    (hopening : (start source).Reaches opening) (i : ItemText delimiters.right.toList)
    (hspan : opening.Passes (delimiters.around i.chars) after)
    (hbehind : ∀ node ∈ nodes, after.offset ≤ node.pos) :
    WellFormed delimiters source
      (i.node opening.offset (opening.offset + byteLength delimiters.left.toList) :: nodes) := by
  obtain ⟨hkind, hpos, hnode⟩ := i.wellFormed_node opening.offset
    (opening.offset + byteLength delimiters.left.toList)
  generalize i.node opening.offset (opening.offset + byteLength delimiters.left.toList) = node
    at hkind hpos hnode
  have hstands := hopening.standsAt hspan
  rw [hspan.2] at hbehind
  rw [← hpos] at hstands hbehind hnode
  refine h.cons hstands.isBoundary (fun other hother => ?_) ?_ ?_ fun _ => ?_
  · have hle := hbehind other hother
    have hsize := byteLength_pos i.chars_ne_nil
    simp only [Delimiters.around, byteLength_append] at hle
    omega
  · intro other _ hboth
    rw [hkind] at hboth
    cases hboth.1
  · rintro pos s rfl
    cases hkind
  · exact ⟨i.chars, ⟨i.chars_ne_nil, hstands, fun other hother _ => hbehind other hother⟩, hnode⟩

/-- **Nodes that are read are well formed**, and all behind the place where reading
began. -/
theorem NodesRead.wellFormed {trim : Bool}
    (h : NodesRead delimiters.left.toList delimiters.right.toList trim c nodes)
    (hc : (start source).Reaches c) :
    WellFormed delimiters source nodes ∧ ∀ node ∈ nodes, c.offset ≤ node.pos := by
  induction h with
  | @last trim c opening text hsplit hend =>
    have htext := c.passes_splitText delimiters.left.toList
    rw [hsplit] at htext
    have hlast := (wellFormed_nil delimiters source).append_text hc htext (by simp) (by simp)
      trim false
    rwa [List.append_nil] at hlast
  | @item trim trimEnd trimNext c opening inside body after text node nodes hsplit hend hleft htrim
      hitem _ ih =>
    have htext := c.passes_splitText delimiters.left.toList
    rw [hsplit] at htext
    have hopening := hc.trans htext.reaches
    obtain ⟨i, -, -, hspan, rfl⟩ := ItemText.exists_of_itemRead hleft htrim hitem
    obtain ⟨hothers, hbehind⟩ := ih (hopening.trans hspan.reaches)
    obtain ⟨hkind, hpos, -⟩ := i.wellFormed_node opening.offset
      (opening.offset + byteLength delimiters.left.toList)
    refine (hothers.cons_item hopening i hspan hbehind).append_text hc htext ?_ ?_ trim trimEnd
    · refine List.forall_mem_cons.mpr ⟨hpos.ge, fun other hother => ?_⟩
      exact hspan.reaches.offset_le.trans (hbehind other hother)
    · simpa using hkind

/-- **Every tree that is read is well formed.** -/
theorem wellFormed_of_parse (h : parse delimiters source = .ok nodes) :
    WellFormed delimiters source nodes :=
  ((NodesRead.of_readNodes h).wellFormed (.refl (start source))).1

/-! ### What the steps of a template rely on -/

/-- The kinds of what is wrong with a pipeline or a command that has nothing in it. -/
def emptyKinds : List String := ["empty pipeline", "empty command"]

/-- What is wrong with an argument is not that something is empty. -/
theorem kind_notMem_of_argument {args : List Operand} {kind : String}
    (h : FirstFailure Operand.IsTerm Operand.OffendsAsArgument args kind) :
    kind ∉ emptyKinds := by
  obtain ⟨before, o, after, -, -, ho⟩ := h
  cases ho <;> decide

theorem kind_notMem_of_head {operands : List Operand} {kind : String} (hne : operands ≠ [])
    (h : OffendsAsHead operands kind) : kind ∉ emptyKinds := by
  cases h with
  | empty => exact absurd rfl hne
  | argument hargs => exact kind_notMem_of_argument hargs
  | method | applied | variableRef | parenthesized => decide

theorem kind_notMem_of_stage {operands : List Operand} {kind : String} (hne : operands ≠ [])
    (h : OffendsAsStage operands kind) : kind ∉ emptyKinds := by
  cases h with
  | empty => exact absurd rfl hne
  | argument hargs => exact kind_notMem_of_argument hargs
  | term ho => cases ho <;> simp [Operand.kind, emptyKinds]
  | variableRef | parenthesized => decide

/-- Nothing is wrong with a text. -/
theorem Node.Offends.isText_eq_false {node : Node} {offence : Offence} (h : node.Offends offence) :
    node.isText = false := by
  cases h <;> rfl

/-- **In a well-formed node nothing is empty** that the steps of a template need. -/
theorem Node.WellFormed.kind_notMem {places : Set Nat} {node : Node} {offence : Offence}
    (h : node.WellFormed places) (hoffends : node.Offends offence) :
    offence.kind ∉ emptyKinds := by
  cases hoffends with
  | control pos keyword => cases keyword <;> simp [Keyword.text, emptyKinds]
  | @action pos p _ hoffends =>
    have hshape : p.Shaped places := h.1.shaped
    cases hoffends with
    | declaration => simp [emptyKinds]
    | empty _ hnone => exact absurd hnone hshape.commands_ne_nil
    | @head first rest kind _ hcommands hfirst =>
      exact kind_notMem_of_head (hshape.operands_ne_nil first (by simp [hcommands])) hfirst
    | @stage first rest _ _ hcommands _ hrest =>
      obtain ⟨before, command, behind, rfl, -, hcommand⟩ := hrest
      exact kind_notMem_of_stage (hshape.operands_ne_nil command (by simp [hcommands])) hcommand.1

/-- **Trees that are read can be relied on**, for all sources and all delimiters. They
are well formed, so the steps of a template are never refused because a pipeline or a
command is empty. -/
theorem parse_wellFormed (delimiters : Delimiters) (source : String) (nodes : List Node)
    (h : parse delimiters source = .ok nodes) :
    WellFormed delimiters source nodes ∧
      ∀ template lines error, Step.ofNodes template nodes lines = .error error →
        error.kind ∉ ["empty pipeline", "empty command"] := by
  have hwell := wellFormed_of_parse h
  refine ⟨hwell, fun template lines error herror => ?_⟩
  obtain ⟨offence, ⟨before, node, behind, rfl, -, hoffends⟩, rfl⟩ :=
    Step.exists_firstFailure_of_ofNodes herror
  obtain ⟨inside, -, hinside⟩ := hwell.items node (by simp) hoffends.isText_eq_false
  exact hinside.kind_notMem hoffends

/-- One mark on both sides, a nested pipeline, a declaration and a letter of two bytes. -/
theorem parse_wellFormed_percent : ∃ nodes,
    parse ⟨"%", "%"⟩ "é%- $x := .A | f (g 1.5 | h) \"s\" -% z%/* c */%%nil | len%" = .ok nodes ∧
    nodes.map Node.pos = [0, 2, 37, 38, 47] ∧
    WellFormed ⟨"%", "%"⟩ "é%- $x := .A | f (g 1.5 | h) \"s\" -% z%/* c */%%nil | len%" nodes ∧
    ∀ template lines error, Step.ofNodes template nodes lines = .error error →
      error.kind ∉ ["empty pipeline", "empty command"] := by
  have hpos : (parse ⟨"%", "%"⟩
      "é%- $x := .A | f (g 1.5 | h) \"s\" -% z%/* c */%%nil | len%").toOption.map
        (List.map Node.pos) = some [0, 2, 37, 38, 47] := by
    decide +kernel
  cases h : parse ⟨"%", "%"⟩ "é%- $x := .A | f (g 1.5 | h) \"s\" -% z%/* c */%%nil | len%" with
  | error e =>
    rw [h] at hpos
    cases hpos
  | ok nodes =>
    rw [h] at hpos
    exact ⟨nodes, rfl, Option.some.inj hpos, parse_wellFormed _ _ nodes h⟩

end Stencil
