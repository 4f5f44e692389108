import Stencil.Proofs.Render.Concatenation
import Stencil.Proofs.Render.Truncation

/-!
# Spellings of a text

A text can be written in a template in many ways. Between double quotes each of its
characters has one of its spellings (`Stencil.CharSpelling`); between backquotes the
text stands as it is. The spellings of a text are said here without a reader
(`Stencil.Spelling`), and every text has one.

However a text is spelled, an action with nothing else in it writes the text, and no
delimiter, bar, comment mark or trim marker inside the quotes makes a difference. A
backslash in double quotes that begins no spelling of a character is the other case:
nothing is read at the quote, and this is the error that is reported, wherever the
action stands. Both are in `Stencil.Engine.renders_spelled_text`.
-/

namespace Stencil

open Cursor

/-! ### Spellings -/

/-- **A spelling of a text**: a literal that means it. -/
inductive Spelling (s : String) : List Char → Prop
  | quoted {pieces : List (List Char)} (h : List.Forall₂ CharSpelling s.toList pieces) :
      Spelling s ('"' :: (pieces.flatten ++ ['"']))
  | raw (h : '\x60' ∉ s.toList) : Spelling s ('\x60' :: (s.toList ++ ['\x60']))

/-- **A backslash that begins no spelling** of a character, before what stands behind
it. -/
def StrayBackslash (behind : List Char) : Prop :=
  ∀ x cs, CharSpelling x cs → ¬cs <+: '\\' :: behind

/-- **A literal in double quotes that is no spelling** because of a backslash: up to it
every character is spelled, and from it on none is. -/
inductive BrokenLiteral : List Char → Prop
  | mk {text : List Char} {pieces : List (List Char)} {behind : List Char}
      (hspelled : List.Forall₂ CharSpelling text pieces)
      (hstray : StrayBackslash (behind ++ ['"'])) :
      BrokenLiteral ('"' :: (pieces.flatten ++ '\\' :: (behind ++ ['"'])))

/-- **Every text can be spelled.** -/
theorem Spelling.exists_quoted (s : String) :
    ∃ pieces, Spelling s ('"' :: (pieces ++ ['"'])) := by
  have hpieces : ∀ cs : List Char, ∃ pieces, List.Forall₂ CharSpelling cs pieces := by
    intro cs
    induction cs with
    | nil => exact ⟨[], .nil⟩
    | cons x cs ih =>
      obtain ⟨piece, hpiece⟩ := CharSpelling.exists x
      obtain ⟨pieces, hrest⟩ := ih
      exact ⟨piece :: pieces, .cons hpiece hrest⟩
  obtain ⟨pieces, h⟩ := hpieces s.toList
  exact ⟨pieces.flatten, .quoted h⟩

/-! ### A spelling is a leaf -/

/-- Characters that are spelled one after the other are written ones. -/
theorem exists_quotedChars {text : List Char} {pieces : List (List Char)}
    (h : List.Forall₂ CharSpelling text pieces) : ∃ inside : List QuotedChar,
      inside.flatMap QuotedChar.chars = pieces.flatten ∧ inside.map QuotedChar.char = text := by
  induction h with
  | nil => exact ⟨[], rfl, rfl⟩
  | cons hpiece _ ih =>
    obtain ⟨inside, hchars, rfl⟩ := ih
    exact ⟨⟨_, _, hpiece⟩ :: inside, by rw [List.flatMap_cons, hchars, List.flatten_cons], rfl⟩

/-- **A spelling of a text is a leaf that says the text.** -/
theorem Spelling.exists_leafText {s : String} {literal : List Char} (h : Spelling s literal) :
    ∃ l : LeafText, l.chars = literal ∧ l.operand = .string s ∧ l.keyword? = none := by
  rcases h with ⟨hpieces⟩ | ⟨hraw⟩
  · obtain ⟨inside, hchars, htext⟩ := exists_quotedChars hpieces
    refine ⟨.quoted inside, by rw [LeafText.chars, hchars], ?_, rfl⟩
    rw [LeafText.operand, htext, String.ofList_toList]
  · exact ⟨.raw s.toList hraw, rfl, by rw [LeafText.operand, String.ofList_toList], rfl⟩

/-! ### A template of one literal -/

/-- No margin. -/
def Margin.empty : Margin := ⟨false, ⟨[], List.forall_mem_nil _⟩, nofun⟩

/-- No text. -/
def TextPart.empty : TextPart false false :=
  ⟨⟨[], List.forall_mem_nil _⟩, [], ⟨[], List.forall_mem_nil _⟩, fun _ => rfl, fun _ => rfl,
    nofun, nofun⟩

/-- The template that consists of an action with a single leaf. -/
def LeafText.template (l : LeafText) (h : l.keyword? = none) :
    TemplateText openBraces closeBraces false :=
  .item ⟨.empty, .action (.plain (.last (.last (.leaf l)))) h .empty⟩ .empty (noneInside_nil _ _)
    (.last .empty (by simp [TextPart.empty, TextPart.chars, openBraces]))

theorem LeafText.chars_template (l : LeafText) (h : l.keyword? = none) :
    (l.template h).chars = openBraces ++ (l.chars ++ closeBraces) := by
  simp [template, TemplateText.chars, TextPart.chars, TextPart.empty, ItemText.chars,
    Margin.opening, Margin.closing, Margin.marker, Margin.empty, ContentText.chars,
    PipelineText.chars, CommandsText.chars, CommandText.chars, OperandText.chars]

/-- A leaf that says a text is a template of one action. -/
theorem LeafText.parse_template {l : LeafText} {s : String} (h : l.keyword? = none)
    (hs : l.operand = .string s) :
    parse .standard (String.ofList (openBraces ++ (l.chars ++ closeBraces))) =
      .ok [.action 0 ⟨2, [], [⟨2, [.string s]⟩]⟩] := by
  have hrest : (start (String.ofList (openBraces ++ (l.chars ++ closeBraces)))).rest =
      (l.template h).chars := by
    rw [l.chars_template h]
    exact String.toList_ofList
  rw [parse_standard, (l.template h).readNodes_chars hrest, ← hs]
  rfl

/-- A literal alone compiles to one step, which writes its text. -/
theorem Spelling.exists_compile {s : String} {literal : List Char} (h : Spelling s literal)
    {e : Engine} (hstandard : e.delimiters = .standard) (name : String) :
    ∃ line, (e.compile name (String.ofList (openBraces ++ (literal ++ closeBraces)))).value =
      .ok ⟨name, .steps [⟨line, .chain ⟨.term (.constant (.string s)), []⟩⟩]⟩ := by
  obtain ⟨l, rfl, hs, hkeyword⟩ := h.exists_leafText
  have hparse := LeafText.parse_template hkeyword hs
  rw [← hstandard] at hparse
  exact ⟨_, Engine.compile_value_eq_ok_iff.mpr ⟨_, _, hparse, rfl, rfl⟩⟩

/-- A step with a text for its value writes the text. -/
theorem Step.renderAll_string (registry : Registry) (data : Value) (name : String) (sink : Sink)
    (line : Nat) (s : String) :
    (renderAll registry data name sink
      [⟨line, .chain ⟨.term (.constant (.string s)), []⟩⟩]).value = .ofText sink s := by
  have heval : (Output.eval registry data (.chain ⟨.term (.constant (.string s)), []⟩)).value =
      .ok s := by
    simp only [Output.eval, Chain.eval, Head.eval, Term.eval, Logged.quiet, evalStages,
      Logged.after, Constant.toValue, Except.map, Value.display]
  rw [renderAll_cons_value, render_value, heval, Rendering.ofResult]
  rcases Rendering.ofText sink s with ⟨sink', error | u⟩ <;> rfl

theorem Template.renderText_of_render {l : Library} {t : Template} {data : Value} {s : String}
    (h : (t.render l.functions data .unlimited).value = .ofText .unlimited s) :
    ((l.insert t).renderText t.name data).value = .ok s := by
  have hread : String.fromUTF8? s.toByteArray = some s := by
    simpa [String.fromUTF8?] using ⟨s.isValidUTF8, rfl⟩
  rw [renderText_insert, h]
  simp [Rendering.ofText, Sink.write, Sink.unlimited, Sink.hasRoom, Sink.kept, Except.map, hread]

/-! ### Broken literals -/

theorem readQuoted_of_stray {behind : List Char} (h : StrayBackslash behind) :
    readQuoted ('\\' :: behind) = none := by
  rw [Option.eq_none_iff_forall_ne_some]
  rintro ⟨text, after⟩ hread
  obtain ⟨inside, hchars, -⟩ := exists_quoted hread
  cases inside with
  | nil => simp at hchars
  | cons q inside =>
    refine h q.char q.chars q.spelled ?_
    rw [hchars, List.flatMap_cons, List.append_assoc]
    exact List.prefix_append _ _

/-- **What a stray backslash looks like**: no escape has the letter behind it, and if that
is a `u`, then the four characters that follow are no digits, or those of a surrogate. -/
theorem strayBackslash_cons_iff {letter : Char} {rest : List Char} :
    StrayBackslash (letter :: rest) ↔ (∀ x, (x, letter) ∉ escapes) ∧
      ∀ a b c d i j k l, letter = 'u' → [a, b, c, d] <+: rest →
        IsHexDigit a i → IsHexDigit b j → IsHexDigit c k → IsHexDigit d l →
        0xD800 ≤ ((i * 16 + j) * 16 + k) * 16 + l ∧
          ((i * 16 + j) * 16 + k) * 16 + l < 0xE000 := by
  constructor
  · intro h
    refine ⟨fun x hescape => h x _ (.escape hescape) (by simp), ?_⟩
    rintro a b c d i j k l rfl hdigits ha hb hc hd
    -- A code outside the range is a character, and the backslash would begin its spelling.
    by_contra hrange
    have hi := ha.1
    have hj := hb.1
    have hk := hc.1
    have hl := hd.1
    have hvalid : (((i * 16 + j) * 16 + k) * 16 + l).isValidChar := by
      unfold Nat.isValidChar
      omega
    refine h (Char.ofNat (((i * 16 + j) * 16 + k) * 16 + l)) _ (.code ha hb hc hd ?_) ?_
    · exact charOfCode?_eq_some_iff.mp (if_pos hvalid)
    · simpa using hdigits
  · rintro ⟨hletter, hcode⟩ x cs hspelling hprefix
    cases hspelling with
    | plain hquote hslash => exact hslash (List.cons_prefix_cons.mp hprefix).1
    | escape hescape =>
      have hprefix := (List.cons_prefix_cons.mp hprefix).2
      exact hletter x ((List.cons_prefix_cons.mp hprefix).1 ▸ hescape)
    | @code a b c d i j k l ha hb hc hd hx =>
      have hprefix := List.cons_prefix_cons.mp (List.cons_prefix_cons.mp hprefix).2
      have hrange := hcode a b c d i j k l hprefix.1.symm hprefix.2 ha hb hc hd
      have hvalid : x.toNat.isValidChar := x.valid
      unfold Nat.isValidChar at hvalid
      omega

/-- A quote ends every spelling that has begun before it, so what stands behind it makes
no difference. -/
theorem StrayBackslash.append {behind : List Char} (h : StrayBackslash (behind ++ ['"']))
    (rest : List Char) : StrayBackslash (behind ++ '"' :: rest) := by
  intro x cs hspelling hprefix
  have hwhole : '\\' :: (behind ++ ['"']) <+: '\\' :: (behind ++ '"' :: rest) := by
    simp
  rcases List.prefix_or_prefix_of_prefix hprefix hwhole with hshort | hlong
  · exact h x cs hspelling hshort
  cases hspelling with
  | plain => simpa using hlong.length_le
  | escape hescape =>
    -- The quote is the letter, and the spelling ends with it.
    have heq := hlong.eq_of_length_le (by simp)
    exact h x _ (.escape hescape) (by rw [heq])
  | code ha hb hc hd =>
    have hquote := hlong.subset (show '"' ∈ '\\' :: (behind ++ ['"']) by simp)
    simp [ha.ne_quote.symm, hb.ne_quote.symm, hc.ne_quote.symm, hd.ne_quote.symm] at hquote

/-- Nothing is read of spelled characters if nothing is read of what follows them. -/
theorem readQuoted_eq_none_of_append (inside : List QuotedChar) {rest : List Char}
    (h : readQuoted rest = none) : readQuoted (inside.flatMap QuotedChar.chars ++ rest) = none := by
  induction inside with
  | nil => exact h
  | cons q inside ih =>
    rw [List.flatMap_cons, List.append_assoc, readQuoted_append, ih]
    rfl

/-- **A broken literal is not read**, whatever follows it. -/
theorem BrokenLiteral.exists_inside {literal : List Char} (h : BrokenLiteral literal)
    (rest : List Char) :
    ∃ inside, literal ++ rest = '"' :: inside ∧ readQuoted inside = none := by
  cases h with
  | @mk text pieces behind hspelled hstray =>
    obtain ⟨inside, hchars, -⟩ := exists_quotedChars hspelled
    refine ⟨inside.flatMap QuotedChar.chars ++ '\\' :: (behind ++ '"' :: rest), ?_, ?_⟩
    · rw [hchars]
      simp
    · exact readQuoted_eq_none_of_append inside (readQuoted_of_stray (hstray.append rest))

section Unread

variable {c : Cursor} {rest : List Char}

theorem stops_of_rest_eq {x : Char} (hrest : c.rest = x :: rest) {p : Char → Bool}
    (hp : p x = false) : Stops p c.rest := by
  rw [hrest]
  exact (stops_cons _ _).mpr hp

theorem readChoice_unread (hrest : c.rest = '"' :: rest) (hread : readQuoted rest = none)
    (pipeline : Cursor → Reading (Pipeline Operand)) :
    readChoice pipeline c = .error (.absent c) := by
  have hstops {p : Char → Bool} (hp : p '"' = false) : Stops p c.rest := stops_of_rest_eq hrest hp
  have hquoted : c.quotedText? = none := by
    rw [quotedText?, hrest]
    simp only [hread, Option.map_none]
  have hraw : c.rawText? = none := by
    rw [rawText?, expect?_of_stops (hstops (by decide))]
    rfl
  have hmarked : readMarked? c = none := by
    rw [readMarked?_of_stops (hstops (by decide)), readVariable?,
      readDollar?_eq_none (hstops (by decide)), readText?, hquoted, hraw]
    rfl
  simp only [readChoice, hmarked, numeral_eq_absent (hstops (by decide)),
    readParenthesized_eq_absent pipeline (hstops (by decide)),
    readWord?_eq_none (hstops (by decide))]

theorem readPipeline_unread (hrest : c.rest = '"' :: rest) (hread : readQuoted rest = none) :
    readPipeline c = .error (.absent c) := by
  have hdeclarations : readDeclarations? c = none :=
    readDeclarations?_of_stops (stops_of_rest_eq hrest (by decide))
  have hoperand (depth : Nat) : readOperand depth c = .error (.absent c) := by
    cases depth with
    | zero => exact readChoice_unread hrest hread _
    | succ depth => exact readChoice_unread hrest hread _
  simp only [readPipeline, readPipelineOf, hdeclarations, Option.getD_none, readList, readCommand,
    hoperand]

/-- **Where a broken literal stands in front, the item is refused there.** -/
theorem readItem_unread {body : Cursor} {blanks : Blanks} (hblanks : body.Passes blanks.chars c)
    (hrest : c.rest = '"' :: rest) (hread : readQuoted rest = none)
    (hcontains : containsText closeBraces body.rest = true) (pos : Nat) :
    readItem closeBraces pos body = .error (.unexpectedInput c.offset "\"") := by
  have hstops {p : Char → Bool} (hp : p '"' = false) : Stops p c.rest := stops_of_rest_eq hrest hp
  have hskip : body.skipBlanks = c :=
    skipBlanks_of_passes hblanks blanks.areBlank (hstops (by decide))
  have hcomment : c.startsWith ['/', '*'] = false := by
    rw [startsWith_eq_isSome, expect?_of_stops (hstops (by decide))]
    rfl
  have hbar : c.startsWith ['|'] = false := by
    rw [startsWith_eq_isSome, expect?_of_stops (hstops (by decide))]
    rfl
  have hkeyword : readKeyword? c = none := by
    rw [readKeyword?, identifier?_eq_none (hstops (by decide))]
  have hclose : c.close? closeBraces = none := by
    have hblank : Stops isBlank c.rest := hstops (by decide)
    rw [close?, skipBlanks1?_eq_none_iff.mpr hblank, skipBlanks_eq_self hblank, closeBraces,
      expect?_of_stops (hstops (by decide))]
    rfl
  have herror : SourceError.unexpectedAt c = .unexpectedInput c.offset "\"" := by
    simp only [SourceError.unexpectedAt, hrest]
    rfl
  simp only [readItem, hcontains, Bool.not_true, Bool.false_eq_true, if_false, hskip, hcomment,
    hkeyword, readAction, hbar, hclose, Option.isSome_none, Bool.or_self,
    readPipeline_unread hrest hread, Stop.place, herror]

end Unread

/-- A margin before a quote is read back. -/
theorem Margin.openingTrim_passes {m : Margin} {c d : Cursor} {rest : List Char}
    (h : c.Passes m.opening d) (hrest : d.rest = '"' :: rest) :
    c.openingTrim.2.Passes m.blanks.chars d := by
  have hstops {p : Char → Bool} (hp : p '"' = false) : Stops p d.rest := stops_of_rest_eq hrest hp
  rw [opening, marker] at h
  unfold openingTrim
  cases htrims : m.trims with
  | true =>
    rw [htrims] at h
    have hmarked : c.Passes (['-'] ++ m.blanks.chars) d := h
    obtain ⟨body, hminus, hblanks⟩ := hmarked.split
    have hgap := skipBlanks1?_of_passes hblanks m.blanks.areBlank (m.nonempty htrims)
      (hstops (by decide))
    simpa [expect?_eq_some_iff.mpr hminus, hgap] using hblanks
  | false =>
    rw [htrims] at h
    have hblanks : c.Passes m.blanks.chars d := h
    -- What stands first is a blank or the quote.
    have hminus : c.expect? ['-'] = none := by
      refine expect?_of_stops ?_ []
      rw [hblanks.1]
      refine m.blanks.stops_append ?_ (hstops (by decide))
      intro x hx
      rw [beq_eq_false_iff_ne]
      rintro rfl
      cases hx
    rw [hminus]
    exact hblanks

/-! ### Errors behind a template -/

/-- Double braces that follow a text begin behind it, if the text has none and does not
end with a brace. -/
theorem noneInside_openBraces {text : List Char} (hnone : ¬openBraces <:+: text)
    (hlast : text.getLast? ≠ some '\x7b') : NoneInside openBraces text openBraces := by
  induction text with
  | nil => exact noneInside_nil _ _
  | cons x text ih =>
    rw [List.infix_cons_iff, not_or] at hnone
    refine (noneInside_cons x).mpr ⟨?_, ?_⟩
    · cases text with
      | nil =>
        intro hprefix
        have hx : '\x7b' = x := (List.cons_prefix_cons.mp hprefix).1
        exact hlast (by rw [hx]; rfl)
      | cons y text =>
        intro hprefix
        refine hnone.1 ?_
        simpa [openBraces, List.cons_prefix_cons] using hprefix
    · refine ih hnone.2 ?_
      intro h
      refine hlast ?_
      rw [List.getLast?_cons, h]
      rfl

/-- **An item that is refused behind a template** is the error of the whole. -/
theorem TemplateText.readNodes_eq_error {trim : Bool} (t : TemplateText openBraces closeBraces trim)
    {c opening inside : Cursor} {error : SourceError} (h : c.Passes t.chars opening)
    (hlast : t.chars.getLast? ≠ some '\x7b') (hopen : opening.Passes openBraces inside)
    (hitem : readItem closeBraces opening.offset inside.openingTrim.2 = .error error) :
    readNodes openBraces closeBraces trim c = .error error := by
  induction t generalizing c with
  | last text hnone =>
    have hsplit : c.splitText openBraces = (text.chars, opening) := by
      rw [splitText, until?_of_passes h hopen (noneInside_openBraces hnone hlast)]
      rfl
    have hend : opening.atEnd = false := by
      rw [atEnd, hopen.1]
      rfl
    rw [readNodes, hsplit]
    simp only [hend, Bool.false_eq_true, if_false, expect?_eq_some_iff.mpr hopen, hitem]
  | item i text hnone others ih =>
    have hsplit : c.Passes
        ((text.chars ++ (openBraces ++ (i.chars ++ closeBraces))) ++ others.chars) opening := by
      simpa [chars] using h
    obtain ⟨d, hsegment, hothers⟩ := hsplit.split
    have hlast' : others.chars.getLast? ≠ some '\x7b' := by
      intro hsome
      refine hlast ?_
      simp [chars, List.getLast?_append, hsome]
    rw [readNodes_segment i text hnone hsegment, ih hothers hlast']
    rfl

/-- **A broken literal in front of an action is the error of the source**, whatever is
read before it. -/
theorem BrokenLiteral.parse_eq_error {literal : List Char} (h : BrokenLiteral literal)
    {before : String} {nodes : List Node} (hparse : parse .standard before = .ok nodes)
    (hlast : before.toList.getLast? ≠ some '\x7b') (m m' : Margin) (after : List Char) :
    parse .standard (String.ofList (before.toList ++ (openBraces ++ (m.opening ++
      (literal ++ (m'.closing ++ (closeBraces ++ after))))))) =
      .error (.unexpectedInput (before.utf8ByteSize + 2 + byteLength m.opening) "\"") := by
  obtain ⟨t, hchars, -⟩ := TemplateText.exists_of_parse hparse
  obtain ⟨inside, hliteral, hread⟩ := h.exists_inside (m'.closing ++ (closeBraces ++ after))
  set source := before.toList ++ (openBraces ++ (m.opening ++
    (literal ++ (m'.closing ++ (closeBraces ++ after))))) with hsource
  have hpasses : (start (String.ofList source)).Passes (t.chars ++ (openBraces ++ m.opening))
      ⟨before.utf8ByteSize + 2 + byteLength m.opening, '"' :: inside⟩ := by
    refine ⟨?_, ?_⟩
    · rw [start, String.toList_ofList, hchars, ← hliteral, hsource]
      simp
    · have hbraces : byteLength openBraces = 2 := by decide
      rw [hchars, byteLength_append, byteLength_append, byteLength_toList, hbraces]
      simp [start, Nat.add_assoc]
  obtain ⟨opening, htext, hrest⟩ := hpasses.split
  obtain ⟨behind, hopen, hmargin⟩ := hrest.split
  have hblanks := Margin.openingTrim_passes hmargin rfl
  have hcontains : containsText closeBraces behind.openingTrim.2.rest = true := by
    rw [hblanks.1, ← hliteral, ← List.append_assoc, ← List.append_assoc]
    exact containsText_of_append _ _ _
  rw [parse_standard]
  exact t.readNodes_eq_error htext (hchars ▸ hlast) hopen
    (readItem_unread hblanks rfl hread hcontains opening.offset)

/-- **A text is rendered exactly as it is meant, however it is spelled.** Every text has a
spelling in double quotes. A template that consists of a spelling of a text between
double braces compiles, and what it renders is the text, for all data and functions and
into every sink. A literal with a backslash that begins no spelling is refused at its
opening quote, whatever has been read before the action and whatever follows the
literal. -/
theorem Engine.renders_spelled_text {e : Engine} (hstandard : e.delimiters = .standard)
    (name : String) :
    (∀ s, ∃ inside, Spelling s ('"' :: (inside ++ ['"']))) ∧
    (∀ s literal, Spelling s literal →
      ∃ t, (e.compile name (String.ofList (openBraces ++ (literal ++ closeBraces)))).value = .ok t ∧
        (∀ registry data sink, (t.render registry data sink).value = .ofText sink s) ∧
        ∀ (l : Library) data, ((l.insert t).renderText name data).value = .ok s) ∧
    ∀ literal, BrokenLiteral literal → ∀ (before : String) nodes,
      Stencil.parse .standard before = .ok nodes → before.toList.getLast? ≠ some '\x7b' →
      ∀ (m m' : Margin) after,
        let source := String.ofList (before.toList ++ (openBraces ++ (m.opening ++
          (literal ++ (m'.closing ++ (closeBraces ++ after))))))
        (e.compile name source).value = .error ⟨.source (.unexpectedInput
          (before.utf8ByteSize + 2 + byteLength m.opening) "\""), name, source⟩ := by
  refine ⟨Spelling.exists_quoted, ?_, ?_⟩
  · intro s literal hspelling
    obtain ⟨line, hcompile⟩ := hspelling.exists_compile hstandard name
    have hrender (registry : Registry) (data : Value) (sink : Sink) :=
      Step.renderAll_string registry data name sink line s
    exact ⟨_, hcompile, hrender, fun l data => Template.renderText_of_render
      (t := ⟨name, _⟩) (hrender l.functions data .unlimited)⟩
  · intro literal hbroken before nodes hparse hlast m m' after source
    rw [compile, Engine.parse, hstandard, hbroken.parse_eq_error hparse hlast m m' after]
    rfl

/-- Four characters, of which two are braces, one is written by its code and two by an
escape; and the code of a surrogate. -/
theorem Engine.renders_spelled_text_braces :
    Engine.standard.delimiters = .standard ∧
    Spelling "\x7d\x7d\"\n"
      ['"', '\x7d', '\\', 'u', '0', '0', '7', 'D', '\\', '"', '\\', 'n', '"'] ∧
    (∃ t, (Engine.standard.compile "t"
        "\x7b\x7b\"\x7d\\u007D\\\"\\n\"\x7d\x7d").value = .ok t ∧
      (∀ registry data sink, (t.render registry data sink).value = .ofText sink "\x7d\x7d\"\n") ∧
      ∀ (l : Library) data, ((l.insert t).renderText "t" data).value = .ok "\x7d\x7d\"\n") ∧
    BrokenLiteral ['"', '\\', 'u', 'd', '8', '0', '0', '"'] ∧
    (Engine.standard.compile "t" "a\x7b\x7b\"\\ud800\"\x7d\x7d").value = .error
      ⟨.source (.unexpectedInput 3 "\""), "t", "a\x7b\x7b\"\\ud800\"\x7d\x7d"⟩ := by
  obtain ⟨-, hrenders, hrefused⟩ := Engine.renders_spelled_text (e := .standard) rfl "t"
  have hspelling : Spelling (String.ofList ['\x7d', '\x7d', '"', '\n'])
      ('"' :: (([['\x7d'], ['\\', 'u', '0', '0', '7', 'D'], ['\\', '"'], ['\\', 'n']] :
        List (List Char)).flatten ++ ['"'])) := by
    refine .quoted ?_
    rw [String.toList_ofList]
    refine .cons ?_ (.cons ?_ (.cons ?_ (.cons ?_ .nil)))
    · exact CharSpelling.plain (by decide) (by decide)
    · refine CharSpelling.code (i := 0) (j := 0) (k := 7) (l := 13) ?_ ?_ ?_ ?_ rfl
      · exact ⟨by decide, .inl rfl⟩
      · exact ⟨by decide, .inl rfl⟩
      · exact ⟨by decide, .inl rfl⟩
      · exact ⟨by decide, .inr rfl⟩
    · exact CharSpelling.escape (by simp [escapes])
    · exact CharSpelling.escape (by simp [escapes])
  have hstray : StrayBackslash (['u', 'd', '8', '0', '0'] ++ ['"']) := by
    refine strayBackslash_cons_iff.mpr ⟨by simp [escapes], ?_⟩
    intro a b c d i j k l _ hdigits ha hb hc hd
    change [a, b, c, d] <+: ['d', '8', '0', '0', '"'] at hdigits
    simp only [List.cons_prefix_cons] at hdigits
    obtain ⟨rfl, rfl, rfl, rfl, -⟩ := hdigits
    rw [← hexValue?_eq_some_iff] at ha hb hc hd
    obtain rfl : 13 = i := Option.some.inj ha
    obtain rfl : 8 = j := Option.some.inj hb
    obtain rfl : 0 = k := Option.some.inj hc
    obtain rfl : 0 = l := Option.some.inj hd
    decide
  have hbroken : BrokenLiteral ['"', '\\', 'u', 'd', '8', '0', '0', '"'] :=
    BrokenLiteral.mk List.Forall₂.nil hstray
  have htext : "\x7d\x7d\"\n" = String.ofList ['\x7d', '\x7d', '"', '\n'] := rfl
  have hsource : "\x7b\x7b\"\x7d\\u007D\\\"\\n\"\x7d\x7d" = String.ofList (openBraces ++
      (['"', '\x7d', '\\', 'u', '0', '0', '7', 'D', '\\', '"', '\\', 'n', '"'] ++
        closeBraces)) := rfl
  have hsource' : "a\x7b\x7b\"\\ud800\"\x7d\x7d" = String.ofList ("a".toList ++ (openBraces ++
      (Margin.empty.opening ++ (['"', '\\', 'u', 'd', '8', '0', '0', '"'] ++
        (Margin.empty.closing ++ (closeBraces ++ [])))))) := rfl
  have hparse : Stencil.parse .standard "a" = .ok [.text 0 "a"] := by with_unfolding_all rfl
  rw [htext, hsource, hsource']
  refine ⟨rfl, hspelling, hrenders _ _ hspelling, hbroken, ?_⟩
  exact hrefused _ hbroken "a" _ hparse (by decide) .empty .empty []

end Stencil
