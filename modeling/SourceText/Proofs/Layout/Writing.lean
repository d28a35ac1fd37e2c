import SourceText.Proofs.Layout.Gap

/-!
# What the writer has written

The writer gathers a line and edits the lines before it. After every lexeme its state stands for the
text that the rule of `gapBefore` gives so far (`Tracks`): either all of that text is written, or
the end of it is still gathered. The layout of a text therefore is its pieces with the blanks of
that rule (`reformat_respace`).
-/

namespace SourceText.Layout
open Lexeme

/-! ### Operations of the writer -/

/-- The written lines with line feeds between them. -/
def Writer.joined (w : Writer) : Text := Text.join ['\n'] w.lines

theorem lines_emit (w : Writer) (content : Text) :
    (w.emit content).lines = w.lines ++ [w.depth.margin w.unit ++ content] := by
  simp only [Writer.lines, Writer.emit, List.reverse_cons]

theorem joined_emit (w : Writer) (content : Text) :
    (w.emit content).joined
      = if w.written = [] then w.depth.margin w.unit ++ content
        else w.joined ++ '\n' :: (w.depth.margin w.unit ++ content) := by
  rw [Writer.joined, lines_emit]
  by_cases h : w.written = []
  · rw [if_pos h, show w.lines = [] by rw [Writer.lines, h, List.reverse_nil]]
    rfl
  · have hne : w.lines ≠ [] := fun hnil => h (List.reverse_eq_nil_iff.mp hnil)
    rw [if_neg h, Text.join_concat _ _ hne, Writer.joined, List.append_assoc, List.singleton_append]

theorem joined_emit_append (w : Writer) (content more : Text) :
    (w.emit (content ++ more)).joined = (w.emit content).joined ++ more := by
  rw [Writer.joined, Writer.joined, lines_emit, lines_emit, ← List.append_assoc,
    Text.join_concat_append]

theorem joined_extendLast {w : Writer} (h : w.written ≠ []) (c : Char) :
    (w.extendLast c).joined = w.joined ++ [c] := by
  cases hw : w.written with
  | nil => exact absurd hw h
  | cons line earlier =>
    simp only [Writer.joined, Writer.lines, Writer.extendLast, hw, List.reverse_cons]
    exact Text.join_concat_append _ _ _ _

theorem flush_of_blank {w : Writer} (h : w.buffer.isAllBlank = true) :
    w.flush = { w with gathered := [] } := by
  have hpending : w.pending = [] := Text.trim_of_isAllBlank h
  rw [Writer.flush, hpending]
  rfl

theorem flush_of_solid {w : Writer} {before content after : Text}
    (hbuffer : w.buffer = before ++ content ++ after) (hbefore : before.isAllBlank = true)
    (hcontent : Text.Solid content) (hafter : after.isAllBlank = true) :
    w.flush = { w.emit content with gathered := [], afterCloser := false } := by
  have hpending : w.pending = content := by
    rw [Writer.pending, hbuffer, Text.trim_of_solid hbefore hcontent hafter]
  have hne : content.isEmpty = false := by
    rw [List.isEmpty_eq_false_iff]
    exact hcontent.ne_nil
  rw [Writer.flush, hpending, hne]
  rfl

/-! ### Characters and the operations they call -/

theorem take_opener {c : Char} (h : isOpener c = true) (w : Writer) :
    w.take (c, .code) = w.openBlock c := by
  simp only [Writer.take, h, if_true]

theorem take_closer {c : Char} (h : isCloser c = true) (w : Writer) :
    w.take (c, .code) = w.closeBlock c := by
  simp only [Writer.take, isOpener_of_isCloser h, h, Bool.false_eq_true, if_false, if_true]

theorem take_semicolon (w : Writer) : w.take (';', .code) = w.endStatement := rfl

theorem take_lineBreak {c : Char} (h : isLineBreak c = true) (w : Writer) :
    w.take (c, .code) = w.flush := by
  simp only [isLineBreak, Bool.or_eq_true, beq_iff_eq] at h
  rcases h with rfl | rfl <;> rfl

/-- Characters of code that only `append` looks at. -/
def isPlain (c : Char) : Bool :=
  !isOpener c && !isCloser c && c != ';' && !isLineBreak c

theorem take_plain {c : Char} (h : isPlain c = true) (w : Writer) :
    w.take (c, .code) = w.append c := by
  simp only [isPlain, Bool.and_eq_true, Bool.not_eq_true', bne_iff_ne] at h
  obtain ⟨⟨⟨hopener, hcloser⟩, hsemicolon⟩, hbreak⟩ := h
  simp only [Writer.take, hopener, hcloser, hsemicolon, hbreak, Bool.false_eq_true, if_false]

theorem take_literal {region : Region} (hregion : region ≠ .code) (c : Char) (w : Writer) :
    w.take (c, region) = w.appendLiteral c := by
  cases region with
  | code => exact absurd rfl hregion
  | literal => rfl
  | comment => rfl

theorem foldl_take_literal {region : Region} (hregion : region ≠ .code) (c : Char) (t : Text)
    (w : Writer) :
    ((c :: t).map fun d => (d, region)).foldl Writer.take w
      = { w with gathered := (c :: t).reverse ++ w.gathered, afterCloser := false } := by
  induction t generalizing c w with
  | nil =>
    rw [List.map_cons, List.foldl_cons, take_literal hregion]
    rfl
  | cons d t ih =>
    rw [List.map_cons, List.foldl_cons, take_literal hregion, ih]
    simp [Writer.appendLiteral, Writer.gather]

/-! ### What the state of the writer stands for -/

section Tracks

variable {unit gap out : Text} {w : Writer} {before : List Lexeme} {next : Lexeme}

/-- All of the text is written. -/
structure Written (unit : Text) (w : Writer) (before : List Lexeme) (out : Text) : Prop where
  unit : w.unit = unit
  depth : w.depth = depthAfter before
  blank : w.buffer.isAllBlank = true
  joined : w.joined = out
  afterCloser : w.afterCloser = inCloserGroup before
  started : w.written = [] ↔ before = []

/-- The end of the text is `content`, which is gathered with blanks around it. -/
structure Gathered (unit : Text) (w : Writer) (before : List Lexeme) (gap out : Text)
    (lead content : Text) : Prop where
  unit : w.unit = unit
  depth : w.depth = depthAfter before
  buffer : w.buffer = lead ++ content ++ gap
  lead : lead.isAllBlank = true
  solid : Text.Solid content
  gap : gap.isAllBlank = true
  joined : (w.emit content).joined = out
  afterCloser : w.afterCloser = false
  apart : inCloserGroup before = false
  started : before ≠ []
  last : ∀ x ∈ before.head?, content.getLast? = x.text.getLast?

/-- The writer stands for the text `out` and the blanks `gap` after it. What is written already
needs no end of its line; what is gathered has not met one. -/
def Tracks (unit : Text) (w : Writer) (before : List Lexeme) (gap out : Text) : Prop :=
  (Written unit w before out ∧ (before ≠ [] → (endsLine before || gap.any isLineBreak) = true)) ∨
  (∃ lead content, Gathered unit w before gap out lead content) ∧ endsLine before = false ∧
    (∀ x ∈ before.head?, x.isOpen = false → gap.any isLineBreak = false)

theorem margin_lineDepth_nil (next : Lexeme) : (lineDepth [] next).margin unit = [] := by
  rw [lineDepth]
  cases next.isCode isCloser <;> rfl

/-- A line that is written behind all of the text. -/
theorem Written.joined_emit (h : Written unit w before out) (next : Lexeme) (content : Text) :
    ({ w with depth := lineDepth before next }.emit content).joined
      = out ++ lineStart unit before (lineDepth before next) ++ content := by
  rw [Layout.joined_emit]
  by_cases hb : before = []
  · have hout : out = [] := by
      rw [← h.joined, Writer.joined, Writer.lines, h.started.mpr hb]
      rfl
    subst hb hout
    rw [if_pos (h.started.mpr rfl), margin_lineDepth_nil]
    rfl
  · have hstart : lineStart unit before (lineDepth before next)
        = '\n' :: (lineDepth before next).margin unit := by
      rw [lineStart, if_neg (by simpa using hb)]
    rw [if_neg (fun hw => hb (h.started.mp hw)), hstart, List.append_assoc, List.cons_append]
    show w.joined ++ '\n' :: ((lineDepth before next).margin w.unit ++ content) = _
    rw [h.joined, h.unit]

theorem Written.joined_emit_same (h : Written unit w before out)
    (hnext : next.isCode isCloser = false) (content : Text) :
    (w.emit content).joined = out ++ lineStart unit before (lineDepth before next) ++ content := by
  have hdepth : lineDepth before next = w.depth := by
    rw [lineDepth, hnext, h.depth, if_neg Bool.false_ne_true]
  have hemit := h.joined_emit next content
  rw [hdepth] at hemit ⊢
  exact hemit

theorem Gathered.flush {lead content : Text} (h : Gathered unit w before gap out lead content) :
    Written unit w.flush before out := by
  rw [flush_of_solid h.buffer h.lead h.solid h.gap]
  refine ⟨h.unit, h.depth, rfl, h.joined, h.apart.symm, ?_⟩
  exact ⟨fun hw => absurd hw (List.cons_ne_nil _ _), fun hb => absurd hb h.started⟩

theorem Written.flush (h : Written unit w before out) : Written unit w.flush before out := by
  rw [flush_of_blank h.blank]
  exact ⟨h.unit, h.depth, rfl, h.joined, h.afterCloser, h.started⟩

/-- Ending the gathered line writes all of the text. -/
theorem Tracks.flush (h : Tracks unit w before gap out) : Written unit w.flush before out := by
  rcases h with ⟨hwritten, -⟩ | ⟨⟨lead, content, hgathered⟩, -⟩
  · exact hwritten.flush
  · exact hgathered.flush

theorem Gathered.buffer_more {lead content : Text} (h : Gathered unit w before gap out lead content)
    {blanks : Text} (hblanks : blanks.isAllBlank = true) :
    Gathered unit { w with gathered := blanks.reverse ++ w.gathered } before (gap ++ blanks) out lead
      content := by
  refine ⟨h.unit, h.depth, ?_, h.lead, h.solid, Text.isAllBlank_append h.gap hblanks, h.joined,
    h.afterCloser, h.apart, h.started, h.last⟩
  have hbuffer := h.buffer
  simp only [Writer.buffer] at hbuffer ⊢
  rw [List.reverse_append, List.reverse_reverse, hbuffer, List.append_assoc]

/-! ### Blanks of code -/

theorem plain_of_blank {c : Char} (h : isBlank c = true) (hbreak : isLineBreak c = false) :
    isPlain c = true := by
  have hsemicolon : (c != ';') = true := by
    rw [bne_iff_ne]
    rintro rfl
    exact absurd h (by decide)
  simp only [isPlain, isOpener_of_isBlank h, isCloser_of_isBlank h, hsemicolon, hbreak,
    Bool.not_false, Bool.and_self]

theorem append_blank {c : Char} (h : isBlank c = true) (w : Writer) : w.append c = w.gather c := by
  simp only [Writer.append, h, Bool.not_true, Bool.and_false, Bool.false_eq_true, if_false]

/-- A blank of code only makes the gap longer. -/
theorem Tracks.blank {c : Char} (hc : isBlank c = true) (h : Tracks unit w before gap out) :
    Tracks unit (w.take (c, .code)) before (gap ++ [c]) out := by
  have hany : (gap ++ [c]).any isLineBreak = (gap.any isLineBreak || isLineBreak c) := by
    simp only [List.any_append, List.any_cons, List.any_nil, Bool.or_false]
  cases hbreak : isLineBreak c with
  | true =>
    rw [take_lineBreak hbreak]
    refine .inl ⟨h.flush, fun _ => ?_⟩
    rw [hany, hbreak, Bool.or_true, Bool.or_true]
  | false =>
    have hblank : Text.isAllBlank [c] = true := by simpa [Text.isAllBlank] using hc
    rw [take_plain (plain_of_blank hc hbreak), append_blank hc]
    rcases h with ⟨hwritten, hended⟩ | ⟨⟨lead, content, hgathered⟩, hgoesOn, hunbroken⟩
    · refine .inl ⟨⟨hwritten.unit, hwritten.depth, ?_, hwritten.joined, hwritten.afterCloser,
        hwritten.started⟩, fun hb => ?_⟩
      · have hbuffer := hwritten.blank
        simp only [Writer.buffer, Writer.gather, List.reverse_cons] at hbuffer ⊢
        exact Text.isAllBlank_append hbuffer hblank
      · rw [hany, hbreak, Bool.or_false]
        exact hended hb
    · refine .inr ⟨⟨lead, content, ?_⟩, hgoesOn, fun x hx hopen => ?_⟩
      · exact hgathered.buffer_more hblank
      · rw [hany, hbreak, Bool.or_false]
        exact hunbroken x hx hopen

/-! ### Significant lexemes -/

theorem Tracks.sameLine (hmeets : ∀ x ∈ before.head?, x.Meets gap next)
    (hnext : next.isCode isCloser = false) (hstarted : before ≠ [])
    (hgoesOn : endsLine before = false)
    (hunbroken : ∀ x ∈ before.head?, x.isOpen = false → gap.any isLineBreak = false) :
    SameLine before gap next := by
  obtain ⟨x, more, rfl⟩ := List.exists_cons_of_ne_nil hstarted
  exact ⟨hgoesOn, hnext, hunbroken x rfl (hmeets x rfl).not_open⟩

theorem inCloserGroup_of_plain (hcloser : next.isCode isCloser = false)
    (htrailing : (next.isCode isTrailing && inCloserGroup before) = false) :
    inCloserGroup (next :: before) = false := by
  rw [inCloserGroup_cons, hcloser, htrailing, Bool.or_self]

/-- The writer with a lexeme and blanks behind what it has gathered. -/
def Writer.gatherLexeme (w : Writer) (l : Lexeme) (blanks : Text) : Writer :=
  { w with gathered := (l.text ++ blanks).reverse ++ w.gathered, afterCloser := false }

theorem buffer_gatherLexeme (w : Writer) (l : Lexeme) (blanks : Text) :
    (w.gatherLexeme l blanks).buffer = w.buffer ++ (l.text ++ blanks) := by
  simp only [Writer.buffer, Writer.gatherLexeme, List.reverse_append, List.reverse_reverse]

theorem gatherLexeme_code {w : Writer} (h : w.afterCloser = false) (c : Char) :
    w.gatherLexeme (code c) [] = w.gather c := by
  rw [Writer.gather, h]
  rfl

/-- Behind all of the text a lexeme that is no bracket starts a new line. -/
theorem Written.gather (h : Written unit w before out)
    (hended : before ≠ [] → (endsLine before || gap.any isLineBreak) = true)
    (hsolid : Text.Solid next.text) (hopener : next.isCode isOpener = false)
    (hcloser : next.isCode isCloser = false)
    (htrailing : (next.isCode isTrailing && inCloserGroup before) = false) {blanks : Text}
    (hblanks : blanks.isAllBlank = true) :
    Gathered unit (w.gatherLexeme next blanks) (next :: before) blanks
      (out ++ gapBefore unit before gap next ++ next.text) w.buffer next.text := by
  refine ⟨h.unit, ?_, ?_, h.blank, hsolid, hblanks, ?_, rfl, ?_, List.cons_ne_nil _ _, ?_⟩
  · exact h.depth.trans (depthAfter_of_plain next hopener hcloser before).symm
  · rw [buffer_gatherLexeme, List.append_assoc]
  · rw [gapBefore_ended hcloser htrailing hended]
    exact h.joined_emit_same hcloser next.text
  · exact inCloserGroup_of_plain hcloser htrailing
  · intro x hx
    rw [← Option.some.inj hx]

/-- On a line that goes on a lexeme that is no bracket is put behind the gathered text. -/
theorem Gathered.gather {lead content : Text} (h : Gathered unit w before gap out lead content)
    (hline : SameLine before gap next) (hsolid : Text.Solid next.text)
    (hopener : next.isCode isOpener = false) {blanks : Text}
    (hblanks : blanks.isAllBlank = true) :
    Gathered unit (w.gatherLexeme next blanks) (next :: before) blanks
      (out ++ gapBefore unit before gap next ++ next.text) lead
      (content ++ gap ++ next.text) := by
  obtain ⟨x, more, rfl⟩ := List.exists_cons_of_ne_nil h.started
  refine ⟨h.unit, ?_, ?_, h.lead, h.solid.append gap hsolid, hblanks, ?_, rfl, ?_,
    List.cons_ne_nil _ _, ?_⟩
  · exact h.depth.trans (depthAfter_of_plain next hopener hline.not_closer _).symm
  · rw [buffer_gatherLexeme, h.buffer]
    simp only [List.append_assoc]
  · rw [gapBefore_keep hline hopener, List.append_assoc content, List.append_assoc out, ← h.joined]
    exact joined_emit_append w content (gap ++ next.text)
  · exact inCloserGroup_of_plain hline.not_closer (by rw [h.apart, Bool.and_false])
  · intro y hy
    obtain ⟨d, hd, -⟩ := hsolid.last
    rw [← Option.some.inj hy, List.getLast?_append, Option.mem_def.mp hd]
    rfl

theorem Tracks.gather (h : Tracks unit w before gap out)
    (hmeets : ∀ x ∈ before.head?, x.Meets gap next) (hsolid : Text.Solid next.text)
    (hopener : next.isCode isOpener = false) (hcloser : next.isCode isCloser = false)
    (htrailing : (next.isCode isTrailing && inCloserGroup before) = false) {blanks : Text}
    (hblanks : blanks.isAllBlank = true) :
    ∃ lead content,
      Gathered unit (w.gatherLexeme next blanks) (next :: before) blanks
        (out ++ gapBefore unit before gap next ++ next.text) lead content := by
  rcases h with ⟨hwritten, hended⟩ | ⟨⟨lead, content, hgathered⟩, hgoesOn, hunbroken⟩
  · exact ⟨_, _, hwritten.gather hended hsolid hopener hcloser htrailing hblanks⟩
  · have hline := Tracks.sameLine hmeets hcloser hgathered.started hgoesOn hunbroken
    exact ⟨_, _, hgathered.gather hline hsolid hopener hblanks⟩

/-- Punctuation in the group of a closing bracket is put behind the written text. -/
theorem Written.extendLast (h : Written unit w before out) (hgroup : inCloserGroup before = true)
    {c : Char} (hc : isTrailing c = true) (gap : Text) :
    Written unit (w.extendLast c) (code c :: before)
      (out ++ gapBefore unit before gap (code c) ++ [c]) := by
  have hstarted : before ≠ [] := by
    rintro rfl
    exact absurd hgroup (by decide)
  have hwritten : w.written ≠ [] := fun hw => hstarted (h.started.mp hw)
  have hgap : gapBefore unit before gap (code c) = [] :=
    gapBefore_trailing (by rw [isCode, hc, hgroup, Bool.and_self])
  have hdepth : depthAfter (code c :: before) = depthAfter before :=
    depthAfter_of_plain (code c) (isOpener_of_isTrailing hc) (isCloser_of_isTrailing hc) before
  have hapart : inCloserGroup (code c :: before) = true := by
    rw [inCloserGroup_cons, isCode, isCode, hc, hgroup, Bool.and_self, Bool.or_true]
  rw [hgap, List.append_nil, ← h.joined, ← joined_extendLast hwritten]
  obtain ⟨line, earlier, hlines⟩ := List.exists_cons_of_ne_nil hwritten
  have hextend : w.extendLast c = { w with written := (line ++ [c]) :: earlier } := by
    rw [Writer.extendLast, hlines]
  rw [hextend]
  refine ⟨h.unit, h.depth.trans hdepth.symm, h.blank, rfl, h.afterCloser.trans ?_, ?_⟩
  · rw [hgroup, hapart]
  · exact iff_of_false (List.cons_ne_nil _ _) (List.cons_ne_nil _ _)

/-- A closing bracket stands on a line of its own. -/
theorem Tracks.closer (h : Tracks unit w before gap out) {c : Char} (hc : isCloser c = true) :
    Written unit (w.closeBlock c) (code c :: before)
      (out ++ gapBefore unit before gap (code c) ++ [c]) := by
  have hflush := h.flush
  have htrailing : isTrailing c = false := isTrailing_of_isCloser hc
  have hline : lineDepth before (code c) = w.flush.depth.dedent := by
    rw [lineDepth, isCode, hc, if_pos rfl, hflush.depth]
  have hdepth : depthAfter (code c :: before) = w.flush.depth.dedent := by
    rw [depthAfter_closer hc, hflush.depth]
  have hgap : gapBefore unit before gap (code c)
      = lineStart unit before (lineDepth before (code c)) := by
    apply gapBefore_break
    · rw [isCode, htrailing, Bool.false_and]
    · intro _
      rw [isCode, hc, Bool.or_true, Bool.true_or]
  have hjoined := hflush.joined_emit (code c) [c]
  rw [hline] at hjoined
  rw [hgap, hline]
  refine ⟨hflush.unit, hdepth.symm, hflush.blank, hjoined, ?_, ?_⟩
  · rw [inCloserGroup_cons, isCode, hc, Bool.true_or]
    rfl
  · exact iff_of_false (List.cons_ne_nil _ _) (List.cons_ne_nil _ _)

theorem Tracks.written_of_group (h : Tracks unit w before gap out)
    (hgroup : inCloserGroup before = true) : Written unit w before out := by
  rcases h with ⟨hwritten, -⟩ | ⟨⟨lead, content, hgathered⟩, -⟩
  · exact hwritten
  · exact absurd (hgathered.apart.symm.trans hgroup) Bool.false_ne_true

theorem Tracks.afterCloser (h : Tracks unit w before gap out) :
    w.afterCloser = inCloserGroup before := by
  rcases h with ⟨hwritten, -⟩ | ⟨⟨lead, content, hgathered⟩, -⟩
  · exact hwritten.afterCloser
  · rw [hgathered.afterCloser, hgathered.apart]

theorem Written.pending (h : Written unit w before out) : w.pending.isEmpty = true := by
  rw [Writer.pending, Text.trim_of_isAllBlank h.blank]
  rfl

/-- A semicolon ends its line. -/
theorem Tracks.semicolon (h : Tracks unit w before gap out)
    (hmeets : ∀ x ∈ before.head?, x.Meets gap (code ';')) :
    Written unit w.endStatement (code ';' :: before)
      (out ++ gapBefore unit before gap (code ';') ++ [';']) := by
  cases hgroup : inCloserGroup before with
  | true =>
    have hwritten := h.written_of_group hgroup
    have hextend := hwritten.extendLast hgroup (show isTrailing ';' = true from rfl) gap
    rw [Writer.endStatement, hwritten.pending, h.afterCloser, hgroup, Bool.and_self, if_pos rfl]
    exact ⟨hextend.unit, hextend.depth, rfl, hextend.joined, hextend.afterCloser, hextend.started⟩
  | false =>
    have hafter : w.afterCloser = false := h.afterCloser.trans hgroup
    have htrailing : ((code ';').isCode isTrailing && inCloserGroup before) = false := by
      rw [hgroup, Bool.and_false]
    obtain ⟨lead, content, hgathered⟩ := h.gather hmeets
      (Text.solid_singleton (show isBlank ';' = false from rfl)) rfl rfl htrailing
      (show Text.isAllBlank [] = true from rfl)
    rw [Writer.endStatement, hafter, Bool.false_and, if_neg Bool.false_ne_true,
      ← gatherLexeme_code hafter]
    exact hgathered.flush

/-- Any other character of code stays on its line. -/
theorem Tracks.plain (h : Tracks unit w before gap out) {c : Char}
    (hmeets : ∀ x ∈ before.head?, x.Meets gap (code c)) (hc : isPlain c = true)
    (hblank : isBlank c = false) :
    Tracks unit (w.append c) (code c :: before) []
      (out ++ gapBefore unit before gap (code c) ++ [c]) := by
  simp only [isPlain, Bool.and_eq_true, Bool.not_eq_true', bne_iff_ne] at hc
  obtain ⟨⟨⟨hopener, hcloser⟩, hsemicolon⟩, -⟩ := hc
  cases htrailing : isTrailing c && inCloserGroup before with
  | true =>
    obtain ⟨hc, hgroup⟩ := (Bool.and_eq_true _ _).mp htrailing
    have hwritten := h.written_of_group hgroup
    have hextend := hwritten.extendLast hgroup hc gap
    have happend : w.append c = w.extendLast c := by
      simp only [Writer.append, h.afterCloser, hgroup, hblank, hc, hwritten.pending, Bool.not_false,
        Bool.and_self, if_true]
    rw [happend]
    refine .inl ⟨hextend, fun _ => ?_⟩
    rw [endsLine, inCloserGroup_cons, isCode, isCode, htrailing, Bool.or_true, Bool.true_or,
      Bool.true_or]
  | false =>
    obtain ⟨lead, content, hgathered⟩ := h.gather hmeets (Text.solid_singleton hblank) hopener
      hcloser htrailing (show Text.isAllBlank [] = true from rfl)
    have happend : w.append c = w.gatherLexeme (code c) [] := by
      cases hgroup : inCloserGroup before with
      | true =>
        rw [hgroup, Bool.and_true] at htrailing
        simp only [Writer.append, h.afterCloser, hgroup, hblank, htrailing, Bool.not_false,
          Bool.and_self, Bool.false_and, Bool.false_eq_true, if_true, if_false]
        rfl
      | false =>
        have hafter : w.afterCloser = false := h.afterCloser.trans hgroup
        simp only [Writer.append, hafter, Bool.false_and, Bool.false_eq_true, if_false]
        exact (gatherLexeme_code hafter c).symm
    rw [happend]
    refine .inr ⟨⟨lead, content, hgathered⟩, ?_, fun _ _ _ => rfl⟩
    have hplain : (isOpener c || c == ';') = false := by
      rw [hopener, Bool.false_or, beq_eq_false_iff_ne]
      exact hsemicolon
    rw [endsLine, hgathered.apart, Bool.false_or]
    exact hplain

theorem isCode_of_region {l : Lexeme} (h : l.region ≠ .code) (p : Char → Bool) :
    l.isCode p = false := by
  cases l with
  | code c => exact absurd rfl h
  | literal quote inside closed => rfl
  | lineComment inside => rfl
  | blockComment inside closed => rfl

/-- Blanks at the end of a lexeme hold no line break unless the text ends there. -/
theorem endBlanks_unbroken {l : Lexeme} (hwhole : l.Whole true) (hgap : l.isGap = false)
    (hopen : l.trimmed.isOpen = false) : l.text.endBlanks.any isLineBreak = false := by
  have hclosed : l.trimmed = l → l.text.endBlanks.any isLineBreak = false := by
    intro htrim
    have happend := trimmed_append_endBlanks hwhole hgap
    rw [htrim, List.append_right_eq_self] at happend
    rw [happend]
    rfl
  cases l with
  | code c => exact hclosed rfl
  | literal quote inside closed =>
    cases closed with
    | false => exact absurd (show true = false from hopen) (by decide)
    | true => exact hclosed rfl
  | lineComment inside =>
    rw [List.any_eq_false]
    intro c hc
    have hmem : c ∈ '/' :: '/' :: inside := List.mem_of_mem_drop hc
    simp only [List.mem_cons] at hmem
    rcases hmem with rfl | rfl | hinside
    · decide
    · decide
    · rw [hwhole.2 c hinside]
      exact Bool.false_ne_true
  | blockComment inside closed =>
    cases closed with
    | false => exact absurd (show true = false from hopen) (by decide)
    | true => exact hclosed rfl

/-- A literal or comment stays on its line. -/
theorem Tracks.literal (h : Tracks unit w before gap out) {l : Lexeme} (hwhole : l.Whole true)
    (hregion : l.region ≠ .code) (hmeets : ∀ x ∈ before.head?, x.Meets gap l.trimmed) :
    Tracks unit (l.marked.foldl Writer.take w) (l.trimmed :: before) l.text.endBlanks
      (out ++ gapBefore unit before gap l.trimmed ++ l.trimmed.text) := by
  have hgap : l.isGap = false := isCode_of_region hregion isBlank
  have hcode (p : Char → Bool) : l.trimmed.isCode p = false :=
    isCode_of_region (by rw [trimmed_region]; exact hregion) p
  obtain ⟨lead, content, hgathered⟩ := h.gather hmeets (trimmed_solid hwhole hgap) (hcode _)
    (hcode _) (by rw [hcode, Bool.false_and]) (Text.isAllBlank_endBlanks l.text)
  rw [Writer.gatherLexeme, trimmed_append_endBlanks hwhole hgap] at hgathered
  have hfold : l.marked.foldl Writer.take w
      = { w with gathered := l.text.reverse ++ w.gathered, afterCloser := false } := by
    obtain ⟨c, t, htext⟩ := List.exists_cons_of_ne_nil (text_ne_nil l)
    rw [marked, htext]
    exact foldl_take_literal hregion c t w
  rw [hfold]
  refine .inr ⟨⟨lead, content, hgathered⟩, ?_, fun x hx hopen => ?_⟩
  · rw [endsLine, hgathered.apart, Bool.false_or]
    exact hcode _
  · obtain rfl := Option.some.inj hx
    exact endBlanks_unbroken hwhole hgap hopen

/-! ### Opening brackets -/

/-- On one line only an opening parenthesis ends with an opening parenthesis. -/
theorem getLast?_paren {x : Lexeme} (hwhole : x.Whole true) (hmeets : x.Meets gap next)
    (hunbroken : gap.any isLineBreak = false) :
    x.text.getLast? = some '(' ↔ x.isCode (· == '(') = true := by
  cases x with
  | code c => simp [text, isCode]
  | literal quote inside closed =>
    obtain rfl : closed = true := hmeets
    have hlast : (literal quote inside true).text.getLast? = some quote := by
      simp [text, List.getLast?_cons]
    rw [hlast, Option.some.injEq]
    constructor
    · rintro rfl
      exact absurd hwhole.1 (by decide)
    · intro h
      exact absurd h Bool.false_ne_true
  | lineComment inside => exact absurd (hunbroken.symm.trans hmeets) Bool.false_ne_true
  | blockComment inside closed =>
    obtain rfl : closed = true := hmeets
    have hlast : (blockComment inside true).text.getLast? = some '/' := by
      simp [text, List.getLast?_cons]
    rw [hlast, Option.some.injEq]
    exact ⟨fun h => absurd h (by decide), fun h => absurd h Bool.false_ne_true⟩

theorem Gathered.pending {lead content : Text} (h : Gathered unit w before gap out lead content) :
    w.pending = content := by
  rw [Writer.pending, h.buffer, Text.trim_of_solid h.lead h.solid h.gap]

theorem Gathered.spaced {lead content : Text} (h : Gathered unit w before gap out lead content) :
    w.gathered.head?.any isBlank = !gap.isEmpty := by
  have hgathered : w.gathered = w.buffer.reverse := by rw [Writer.buffer, List.reverse_reverse]
  rw [hgathered, h.buffer, List.head?_reverse]
  rcases List.eq_nil_or_concat gap with rfl | ⟨blanks, c, rfl⟩
  · obtain ⟨d, hd, hblank⟩ := h.solid.last
    rw [List.append_nil, List.getLast?_append, Option.mem_def.mp hd]
    exact hblank
  · have hc : isBlank c = true := List.all_eq_true.mp h.gap c (by simp)
    rw [List.getLast?_append, List.concat_eq_append, List.getLast?_concat]
    simp [hc]

/-- How an opening bracket is put behind the gathered line is what the rule says. -/
theorem Gathered.attachOpener {lead content : Text}
    (h : Gathered unit w before gap out lead content) {c : Char} (hc : isOpener c = true)
    (hline : SameLine before gap (code c)) (hmeets : ∀ x ∈ before.head?, x.Meets gap (code c))
    (hwhole : ∀ x ∈ before.head?, x.Whole true) :
    attachOpener content c (w.gathered.head?.any isBlank)
      = content ++ (gapBefore unit before gap (code c) ++ [c]) := by
  obtain ⟨x, more, rfl⟩ := List.exists_cons_of_ne_nil h.started
  have hparen := getLast?_paren (hwhole x rfl) (hmeets x rfl) hline.unbroken
  rw [← h.last x rfl] at hparen
  rw [gapBefore_opener hline hc, h.spaced, Layout.attachOpener, Bool.not_not]
  by_cases hlast : content.getLast? = some '('
  · rw [if_pos hlast, hparen.mp hlast, Bool.true_or, if_pos rfl, List.nil_append]
  · have hx : x.isCode (· == '(') = false := by
      rw [← Bool.not_eq_true, ← hparen]
      exact hlast
    have hsubscript : ((code c).isCode (· == '[') && gap.isEmpty) = true
        ↔ (decide (c = '[') && gap.isEmpty) = true := by
      simp [isCode]
    rw [if_neg hlast, hx, Bool.false_or]
    by_cases htouch : (decide (c = '[') && gap.isEmpty) = true
    · rw [if_pos htouch, if_pos (hsubscript.mpr htouch), List.nil_append]
    · rw [if_neg htouch, if_neg (fun hs => htouch (hsubscript.mp hs))]
      rfl

theorem Written.opener (h : Written unit w before out)
    (hended : before ≠ [] → (endsLine before || gap.any isLineBreak) = true) {c : Char}
    (hc : isOpener c = true) :
    Written unit (w.openBlock c) (code c :: before)
      (out ++ gapBefore unit before gap (code c) ++ [c]) := by
  have hcloser : (code c).isCode isCloser = false := isCloser_of_isOpener hc
  have htrailing : ((code c).isCode isTrailing && inCloserGroup before) = false := by
    rw [isCode, isTrailing_of_isOpener hc, Bool.false_and]
  have hopen : w.openBlock c
      = { w.emit [c] with gathered := [], depth := w.depth.indent, afterCloser := false } := by
    simp only [Writer.openBlock, h.pending, if_true]
  rw [hopen, gapBefore_ended hcloser htrailing hended]
  refine ⟨h.unit, ?_, rfl, h.joined_emit_same hcloser [c], ?_, ?_⟩
  · rw [depthAfter_opener hc, h.depth]
  · exact (inCloserGroup_of_plain hcloser htrailing).symm
  · exact iff_of_false (List.cons_ne_nil _ _) (List.cons_ne_nil _ _)

theorem Gathered.opener {lead content : Text} (h : Gathered unit w before gap out lead content)
    {c : Char} (hc : isOpener c = true) (hline : SameLine before gap (code c))
    (hmeets : ∀ x ∈ before.head?, x.Meets gap (code c))
    (hwhole : ∀ x ∈ before.head?, x.Whole true) :
    Written unit (w.openBlock c) (code c :: before)
      (out ++ gapBefore unit before gap (code c) ++ [c]) := by
  have hne : w.pending.isEmpty = false := by
    rw [h.pending, List.isEmpty_eq_false_iff]
    exact h.solid.ne_nil
  have hopen : w.openBlock c
      = { w.emit (content ++ (gapBefore unit before gap (code c) ++ [c])) with
          gathered := [], depth := w.depth.indent, afterCloser := false } := by
    rw [← h.attachOpener hc hline hmeets hwhole, ← h.pending]
    simp only [Writer.openBlock, hne, Bool.false_eq_true, if_false]
  rw [hopen]
  refine ⟨h.unit, ?_, rfl, ?_, ?_, ?_⟩
  · rw [depthAfter_opener hc, h.depth]
  · rw [List.append_assoc out, ← h.joined]
    exact joined_emit_append w content _
  · exact (inCloserGroup_of_plain hline.not_closer (by rw [h.apart, Bool.and_false])).symm
  · exact iff_of_false (List.cons_ne_nil _ _) (List.cons_ne_nil _ _)

/-- An opening bracket ends its line. -/
theorem Tracks.opener (h : Tracks unit w before gap out) {c : Char} (hc : isOpener c = true)
    (hmeets : ∀ x ∈ before.head?, x.Meets gap (code c))
    (hwhole : ∀ x ∈ before.head?, x.Whole true) :
    Written unit (w.openBlock c) (code c :: before)
      (out ++ gapBefore unit before gap (code c) ++ [c]) := by
  rcases h with ⟨hwritten, hended⟩ | ⟨⟨lead, content, hgathered⟩, hgoesOn, hunbroken⟩
  · exact hwritten.opener hended hc
  · have hline := Tracks.sameLine hmeets (isCloser_of_isOpener hc) hgathered.started hgoesOn
      hunbroken
    exact hgathered.opener hc hline hmeets hwhole

/-! ### A whole text -/

/-- A significant lexeme is written or gathered behind the blanks of the rule. -/
theorem Tracks.lexeme (h : Tracks unit w before gap out) {l : Lexeme} (hl : l.Whole true)
    (hgap : l.isGap = false) (hmeets : ∀ x ∈ before.head?, x.Meets gap l.trimmed)
    (hwhole : ∀ x ∈ before.head?, x.Whole true) :
    Tracks unit (l.marked.foldl Writer.take w) (l.trimmed :: before) l.text.endBlanks
      (out ++ gapBefore unit before gap l.trimmed ++ l.trimmed.text) := by
  by_cases hregion : l.region = .code
  · cases l with
    | code c =>
      have hblank : isBlank c = false := hgap
      have hend : (code c).text.endBlanks = [] :=
        Text.endBlanks_of_last (Text.solid_singleton hblank).last
      show Tracks unit (w.take (c, .code)) (code c :: before) (code c).text.endBlanks _
      rw [hend]
      cases hopener : isOpener c with
      | true =>
        rw [take_opener hopener]
        exact .inl ⟨h.opener hopener hmeets hwhole, fun _ => by simp [endsLine, isCode, hopener]⟩
      | false =>
        cases hcloser : isCloser c with
        | true =>
          rw [take_closer hcloser]
          exact .inl ⟨h.closer hcloser, fun _ => by simp [endsLine, inCloserGroup, hcloser]⟩
        | false =>
          by_cases hsemicolon : c = ';'
          · subst hsemicolon
            rw [take_semicolon]
            exact .inl ⟨h.semicolon hmeets, fun _ => by simp [endsLine, isCode]⟩
          · have hbreak : isLineBreak c = false := by
              by_contra hn
              rw [Bool.not_eq_false] at hn
              exact absurd (hblank.symm.trans (isBlank_of_isLineBreak hn)) Bool.false_ne_true
            have hplain : isPlain c = true := by
              simp only [isPlain, hopener, hcloser, hbreak, Bool.not_false, Bool.true_and,
                Bool.and_true, bne_iff_ne]
              exact hsemicolon
            rw [take_plain hplain]
            exact h.plain hmeets hplain hblank
    | literal quote inside closed => exact absurd hregion (by simp [region])
    | lineComment inside => exact absurd hregion (by simp [region])
    | blockComment inside closed => exact absurd hregion (by simp [region])
  · exact h.literal hl hregion hmeets

end Tracks

theorem foldl_take_respace {unit out gap : Text} {w : Writer} {before ls : List Lexeme}
    (hls : Lexed true ls) (hjoined : Joined before (Piece.collect gap ls).1)
    (hwhole : ∀ x ∈ before.head?, x.Whole true) (h : Tracks unit w before gap out) :
    ((ls.flatMap marked).foldl Writer.take w).flush.joined
      = out ++ (respace unit before (Piece.collect gap ls).1).flatMap Piece.text := by
  induction ls generalizing w before gap out with
  | nil =>
    rw [Piece.collect, respace, List.flatMap_nil, List.flatMap_nil, List.append_nil]
    exact h.flush.joined
  | cons l ls ih =>
    obtain ⟨hl, -, hrest⟩ := hls
    rw [List.flatMap_cons, List.foldl_append]
    cases hgap : l.isGap with
    | true =>
      obtain ⟨c, rfl, hc⟩ := eq_code_of_isGap hgap
      rw [collect_gap hgap] at hjoined ⊢
      exact ih hrest hjoined hwhole (h.blank hc)
    | false =>
      rw [collect_lexeme hgap] at hjoined ⊢
      obtain ⟨hmeets, hmore⟩ := hjoined
      have htracks := h.lexeme hl hgap hmeets hwhole
      rw [ih hrest hmore (fun x hx => by rw [← Option.some.inj hx]; exact trimmed_whole hl) htracks]
      simp only [respace, List.flatMap_cons, Piece.text, List.append_assoc]

theorem tracks_start (unit : Text) : Tracks unit { unit } [] [] [] :=
  .inl ⟨⟨rfl, rfl, rfl, rfl, rfl, ⟨fun _ => rfl, fun _ => rfl⟩⟩, fun h => absurd rfl h⟩

theorem layout_joined (unit text : Text) :
    (layout unit text).joined = (respace unit [] (pieces text)).flatMap Piece.text := by
  rw [layout, scan_eq_marked]
  exact foldl_take_respace (lexed_lexemes true text) (pieces_joined text)
    (fun _ hx => absurd hx (by simp)) (tracks_start unit)

/-- The blanks of a layout stand between its lexemes only. -/
theorem respace_ends (unit : Text) {ps : List Piece} (hps : ∀ p ∈ ps, p.Tidy) :
    (respace unit [] ps).flatMap Piece.text = [] ∨
      Text.Solid ((respace unit [] ps).flatMap Piece.text) := by
  refine pieces_ends (fun q hq => ?_) fun q hq => ?_
  · have hmem : q.lexeme ∈ ps.map Piece.lexeme := by
      rw [← respace_lexeme unit [] ps]
      exact List.mem_map_of_mem hq
    obtain ⟨p, hp, heq⟩ := List.mem_map.mp hmem
    rw [← heq]
    exact (hps p hp).solid
  · cases ps with
    | nil => exact absurd hq (by simp [respace])
    | cons p ps =>
      obtain rfl : _ = q := Option.some.inj hq
      rfl

/-- A line feed at an end of the written text would be taken off, but there is none. -/
theorem text_of_ends {w : Writer} (h : w.joined = [] ∨ Text.Solid w.joined) :
    w.text = w.joined := by
  have hend : ∀ t : Text, (∀ c ∈ t.head?, isBlank c = false) →
      t.dropWhile (· == '\n') = t := by
    intro t ht
    apply Text.dropWhile_of_head
    intro c hc
    rw [beq_eq_false_iff_ne]
    rintro rfl
    exact absurd (ht '\n' hc) (by decide)
  rw [Writer.text]
  show ((w.joined.dropWhile (· == '\n')).reverse.dropWhile (· == '\n')).reverse = w.joined
  rcases h with h | h
  · rw [h]
    rfl
  · obtain ⟨c, hc, hchead⟩ := h.head
    obtain ⟨d, hd, hdlast⟩ := h.last
    rw [hend w.joined, hend w.joined.reverse, List.reverse_reverse]
    · intro e he
      rw [List.head?_reverse] at he
      rwa [← Option.mem_unique hd he]
    · intro e he
      rwa [← Option.mem_unique hc he]

theorem reformat_respace (unit text : Text) :
    reformat unit text = (respace unit [] (pieces text)).flatMap Piece.text := by
  have hjoined := layout_joined unit text
  have hends := respace_ends unit (pieces_tidy text)
  rw [← hjoined] at hends ⊢
  exact text_of_ends hends

/-- The layout that is made with a message about it is the layout; the empty text has an empty
one. -/
theorem value_reformatLogged (unit text : Text) :
    (reformatLogged unit text).value = reformat unit text := by
  cases htext : text.isEmpty with
  | true =>
    rw [List.isEmpty_iff.mp htext]
    rfl
  | false =>
    simp only [reformatLogged, htext, Bool.false_eq_true, if_false, Recorded.value_bind,
      Recorded.value_pure, reformat]

/-- The pieces of a text are its significant lexemes with nothing but blanks between them, and a
layout is these pieces with the blanks of `gapBefore`. It puts nothing before the first or after the
last of them. -/
theorem reformat_puts_gaps (unit text : Text) :
    (pieces text).map Piece.lexeme = significant (lexemes true text) ∧
      (∀ p ∈ pieces text, p.gap.isAllBlank = true) ∧
      (lastGap text).isAllBlank = true ∧
      (pieces text).flatMap Piece.text ++ lastGap text = text ∧
      reformat unit text = (respace unit [] (pieces text)).flatMap Piece.text := by
  refine ⟨pieces_significant text, fun p hp => ?_, isAllBlank_lastGap text,
    pieces_append_lastGap text, reformat_respace unit text⟩
  exact (pieces_tidy text p hp).gap

end SourceText.Layout
