import SourceText.Proofs.Layout.Bracket
import SourceText.Proofs.Layout.Rescan

/-!
# The indentation of a layout

Every logical line of a layout is indented by the depth of the brackets before it, where a closing
bracket that the line starts with counts as well. A line has an opening bracket only as its last
character and a closing one only as its first (`Aligned`). So a closing bracket is indented like the
line that its partner ends (`reformat_indents_by_depth`).

What carries the proof is what a line has while its lexemes are read one after the other (`Begun`).
-/

namespace SourceText

open Layout Lexeme

/-- The depth of a line: that of the brackets before it, and one less if it starts with a closing
bracket. -/
def LogicalLine.depth (line : LogicalLine) : Nat :=
  if line.first?.any isClosing then bracketDepth line.before - 1 else bracketDepth line.before

namespace Layout

/-- A line that is indented by its depth, with its brackets where a layout puts them. -/
structure Aligned (unit : Text) (line : LogicalLine) : Prop where
  indented : ∃ content, line.text = (List.replicate line.depth unit).flatten ++ content ∧
    Text.Solid content
  opening_last : ∀ mark ∈ line.marks.dropLast, isOpening mark = false
  closing_first : ∀ mark ∈ (line.marks.dropWhile (isBlank ·.1)).tail, isClosing mark = false
  one_kind : ∀ opening ∈ line.marks, isOpening opening = true →
    ∀ closing ∈ line.marks, isClosing closing = false

/-- What a line has while it is read: `line` is its part that has been read, `passed` is all that
was scanned before it, and `before` are the lexemes that have been read, the latest first. -/
structure Begun (unit : Text) (before : List Lexeme) (passed line : List (Char × Region)) :
    Prop where
  aligned : Aligned unit ⟨passed, line⟩
  depth : bracketDepth (passed ++ line) = (depthAfter before).level.toNat
  opening : before.head?.any (isCode isOpener) = false → ∀ mark ∈ line, isOpening mark = false
  closing : inCloserGroup before = false → ∀ mark ∈ line, isClosing mark = false

/-! ### A line begins -/

section Begun

variable {unit blanks : Text} {before : List Lexeme} {passed line : List (Char × Region)}
  {l : Lexeme}

theorem not_opening_of_mem (hblanks : blanks.isAllBlank = true)
    (hopener : l.isCode isOpener = false) :
    ∀ mark ∈ blankMarks blanks ++ l.marked, isOpening mark = false := by
  intro mark hmark
  rcases List.mem_append.mp hmark with hmark | hmark
  · exact (not_bracket_blankMarks hblanks mark hmark).1
  · exact (isCodeMark_marked hmark isOpener).trans hopener

theorem not_closing_of_mem (hblanks : blanks.isAllBlank = true)
    (hcloser : l.isCode isCloser = false) :
    ∀ mark ∈ blankMarks blanks ++ l.marked, isClosing mark = false := by
  intro mark hmark
  rcases List.mem_append.mp hmark with hmark | hmark
  · exact (not_bracket_blankMarks hblanks mark hmark).2
  · exact (isCodeMark_marked hmark isCloser).trans hcloser

theorem not_opening_dropLast (hblanks : blanks.isAllBlank = true) (l : Lexeme) :
    ∀ mark ∈ blankMarks blanks ++ l.marked.dropLast, isOpening mark = false := by
  intro mark hmark
  rcases List.mem_append.mp hmark with hmark | hmark
  · exact (not_bracket_blankMarks hblanks mark hmark).1
  · exact isOpening_dropLast_marked l mark hmark

theorem bracketDepth_lexeme (hblanks : blanks.isAllBlank = true)
    (h : bracketDepth passed = (depthAfter before).level.toNat) (l : Lexeme) :
    bracketDepth (passed ++ (blankMarks blanks ++ l.marked))
      = (depthAfter (l :: before)).level.toNat := by
  rw [← List.append_assoc, bracketDepth_append,
    bracketDepth_append_plain passed (not_bracket_blankMarks hblanks), h,
    foldl_depthStep_marked l (level_nonneg before), depthAfter]

/-- A line that starts with a lexeme has its depth from that lexeme. -/
theorem depth_started (hblanks : blanks.isAllBlank = true) (hsolid : Text.Solid l.text)
    (h : bracketDepth passed = (depthAfter before).level.toNat) :
    (LogicalLine.mk passed (blankMarks blanks ++ l.marked)).depth
      = (lineDepth before l).level.toNat := by
  obtain ⟨mark, rest, hmarked, hblank⟩ := marked_of_solid hsolid
  have hmarks : (LogicalLine.mk passed (blankMarks blanks ++ l.marked)).marks
      = blankMarks blanks ++ mark :: rest := congrArg (blankMarks blanks ++ ·) hmarked
  have hfirst := LogicalLine.first?_eq hmarks (isBlank_blankMarks hblanks) hblank
  have hclosing : isClosing mark = l.isCode isCloser := by
    refine isCodeMark_marked ?_ isCloser
    rw [hmarked]
    exact List.mem_cons_self ..
  rw [LogicalLine.depth, hfirst, Option.any_some, hclosing, lineDepth, h]
  cases l.isCode isCloser with
  | true =>
    rw [if_pos rfl, if_pos rfl, Depth.dedent]
    show (depthAfter before).level.toNat - 1 = (max 0 ((depthAfter before).level - 1)).toNat
    omega
  | false => rw [if_neg Bool.false_ne_true, if_neg Bool.false_ne_true]

/-- A new line starts with a lexeme behind the margin of the depth that this has. -/
theorem Begun.start (hunit : unit.isAllBlank = true) (hsolid : Text.Solid l.text)
    (h : bracketDepth passed = (depthAfter before).level.toNat) :
    Begun unit (l :: before) passed
      (blankMarks ((lineDepth before l).margin unit) ++ l.marked) := by
  have hmargin := isAllBlank_margin hunit (lineDepth before l)
  obtain ⟨mark, rest, hmarked, hblank⟩ := marked_of_solid hsolid
  refine ⟨⟨⟨l.text, ?_, hsolid⟩, ?_, ?_, ?_⟩, bracketDepth_lexeme hmargin h l, ?_, ?_⟩
  · rw [depth_started hmargin hsolid h, LogicalLine.text, List.map_append, chars_blankMarks,
      chars_lexeme, Depth.margin]
  · rw [List.dropLast_append_of_ne_nil (marked_ne_nil l)]
    exact not_opening_dropLast hmargin l
  · have hdrop : (blankMarks ((lineDepth before l).margin unit) ++ l.marked).dropWhile (isBlank ·.1)
        = l.marked := by
      rw [List.dropWhile_append_of_pos (isBlank_blankMarks hmargin), hmarked, List.dropWhile_cons]
      simp only [hblank, Bool.false_eq_true, if_false]
    rw [hdrop]
    exact isClosing_tail_marked l
  · intro opening hmem hopening
    cases hopener : l.isCode isOpener with
    | true => exact not_closing_of_mem hmargin (isCode_closer_of_opener hopener)
    | false =>
      have hplain := not_opening_of_mem hmargin hopener opening hmem
      exact absurd (hplain.symm.trans hopening) Bool.false_ne_true
  · exact not_opening_of_mem hmargin
  · intro hgroup
    rw [inCloserGroup_cons, Bool.or_eq_false_iff] at hgroup
    exact not_closing_of_mem hmargin hgroup.1

/-! ### A line goes on -/

theorem Aligned.exists_solid (h : Aligned unit ⟨passed, line⟩) :
    ∃ mark ∈ line, isBlank mark.1 = false := by
  obtain ⟨content, htext, hsolid⟩ := h.indented
  obtain ⟨c, hc, hblank⟩ := hsolid.head
  have hmem : c ∈ line.map (·.1) := by
    rw [show line.map (·.1) = _ from htext]
    exact List.mem_append_right _ (List.mem_of_mem_head? hc)
  obtain ⟨mark, hmark, rfl⟩ := List.mem_map.mp hmem
  exact ⟨mark, hmark, hblank⟩

theorem Aligned.depth_append (h : Aligned unit ⟨passed, line⟩) (more : List (Char × Region)) :
    (LogicalLine.mk passed (line ++ more)).depth = (LogicalLine.mk passed line).depth := by
  obtain ⟨mark, hmark, hblank⟩ := h.exists_solid
  have hfirst : (LogicalLine.mk passed (line ++ more)).first?
      = (LogicalLine.mk passed line).first? := by
    rw [LogicalLine.first?, LogicalLine.first?, List.find?_append]
    cases hfind : line.find? (!isBlank ·.1) with
    | some first => rfl
    | none =>
      have hnone := List.find?_eq_none.mp hfind mark hmark
      rw [hblank] at hnone
      exact absurd rfl hnone
  rw [LogicalLine.depth, LogicalLine.depth, hfirst]

theorem Aligned.tail_append (h : Aligned unit ⟨passed, line⟩) (more : List (Char × Region)) :
    ((line ++ more).dropWhile (isBlank ·.1)).tail
      = (line.dropWhile (isBlank ·.1)).tail ++ more := by
  obtain ⟨mark, hmark, hblank⟩ := h.exists_solid
  have hne : line.dropWhile (isBlank ·.1) ≠ [] := by
    intro hnil
    rw [List.dropWhile_eq_nil_iff] at hnil
    exact Bool.false_ne_true (hblank.symm.trans (hnil mark hmark))
  rw [List.dropWhile_append, if_neg (by rwa [List.isEmpty_iff]), List.tail_append_of_ne_nil hne]

/-- A line goes on with blanks and a lexeme that is no closing bracket, unless an opening bracket
has ended it. -/
theorem Begun.extend (h : Begun unit before passed line) (hblanks : blanks.isAllBlank = true)
    (hsolid : Text.Solid l.text) (hcloser : l.isCode isCloser = false)
    (hopening : ∀ mark ∈ line, isOpening mark = false)
    (hclosing : (∀ mark ∈ line, isClosing mark = false) ∨
      l.isCode isOpener = false ∧ inCloserGroup (l :: before) = true) :
    Begun unit (l :: before) passed (line ++ (blankMarks blanks ++ l.marked)) := by
  obtain ⟨content, htext, hcontent⟩ := h.aligned.indented
  have hne := marked_ne_nil l
  have hplain := not_closing_of_mem hblanks hcloser
  refine ⟨⟨⟨content ++ blanks ++ l.text, ?_, hcontent.append blanks hsolid⟩, ?_, ?_, ?_⟩,
    ?_, ?_, ?_⟩
  · rw [h.aligned.depth_append, LogicalLine.text, List.map_append, List.map_append,
      show line.map (·.1) = _ from htext, chars_blankMarks, chars_lexeme]
    simp only [List.append_assoc]
  · rw [List.dropLast_append_of_ne_nil (List.append_ne_nil_of_right_ne_nil _ hne),
      List.dropLast_append_of_ne_nil hne]
    intro m hm
    rcases List.mem_append.mp hm with hm | hm
    · exact hopening m hm
    · exact not_opening_dropLast hblanks l m hm
  · rw [h.aligned.tail_append]
    intro m hm
    rcases List.mem_append.mp hm with hm | hm
    · exact h.aligned.closing_first m hm
    · exact hplain m hm
  · -- An opening bracket can only be the new lexeme, which does not follow a closing one then.
    intro opening hmem hopens closing hmem'
    rcases List.mem_append.mp hmem with hmem | hmem
    · exact absurd ((hopening opening hmem).symm.trans hopens) Bool.false_ne_true
    · rcases List.mem_append.mp hmem' with hmem' | hmem'
      · rcases hclosing with hclosing | ⟨hopener, -⟩
        · exact hclosing closing hmem'
        · have hnone := not_opening_of_mem hblanks hopener opening hmem
          exact absurd (hnone.symm.trans hopens) Bool.false_ne_true
      · exact hplain closing hmem'
  · rw [← List.append_assoc]
    exact bracketDepth_lexeme hblanks h.depth l
  · intro hopener m hm
    rcases List.mem_append.mp hm with hm | hm
    · exact hopening m hm
    · exact not_opening_of_mem hblanks hopener m hm
  · intro hgroup m hm
    rcases List.mem_append.mp hm with hm | hm
    · rcases hclosing with hclosing | ⟨-, hgroup'⟩
      · exact hclosing m hm
      · exact absurd (hgroup.symm.trans hgroup') Bool.false_ne_true
    · exact hplain m hm

end Begun

/-! ### Line by line -/

section Rule

variable {unit gap : Text} {before : List Lexeme} {x next : Lexeme}

theorem not_opener_of_inCloserGroup (h : inCloserGroup (x :: before) = true) :
    x.isCode isOpener = false := by
  by_contra hopener
  rw [Bool.not_eq_false] at hopener
  cases x with
  | code c =>
    rw [inCloserGroup_cons, isCode, isCode, isCloser_of_isOpener hopener,
      isTrailing_of_isOpener hopener] at h
    exact Bool.false_ne_true h
  | literal quote inside closed => exact Bool.false_ne_true hopener
  | lineComment inside => exact Bool.false_ne_true hopener
  | blockComment inside closed => exact Bool.false_ne_true hopener

/-- `next` stands on the line of the lexeme before it. -/
structure GoesOn (before : List Lexeme) (next : Lexeme) : Prop where
  not_closer : next.isCode isCloser = false
  not_opened : before.head?.any (isCode isOpener) = false
  closed : inCloserGroup before = false ∨
    next.isCode isOpener = false ∧ inCloserGroup (next :: before) = true

theorem SameLine.goesOn_next (h : SameLine (x :: before) gap next) : GoesOn (x :: before) next := by
  refine ⟨h.not_closer, ?_, .inl h.apart⟩
  have hends := (Bool.or_eq_false_iff.mp h.goesOn).2
  cases x with
  | code c => exact (Bool.or_eq_false_iff.mp hends).1
  | literal quote inside closed => rfl
  | lineComment inside => rfl
  | blockComment inside closed => rfl

theorem goesOn_of_trailing
    (h : (next.isCode isTrailing && inCloserGroup (x :: before)) = true) :
    GoesOn (x :: before) next := by
  obtain ⟨htrailing, hgroup⟩ := (Bool.and_eq_true _ _).mp h
  cases next with
  | code c =>
    refine ⟨isCloser_of_isTrailing htrailing, not_opener_of_inCloserGroup hgroup,
      .inr ⟨isOpener_of_isTrailing htrailing, ?_⟩⟩
    rw [inCloserGroup_cons, h, Bool.or_true]
  | literal quote inside closed => exact absurd htrailing Bool.false_ne_true
  | lineComment inside => exact absurd htrailing Bool.false_ne_true
  | blockComment inside closed => exact absurd htrailing Bool.false_ne_true

/-- The blanks of a layout either start a new line, or hold no line break. -/
theorem gapBefore_line (unit gap : Text) (x : Lexeme) (before : List Lexeme) (next : Lexeme) :
    gapBefore unit (x :: before) gap next
        = '\n' :: (lineDepth (x :: before) next).margin unit ∨
      (gapBefore unit (x :: before) gap next).any isLineBreak = false ∧
        GoesOn (x :: before) next := by
  rcases gapBefore_cases unit gap x before next with
    ⟨htrailing, hgap⟩ | ⟨-, -, hgap⟩ | ⟨hline, -, hgap⟩ | ⟨hline, -, hgap⟩
  · refine .inr ⟨?_, goesOn_of_trailing htrailing⟩
    rw [hgap]
    rfl
  · exact .inl hgap
  · refine .inr ⟨?_, hline.goesOn_next⟩
    rw [hgap]
    split <;> rfl
  · refine .inr ⟨?_, hline.goesOn_next⟩
    rw [hgap]
    exact hline.unbroken

theorem Begun.goesOn {passed line : List (Char × Region)} (h : Begun unit before passed line)
    (hgoesOn : GoesOn before next) {blanks : Text} (hblanks : blanks.isAllBlank = true)
    (hsolid : Text.Solid next.text) :
    Begun unit (next :: before) passed (line ++ (blankMarks blanks ++ next.marked)) :=
  h.extend hblanks hsolid hgoesOn.not_closer (h.opening hgoesOn.not_opened)
    (hgoesOn.closed.imp_left h.closing)

end Rule

theorem unbroken_margin {unit : Text} (hunbroken : unit.any isLineBreak = false) (depth : Depth) :
    (depth.margin unit).any isLineBreak = false := by
  rw [List.any_eq_false]
  intro c hc
  obtain ⟨level, hlevel, hmem⟩ := List.mem_flatten.mp hc
  rw [List.eq_of_mem_replicate hlevel] at hmem
  exact List.any_eq_false.mp hunbroken c hmem

theorem unbroken_lexeme {blanks : Text} (hblanks : blanks.any isLineBreak = false) {l : Lexeme}
    (hgap : l.isGap = false) :
    ∀ mark ∈ blankMarks blanks ++ l.marked, endsLogicalLine mark = false := by
  intro mark hmark
  rcases List.mem_append.mp hmark with hmark | hmark
  · exact unbroken_blankMarks hblanks mark hmark
  · exact unbroken_marked hgap mark hmark

section Lines

variable {unit : Text} {ps : List Piece}

/-- A line that is begun, and every line that comes after it, is aligned. -/
theorem Begun.aligned_lines (hunit : unit.isAllBlank = true)
    (hunbroken : unit.any isLineBreak = false) (hps : ∀ p ∈ ps, p.Tidy) {x : Lexeme}
    {before : List Lexeme} {passed line : List (Char × Region)}
    (h : Begun unit (x :: before) passed line) :
    ∀ l ∈ logicalLinesFrom passed line ((respace unit (x :: before) ps).flatMap Piece.marked),
      Aligned unit l := by
  induction ps generalizing x before passed line with
  | nil =>
    intro l hl
    obtain rfl := List.mem_singleton.mp hl
    exact h.aligned
  | cons p ps ih =>
    have hp := hps p (List.mem_cons_self ..)
    have hmore : ∀ q ∈ ps, q.Tidy := fun q hq => hps q (List.mem_cons_of_mem p hq)
    have hmarked (blanks : Text) : (Piece.mk blanks p.lexeme).marked
        = blankMarks blanks ++ p.lexeme.marked := rfl
    rw [respace, List.flatMap_cons, hmarked]
    rcases gapBefore_line unit p.gap x before p.lexeme with hgap | ⟨hgap, hgoesOn⟩
    · -- The line is over, and the next one begins with the margin of its own depth.
      have hmargin := unbroken_margin hunbroken (lineDepth (x :: before) p.lexeme)
      have hdepth : bracketDepth (passed ++ line ++ [('\n', .code)])
          = (depthAfter (x :: before)).level.toNat := by
        rw [← h.depth]
        exact bracketDepth_append_plain _ (by decide)
      have hbegun := Begun.start hunit hp.solid hdepth
      rw [hgap, blankMarks, List.map_cons, List.cons_append, List.cons_append,
        logicalLinesFrom_break rfl, ← blankMarks,
        logicalLinesFrom_unbroken (unbroken_lexeme hmargin hp.not_gap), List.nil_append]
      intro l hl
      rcases List.mem_cons.mp hl with rfl | hl
      · exact h.aligned
      · exact ih hmore hbegun l hl
    · have hblanks := isAllBlank_gapBefore hunit hp.gap (x :: before) p.lexeme
      rw [logicalLinesFrom_unbroken (unbroken_lexeme hgap hp.not_gap)]
      exact ih hmore (h.goesOn hgoesOn hblanks hp.solid)

/-- Every logical line of a layout is aligned. -/
theorem aligned_layout (hunit : unit.isAllBlank = true) (hunbroken : unit.any isLineBreak = false)
    {text : Text} (hne : reformat unit text ≠ []) :
    ∀ line ∈ logicalLines (scan true (reformat unit text)), Aligned unit line := by
  have htidy := pieces_tidy text
  rw [scan_reformat hunit]
  rw [reformat_respace] at hne
  cases hpieces : pieces text with
  | nil =>
    rw [hpieces] at hne
    exact absurd rfl hne
  | cons p ps =>
    rw [hpieces] at htidy
    have hp := htidy p (List.mem_cons_self ..)
    have hdepth : bracketDepth [] = (depthAfter []).level.toNat := rfl
    have hbegun := Begun.start hunit hp.solid hdepth
    rw [margin_lineDepth_nil] at hbegun
    have hmarked : (Piece.mk [] p.lexeme).marked = blankMarks [] ++ p.lexeme.marked := rfl
    rw [respace, gapBefore, List.flatMap_cons, hmarked, logicalLines,
      logicalLinesFrom_unbroken (unbroken_lexeme rfl hp.not_gap), List.nil_append]
    exact hbegun.aligned_lines hunit hunbroken fun q hq => htidy q (List.mem_cons_of_mem p hq)

end Lines

/-! ### Where brackets stand -/

section Aligned

variable {unit : Text} {line : LogicalLine} {start more : List (Char × Region)}
  {mark : Char × Region}

theorem Aligned.indentation (hunit : unit.isAllBlank = true) (h : Aligned unit line) :
    line.indentation = (List.replicate line.depth unit).flatten := by
  obtain ⟨content, htext, hsolid⟩ := h.indented
  obtain ⟨c, hc, hblank⟩ := hsolid.head
  have hmargin : ∀ d ∈ (List.replicate line.depth unit).flatten, isBlank d = true :=
    List.all_eq_true.mp (isAllBlank_margin hunit ⟨line.depth⟩)
  rw [LogicalLine.indentation, htext, List.takeWhile_append_of_pos hmargin,
    List.eq_cons_of_mem_head? hc, List.takeWhile_cons, hblank, if_neg Bool.false_ne_true,
    List.append_nil]

theorem endsLogicalLine_of_solid (h : isBlank mark.1 = false) : endsLogicalLine mark = false := by
  by_contra hbreak
  rw [Bool.not_eq_false, endsLogicalLine, isCodeMark, Bool.and_eq_true] at hbreak
  exact Bool.false_ne_true (h.symm.trans (isBlank_of_isLineBreak hbreak.2))

theorem solid_of_opening (h : isOpening mark = true) : isBlank mark.1 = false := by
  by_contra hblank
  rw [Bool.not_eq_false] at hblank
  exact Bool.false_ne_true ((not_bracket_of_isBlank hblank).1.symm.trans h)

theorem solid_of_closing (h : isClosing mark = true) : isBlank mark.1 = false := by
  by_contra hblank
  rw [Bool.not_eq_false] at hblank
  exact Bool.false_ne_true ((not_bracket_of_isBlank hblank).2.symm.trans h)

/-- Only blanks stand before a closing bracket in its line. -/
theorem Aligned.blank_of_closing (h : Aligned unit line) (hmarks : line.marks = start ++ mark :: more)
    (hclosing : isClosing mark = true) : ∀ m ∈ start, isBlank m.1 = true := by
  by_contra hsolid
  have hne : start.dropWhile (isBlank ·.1) ≠ [] := by rwa [Ne, List.dropWhile_eq_nil_iff]
  have hmem : mark ∈ (line.marks.dropWhile (isBlank ·.1)).tail := by
    rw [hmarks, List.dropWhile_append, if_neg (by rwa [List.isEmpty_iff]),
      List.tail_append_of_ne_nil hne]
    exact List.mem_append_right _ (List.mem_cons_self ..)
  exact Bool.false_ne_true ((h.closing_first mark hmem).symm.trans hclosing)

/-- A line with a closing bracket starts with it, one level back. -/
theorem Aligned.startsWith (h : Aligned unit line) (hmarks : line.marks = start ++ mark :: more)
    (hclosing : isClosing mark = true) :
    line.StartsWith (line.before ++ start) mark ∧
      line.depth = bracketDepth (line.before ++ start) - 1 := by
  have hstart := h.blank_of_closing hmarks hclosing
  have hblank := solid_of_closing hclosing
  constructor
  · refine ⟨start, more, hmarks, rfl, ?_⟩
    have hblanks : ∀ c ∈ start.map (·.1), isBlank c = true := by
      intro c hc
      obtain ⟨m, hm, rfl⟩ := List.mem_map.mp hc
      exact hstart m hm
    rw [LogicalLine.indentation, LogicalLine.text, hmarks, List.map_append,
      List.takeWhile_append_of_pos hblanks, List.map_cons, List.takeWhile_cons, hblank,
      if_neg Bool.false_ne_true, List.append_nil]
  · have hfirst := LogicalLine.first?_eq hmarks hstart hblank
    rw [LogicalLine.depth, hfirst, Option.any_some, if_pos hclosing,
      bracketDepth_append_plain _ fun m hm => not_bracket_of_isBlank (hstart m hm)]

/-- A line with an opening bracket ends with it, at the depth before it. -/
theorem Aligned.endsWith (h : Aligned unit line) (hmarks : line.marks = start ++ mark :: more)
    (hopening : isOpening mark = true) :
    line.EndsWith (line.before ++ start) mark ∧
      line.depth = bracketDepth (line.before ++ start) := by
  have hmore : more = [] := by
    by_contra hne
    have hmem : mark ∈ line.marks.dropLast := by
      rw [hmarks, List.dropLast_append_of_ne_nil (List.cons_ne_nil mark more),
        List.dropLast_cons_of_ne_nil hne]
      exact List.mem_append_right _ (List.mem_cons_self ..)
    exact Bool.false_ne_true ((h.opening_last mark hmem).symm.trans hopening)
  subst hmore
  have hmem : mark ∈ line.marks := by
    rw [hmarks]
    exact List.mem_append_right _ (List.mem_cons_self ..)
  have hclosing := h.one_kind mark hmem hopening
  refine ⟨⟨start, hmarks, rfl⟩, ?_⟩
  have hplain : ∀ m ∈ start, isOpening m = false ∧ isClosing m = false := by
    intro m hm
    have hlast := h.opening_last m
    rw [hmarks, List.dropLast_concat] at hlast
    refine ⟨hlast hm, hclosing m ?_⟩
    rw [hmarks]
    exact List.mem_append_left _ hm
  have hfirst : line.first?.any isClosing = false := by
    cases hfind : line.first? with
    | none => rfl
    | some first => exact hclosing first (List.mem_of_find?_eq_some hfind)
  rw [LogicalLine.depth, hfirst, if_neg Bool.false_ne_true, bracketDepth_append_plain _ hplain]

end Aligned

/-- Every logical line of a layout is indented by its depth, and has no other blanks at its ends.
So a closing bracket starts a line that is indented like the one its partner ends, and without a
partner it stands at depth zero. -/
theorem reformat_indents_by_depth {unit : Text} (hunit : ∀ c ∈ unit, c = ' ' ∨ c = '\t')
    {text : Text} (hne : reformat unit text ≠ []) :
    (∀ line ∈ logicalLines (scan true (reformat unit text)), ∃ content,
      line.text = (List.replicate line.depth unit).flatten ++ content ∧ Text.Solid content) ∧
    ∀ passed closing rest, scan true (reformat unit text) = passed ++ closing :: rest →
      isClosing closing = true →
      ∃ line ∈ logicalLines (scan true (reformat unit text)), line.StartsWith passed closing ∧
        ((∃ earlier opening, Opens earlier opening passed) ↔ bracketDepth passed ≠ 0) ∧
        (bracketDepth passed = 0 → line.depth = 0 ∧ line.indentation = []) ∧
        ∀ earlier opening, Opens earlier opening passed →
          ∃ opened ∈ logicalLines (scan true (reformat unit text)),
            opened.EndsWith earlier opening ∧ opened.depth = line.depth ∧
              opened.indentation = line.indentation := by
  have hblank : unit.isAllBlank = true := by
    rw [Text.isAllBlank, List.all_eq_true]
    intro c hc
    rcases hunit c hc with rfl | rfl <;> rfl
  have hunbroken : unit.any isLineBreak = false := by
    rw [List.any_eq_false]
    intro c hc
    rcases hunit c hc with rfl | rfl <;> decide
  have haligned := aligned_layout hblank hunbroken hne
  refine ⟨fun line hline => (haligned line hline).indented, ?_⟩
  intro passed closing rest hscan hclosing
  -- The line of the closing bracket.
  obtain ⟨line, hline, start, more, hmarks, hbefore⟩ :=
    exists_line (endsLogicalLine_of_solid (solid_of_closing hclosing)) [] [] passed rest
  rw [← hscan] at hline
  have hstarts := (haligned line hline).startsWith hmarks hclosing
  rw [hbefore, List.append_nil, List.nil_append] at hstarts
  obtain ⟨hstarts, hdepth⟩ := hstarts
  have hindentation := (haligned line hline).indentation hblank
  refine ⟨line, hline, hstarts, ⟨?_, exists_opens⟩, fun hzero => ?_, ?_⟩
  · rintro ⟨earlier, opening, hopens⟩
    rw [hopens.bracketDepth]
    exact Nat.succ_ne_zero _
  · rw [hzero] at hdepth
    rw [hdepth] at hindentation
    exact ⟨hdepth, hindentation⟩
  · intro earlier opening hopens
    -- The line of its partner.
    have hpassed := hopens.bracketDepth
    obtain ⟨hopening, inside, -, rfl⟩ := hopens
    obtain ⟨opened, hopened, start', more', hmarks', hbefore'⟩ :=
      exists_line (endsLogicalLine_of_solid (solid_of_opening hopening)) [] [] earlier
        (inside ++ closing :: rest)
    rw [List.append_assoc, List.cons_append] at hscan
    rw [← hscan] at hopened
    have hends := (haligned opened hopened).endsWith hmarks' hopening
    rw [hbefore', List.append_nil, List.nil_append] at hends
    obtain ⟨hends, hopeneddepth⟩ := hends
    have hsame : opened.depth = line.depth := by
      rw [hopeneddepth, hdepth, hpassed, Nat.add_sub_cancel]
    refine ⟨opened, hopened, hends, hsame, ?_⟩
    rw [(haligned opened hopened).indentation hblank, hindentation, hsame]

theorem reformat_indents_by_depth_nested :
    (∀ c ∈ [' ', ' '], c = ' ' ∨ c = '\t') ∧
      reformat [' ', ' '] "]a[[']\n'];]".toList = "]\na[\n  [\n    ']\n'\n  ];\n]".toList ∧
      (logicalLines (scan true (reformat [' ', ' '] "]a[[']\n'];]".toList))).map
        LogicalLine.depth = [0, 0, 1, 2, 1, 0] ∧
      ∀ line ∈ logicalLines (scan true (reformat [' ', ' '] "]a[[']\n'];]".toList)),
        ∃ content, line.text = (List.replicate line.depth [' ', ' ']).flatten ++ content ∧
          Text.Solid content :=
  ⟨by simp, by decide, by decide, (reformat_indents_by_depth (by simp) (by decide)).1⟩

end Layout
end SourceText
