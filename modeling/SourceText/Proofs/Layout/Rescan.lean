import SourceText.Proofs.Layout.Writing

/-!
# Scanning a layout again

A layout has the significant lexemes of the text that it was made from (`reformat_keeps_marks`): no
blank that it puts in or leaves out makes a literal or comment, or ends one. So the pieces of a
layout are those of the text with new blanks (`pieces_reformat`), and since the rule for these
changes nothing any more, the layout of a layout is itself (`reformat_reformat`).

The indentation of a level is blank in all of this. One that is not would be read as code.
-/

namespace SourceText.Layout
open Lexeme

section Rule

variable {unit gap : Text} {before : List Lexeme} {x next : Lexeme}

/-! ### The rule followed again -/

/-- Between two lexemes the rule has four cases. -/
theorem gapBefore_cases (unit gap : Text) (x : Lexeme) (before : List Lexeme) (next : Lexeme) :
    ((next.isCode isTrailing && inCloserGroup (x :: before)) = true ∧
      gapBefore unit (x :: before) gap next = []) ∨
    ((next.isCode isTrailing && inCloserGroup (x :: before)) = false ∧
      (endsLine (x :: before) || next.isCode isCloser || gap.any isLineBreak) = true ∧
      gapBefore unit (x :: before) gap next
        = '\n' :: (lineDepth (x :: before) next).margin unit) ∨
    (SameLine (x :: before) gap next ∧ next.isCode isOpener = true ∧
      gapBefore unit (x :: before) gap next
        = if x.isCode (· == '(') || (next.isCode (· == '[') && gap.isEmpty) then [] else [' ']) ∨
    (SameLine (x :: before) gap next ∧ next.isCode isOpener = false ∧
      gapBefore unit (x :: before) gap next = gap) := by
  cases htrailing : next.isCode isTrailing && inCloserGroup (x :: before) with
  | true => exact .inl ⟨rfl, gapBefore_trailing htrailing⟩
  | false =>
    cases hbreak : endsLine (x :: before) || next.isCode isCloser || gap.any isLineBreak with
    | true => exact .inr (.inl ⟨rfl, rfl, gapBefore_break htrailing fun _ => hbreak⟩)
    | false =>
      simp only [Bool.or_eq_false_iff] at hbreak
      have hline : SameLine (x :: before) gap next := ⟨hbreak.1.1, hbreak.1.2, hbreak.2⟩
      cases hopener : next.isCode isOpener with
      | true => exact .inr (.inr (.inl ⟨hline, rfl, gapBefore_opener hline hopener⟩))
      | false => exact .inr (.inr (.inr ⟨hline, rfl, gapBefore_keep hline hopener⟩))

/-- Where the rule has been followed it changes nothing. -/
theorem gapBefore_gapBefore (unit : Text) (before : List Lexeme) (gap : Text) (next : Lexeme) :
    gapBefore unit before (gapBefore unit before gap next) next
      = gapBefore unit before gap next := by
  cases before with
  | nil => rfl
  | cons x before =>
    rcases gapBefore_cases unit gap x before next with
      ⟨htrailing, hgap⟩ | ⟨htrailing, -, hgap⟩ | ⟨hline, hopener, hgap⟩ | ⟨-, -, hgap⟩
    · rw [hgap]
      exact gapBefore_trailing htrailing
    · rw [hgap]
      refine gapBefore_break htrailing fun _ => ?_
      rw [List.any_cons, show isLineBreak '\n' = true from rfl, Bool.true_or, Bool.or_true]
    · have hunbroken : (gapBefore unit (x :: before) gap next).any isLineBreak = false := by
        rw [hgap]
        split <;> rfl
      rw [gapBefore_opener ⟨hline.goesOn, hline.not_closer, hunbroken⟩ hopener, hgap]
      by_cases htouch : (x.isCode (· == '(') || (next.isCode (· == '[') && gap.isEmpty)) = true
      · rw [if_pos htouch, List.isEmpty_nil, Bool.and_true, if_pos]
        rw [Bool.or_eq_true, Bool.and_eq_true] at htouch
        rw [Bool.or_eq_true]
        exact htouch.imp_right And.left
      · have hparen : x.isCode (· == '(') = false := by
          simp only [Bool.or_eq_true, not_or, Bool.not_eq_true] at htouch
          exact htouch.1
        rw [if_neg htouch, hparen, List.isEmpty_cons, Bool.and_false, Bool.or_false,
          if_neg Bool.false_ne_true]
    · rw [hgap, hgap]

theorem respace_respace (unit : Text) (before : List Lexeme) (ps : List Piece) :
    respace unit before (respace unit before ps) = respace unit before ps := by
  induction ps generalizing before with
  | nil => rfl
  | cons p ps ih => rw [respace, respace, gapBefore_gapBefore, ih]

/-! ### Blanks of a layout are blanks -/

theorem isAllBlank_margin (hunit : unit.isAllBlank = true) (depth : Depth) :
    Text.isAllBlank (depth.margin unit) = true := by
  rw [Text.isAllBlank, List.all_eq_true]
  intro c hc
  obtain ⟨line, hline, hmem⟩ := List.mem_flatten.mp hc
  rw [List.eq_of_mem_replicate hline] at hmem
  exact List.all_eq_true.mp hunit c hmem

theorem isAllBlank_gapBefore (hunit : unit.isAllBlank = true) (hgap : gap.isAllBlank = true)
    (before : List Lexeme) (next : Lexeme) :
    Text.isAllBlank (gapBefore unit before gap next) = true := by
  cases before with
  | nil => rfl
  | cons x before =>
    rcases gapBefore_cases unit gap x before next with
      ⟨-, h⟩ | ⟨-, -, h⟩ | ⟨-, -, h⟩ | ⟨-, -, h⟩
    · rw [h]
      rfl
    · rw [h]
      exact Text.isAllBlank_append (show Text.isAllBlank ['\n'] = true from rfl)
        (isAllBlank_margin hunit _)
    · rw [h]
      split <;> rfl
    · rw [h]
      exact hgap

theorem respace_tidy (hunit : unit.isAllBlank = true) {ps : List Piece} (hps : ∀ p ∈ ps, p.Tidy)
    (before : List Lexeme) : ∀ p ∈ respace unit before ps, p.Tidy := by
  induction ps generalizing before with
  | nil => simp [respace]
  | cons p ps ih =>
    have hp := hps p (List.mem_cons_self ..)
    intro q hq
    rw [respace, List.mem_cons] at hq
    rcases hq with rfl | hq
    · exact ⟨isAllBlank_gapBefore hunit hp.gap before p.lexeme, hp.whole, hp.not_gap, hp.trimmed⟩
    · exact ih (fun r hr => hps r (List.mem_cons_of_mem p hr)) _ q hq

/-! ### Lexemes stay apart -/

/-- Where the rule puts nothing, nothing stood there or a bracket or trailing punctuation comes. -/
theorem apart_of_gapBefore_nil (h : gapBefore unit (x :: before) gap next = []) :
    gap = [] ∨ next.isCode isTrailing = true ∨ next.isCode isOpener = true := by
  rcases gapBefore_cases unit gap x before next with
    ⟨htrailing, -⟩ | ⟨-, -, hgap⟩ | ⟨-, hopener, -⟩ | ⟨-, -, hgap⟩
  · exact .inr (.inl ((Bool.and_eq_true _ _).mp htrailing).1)
  · exact absurd (hgap.symm.trans h) (List.cons_ne_nil _ _)
  · exact .inr (.inr hopener)
  · exact .inl (hgap.symm.trans h)

theorem no_comment_of_bracket (h : next.isCode isTrailing = true ∨ next.isCode isOpener = true) :
    next.text.head? ≠ some '/' ∧ next.text.head? ≠ some '*' := by
  cases next with
  | code d =>
    have hd : d ≠ '/' ∧ d ≠ '*' := by
      constructor
      · rintro rfl
        exact absurd h (by decide)
      · rintro rfl
        exact absurd h (by decide)
    simpa [text] using hd
  | literal quote inside closed => exact absurd h (by simp [isCode])
  | lineComment inside => exact absurd h (by simp [isCode])
  | blockComment inside closed => exact absurd h (by simp [isCode])

/-- A lexeme ends before the blanks of a layout and the lexeme that comes next. -/
theorem endsBefore_gap (hunit : unit.isAllBlank = true) (hgap : gap.isAllBlank = true)
    (hmeets : x.Meets gap next) (hsolid : Text.Solid next.text) (before : List Lexeme)
    (rest : Text) :
    x.EndsBefore true (gapBefore unit (x :: before) gap next ++ (next.text ++ rest)) := by
  have hblanks := isAllBlank_gapBefore hunit hgap (x :: before) next
  refine endsBefore_blanks hblanks hmeets.not_open hsolid ?_ ?_ rest
  · rintro rfl hput
    rcases apart_of_gapBefore_nil hput with hnil | hbracket
    · exact hmeets rfl hnil
    · exact no_comment_of_bracket hbracket
  · rintro inside rfl
    have hbreak : gap.any isLineBreak = true := hmeets
    have hput : gapBefore unit (lineComment inside :: before) gap next
        = '\n' :: (lineDepth (lineComment inside :: before) next).margin unit := by
      refine gapBefore_break ?_ fun _ => ?_
      · rw [inCloserGroup, Bool.and_false]
        exact fun c before hcode => absurd hcode (by simp)
      · rw [hbreak, Bool.or_true]
    rw [hput]
    exact ⟨'\n', rfl, rfl⟩

end Rule

/-! ### The pieces of a layout -/

/-- Each piece of a layout ends where the next one begins. -/
theorem apart_respace {unit : Text} (hunit : unit.isAllBlank = true) {ps : List Piece}
    (hps : ∀ p ∈ ps, p.Tidy) {before : List Lexeme} (hjoined : Joined before ps) :
    Apart (respace unit before ps) := by
  induction ps generalizing before with
  | nil => trivial
  | cons p ps ih =>
    have hmore : ∀ q ∈ ps, q.Tidy := fun q hq => hps q (List.mem_cons_of_mem p hq)
    obtain ⟨-, hnext⟩ := hjoined
    refine ⟨?_, ih hmore hnext⟩
    cases ps with
    | nil => exact endsBefore_nil p.lexeme
    | cons q ps =>
      have hq := hmore q (List.mem_cons_self ..)
      rw [respace, List.flatMap_cons, Piece.text, List.append_assoc]
      exact endsBefore_gap hunit hq.gap (hnext.1 _ rfl) hq.solid before _

section Pieces

variable {unit : Text}

theorem tidy_layout (hunit : unit.isAllBlank = true) (text : Text) :
    ∀ p ∈ respace unit [] (pieces text), p.Tidy :=
  respace_tidy hunit (pieces_tidy text) []

theorem apart_layout (hunit : unit.isAllBlank = true) (text : Text) :
    Apart (respace unit [] (pieces text)) :=
  apart_respace hunit (pieces_tidy text) (pieces_joined text)

/-- The pieces of a layout are those of the text with the blanks of the layout. -/
theorem pieces_reformat (hunit : unit.isAllBlank = true) (text : Text) :
    pieces (reformat unit text) = respace unit [] (pieces text) := by
  rw [reformat_respace]
  exact pieces_of_apart (tidy_layout hunit text) (apart_layout hunit text)

theorem scan_reformat (hunit : unit.isAllBlank = true) (text : Text) :
    scan true (reformat unit text) = (respace unit [] (pieces text)).flatMap Piece.marked := by
  rw [reformat_respace]
  exact scan_of_apart (tidy_layout hunit text) (apart_layout hunit text)

end Pieces

theorem significant_reformat {unit : Text} (hunit : unit.isAllBlank = true) (text : Text) :
    significant (lexemes true (reformat unit text)) = significant (lexemes true text) := by
  rw [← pieces_significant, pieces_reformat hunit, respace_lexeme, pieces_significant]

/-- A layout keeps the significant characters of the text in order and in their regions, and every
closed literal and block comment as it is. -/
theorem reformat_keeps_marks {unit : Text} (hunit : unit.isAllBlank = true) (text : Text) :
    significantMarks (scan true (reformat unit text)) = significantMarks (scan true text) ∧
      (lexemes true (reformat unit text)).filter isClosed
        = (lexemes true text).filter isClosed := by
  have hsignificant := significant_reformat hunit text
  constructor
  · rw [significantMarks_scan, significantMarks_scan, hsignificant]
  · rw [← filter_isClosed_significant, hsignificant, filter_isClosed_significant]

theorem reformat_keeps_marks_nested :
    Text.isAllBlank [' ', ' '] = true ∧
      significantMarks (scan true (reformat [' ', ' '] "a['][']\n,// b ".toList))
        = significantMarks (scan true "a['][']\n,// b ".toList) ∧
      (lexemes true (reformat [' ', ' '] "a['][']\n,// b ".toList)).filter isClosed
        = (lexemes true "a['][']\n,// b ".toList).filter isClosed :=
  ⟨by decide, reformat_keeps_marks (by decide) _⟩

/-- The layout of a layout is itself. -/
theorem reformat_reformat {unit : Text} (hunit : unit.isAllBlank = true) (text : Text) :
    reformat unit (reformat unit text) = reformat unit text := by
  rw [reformat_respace unit (reformat unit text), pieces_reformat hunit, respace_respace,
    reformat_respace unit text]

theorem reformat_reformat_nested :
    Text.isAllBlank [' ', ' '] = true ∧
      reformat [' ', ' '] "a['][']\n,// b ".toList = "a[\n  ']['\n],\n// b".toList ∧
      reformat [' ', ' '] (reformat [' ', ' '] "a['][']\n,// b ".toList)
        = reformat [' ', ' '] "a['][']\n,// b ".toList :=
  ⟨by decide, by decide, reformat_reformat (by decide) _⟩

end SourceText.Layout
