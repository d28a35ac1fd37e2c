import SourceText.Proofs.Scan.Piece

/-!
# Logical lines

A logical line ends at a line break of code. Line breaks inside literals and comments belong to the
line that these stand in.
-/

namespace SourceText
open Lexeme

/-- Whether a scanned character is one of code with the property `p`. -/
def isCodeMark (p : Char → Bool) (mark : Char × Region) : Bool := mark.2 == .code && p mark.1

theorem isCodeMark_marked {l : Lexeme} {mark : Char × Region} (h : mark ∈ l.marked)
    (p : Char → Bool) : isCodeMark p mark = l.isCode p := by
  obtain ⟨c, hc, rfl⟩ := List.mem_map.mp h
  cases l with
  | code d =>
    obtain rfl := List.mem_singleton.mp hc
    rfl
  | literal quote inside closed => rfl
  | lineComment inside => rfl
  | blockComment inside closed => rfl

/-- Whether a scanned character ends a logical line. -/
def endsLogicalLine (mark : Char × Region) : Bool := isCodeMark isLineBreak mark

/-! ### Characters of a lexeme -/

section Marked

variable {l : Lexeme}

theorem marked_of_isCode {p : Char → Bool} (h : l.isCode p = true) :
    ∃ c, l.marked = [(c, .code)] ∧ p c = true := by
  cases l with
  | code c => exact ⟨c, rfl, h⟩
  | literal quote inside closed => exact absurd h Bool.false_ne_true
  | lineComment inside => exact absurd h Bool.false_ne_true
  | blockComment inside closed => exact absurd h Bool.false_ne_true

theorem marked_of_solid (hsolid : Text.Solid l.text) :
    ∃ mark rest, l.marked = mark :: rest ∧ isBlank mark.1 = false := by
  obtain ⟨c, hc, hblank⟩ := hsolid.head
  refine ⟨(c, l.region), l.text.tail.map fun d => (d, l.region), ?_, hblank⟩
  rw [marked, List.eq_cons_of_mem_head? hc, List.map_cons, List.tail_cons]

theorem unbroken_marked (hgap : l.isGap = false) :
    ∀ mark ∈ l.marked, endsLogicalLine mark = false := by
  intro mark hmark
  rw [endsLogicalLine, isCodeMark_marked hmark]
  by_contra hbreak
  rw [Bool.not_eq_false] at hbreak
  cases l with
  | code c => exact Bool.false_ne_true (hgap.symm.trans (isBlank_of_isLineBreak hbreak))
  | literal quote inside closed => exact Bool.false_ne_true hbreak
  | lineComment inside => exact Bool.false_ne_true hbreak
  | blockComment inside closed => exact Bool.false_ne_true hbreak

end Marked

/-! ### Blanks of code -/

/-- Blanks as they are scanned between lexemes. -/
def blankMarks (blanks : Text) : List (Char × Region) := blanks.map fun c => (c, .code)

section Blank

variable {blanks : Text}

theorem isBlank_blankMarks (h : blanks.isAllBlank = true) :
    ∀ mark ∈ blankMarks blanks, isBlank mark.1 = true := by
  intro mark hmark
  obtain ⟨c, hc, rfl⟩ := List.mem_map.mp hmark
  exact List.all_eq_true.mp h c hc

theorem unbroken_blankMarks (h : blanks.any isLineBreak = false) :
    ∀ mark ∈ blankMarks blanks, endsLogicalLine mark = false := by
  intro mark hmark
  obtain ⟨c, hc, rfl⟩ := List.mem_map.mp hmark
  have hc' := List.any_eq_false.mp h c hc
  simpa [endsLogicalLine, isCodeMark] using hc'

theorem chars_blankMarks (blanks : Text) : (blankMarks blanks).map (·.1) = blanks := by
  rw [blankMarks, List.map_map]
  exact List.map_id blanks

end Blank

/-! ### Lines -/

/-- A line of a scanned text, and all that was scanned before it. -/
structure LogicalLine where
  before : List (Char × Region)
  marks : List (Char × Region)
  deriving DecidableEq, Repr

namespace LogicalLine

/-- The characters of the line. -/
def text (line : LogicalLine) : Text := line.marks.map (·.1)

/-- The blanks at the start of the line. -/
def indentation (line : LogicalLine) : Text := line.text.takeWhile isBlank

/-- The first character of the line that is not blank. -/
def first? (line : LogicalLine) : Option (Char × Region) := line.marks.find? (!isBlank ·.1)

/-- Behind its indentation the line starts with `mark`, and `passed` is all that was scanned before
this. -/
def StartsWith (line : LogicalLine) (passed : List (Char × Region)) (mark : Char × Region) : Prop :=
  ∃ blanks rest, line.marks = blanks ++ mark :: rest ∧ line.before ++ blanks = passed ∧
    blanks.map (·.1) = line.indentation

/-- The line ends with `mark`, and `passed` is all that was scanned before this. -/
def EndsWith (line : LogicalLine) (passed : List (Char × Region)) (mark : Char × Region) : Prop :=
  ∃ start, line.marks = start ++ [mark] ∧ line.before ++ start = passed

theorem first?_eq {line : LogicalLine} {blanks more : List (Char × Region)} {mark : Char × Region}
    (hmarks : line.marks = blanks ++ mark :: more) (hblanks : ∀ m ∈ blanks, isBlank m.1 = true)
    (hmark : isBlank mark.1 = false) : line.first? = some mark := by
  have hnone : blanks.find? (!isBlank ·.1) = none := by
    rw [List.find?_eq_none]
    intro m hm
    simp only [hblanks m hm, Bool.not_true, Bool.false_eq_true, not_false_iff]
  rw [first?, hmarks, List.find?_append, hnone, Option.none_or, List.find?_cons]
  simp only [hmark, Bool.not_false]

end LogicalLine

/-- The logical lines of scanned characters, where `line` is the part of the first one that has
been read, and `before` all that was read before it. -/
def logicalLinesFrom (before line : List (Char × Region)) :
    List (Char × Region) → List LogicalLine
  | [] => [⟨before, line⟩]
  | mark :: rest =>
    if endsLogicalLine mark then ⟨before, line⟩ :: logicalLinesFrom (before ++ line ++ [mark]) [] rest
    else logicalLinesFrom before (line ++ [mark]) rest

/-- The logical lines of a scanned text. -/
def logicalLines (marks : List (Char × Region)) : List LogicalLine := logicalLinesFrom [] [] marks

section Lines

variable {before line : List (Char × Region)}

theorem logicalLinesFrom_break {mark : Char × Region} (h : endsLogicalLine mark = true)
    (rest : List (Char × Region)) :
    logicalLinesFrom before line (mark :: rest)
      = ⟨before, line⟩ :: logicalLinesFrom (before ++ line ++ [mark]) [] rest := by
  rw [logicalLinesFrom, if_pos h]

theorem logicalLinesFrom_unbroken {marks : List (Char × Region)}
    (h : ∀ mark ∈ marks, endsLogicalLine mark = false) (rest : List (Char × Region)) :
    logicalLinesFrom before line (marks ++ rest) = logicalLinesFrom before (line ++ marks) rest := by
  induction marks generalizing line with
  | nil => rw [List.nil_append, List.append_nil]
  | cons mark marks ih =>
    have hmark := h mark (List.mem_cons_self ..)
    rw [List.cons_append, logicalLinesFrom, if_neg (by rw [hmark]; exact Bool.false_ne_true),
      ih fun m hm => h m (List.mem_cons_of_mem mark hm), List.append_assoc, List.singleton_append]

/-- The first line goes on with what has been read of it. -/
theorem exists_first_line (before line rest : List (Char × Region)) :
    ∃ more, ⟨before, line ++ more⟩ ∈ logicalLinesFrom before line rest := by
  induction rest generalizing line with
  | nil =>
    refine ⟨[], ?_⟩
    rw [List.append_nil]
    exact List.mem_singleton_self _
  | cons mark rest ih =>
    cases hmark : endsLogicalLine mark with
    | true =>
      refine ⟨[], ?_⟩
      rw [logicalLinesFrom_break hmark, List.append_nil]
      exact List.mem_cons_self ..
    | false =>
      obtain ⟨more, hmore⟩ := ih (line ++ [mark])
      refine ⟨mark :: more, ?_⟩
      rw [logicalLinesFrom, hmark, if_neg Bool.false_ne_true]
      rwa [List.append_assoc, List.singleton_append] at hmore

/-- Every character that ends no line stands in one. -/
theorem exists_line {mark : Char × Region} (hmark : endsLogicalLine mark = false)
    (before line passed rest : List (Char × Region)) :
    ∃ l ∈ logicalLinesFrom before line (passed ++ mark :: rest), ∃ start more,
      l.marks = start ++ mark :: more ∧ l.before ++ start = before ++ line ++ passed := by
  induction passed generalizing before line with
  | nil =>
    obtain ⟨more, hmore⟩ := exists_first_line before (line ++ [mark]) rest
    refine ⟨⟨before, line ++ [mark] ++ more⟩, ?_, line, more, ?_, (List.append_nil _).symm⟩
    · rw [List.nil_append, logicalLinesFrom, hmark, if_neg Bool.false_ne_true]
      exact hmore
    · rw [List.append_assoc, List.singleton_append]
  | cons first passed ih =>
    rw [List.cons_append]
    cases hfirst : endsLogicalLine first with
    | true =>
      rw [logicalLinesFrom_break hfirst]
      obtain ⟨l, hl, start, more, hmarks, hbefore⟩ := ih (before ++ line ++ [first]) []
      refine ⟨l, List.mem_cons_of_mem _ hl, start, more, hmarks, ?_⟩
      rw [hbefore, List.append_nil, List.append_assoc, List.singleton_append]
    | false =>
      rw [logicalLinesFrom, hfirst, if_neg Bool.false_ne_true]
      obtain ⟨l, hl, start, more, hmarks, hbefore⟩ := ih before (line ++ [first])
      refine ⟨l, hl, start, more, hmarks, ?_⟩
      rw [hbefore, ← List.append_assoc, List.append_assoc _ [first], List.singleton_append]

end Lines

end SourceText
