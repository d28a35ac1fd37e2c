import SourceText.Layout
import SourceText.Proofs.Scan.Piece

/-!
# The blanks of a layout

What a layout puts between two significant lexemes depends on these, on the blanks that stood
between them, and on the lexemes before. `gapBefore` is that rule. It changes nothing any more where
it has been followed once (`gapBefore_gapBefore`).
-/

namespace SourceText.Layout
open Lexeme

/-- Whether the latest lexeme is a closing bracket, or punctuation that follows one with nothing but
blanks and such punctuation between. The latest lexeme comes first. -/
def inCloserGroup : List Lexeme → Bool
  | code c :: before => isCloser c || (isTrailing c && inCloserGroup before)
  | _ => false

/-- Whether the latest lexeme is the last of its line whatever comes next. -/
def endsLine (before : List Lexeme) : Bool :=
  inCloserGroup before || before.head?.any (isCode fun c => isOpener c || c == ';')

/-- The depth after a lexeme. -/
def Depth.after (depth : Depth) (l : Lexeme) : Depth :=
  if l.isCode isOpener then depth.indent
  else if l.isCode isCloser then depth.dedent
  else depth

/-- The depth after a sequence of lexemes, the latest first. -/
def depthAfter : List Lexeme → Depth
  | [] => {}
  | l :: before => (depthAfter before).after l

/-- The depth of a line that starts with `next`. A closing bracket stands one level back itself. -/
def lineDepth (before : List Lexeme) (next : Lexeme) : Depth :=
  if next.isCode isCloser then (depthAfter before).dedent else depthAfter before

/-- What a new line puts before its first lexeme; nothing at the start of the text. -/
def lineStart (unit : Text) (before : List Lexeme) (depth : Depth) : Text :=
  if before.isEmpty then [] else '\n' :: depth.margin unit

/-- The blanks of a layout before the lexeme `next`, where `before` are the lexemes before it, the
latest first, and `gap` are the blanks that stood there. -/
def gapBefore (unit : Text) (before : List Lexeme) (gap : Text) (next : Lexeme) : Text :=
  match before with
  | [] => []
  | last :: _ =>
    if next.isCode isTrailing && inCloserGroup before then []
    else if endsLine before || next.isCode isCloser || gap.any isLineBreak then
      '\n' :: (lineDepth before next).margin unit
    else if next.isCode isOpener then
      if last.isCode (· == '(') || (next.isCode (· == '[') && gap.isEmpty) then [] else [' ']
    else gap

/-- The pieces with the blanks of a layout. -/
def respace (unit : Text) (before : List Lexeme) : List Piece → List Piece
  | [] => []
  | p :: ps =>
    ⟨gapBefore unit before p.gap p.lexeme, p.lexeme⟩ :: respace unit (p.lexeme :: before) ps

theorem respace_lexeme (unit : Text) (before : List Lexeme) (ps : List Piece) :
    (respace unit before ps).map Piece.lexeme = ps.map Piece.lexeme := by
  induction ps generalizing before with
  | nil => rfl
  | cons p ps ih => rw [respace, List.map_cons, List.map_cons, ih]

/-! ### Kinds of punctuation -/

section Kinds

variable {c : Char}

theorem isOpener_iff : isOpener c = true ↔ c = '{' ∨ c = '[' := by
  rw [isOpener, Bool.or_eq_true, beq_iff_eq, beq_iff_eq]

theorem isCloser_iff : isCloser c = true ↔ c = '}' ∨ c = ']' := by
  rw [isCloser, Bool.or_eq_true, beq_iff_eq, beq_iff_eq]

theorem isTrailing_iff : isTrailing c = true ↔ (c = ';' ∨ c = ',') ∨ c = ')' := by
  rw [isTrailing, Bool.or_eq_true, Bool.or_eq_true, beq_iff_eq, beq_iff_eq, beq_iff_eq]

theorem isCloser_of_isOpener (h : isOpener c = true) : isCloser c = false := by
  rcases isOpener_iff.mp h with rfl | rfl <;> rfl

theorem isTrailing_of_isOpener (h : isOpener c = true) : isTrailing c = false := by
  rcases isOpener_iff.mp h with rfl | rfl <;> rfl

theorem isOpener_of_isCloser (h : isCloser c = true) : isOpener c = false := by
  rcases isCloser_iff.mp h with rfl | rfl <;> rfl

theorem isTrailing_of_isCloser (h : isCloser c = true) : isTrailing c = false := by
  rcases isCloser_iff.mp h with rfl | rfl <;> rfl

theorem isOpener_of_isTrailing (h : isTrailing c = true) : isOpener c = false := by
  rcases isTrailing_iff.mp h with (rfl | rfl) | rfl <;> rfl

theorem isCloser_of_isTrailing (h : isTrailing c = true) : isCloser c = false := by
  rcases isTrailing_iff.mp h with (rfl | rfl) | rfl <;> rfl

theorem isOpener_of_isBlank (h : isBlank c = true) : isOpener c = false := by
  by_contra hopener
  rw [Bool.not_eq_false, isOpener_iff] at hopener
  rcases hopener with rfl | rfl <;> exact absurd h (by decide)

theorem isCloser_of_isBlank (h : isBlank c = true) : isCloser c = false := by
  by_contra hcloser
  rw [Bool.not_eq_false, isCloser_iff] at hcloser
  rcases hcloser with rfl | rfl <;> exact absurd h (by decide)

end Kinds

theorem depthAfter_of_plain (l : Lexeme) (hopener : l.isCode isOpener = false)
    (hcloser : l.isCode isCloser = false) (before : List Lexeme) :
    depthAfter (l :: before) = depthAfter before := by
  rw [depthAfter, Depth.after, hopener, hcloser, if_neg Bool.false_ne_true,
    if_neg Bool.false_ne_true]

theorem depthAfter_opener {c : Char} (h : isOpener c = true) (before : List Lexeme) :
    depthAfter (code c :: before) = (depthAfter before).indent := by
  rw [depthAfter, Depth.after, isCode, h, if_pos rfl]

theorem depthAfter_closer {c : Char} (h : isCloser c = true) (before : List Lexeme) :
    depthAfter (code c :: before) = (depthAfter before).dedent := by
  rw [depthAfter, Depth.after, isCode, isCode, isOpener_of_isCloser h, h,
    if_neg Bool.false_ne_true, if_pos rfl]

theorem inCloserGroup_cons (l : Lexeme) (before : List Lexeme) :
    inCloserGroup (l :: before)
      = (l.isCode isCloser || (l.isCode isTrailing && inCloserGroup before)) := by
  cases l <;> rfl

/-! ### The rule case by case -/

section Rule

variable {unit gap : Text} {before : List Lexeme} {last next : Lexeme}

theorem gapBefore_trailing (h : (next.isCode isTrailing && inCloserGroup before) = true) :
    gapBefore unit before gap next = [] := by
  cases before with
  | nil => rfl
  | cons last before => rw [gapBefore, if_pos h]

theorem gapBefore_break (htrailing : (next.isCode isTrailing && inCloserGroup before) = false)
    (hbreak : before ≠ [] →
      (endsLine before || next.isCode isCloser || gap.any isLineBreak) = true) :
    gapBefore unit before gap next = lineStart unit before (lineDepth before next) := by
  cases before with
  | nil => rfl
  | cons last before =>
    rw [gapBefore, htrailing, if_neg Bool.false_ne_true, if_pos (hbreak (List.cons_ne_nil _ _))]
    rfl

theorem gapBefore_ended (hcloser : next.isCode isCloser = false)
    (htrailing : (next.isCode isTrailing && inCloserGroup before) = false)
    (hended : before ≠ [] → (endsLine before || gap.any isLineBreak) = true) :
    gapBefore unit before gap next = lineStart unit before (lineDepth before next) := by
  refine gapBefore_break htrailing fun hstarted => ?_
  rw [hcloser, Bool.or_false]
  exact hended hstarted

/-- Nothing ends the line between `last` and `next`. -/
structure SameLine (before : List Lexeme) (gap : Text) (next : Lexeme) : Prop where
  goesOn : endsLine before = false
  not_closer : next.isCode isCloser = false
  unbroken : gap.any isLineBreak = false

theorem SameLine.apart (h : SameLine before gap next) : inCloserGroup before = false :=
  (Bool.or_eq_false_iff.mp h.goesOn).1

theorem gapBefore_opener (hline : SameLine (last :: before) gap next)
    (hopener : next.isCode isOpener = true) :
    gapBefore unit (last :: before) gap next
      = if last.isCode (· == '(') || (next.isCode (· == '[') && gap.isEmpty) then []
        else [' '] := by
  simp only [gapBefore, hline.apart, hline.goesOn, hline.not_closer, hline.unbroken, hopener,
    Bool.and_false, Bool.or_false, Bool.false_eq_true, if_false, if_true]

theorem gapBefore_keep (hline : SameLine (last :: before) gap next)
    (hopener : next.isCode isOpener = false) :
    gapBefore unit (last :: before) gap next = gap := by
  simp only [gapBefore, hline.apart, hline.goesOn, hline.not_closer, hline.unbroken, hopener,
    Bool.and_false, Bool.or_false, Bool.false_eq_true, if_false]

end Rule

end SourceText.Layout
