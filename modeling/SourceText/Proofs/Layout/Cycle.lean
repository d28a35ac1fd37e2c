import SourceText.Proofs.Compact.Spread
import SourceText.Proofs.Layout.Rescan

/-!
# Collapsing a layout and laying it out again

Collapsing turns the line breaks and indentation of a layout into single spaces. The rule for the
blanks of a layout takes these spaces for what they were (`gapBefore_space`), so a collapsed text
that has been laid out once comes back to the same layout (`reformat_collapse_reformat_collapse`).
-/

namespace SourceText.Layout
open Lexeme SourceText.Compact

/-- Between two lexemes a collapsed text has nothing or one space. What the rule makes of that, it
makes again of what collapsing leaves of it. -/
theorem gapBefore_space (unit : Text) (before : List Lexeme) (next : Lexeme) (spaced : Bool) :
    let gap := gapBefore unit before (if spaced then [' '] else []) next
    gapBefore unit before (if !before.isEmpty && !gap.isEmpty then [' '] else []) next = gap := by
  intro gap
  cases before with
  | nil => rfl
  | cons x before =>
    rw [List.isEmpty_cons, Bool.not_false, Bool.true_and]
    -- Blanks on one line are left as they are, so the rule is followed twice.
    have hsame : gap = [] ∨ gap = [' '] →
        gapBefore unit (x :: before) (if !gap.isEmpty then [' '] else []) next = gap := by
      intro hgap
      have hleft : (if !gap.isEmpty then [' '] else []) = gap := by
        rcases hgap with hgap | hgap <;> rw [hgap] <;> rfl
      rw [hleft]
      exact gapBefore_gapBefore unit (x :: before) _ next
    have hunbroken : (if spaced then [' '] else []).any isLineBreak = false := by
      cases spaced <;> rfl
    rcases gapBefore_cases unit (if spaced then [' '] else []) x before next with
      ⟨-, hgap⟩ | ⟨htrailing, hbreak, hgap⟩ | ⟨-, -, hgap⟩ | ⟨-, -, hgap⟩
    · exact hsame (.inl hgap)
    · rw [hunbroken, Bool.or_false] at hbreak
      refine (gapBefore_break htrailing fun _ => ?_).trans hgap.symm
      rw [hbreak, Bool.true_or]
    · rw [show gap = _ from hgap] at hsame ⊢
      exact hsame (ite_eq_or_eq _ [] [' '])
    · rw [show gap = _ from hgap] at hsame ⊢
      exact hsame (ite_eq_or_eq _ [' '] []).symm

theorem respace_squeeze (unit : Text) (ps : List Piece) (before : List Lexeme) (comment : Bool) :
    respace unit before
        (squeeze (!before.isEmpty) false
          (respace unit before (squeeze (!before.isEmpty) comment ps)))
      = respace unit before (squeeze (!before.isEmpty) comment ps) := by
  induction ps generalizing before comment with
  | nil => rfl
  | cons p ps ih =>
    by_cases hcomment : p.lexeme.region = .comment
    · rw [squeeze_comment hcomment]
      exact ih before true
    · have hmore := ih (p.lexeme :: before) false
      rw [List.isEmpty_cons, Bool.not_false] at hmore
      rw [squeeze_kept hcomment, respace, squeeze, if_neg hcomment, respace, hmore, Bool.false_or,
        gapBefore_space]

/-- Whatever blanks indent a level, a collapsed text that is laid out keeps its layout when it is
collapsed and laid out again. -/
theorem reformat_collapseCode_reformat {unit : Text} (hunit : unit.isAllBlank = true)
    (text : Text) :
    reformat unit (collapseCode (reformat unit (collapseCode text)))
      = reformat unit (collapseCode text) := by
  rw [reformat_respace unit (collapseCode (reformat unit (collapseCode text))),
    pieces_collapseCode, pieces_reformat hunit, pieces_collapseCode,
    reformat_respace unit (collapseCode text), pieces_collapseCode]
  exact congrArg _ (respace_squeeze unit (pieces text) [] false)

/-- With the default indentation, collapsing and laying out is done in one round. -/
theorem reformat_collapse_reformat_collapse (text : Text) :
    reformat defaultUnit (collapseCode (reformat defaultUnit (collapseCode text)))
      = reformat defaultUnit (collapseCode text) :=
  reformat_collapseCode_reformat (by decide) text

end SourceText.Layout
