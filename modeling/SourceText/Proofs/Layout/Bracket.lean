import SourceText.Proofs.Layout.Gap
import SourceText.Proofs.Scan.Line

/-!
# Brackets of scanned text

Brackets of code nest; those in literals and comments do not count. The depth behind a text goes up
with every opening bracket and down with every closing one, but never below zero, so that closing
brackets without an opening one do not count either. Kinds of brackets are not told apart.
-/

namespace SourceText.Layout
open Lexeme

/-- Whether a scanned character is an opening bracket of code. -/
def isOpening (mark : Char × Region) : Bool := isCodeMark isOpener mark

/-- Whether a scanned character is a closing bracket of code. -/
def isClosing (mark : Char × Region) : Bool := isCodeMark isCloser mark

/-- The depth behind one more character. -/
def depthStep (depth : Nat) (mark : Char × Region) : Nat :=
  if isOpening mark then depth + 1
  else if isClosing mark then depth - 1
  else depth

/-- The depth behind scanned characters. -/
def bracketDepth (marks : List (Char × Region)) : Nat := marks.foldl depthStep 0

/-- Scanned characters in which every bracket has its partner. -/
inductive Balanced : List (Char × Region) → Prop where
  | nil : Balanced []
  | plain {mark : Char × Region} {marks : List (Char × Region)} :
    isOpening mark = false → isClosing mark = false → Balanced marks → Balanced (mark :: marks)
  | pair {opening closing : Char × Region} {inside after : List (Char × Region)} :
    isOpening opening = true → isClosing closing = true → Balanced inside → Balanced after →
      Balanced (opening :: (inside ++ closing :: after))

/-- `opening`, with `earlier` before it, is the partner of a closing bracket with `passed` before
it. -/
def Opens (earlier : List (Char × Region)) (opening : Char × Region)
    (passed : List (Char × Region)) : Prop :=
  isOpening opening = true ∧ ∃ inside, Balanced inside ∧ passed = earlier ++ opening :: inside

/-! ### Depth -/

theorem isOpening_of_isClosing {mark : Char × Region} (h : isClosing mark = true) :
    isOpening mark = false := by
  rw [isClosing, isCodeMark, Bool.and_eq_true] at h
  rw [isOpening, isCodeMark, isOpener_of_isCloser h.2, Bool.and_false]

theorem depthStep_opening {mark : Char × Region} (h : isOpening mark = true) (depth : Nat) :
    depthStep depth mark = depth + 1 := by
  rw [depthStep, if_pos h]

theorem depthStep_closing {mark : Char × Region} (h : isClosing mark = true) (depth : Nat) :
    depthStep depth mark = depth - 1 := by
  rw [depthStep, isOpening_of_isClosing h, if_neg Bool.false_ne_true, if_pos h]

theorem depthStep_plain {mark : Char × Region} (hopening : isOpening mark = false)
    (hclosing : isClosing mark = false) (depth : Nat) : depthStep depth mark = depth := by
  rw [depthStep, hopening, hclosing, if_neg Bool.false_ne_true, if_neg Bool.false_ne_true]

theorem foldl_depthStep_plain {marks : List (Char × Region)}
    (h : ∀ mark ∈ marks, isOpening mark = false ∧ isClosing mark = false) (depth : Nat) :
    marks.foldl depthStep depth = depth := by
  induction marks with
  | nil => rfl
  | cons mark marks ih =>
    obtain ⟨hopening, hclosing⟩ := h mark (List.mem_cons_self ..)
    rw [List.foldl_cons, depthStep_plain hopening hclosing]
    exact ih fun m hm => h m (List.mem_cons_of_mem mark hm)

theorem bracketDepth_append (a b : List (Char × Region)) :
    bracketDepth (a ++ b) = b.foldl depthStep (bracketDepth a) := by
  rw [bracketDepth, List.foldl_append, bracketDepth]

theorem bracketDepth_append_plain (a : List (Char × Region)) {b : List (Char × Region)}
    (hb : ∀ mark ∈ b, isOpening mark = false ∧ isClosing mark = false) :
    bracketDepth (a ++ b) = bracketDepth a := by
  rw [bracketDepth_append, foldl_depthStep_plain hb]

/-! ### Partners -/

/-- Behind brackets that all have their partners the depth is what it was before them. -/
theorem Balanced.foldl_depthStep {marks : List (Char × Region)} (h : Balanced marks)
    (depth : Nat) : marks.foldl depthStep depth = depth := by
  induction h generalizing depth with
  | nil => rfl
  | plain hopening hclosing _ ih => rw [List.foldl_cons, depthStep_plain hopening hclosing, ih]
  | pair hopening hclosing _ _ ihinside ihafter =>
    rw [List.foldl_cons, depthStep_opening hopening, List.foldl_append, ihinside, List.foldl_cons,
      depthStep_closing hclosing, Nat.add_sub_cancel, ihafter]

theorem Balanced.append {a b : List (Char × Region)} (ha : Balanced a) (hb : Balanced b) :
    Balanced (a ++ b) := by
  induction ha with
  | nil => exact hb
  | plain hopening hclosing _ ih => exact .plain hopening hclosing ih
  | pair hopening hclosing hinside _ _ ihafter =>
    rw [List.cons_append, List.append_assoc, List.cons_append]
    exact .pair hopening hclosing hinside ihafter

theorem Opens.bracketDepth {earlier passed : List (Char × Region)} {opening : Char × Region}
    (h : Opens earlier opening passed) : bracketDepth passed = bracketDepth earlier + 1 := by
  obtain ⟨hopening, inside, hinside, rfl⟩ := h
  rw [bracketDepth_append, List.foldl_cons, depthStep_opening hopening, hinside.foldl_depthStep]

/-- Where the depth is not zero, a closing bracket has a partner. -/
theorem exists_opens {passed : List (Char × Region)} (h : bracketDepth passed ≠ 0) :
    ∃ earlier opening, Opens earlier opening passed := by
  induction hlength : passed.length using Nat.strong_induction_on generalizing passed with
  | _ length ih =>
    rcases List.eq_nil_or_concat passed with rfl | ⟨start, mark, rfl⟩
    · exact absurd rfl h
    · rw [List.concat_eq_append] at h hlength ⊢
      have hshort : start.length < length := by
        rw [← hlength, List.length_append, List.length_singleton]
        omega
      rw [bracketDepth_append, List.foldl_cons, List.foldl_nil] at h
      cases hopening : isOpening mark with
      | true => exact ⟨start, mark, hopening, [], .nil, rfl⟩
      | false =>
        cases hclosing : isClosing mark with
        | false =>
          rw [depthStep_plain hopening hclosing] at h
          obtain ⟨earlier, opening, hopens, inside, hinside, rfl⟩ := ih _ hshort h rfl
          refine ⟨earlier, opening, hopens, inside ++ [mark], ?_, ?_⟩
          · exact hinside.append (.plain hopening hclosing .nil)
          · rw [List.append_assoc, List.cons_append]
        | true =>
          -- The bracket has a partner of its own, before which the depth is not zero either.
          rw [depthStep_closing hclosing] at h
          obtain ⟨earlier, opening, hopens⟩ := ih _ hshort (by omega) rfl
          have hdepth := hopens.bracketDepth
          obtain ⟨hopening', inside, hinside, rfl⟩ := hopens
          have hshorter : earlier.length < length := by
            rw [List.length_append] at hshort
            omega
          obtain ⟨first, partner, hpartner, between, hbetween, rfl⟩ :=
            ih _ hshorter (by omega) rfl
          refine ⟨first, partner, hpartner, between ++ opening :: (inside ++ [mark]), ?_, ?_⟩
          · exact hbetween.append (.pair hopening' hclosing hinside .nil)
          · simp only [List.append_assoc, List.cons_append]

/-! ### Brackets of a lexeme -/

section Marked

variable {l : Lexeme} {blanks : Text}

theorem isCode_closer_of_opener (h : l.isCode isOpener = true) : l.isCode isCloser = false := by
  cases l with
  | code c => exact isCloser_of_isOpener h
  | literal quote inside closed => rfl
  | lineComment inside => rfl
  | blockComment inside closed => rfl

theorem isOpening_dropLast_marked (l : Lexeme) :
    ∀ mark ∈ l.marked.dropLast, isOpening mark = false := by
  intro mark hmark
  cases hopener : l.isCode isOpener with
  | true =>
    obtain ⟨c, hmarked, -⟩ := marked_of_isCode hopener
    rw [hmarked] at hmark
    exact absurd hmark List.not_mem_nil
  | false => exact (isCodeMark_marked (List.dropLast_subset _ hmark) isOpener).trans hopener

theorem isClosing_tail_marked (l : Lexeme) : ∀ mark ∈ l.marked.tail, isClosing mark = false := by
  intro mark hmark
  cases hcloser : l.isCode isCloser with
  | true =>
    obtain ⟨c, hmarked, -⟩ := marked_of_isCode hcloser
    rw [hmarked] at hmark
    exact absurd hmark List.not_mem_nil
  | false => exact (isCodeMark_marked (List.mem_of_mem_tail hmark) isCloser).trans hcloser

theorem not_bracket_of_isBlank {mark : Char × Region} (h : isBlank mark.1 = true) :
    isOpening mark = false ∧ isClosing mark = false := by
  constructor
  · rw [isOpening, isCodeMark, isOpener_of_isBlank h, Bool.and_false]
  · rw [isClosing, isCodeMark, isCloser_of_isBlank h, Bool.and_false]

theorem not_bracket_blankMarks (h : blanks.isAllBlank = true) :
    ∀ mark ∈ blankMarks blanks, isOpening mark = false ∧ isClosing mark = false :=
  fun mark hmark => not_bracket_of_isBlank (isBlank_blankMarks h mark hmark)

theorem level_nonneg (before : List Lexeme) : 0 ≤ (depthAfter before).level := by
  induction before with
  | nil => decide
  | cons l before ih =>
    rw [depthAfter, Depth.after]
    cases l.isCode isOpener with
    | true =>
      rw [if_pos rfl, Depth.indent]
      show 0 ≤ (depthAfter before).level + 1
      omega
    | false =>
      rw [if_neg Bool.false_ne_true]
      cases l.isCode isCloser with
      | true =>
        rw [if_pos rfl, Depth.dedent]
        show 0 ≤ max 0 ((depthAfter before).level - 1)
        omega
      | false =>
        rw [if_neg Bool.false_ne_true]
        exact ih

/-- The depth of brackets goes with the depth of the layout from one lexeme to the next. -/
theorem foldl_depthStep_marked (l : Lexeme) {depth : Depth} (h : 0 ≤ depth.level) :
    l.marked.foldl depthStep depth.level.toNat = (depth.after l).level.toNat := by
  rw [Depth.after]
  cases hopener : l.isCode isOpener with
  | true =>
    obtain ⟨c, hmarked, hc⟩ := marked_of_isCode hopener
    have hopening : isOpening (c, .code) = true := hc
    rw [hmarked, List.foldl_cons, List.foldl_nil, depthStep_opening hopening, if_pos rfl,
      Depth.indent]
    show depth.level.toNat + 1 = (depth.level + 1).toNat
    omega
  | false =>
    rw [if_neg Bool.false_ne_true]
    cases hcloser : l.isCode isCloser with
    | true =>
      obtain ⟨c, hmarked, hc⟩ := marked_of_isCode hcloser
      have hclosing : isClosing (c, .code) = true := hc
      rw [hmarked, List.foldl_cons, List.foldl_nil, depthStep_closing hclosing, if_pos rfl,
        Depth.dedent]
      show depth.level.toNat - 1 = (max 0 (depth.level - 1)).toNat
      omega
    | false =>
      rw [if_neg Bool.false_ne_true]
      refine foldl_depthStep_plain (fun mark hmark => ?_) _
      exact ⟨(isCodeMark_marked hmark isOpener).trans hopener,
        (isCodeMark_marked hmark isCloser).trans hcloser⟩

end Marked

end SourceText.Layout
