import SourceText.Compact.Collapse
import SourceText.Proofs.Scan.Piece

/-!
# Pieces without comments

Collapsing leaves out the comments of a text and puts one space wherever blanks or comments stood
between two of the other pieces. Nothing that is left changes by this: no two pieces are read as a
comment, since two that touch did so before (`apart_squeeze`). Once it is done, doing it again
changes nothing (`squeeze_squeeze`).
-/

namespace SourceText.Compact
open Lexeme

/-- The pieces that are no comments, each with one space before it if anything stood between it and
the one before. `started` tells whether there is one before, `gap` whether a comment has come
since. -/
def squeeze (started gap : Bool) : List Piece → List Piece
  | [] => []
  | p :: ps =>
    if p.lexeme.region = .comment then squeeze started true ps
    else
      ⟨if started && (gap || !p.gap.isEmpty) then [' '] else [], p.lexeme⟩ ::
        squeeze true false ps

theorem squeeze_comment {p : Piece} (h : p.lexeme.region = .comment) (started gap : Bool)
    (ps : List Piece) : squeeze started gap (p :: ps) = squeeze started true ps := by
  rw [squeeze, if_pos h]

theorem squeeze_kept {p : Piece} (h : p.lexeme.region ≠ .comment) (started gap : Bool)
    (ps : List Piece) :
    squeeze started gap (p :: ps)
      = ⟨if started && (gap || !p.gap.isEmpty) then [' '] else [], p.lexeme⟩ ::
          squeeze true false ps := by
  rw [squeeze, if_neg h]

/-! ### Squeezed pieces are pieces of a text -/

theorem isAllBlank_space (spaced : Bool) :
    Text.isAllBlank (if spaced then [' '] else []) = true := by
  cases spaced <;> rfl

theorem tidy_squeeze {ps : List Piece} (hps : ∀ p ∈ ps, p.Tidy) (started gap : Bool) :
    ∀ p ∈ squeeze started gap ps, p.Tidy := by
  induction ps generalizing started gap with
  | nil => simp [squeeze]
  | cons p ps ih =>
    have hp := hps p (List.mem_cons_self ..)
    have hmore : ∀ q ∈ ps, q.Tidy := fun q hq => hps q (List.mem_cons_of_mem p hq)
    by_cases hcomment : p.lexeme.region = .comment
    · rw [squeeze_comment hcomment]
      exact ih hmore started true
    · rw [squeeze_kept hcomment]
      intro q hq
      rcases List.mem_cons.mp hq with rfl | hq
      · exact ⟨isAllBlank_space _, hp.whole, hp.not_gap, hp.trimmed⟩
      · exact ih hmore true false q hq

/-- What is left ends before the next piece that is left. Two pieces between which nothing is put
touched before. -/
theorem endsBefore_squeeze {x : Lexeme} (hx : x.region ≠ .comment) {ps : List Piece}
    (hps : ∀ p ∈ ps, p.Tidy) (hopen : x.isOpen = true → ps = []) {gap : Bool}
    (hmeets : gap = false → ∀ p ∈ ps.head?, x.Meets p.gap p.lexeme) :
    x.EndsBefore true ((squeeze true gap ps).flatMap Piece.text) := by
  induction ps generalizing gap with
  | nil => exact endsBefore_nil x
  | cons p ps ih =>
    have hp := hps p (List.mem_cons_self ..)
    have hclosed : x.isOpen = false := by
      by_contra hn
      exact List.cons_ne_nil p ps (hopen (by simpa using hn))
    by_cases hcomment : p.lexeme.region = .comment
    · rw [squeeze_comment hcomment]
      refine ih (fun q hq => hps q (List.mem_cons_of_mem p hq)) ?_ ?_
      · intro h
        exact absurd (hclosed.symm.trans h) Bool.false_ne_true
      · intro h
        exact absurd h (by decide)
    · rw [squeeze_kept hcomment, List.flatMap_cons, Piece.text, List.append_assoc]
      refine endsBefore_blanks (isAllBlank_space _) hclosed hp.solid ?_ ?_ _
      · rintro rfl hnil
        cases hgap : gap || !p.gap.isEmpty with
        | true =>
          rw [hgap] at hnil
          exact absurd hnil (by decide)
        | false =>
          rw [Bool.or_eq_false_iff, Bool.not_eq_false'] at hgap
          exact hmeets hgap.1 p rfl rfl (List.isEmpty_iff.mp hgap.2)
      · rintro inside rfl
        exact absurd rfl hx

theorem apart_squeeze {ps : List Piece} (hps : ∀ p ∈ ps, p.Tidy) {before : List Lexeme}
    (hjoined : Joined before ps) (started gap : Bool) : Apart (squeeze started gap ps) := by
  induction ps generalizing before started gap with
  | nil => trivial
  | cons p ps ih =>
    have hmore : ∀ q ∈ ps, q.Tidy := fun q hq => hps q (List.mem_cons_of_mem p hq)
    obtain ⟨-, hnext⟩ := hjoined
    by_cases hcomment : p.lexeme.region = .comment
    · rw [squeeze_comment hcomment]
      exact ih hmore hnext started true
    · rw [squeeze_kept hcomment]
      have hmeets : ∀ q ∈ ps.head?, p.lexeme.Meets q.gap q.lexeme := by
        intro q hq
        cases ps with
        | nil => exact absurd hq (by simp)
        | cons r ps =>
          obtain rfl : r = q := Option.some.inj hq
          exact hnext.1 _ rfl
      have hopen : p.lexeme.isOpen = true → ps = [] := by
        intro hopen
        cases ps with
        | nil => rfl
        | cons q ps =>
          exact absurd ((hmeets q rfl).not_open.symm.trans hopen) Bool.false_ne_true
      exact ⟨endsBefore_squeeze hcomment hmore hopen fun _ => hmeets, ih hmore hnext true false⟩

/-! ### Squeezing again -/

theorem squeeze_squeeze (ps : List Piece) (started gap : Bool) :
    squeeze started false (squeeze started gap ps) = squeeze started gap ps := by
  induction ps generalizing started gap with
  | nil => rfl
  | cons p ps ih =>
    by_cases hcomment : p.lexeme.region = .comment
    · rw [squeeze_comment hcomment]
      exact ih started true
    · rw [squeeze_kept hcomment, squeeze, if_neg hcomment, ih true false]
      cases started with
      | false => rfl
      | true =>
        simp only [Bool.true_and]
        cases gap || !p.gap.isEmpty <;> rfl

end SourceText.Compact
