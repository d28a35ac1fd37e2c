import Mathlib.Data.List.Basic
import SourceText.Proofs.Scan.Step

/-!
# Comments that are masked by spaces

A text in which every character of a comment has been replaced by a space is scanned as it was
before, with its comments read as code: each position keeps the context and the region that it has
when comments are tracked, and it makes no difference whether they still are
(`marks_maskComments`, `regions_maskComments`). So quotes and backslashes in comments have no effect
on what follows, and no comment appears when others go.
-/

namespace SourceText

/-- The region when comments are read as code. -/
def Region.uncommented : Region → Region
  | comment => code
  | region => region

/-- The context when comments are read as code. -/
def Context.uncommented : Context → Context
  | lineComment => code
  | blockComment _ => code
  | context => context

/-- A character, or a space in its place if it belongs to a comment. -/
def maskedChar (c : Char) (region : Region) : Char := if region = .comment then ' ' else c

/-- The text with a space in the place of every character of a comment. -/
def maskComments (text : Text) : Text :=
  (scan true text).map fun (c, region) => maskedChar c region

namespace Scan

/-- The character of a mark when comments are masked. -/
def Mark.masked (mark : Mark) : Char := maskedChar mark.char mark.region

/-- A mark when comments are masked and read as code. -/
def Mark.uncommented (mark : Mark) : Mark :=
  ⟨mark.masked, mark.region.uncommented, ⟨mark.cursor.position, mark.cursor.context.uncommented⟩⟩

/-! ### One character -/

theorem codeStep_space (track : Bool) (position : Nat) (next? : Option Char) :
    codeStep track position ' ' next? = (.code, .code) :=
  codeStep_of_ne_slash track position next? rfl (by decide)

theorem uncommented_literalStep (quote : Char) (template escaped : Bool) (c : Char) :
    (literalStep quote template escaped c).uncommented = literalStep quote template escaped c := by
  unfold literalStep
  split_ifs <;> rfl

/-- One character of a masked text is read as it was before. Nothing that follows a slash of code
becomes a slash or an asterisk by masking, so the slash opens no comment that it did not open. -/
theorem step_masked (track : Bool) {position : Nat} {previous? : Option Char}
    (previous'? : Option Char) {context after : Context} {c : Char} {next? next'? : Option Char}
    {region : Region} (hstep : step true position previous? context c next? = (after, region))
    (hnext : next'? = next? ∨ next'? = some ' ') :
    step track position previous'? context.uncommented (maskedChar c region) next'?
      = (after.uncommented, region.uncommented) := by
  cases context with
  | literal quote template escaped =>
    obtain ⟨rfl, rfl⟩ := Prod.mk.inj hstep
    rw [uncommented_literalStep]
    rfl
  | lineComment =>
    simp only [step] at hstep
    split at hstep
    · next hbreak =>
      -- The line break that ends a comment is code, and stays when the comment is masked.
      obtain ⟨rfl, rfl⟩ := Prod.mk.inj hstep
      exact codeStep_lineBreak track position next'? hbreak
    · obtain ⟨rfl, rfl⟩ := Prod.mk.inj hstep
      exact codeStep_space track position next'?
  | blockComment start =>
    simp only [step] at hstep
    split at hstep
    · obtain ⟨rfl, rfl⟩ := Prod.mk.inj hstep
      exact codeStep_space track position next'?
    · obtain ⟨rfl, rfl⟩ := Prod.mk.inj hstep
      exact codeStep_space track position next'?
  | code =>
    by_cases hopens : c = '/' ∧ (next? = some '/' ∨ next? = some '*')
    · -- The slash belongs to the comment that it opens, so it is masked too.
      obtain ⟨rfl, rfl | rfl⟩ := hopens
      · obtain ⟨rfl, rfl⟩ := Prod.mk.inj hstep
        exact codeStep_space track position next'?
      · obtain ⟨rfl, rfl⟩ := Prod.mk.inj hstep
        exact codeStep_space track position next'?
    · cases hquote : isQuote c with
      | true =>
        obtain ⟨rfl, rfl⟩ :=
          Prod.mk.inj ((codeStep_quote true position next? hquote).symm.trans hstep)
        exact codeStep_quote track position next'? hquote
      | false =>
        have hplain : c = '/' → next? ≠ some '/' ∧ next? ≠ some '*' := fun hslash =>
          ⟨fun h => hopens ⟨hslash, .inl h⟩, fun h => hopens ⟨hslash, .inr h⟩⟩
        have hplain' : c = '/' → next'? ≠ some '/' ∧ next'? ≠ some '*' := by
          intro hslash
          rcases hnext with rfl | rfl
          · exact hplain hslash
          · decide
        obtain ⟨rfl, rfl⟩ :=
          Prod.mk.inj ((codeStep_plain position hquote fun _ => hplain).symm.trans hstep)
        exact codeStep_plain position hquote fun _ => hplain'

/-! ### All characters -/

theorem head?_masked (track : Bool) (previous? : Option Char) (cursor : Cursor) (text : Text) :
    ((marksFrom track previous? cursor text).map Mark.masked).head? = text.head? ∨
      ((marksFrom track previous? cursor text).map Mark.masked).head? = some ' ' := by
  cases text with
  | nil => exact .inl rfl
  | cons c rest =>
    simp only [marksFrom, List.map_cons, List.head?_cons, Mark.masked, maskedChar]
    split
    · exact .inr rfl
    · exact .inl rfl

/-- The scan of the masked text follows the tracked scan of the text: at every place its context is
that of the other with comments read as code. -/
theorem marksFrom_masked (track : Bool) (previous? previous'? : Option Char) (position : Nat)
    (context : Context) (text : Text) :
    marksFrom track previous'? ⟨position, context.uncommented⟩
        ((marksFrom true previous? ⟨position, context⟩ text).map Mark.masked)
      = (marksFrom true previous? ⟨position, context⟩ text).map Mark.uncommented := by
  -- The character before differs in the two scans once a comment has been masked; no step looks at
  -- it outside a block comment, and the masked text has none.
  induction text generalizing previous? previous'? position context with
  | nil => rfl
  | cons c rest ih =>
    obtain ⟨after, region, hfound⟩ :
        ∃ after region, step true position previous? context c rest.head? = (after, region) :=
      ⟨_, _, rfl⟩
    have hstep := step_masked track previous'? hfound
      (head?_masked true (some c) ⟨position + 1, after⟩ rest)
    simp only [marksFrom, hfound, List.map_cons, Mark.masked, hstep, ih, Mark.uncommented]

end Scan

theorem maskComments_eq (text : Text) :
    maskComments text = (Scan.marks true text).map Scan.Mark.masked := by
  rw [maskComments, scan, List.map_map]
  rfl

/-- A masked text is scanned as the text with its comments read as code, whether or not comments are
tracked. -/
theorem marks_maskComments (track : Bool) (text : Text) :
    Scan.marks track (maskComments text) = (Scan.marks true text).map Scan.Mark.uncommented := by
  rw [maskComments_eq]
  exact Scan.marksFrom_masked track none none 0 .code text

theorem regions_maskComments_eq (track : Bool) (text : Text) :
    regions track (maskComments text) = (regions true text).map Region.uncommented := by
  rw [regions, scan, marks_maskComments, regions, scan]
  simp only [List.map_map]
  rfl

theorem uncommented_ne_comment (region : Region) : region.uncommented ≠ .comment := by
  cases region <;> decide

/-- In both modes every position of a masked text has the region that it had with comments tracked,
and none is in a comment. -/
theorem regions_maskComments (text : Text) :
    (maskComments text).length = text.length ∧
      regions false (maskComments text) = (regions true text).map Region.uncommented ∧
      regions true (maskComments text) = (regions true text).map Region.uncommented ∧
      Region.comment ∉ regions true (maskComments text) := by
  refine ⟨?_, regions_maskComments_eq false text, regions_maskComments_eq true text, ?_⟩
  · rw [maskComments, List.length_map, length_scan]
  · rw [regions_maskComments_eq true text]
    intro hmem
    obtain ⟨region, -, hregion⟩ := List.mem_map.mp hmem
    exact uncommented_ne_comment region hregion

/-- The quote in the comment is gone, and the slashes around it do not meet. -/
example : maskComments "//*'*/\n/ '//'".toList = "      \n/ '//'".toList ∧
    maskComments "a/**//b".toList = "a    /b".toList := by decide

end SourceText
