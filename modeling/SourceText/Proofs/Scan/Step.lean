import SourceText.Scan

/-!
# One character of code

A character of code opens a literal when it is a quote. A slash opens a comment together with
another slash or an asterisk. Every other character leaves the scan in code.
-/

namespace SourceText.Scan

/-- A character and the next one that do not open a comment. -/
theorem opens_eq_false {track : Bool} {c second : Char} {next? : Option Char}
    (h : track = true → c = '/' → next? ≠ some second) :
    (track && c == '/' && next? == some second) = false := by
  refine Bool.eq_false_iff.mpr fun hopens => ?_
  simp only [Bool.and_eq_true, beq_iff_eq] at hopens
  exact h hopens.1.1 hopens.1.2 hopens.2

theorem codeStep_plain {track : Bool} (position : Nat) {c : Char} {next? : Option Char}
    (hquote : isQuote c = false)
    (hnext : track = true → c = '/' → next? ≠ some '/' ∧ next? ≠ some '*') :
    codeStep track position c next? = (.code, .code) := by
  have hline := opens_eq_false fun htrack hslash => (hnext htrack hslash).1
  have hblock := opens_eq_false fun htrack hslash => (hnext htrack hslash).2
  simp only [codeStep, hline, hblock, hquote, Bool.false_eq_true, if_false]

theorem codeStep_of_ne_slash (track : Bool) (position : Nat) {c : Char} (next? : Option Char)
    (hquote : isQuote c = false) (hslash : c ≠ '/') :
    codeStep track position c next? = (.code, .code) :=
  codeStep_plain position hquote fun _ h => absurd h hslash

theorem codeStep_lineBreak (track : Bool) (position : Nat) {c : Char} (next? : Option Char)
    (hbreak : isLineBreak c = true) : codeStep track position c next? = (.code, .code) := by
  have hfeed : c = '\n' ∨ c = '\r' := by simpa [isLineBreak] using hbreak
  rcases hfeed with rfl | rfl
  · exact codeStep_of_ne_slash track position next? rfl (by decide)
  · exact codeStep_of_ne_slash track position next? rfl (by decide)

theorem codeStep_quote (track : Bool) (position : Nat) {c : Char} (next? : Option Char)
    (hquote : isQuote c = true) :
    codeStep track position c next? = (.literal c (isTemplateQuote c) false, .literal) := by
  have hslash : c ≠ '/' := by
    rintro rfl
    exact absurd hquote (by decide)
  have hopens : ∀ second, (track && c == '/' && next? == some second) = false :=
    fun _ => opens_eq_false fun _ h => absurd h hslash
  simp only [codeStep, hopens, hquote, Bool.false_eq_true, if_false, if_true]

end SourceText.Scan
