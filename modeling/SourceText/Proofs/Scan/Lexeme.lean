import Mathlib.Data.List.Basic
import SourceText.Proofs.Scan.Step

/-!
# Lexemes of source text

A scan looks at one character at a time. Here the same text is cut into whole lexemes from left to
right: literals, comments, and the single characters of code between them. No character is lost on
the way (`spelled_lexemes`).
-/

namespace SourceText

/-- A piece of source text that is read as a whole. -/
inductive Lexeme where
  /-- One character between literals and comments. -/
  | code (c : Char)
  /-- A literal with what stands between its quotes. One that is not closed has no second quote. -/
  | literal (quote : Char) (inside : Text) (closed : Bool)
  /-- Two slashes and the rest of the line. -/
  | lineComment (inside : Text)
  /-- A block comment with what stands between its ends. -/
  | blockComment (inside : Text) (closed : Bool)
  deriving DecidableEq, Repr

namespace Lexeme

/-- The characters of the lexeme. -/
def text : Lexeme → Text
  | code c => [c]
  | literal quote inside closed => quote :: (inside ++ if closed then [quote] else [])
  | lineComment inside => '/' :: '/' :: inside
  | blockComment inside closed => '/' :: '*' :: (inside ++ if closed then ['*', '/'] else [])

/-- The region of the characters of the lexeme. -/
def region : Lexeme → Region
  | code _ => .code
  | literal .. => .literal
  | lineComment _ => .comment
  | blockComment .. => .comment

/-- Whether the lexeme is a character of code with the property `p`. -/
def isCode (p : Char → Bool) : Lexeme → Bool
  | code c => p c
  | _ => false

/-- The characters of the lexeme with their region. -/
def marked (l : Lexeme) : List (Char × Region) := l.text.map fun c => (c, l.region)

/-- What stands between the opening quote of a literal and the quote that closes it, and the text
after that quote. A backslash takes the next character with it. Without a closing quote everything
stands inside. -/
def cutLiteral (quote : Char) : Text → Text × Option Text
  | [] => ([], none)
  | '\\' :: c :: rest =>
    let (inside, after?) := cutLiteral quote rest
    ('\\' :: c :: inside, after?)
  | c :: rest =>
    if c = quote then ([], some rest)
    else
      let (inside, after?) := cutLiteral quote rest
      (c :: inside, after?)

/-- What stands between the two characters that open a block comment and the first two that close
it, and the text after these. -/
def cutBlock : Text → Text × Option Text
  | [] => ([], none)
  | '*' :: '/' :: rest => ([], some rest)
  | c :: rest =>
    let (inside, after?) := cutBlock rest
    (c :: inside, after?)

/-- The first lexeme of `c :: rest` and the text after it. -/
def cutFirst (track : Bool) (c : Char) (rest : Text) : Lexeme × Text :=
  if track && c == '/' && rest.head? == some '/' then
    (.lineComment (rest.tail.takeWhile (!isLineBreak ·)), rest.tail.dropWhile (!isLineBreak ·))
  else if track && c == '/' && rest.head? == some '*' then
    let (inside, after?) := cutBlock rest.tail
    (.blockComment inside after?.isSome, after?.getD [])
  else if isQuote c then
    let (inside, after?) := cutLiteral c rest
    (.literal c inside after?.isSome, after?.getD [])
  else (.code c, rest)

end Lexeme

open Lexeme

/-! ### Nothing is lost -/

theorem cutLiteral_append (quote : Char) (rest : Text) :
    (cutLiteral quote rest).1 ++ ((cutLiteral quote rest).2.map (quote :: ·)).getD [] = rest := by
  fun_induction cutLiteral quote rest with
  | case1 => rfl
  | case2 c rest inside after? hcut ih =>
    rw [hcut] at ih
    simp only [List.cons_append, ih]
  | case3 rest => rfl
  | case4 c rest _ _ inside after? hcut ih =>
    rw [hcut] at ih
    simp only [List.cons_append, ih]

theorem cutBlock_append (rest : Text) :
    (cutBlock rest).1 ++ ((cutBlock rest).2.map ('*' :: '/' :: ·)).getD [] = rest := by
  fun_induction cutBlock rest with
  | case1 => rfl
  | case2 rest => rfl
  | case3 c rest _ inside after? hcut ih =>
    rw [hcut] at ih
    simp only [List.cons_append, ih]

/-- The second character is what tells a comment from code, so it is the head of the rest. -/
theorem eq_cons_tail {c : Char} {rest : Text} (h : rest.head? = some c) : rest = c :: rest.tail :=
  (List.eq_cons_of_mem_head? h)

theorem cutFirst_lineComment (rest : Text) :
    cutFirst true '/' ('/' :: rest)
      = (.lineComment (rest.takeWhile (!isLineBreak ·)), rest.dropWhile (!isLineBreak ·)) := rfl

theorem cutFirst_blockComment (rest : Text) :
    cutFirst true '/' ('*' :: rest)
      = (.blockComment (cutBlock rest).1 (cutBlock rest).2.isSome,
          (cutBlock rest).2.getD []) := rfl

theorem cutFirst_literal (track : Bool) {c : Char} (hquote : isQuote c = true) (rest : Text) :
    cutFirst track c rest
      = (.literal c (cutLiteral c rest).1 (cutLiteral c rest).2.isSome,
          (cutLiteral c rest).2.getD []) := by
  have hslash : c ≠ '/' := by
    rintro rfl
    exact absurd hquote (by decide)
  simp [cutFirst, hslash, hquote]

/-- A character is a lexeme of its own unless it opens a literal or a comment. -/
def StandsAlone (track : Bool) (c : Char) (rest : Text) : Prop :=
  isQuote c = false ∧
    (track = true → c = '/' → rest.head? ≠ some '/' ∧ rest.head? ≠ some '*')

theorem StandsAlone.no_comment {track : Bool} {c : Char} {rest : Text}
    (h : StandsAlone track c rest) {second : Char} (hsecond : second = '/' ∨ second = '*') :
    (track && c == '/' && rest.head? == some second) = false := by
  refine Scan.opens_eq_false fun htrack hc => ?_
  obtain ⟨hslash, hstar⟩ := h.2 htrack hc
  rcases hsecond with rfl | rfl
  · exact hslash
  · exact hstar

theorem cutFirst_code {track : Bool} {c : Char} {rest : Text} (h : StandsAlone track c rest) :
    cutFirst track c rest = (.code c, rest) := by
  simp only [cutFirst, h.no_comment (.inl rfl), h.no_comment (.inr rfl), h.1, Bool.false_eq_true,
    if_false]

/-- A first lexeme is read in one of four ways. -/
theorem cutFirst_cases (track : Bool) (c : Char) (rest : Text) :
    (∃ more, track = true ∧ c = '/' ∧ rest = '/' :: more) ∨
    (∃ more, track = true ∧ c = '/' ∧ rest = '*' :: more) ∨
    isQuote c = true ∨ StandsAlone track c rest := by
  cases hquote : isQuote c with
  | true => exact .inr (.inr (.inl rfl))
  | false =>
    by_cases hline : track = true ∧ c = '/' ∧ rest.head? = some '/'
    · exact .inl ⟨rest.tail, hline.1, hline.2.1, eq_cons_tail hline.2.2⟩
    · by_cases hblock : track = true ∧ c = '/' ∧ rest.head? = some '*'
      · exact .inr (.inl ⟨rest.tail, hblock.1, hblock.2.1, eq_cons_tail hblock.2.2⟩)
      · refine .inr (.inr (.inr ⟨hquote, fun ht hc => ⟨fun hh => ?_, fun hh => ?_⟩⟩))
        · exact hline ⟨ht, hc, hh⟩
        · exact hblock ⟨ht, hc, hh⟩

theorem cutFirst_append (track : Bool) (c : Char) (rest : Text) :
    (cutFirst track c rest).1.text ++ (cutFirst track c rest).2 = c :: rest := by
  rcases cutFirst_cases track c rest with ⟨more, rfl, rfl, rfl⟩ | ⟨more, rfl, rfl, rfl⟩ | h | h
  · rw [cutFirst_lineComment]
    simp only [text, List.cons_append, List.takeWhile_append_dropWhile]
  · rw [cutFirst_blockComment]
    have hcut := cutBlock_append more
    cases ha : (cutBlock more).2 with
    | none => simpa [text, ha] using hcut
    | some after => simpa [text, ha] using hcut
  · rw [cutFirst_literal track h]
    have hcut := cutLiteral_append c rest
    cases ha : (cutLiteral c rest).2 with
    | none => simpa [text, ha] using hcut
    | some after => simpa [text, ha] using hcut
  · rw [cutFirst_code h]
    rfl

theorem text_ne_nil (l : Lexeme) : l.text ≠ [] := by
  cases l <;> simp [text]

theorem cutFirst_shorter (track : Bool) (c : Char) (rest : Text) :
    (cutFirst track c rest).2.length < (c :: rest).length := by
  have happend := congrArg List.length (cutFirst_append track c rest)
  have hpos := List.length_pos_iff.mpr (text_ne_nil (cutFirst track c rest).1)
  rw [List.length_append] at happend
  omega

/-- The lexemes of a text, from left to right. Without tracking there are no comments. -/
def lexemes (track : Bool) : Text → List Lexeme
  | [] => []
  | c :: rest => (cutFirst track c rest).1 :: lexemes track (cutFirst track c rest).2
termination_by text => text.length
decreasing_by exact cutFirst_shorter track c rest

/-- The text that the lexemes stand for. -/
def Lexeme.spelled (ls : List Lexeme) : Text := ls.flatMap text

theorem spelled_cons (l : Lexeme) (ls : List Lexeme) :
    spelled (l :: ls) = l.text ++ spelled ls := rfl

theorem spelled_append (ls ms : List Lexeme) : spelled (ls ++ ms) = spelled ls ++ spelled ms :=
  List.flatMap_append

theorem spelled_lexemes (track : Bool) (text : Text) : spelled (lexemes track text) = text := by
  induction text using lexemes.induct track with
  | case1 => simp [lexemes, spelled]
  | case2 c rest ih =>
    rw [lexemes, spelled_cons, ih, cutFirst_append]

end SourceText
