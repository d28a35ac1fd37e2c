import SourceText.Proofs.Scan.Lexeme

/-!
# Sequences of lexemes that are read again

Lexemes put after one another are not always the lexemes of the text that they spell: two slashes
of code are read as a comment, and an open literal swallows what follows it. `Lexed` is what a
sequence needs so that reading finds it again, and every text is cut into such a sequence
(`lexemes_eq_iff_lexed`).
-/

namespace SourceText
open Lexeme

/-! ### Where a literal or a comment ends -/

theorem cutLiteral_escape (quote c : Char) (rest : Text) :
    cutLiteral quote ('\\' :: c :: rest)
      = ('\\' :: c :: (cutLiteral quote rest).1, (cutLiteral quote rest).2) := by
  rw [cutLiteral]

theorem cutLiteral_quote {quote : Char} (hquote : quote ≠ '\\') (rest : Text) :
    cutLiteral quote (quote :: rest) = ([], some rest) := by
  rw [cutLiteral, if_pos rfl]
  intro c more hbackslash
  exact absurd hbackslash hquote

theorem cutLiteral_cons {quote c : Char} (hbackslash : c ≠ '\\') (hc : c ≠ quote) (rest : Text) :
    cutLiteral quote (c :: rest) = (c :: (cutLiteral quote rest).1, (cutLiteral quote rest).2) := by
  rw [cutLiteral, if_neg hc]
  intro d more hb
  exact absurd hb hbackslash

theorem cutBlock_cons {c : Char} {rest : Text} (h : c = '*' → rest.head? ≠ some '/') :
    cutBlock (c :: rest) = (c :: (cutBlock rest).1, (cutBlock rest).2) := by
  rw [cutBlock]
  intro more hc hrest
  exact h hc (by rw [hrest, List.head?_cons])

/-- Where a literal ends does not depend on what comes after it. -/
theorem cutLiteral_closed {quote : Char} (hquote : quote ≠ '\\') {text inside after : Text}
    (h : cutLiteral quote text = (inside, some after)) (rest : Text) :
    cutLiteral quote (inside ++ quote :: rest) = (inside, some rest) := by
  fun_induction cutLiteral quote text generalizing inside with
  | case1 => simp at h
  | case2 c more inside' after? hcut ih =>
    obtain ⟨rfl, rfl⟩ := Prod.mk.inj h
    rw [List.cons_append, List.cons_append, cutLiteral_escape, ih hcut]
  | case3 more _ =>
    obtain ⟨rfl, -⟩ := Prod.mk.inj h
    exact cutLiteral_quote hquote rest
  | case4 c more hescape hc inside' after? hcut ih =>
    obtain ⟨rfl, rfl⟩ := Prod.mk.inj h
    have hb : c ≠ '\\' := by
      rintro rfl
      cases more with
      | nil => simp [cutLiteral] at hcut
      | cons d more => exact hescape d more rfl rfl
    rw [List.cons_append, cutLiteral_cons hb hc, ih hcut]

/-- Where a block comment ends does not depend on what comes after it. -/
theorem cutBlock_closed {text inside after : Text} (h : cutBlock text = (inside, some after))
    (rest : Text) : cutBlock (inside ++ '*' :: '/' :: rest) = (inside, some rest) := by
  fun_induction cutBlock text generalizing inside with
  | case1 => simp at h
  | case2 more =>
    obtain ⟨rfl, -⟩ := Prod.mk.inj h
    rfl
  | case3 c more hclose inside' after? hcut ih =>
    obtain ⟨rfl, rfl⟩ := Prod.mk.inj h
    have hopen : c = '*' → (inside' ++ '*' :: '/' :: rest).head? ≠ some '/' := by
      intro hc hhead
      have hmore := cutBlock_append more
      rw [hcut] at hmore
      cases inside' with
      | nil => simp at hhead
      | cons d inside' =>
        obtain rfl : d = '/' := by simpa using hhead
        exact hclose _ hc hmore.symm
    rw [List.cons_append, cutBlock_cons hopen, ih hcut]

/-- The first part of an open literal is open as well. -/
theorem cutLiteral_open {quote : Char} (hquote : quote ≠ '\\') {first rest : Text}
    (h : (cutLiteral quote (first ++ rest)).2 = none) : cutLiteral quote first = (first, none) := by
  fun_induction cutLiteral quote first with
  | case1 => rfl
  | case2 c more inside after? hcut ih =>
    rw [List.cons_append, List.cons_append, cutLiteral_escape] at h
    obtain ⟨rfl, rfl⟩ := Prod.mk.inj (hcut.symm.trans (ih h))
    rfl
  | case3 more _ =>
    rw [List.cons_append, cutLiteral_quote hquote] at h
    exact absurd h (Option.some_ne_none _)
  | case4 c more hescape hc inside after? hcut ih =>
    by_cases hb : c = '\\'
    · cases more with
      | nil =>
        obtain ⟨rfl, rfl⟩ := Prod.mk.inj (hcut.symm.trans (by rw [cutLiteral]))
        rfl
      | cons d more => exact absurd rfl (hescape d more hb)
    · rw [List.cons_append, cutLiteral_cons hb hc] at h
      obtain ⟨rfl, rfl⟩ := Prod.mk.inj (hcut.symm.trans (ih h))
      rfl

/-- The first part of an open block comment is open as well. -/
theorem cutBlock_open {first rest : Text} (h : (cutBlock (first ++ rest)).2 = none) :
    cutBlock first = (first, none) := by
  fun_induction cutBlock first with
  | case1 => rfl
  | case2 more => simp [cutBlock] at h
  | case3 c more hclose inside after? hcut ih =>
    have hopen : c = '*' → (more ++ rest).head? ≠ some '/' := by
      rintro rfl hhead
      rw [List.cons_append, eq_cons_tail hhead, cutBlock] at h
      exact absurd h (Option.some_ne_none _)
    rw [List.cons_append, cutBlock_cons hopen] at h
    obtain ⟨rfl, rfl⟩ := Prod.mk.inj (hcut.symm.trans (ih h))
    rfl

/-! ### Which lexemes can follow one another -/

namespace Lexeme

/-- What a lexeme by itself has to be: its ends are where reading it alone finds them. -/
def Whole (track : Bool) : Lexeme → Prop
  | code c => isQuote c = false
  | literal quote inside closed =>
    isQuote quote = true ∧
      cutLiteral quote (inside ++ if closed then [quote] else [])
        = (inside, if closed then some [] else none)
  | lineComment inside => track = true ∧ ∀ c ∈ inside, isLineBreak c = false
  | blockComment inside closed =>
    track = true ∧
      cutBlock (inside ++ if closed then ['*', '/'] else [])
        = (inside, if closed then some [] else none)

/-- What the text after a lexeme has to be so that the lexeme ends there. -/
def EndsBefore (track : Bool) (rest : Text) : Lexeme → Prop
  | code c => track = true → c = '/' → rest.head? ≠ some '/' ∧ rest.head? ≠ some '*'
  | literal _ _ closed => closed = false → rest = []
  | lineComment _ => ∀ c ∈ rest.head?, isLineBreak c = true
  | blockComment _ closed => closed = false → rest = []

/-- Lexemes in a sequence that reading finds again. -/
def Lexed (track : Bool) : List Lexeme → Prop
  | [] => True
  | l :: ls => l.Whole track ∧ l.EndsBefore track (spelled ls) ∧ Lexed track ls

end Lexeme

theorem endsBefore_nil (l : Lexeme) {track : Bool} : l.EndsBefore track [] := by
  cases l with
  | code c => exact fun _ _ => ⟨by simp, by simp⟩
  | literal quote inside closed => exact fun _ => rfl
  | lineComment inside => exact fun c hc => absurd hc (by simp)
  | blockComment inside closed => exact fun _ => rfl

theorem quote_ne_backslash {quote : Char} (h : isQuote quote = true) : quote ≠ '\\' := by
  rintro rfl
  exact absurd h (by decide)

theorem lexemes_of_cutFirst {track : Bool} {c : Char} {more rest : Text} {l : Lexeme}
    (h : cutFirst track c more = (l, rest)) :
    lexemes track (c :: more) = l :: lexemes track rest := by
  rw [lexemes, h]

/-- A whole lexeme in front of a text that it ends before is read again. -/
theorem lexemes_append {track : Bool} {l : Lexeme} {rest : Text} (hwhole : l.Whole track)
    (hends : l.EndsBefore track rest) :
    lexemes track (l.text ++ rest) = l :: lexemes track rest := by
  cases l with
  | code d => exact lexemes_of_cutFirst (cutFirst_code ⟨hwhole, hends⟩)
  | literal quote inside closed =>
    obtain ⟨hquote, hcut⟩ := hwhole
    simp only [text, List.cons_append, List.append_assoc]
    apply lexemes_of_cutFirst
    rw [cutFirst_literal track hquote]
    cases closed with
    | false =>
      obtain rfl := hends rfl
      simp only [Bool.false_eq_true, if_false, List.append_nil] at hcut ⊢
      rw [hcut]
      rfl
    | true =>
      simp only [if_true, List.singleton_append] at hcut ⊢
      rw [cutLiteral_closed (quote_ne_backslash hquote) hcut rest]
      rfl
  | lineComment inside =>
    obtain ⟨rfl, hinside⟩ := hwhole
    have htake : ∀ c ∈ inside, (!isLineBreak c) = true := by
      intro c hc
      rw [hinside c hc]
      rfl
    have hrest : rest.takeWhile (!isLineBreak ·) = [] ∧ rest.dropWhile (!isLineBreak ·) = rest := by
      cases rest with
      | nil => exact ⟨rfl, rfl⟩
      | cons c more =>
        have hc : isLineBreak c = true := hends c rfl
        simp [hc]
    simp only [text, List.cons_append]
    apply lexemes_of_cutFirst
    rw [cutFirst_lineComment, List.takeWhile_append_of_pos htake, List.dropWhile_append_of_pos htake,
      hrest.1, hrest.2, List.append_nil]
  | blockComment inside closed =>
    obtain ⟨rfl, hcut⟩ := hwhole
    simp only [text, List.cons_append, List.append_assoc]
    apply lexemes_of_cutFirst
    rw [cutFirst_blockComment]
    cases closed with
    | false =>
      obtain rfl := hends rfl
      simp only [Bool.false_eq_true, if_false, List.append_nil] at hcut ⊢
      rw [hcut]
      rfl
    | true =>
      simp only [if_true, List.cons_append, List.nil_append] at hcut ⊢
      rw [cutBlock_closed hcut rest]
      rfl

theorem lexemes_spelled {track : Bool} {ls : List Lexeme} (h : Lexed track ls) :
    lexemes track (spelled ls) = ls := by
  induction ls with
  | nil => simp [spelled, lexemes]
  | cons l ls ih =>
    obtain ⟨hwhole, hends, hls⟩ := h
    rw [spelled_cons, lexemes_append hwhole hends, ih hls]

theorem cutLiteral_whole {quote : Char} (hquote : quote ≠ '\\') (text : Text) :
    cutLiteral quote
        ((cutLiteral quote text).1 ++ if (cutLiteral quote text).2.isSome then [quote] else [])
      = ((cutLiteral quote text).1,
          if (cutLiteral quote text).2.isSome then some [] else none) := by
  cases hcut : cutLiteral quote text with
  | mk inside after? =>
    cases after? with
    | none =>
      have happend := cutLiteral_append quote text
      rw [hcut] at happend
      rw [show inside = text by simpa using happend] at hcut ⊢
      simpa using hcut
    | some after => exact cutLiteral_closed hquote hcut []

theorem cutBlock_whole (text : Text) :
    cutBlock ((cutBlock text).1 ++ if (cutBlock text).2.isSome then ['*', '/'] else [])
      = ((cutBlock text).1, if (cutBlock text).2.isSome then some [] else none) := by
  cases hcut : cutBlock text with
  | mk inside after? =>
    cases after? with
    | none =>
      have happend := cutBlock_append text
      rw [hcut] at happend
      rw [show inside = text by simpa using happend] at hcut ⊢
      simpa using hcut
    | some after => exact cutBlock_closed hcut []

theorem cutFirst_whole (track : Bool) (c : Char) (rest : Text) :
    (cutFirst track c rest).1.Whole track := by
  rcases cutFirst_cases track c rest with
    ⟨more, rfl, rfl, rfl⟩ | ⟨more, rfl, rfl, rfl⟩ | hquote | hcode
  · rw [cutFirst_lineComment]
    refine ⟨rfl, fun c hc => ?_⟩
    simpa using List.all_eq_true.mp List.all_takeWhile c hc
  · rw [cutFirst_blockComment]
    exact ⟨rfl, cutBlock_whole more⟩
  · rw [cutFirst_literal track hquote]
    exact ⟨hquote, cutLiteral_whole (quote_ne_backslash hquote) rest⟩
  · rw [cutFirst_code hcode]
    exact hcode.1

theorem cutFirst_endsBefore (track : Bool) (c : Char) (rest : Text) :
    (cutFirst track c rest).1.EndsBefore track (cutFirst track c rest).2 := by
  -- An open literal or comment has no text after it.
  have hnothing : ∀ after? : Option Text, after?.isSome = false → after?.getD [] = [] := by
    intro after? hopen
    rw [Option.isSome_eq_false_iff, Option.isNone_iff_eq_none] at hopen
    rw [hopen, Option.getD_none]
  rcases cutFirst_cases track c rest with
    ⟨more, rfl, rfl, rfl⟩ | ⟨more, rfl, rfl, rfl⟩ | hquote | hcode
  · rw [cutFirst_lineComment]
    intro c hc
    have hstop := List.head?_dropWhile_not (!isLineBreak ·) more
    rw [Option.mem_def.mp hc] at hstop
    simpa using hstop
  · rw [cutFirst_blockComment]
    exact hnothing (cutBlock more).2
  · rw [cutFirst_literal track hquote]
    exact hnothing (cutLiteral c rest).2
  · rw [cutFirst_code hcode]
    exact hcode.2

theorem lexed_lexemes (track : Bool) (text : Text) : Lexed track (lexemes track text) := by
  induction text using lexemes.induct track with
  | case1 =>
    rw [lexemes]
    trivial
  | case2 c rest ih =>
    rw [lexemes]
    refine ⟨cutFirst_whole track c rest, ?_, ih⟩
    rw [spelled_lexemes]
    exact cutFirst_endsBefore track c rest

/-- A sequence of lexemes is what a text is cut into exactly if it spells that text and its
neighbours stay apart. -/
theorem lexemes_eq_iff_lexed {track : Bool} {text : Text} {ls : List Lexeme} :
    lexemes track text = ls ↔ spelled ls = text ∧ Lexed track ls := by
  constructor
  · rintro rfl
    exact ⟨spelled_lexemes track text, lexed_lexemes track text⟩
  · rintro ⟨rfl, h⟩
    exact lexemes_spelled h

end SourceText
