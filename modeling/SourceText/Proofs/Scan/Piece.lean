import SourceText.Proofs.Scan.Significant

/-!
# Significant lexemes and the blanks between them

The pieces of a text are its significant lexemes, each with the blanks before it. Together with the
blanks after the last one they are the whole text (`pieces_append_lastGap`). Each piece can be told
from the lexeme before it (`pieces_joined`).
-/

namespace SourceText
open Lexeme

/-- A significant lexeme with the blanks before it. -/
structure Piece where
  gap : Text
  lexeme : Lexeme
  deriving DecidableEq, Repr

namespace Piece

/-- The characters of the piece. -/
def text (p : Piece) : Text := p.gap ++ p.lexeme.text

/-- The characters of the piece with their regions. -/
def marked (p : Piece) : List (Char × Region) :=
  p.gap.map (fun c => (c, Region.code)) ++ p.lexeme.marked

/-- The lexemes of the piece, each blank of the gap one of its own. -/
def lexemes (p : Piece) : List Lexeme := p.gap.map code ++ [p.lexeme]

/-- The pieces of a sequence of lexemes and the blanks after the last piece; `gap` are the blanks
before the first lexeme. -/
def collect (gap : Text) : List Lexeme → List Piece × Text
  | [] => ([], gap)
  | l :: ls =>
    if l.isGap then collect (gap ++ l.text) ls
    else
      let (more, last) := collect l.text.endBlanks ls
      (⟨gap, l.trimmed⟩ :: more, last)

end Piece

/-- The significant lexemes of a text, each with the blanks before it. -/
def pieces (text : Text) : List Piece := (Piece.collect [] (lexemes true text)).1

/-- The blanks of a text after its last significant lexeme. -/
def lastGap (text : Text) : Text := (Piece.collect [] (lexemes true text)).2

/-! ### Pieces -/

/-- What a piece of a text has: blanks before a whole lexeme that is significant itself. -/
structure Piece.Tidy (p : Piece) : Prop where
  gap : p.gap.isAllBlank = true
  whole : p.lexeme.Whole true
  not_gap : p.lexeme.isGap = false
  trimmed : p.lexeme.trimmed = p.lexeme

theorem Piece.Tidy.solid {p : Piece} (h : p.Tidy) : Text.Solid p.lexeme.text := by
  have hsolid := trimmed_solid h.whole h.not_gap
  rwa [h.trimmed] at hsolid

theorem isAllBlank_of_isGap {l : Lexeme} (h : l.isGap = true) : l.text.isAllBlank = true := by
  obtain ⟨c, rfl, hc⟩ := eq_code_of_isGap h
  rw [text, Text.isAllBlank, List.all_cons, hc]
  rfl

theorem collect_gap {l : Lexeme} (h : l.isGap = true) (gap : Text) (ls : List Lexeme) :
    Piece.collect gap (l :: ls) = Piece.collect (gap ++ l.text) ls := by
  rw [Piece.collect, if_pos h]

theorem collect_lexeme {l : Lexeme} (h : l.isGap = false) (gap : Text) (ls : List Lexeme) :
    Piece.collect gap (l :: ls)
      = (⟨gap, l.trimmed⟩ :: (Piece.collect l.text.endBlanks ls).1,
          (Piece.collect l.text.endBlanks ls).2) := by
  rw [Piece.collect, if_neg (by rw [h]; exact Bool.false_ne_true)]

theorem collect_tidy {ls : List Lexeme} (hls : Lexed true ls) {gap : Text}
    (hgap : gap.isAllBlank = true) : ∀ p ∈ (Piece.collect gap ls).1, p.Tidy := by
  induction ls generalizing gap with
  | nil => simp [Piece.collect]
  | cons l ls ih =>
    obtain ⟨hwhole, -, hrest⟩ := hls
    cases hl : l.isGap with
    | true =>
      rw [collect_gap hl]
      exact ih hrest (Text.isAllBlank_append hgap (isAllBlank_of_isGap hl))
    | false =>
      rw [collect_lexeme hl]
      intro p hp
      rcases List.mem_cons.mp hp with rfl | hp
      · exact ⟨hgap, trimmed_whole hwhole, trimmed_isGap hl, trimmed_trimmed l⟩
      · exact ih hrest (Text.isAllBlank_endBlanks l.text) p hp

theorem isAllBlank_collect (ls : List Lexeme) {gap : Text} (hgap : gap.isAllBlank = true) :
    (Piece.collect gap ls).2.isAllBlank = true := by
  induction ls generalizing gap with
  | nil => exact hgap
  | cons l ls ih =>
    cases hl : l.isGap with
    | true =>
      rw [collect_gap hl]
      exact ih (Text.isAllBlank_append hgap (isAllBlank_of_isGap hl))
    | false =>
      rw [collect_lexeme hl]
      exact ih (Text.isAllBlank_endBlanks l.text)

theorem collect_append {ls : List Lexeme} (hls : Lexed true ls) (gap : Text) :
    (Piece.collect gap ls).1.flatMap Piece.text ++ (Piece.collect gap ls).2
      = gap ++ spelled ls := by
  induction ls generalizing gap with
  | nil => rw [Piece.collect, spelled, List.flatMap_nil, List.flatMap_nil, List.nil_append,
      List.append_nil]
  | cons l ls ih =>
    obtain ⟨hwhole, -, hrest⟩ := hls
    cases hl : l.isGap with
    | true => rw [collect_gap hl, ih hrest, spelled_cons, List.append_assoc]
    | false =>
      rw [collect_lexeme hl, List.flatMap_cons, List.append_assoc, ih hrest, spelled_cons, Piece.text]
      rw [List.append_assoc, ← List.append_assoc l.trimmed.text,
        trimmed_append_endBlanks hwhole hl]

theorem collect_significant (gap : Text) (ls : List Lexeme) :
    (Piece.collect gap ls).1.map Piece.lexeme = significant ls := by
  induction ls generalizing gap with
  | nil => rfl
  | cons l ls ih =>
    cases hl : l.isGap with
    | true => rw [collect_gap hl, ih, significant_gap hl]
    | false => rw [collect_lexeme hl, List.map_cons, ih, significant_lexeme hl]

/-- The pieces of a text and the blanks after them are the whole text. -/
theorem pieces_append_lastGap (text : Text) :
    (pieces text).flatMap Piece.text ++ lastGap text = text := by
  rw [pieces, lastGap, collect_append (lexed_lexemes true text), List.nil_append, spelled_lexemes]

theorem pieces_tidy (text : Text) : ∀ p ∈ pieces text, p.Tidy :=
  collect_tidy (lexed_lexemes true text) rfl

theorem isAllBlank_lastGap (text : Text) : (lastGap text).isAllBlank = true :=
  isAllBlank_collect (lexemes true text) rfl

theorem pieces_significant (text : Text) :
    (pieces text).map Piece.lexeme = significant (lexemes true text) :=
  collect_significant [] (lexemes true text)

theorem chars_lexeme (l : Lexeme) : l.marked.map (·.1) = l.text := by
  rw [Lexeme.marked, List.map_map]
  exact List.map_id l.text

theorem marked_ne_nil (l : Lexeme) : l.marked ≠ [] := by
  rw [Lexeme.marked]
  simpa using text_ne_nil l

theorem chars_marked (p : Piece) : p.marked.map (·.1) = p.text := by
  rw [Piece.marked, List.map_append, List.map_map, chars_lexeme, Piece.text]
  exact congrArg (· ++ p.lexeme.text) (List.map_id p.gap)

theorem solid_append_pieces {t : Text} (ht : Text.Solid t) {ps : List Piece}
    (hps : ∀ p ∈ ps, Text.Solid p.lexeme.text) : Text.Solid (t ++ ps.flatMap Piece.text) := by
  induction ps generalizing t with
  | nil =>
    rw [List.flatMap_nil, List.append_nil]
    exact ht
  | cons p ps ih =>
    have hp := hps p (List.mem_cons_self ..)
    rw [List.flatMap_cons, Piece.text, ← List.append_assoc, ← List.append_assoc]
    exact ih (ht.append _ hp) fun q hq => hps q (List.mem_cons_of_mem p hq)

/-- Pieces with no blanks before the first have none at either end. -/
theorem pieces_ends {ps : List Piece} (hps : ∀ p ∈ ps, Text.Solid p.lexeme.text)
    (hfirst : ∀ p ∈ ps.head?, p.gap = []) :
    ps.flatMap Piece.text = [] ∨ Text.Solid (ps.flatMap Piece.text) := by
  cases ps with
  | nil => exact .inl rfl
  | cons p ps =>
    have hp := hps p (List.mem_cons_self ..)
    refine .inr ?_
    rw [List.flatMap_cons, Piece.text, hfirst p rfl, List.nil_append]
    exact solid_append_pieces hp fun q hq => hps q (List.mem_cons_of_mem p hq)

/-! ### Pieces read again -/

theorem spelled_blanks (blanks : Text) : spelled (blanks.map code) = blanks := by
  induction blanks with
  | nil => rfl
  | cons c blanks ih =>
    rw [List.map_cons, spelled_cons, ih]
    rfl

theorem spelled_pieces (ps : List Piece) :
    spelled (ps.flatMap Piece.lexemes) = ps.flatMap Piece.text := by
  induction ps with
  | nil => rfl
  | cons p ps ih =>
    rw [List.flatMap_cons, List.flatMap_cons, spelled_append, ih, Piece.lexemes, spelled_append,
      spelled_blanks, Piece.text]
    exact congrArg (p.gap ++ · ++ ps.flatMap Piece.text) (List.append_nil p.lexeme.text)

theorem collect_blanks (gap : Text) {blanks : Text} (h : blanks.isAllBlank = true)
    (ls : List Lexeme) :
    Piece.collect gap (blanks.map code ++ ls) = Piece.collect (gap ++ blanks) ls := by
  induction blanks generalizing gap with
  | nil => rw [List.map_nil, List.nil_append, List.append_nil]
  | cons c blanks ih =>
    rw [Text.isAllBlank, List.all_cons, Bool.and_eq_true] at h
    rw [List.map_cons, List.cons_append, collect_gap (show (code c).isGap = true from h.1),
      ih (gap ++ (code c).text) h.2, List.append_assoc]
    rfl

theorem collect_pieces {ps : List Piece} (hps : ∀ p ∈ ps, p.Tidy) :
    Piece.collect [] (ps.flatMap Piece.lexemes) = (ps, []) := by
  induction ps with
  | nil => rfl
  | cons p ps ih =>
    have hp := hps p (List.mem_cons_self ..)
    rw [List.flatMap_cons, Piece.lexemes, List.append_assoc, collect_blanks [] hp.gap,
      List.nil_append, List.singleton_append, collect_lexeme hp.not_gap, hp.trimmed,
      Text.endBlanks_of_last hp.solid.last, ih fun q hq => hps q (List.mem_cons_of_mem p hq)]

/-- Each piece of a sequence ends where the next one begins. -/
def Apart : List Piece → Prop
  | [] => True
  | p :: ps => p.lexeme.EndsBefore true (ps.flatMap Piece.text) ∧ Apart ps

theorem lexed_gap {gap : Text} (hgap : gap.isAllBlank = true) {ls : List Lexeme}
    (hls : Lexed true ls) : Lexed true (gap.map code ++ ls) := by
  induction gap with
  | nil => exact hls
  | cons c gap ih =>
    rw [Text.isAllBlank, List.all_cons, Bool.and_eq_true] at hgap
    refine ⟨?_, ?_, ih hgap.2⟩
    · show isQuote c = false
      by_contra hquote
      rw [Bool.not_eq_false] at hquote
      exact absurd ((isBlank_quote hquote).symm.trans hgap.1) Bool.false_ne_true
    · rintro - rfl
      exact absurd hgap.1 (by decide)

theorem lexed_pieces {ps : List Piece} (hps : ∀ p ∈ ps, p.Tidy) (hapart : Apart ps) :
    Lexed true (ps.flatMap Piece.lexemes) := by
  induction ps with
  | nil => trivial
  | cons p ps ih =>
    have hp := hps p (List.mem_cons_self ..)
    obtain ⟨hends, hmore⟩ := hapart
    rw [List.flatMap_cons, Piece.lexemes, List.append_assoc, List.singleton_append]
    refine lexed_gap hp.gap ⟨hp.whole, ?_, ih (fun q hq => hps q (List.mem_cons_of_mem p hq)) hmore⟩
    rw [spelled_pieces]
    exact hends

section Apart

variable {ps : List Piece}

theorem lexemes_of_apart (hps : ∀ p ∈ ps, p.Tidy) (hapart : Apart ps) :
    lexemes true (ps.flatMap Piece.text) = ps.flatMap Piece.lexemes :=
  lexemes_eq_iff_lexed.mpr ⟨spelled_pieces ps, lexed_pieces hps hapart⟩

/-- Pieces that are tidy and end where the next one begins are found again. -/
theorem pieces_of_apart (hps : ∀ p ∈ ps, p.Tidy) (hapart : Apart ps) :
    pieces (ps.flatMap Piece.text) = ps := by
  rw [pieces, lexemes_of_apart hps hapart, collect_pieces hps]

theorem marked_lexemes (p : Piece) : p.lexemes.flatMap Lexeme.marked = p.marked := by
  have hgap : (p.gap.map code).flatMap Lexeme.marked = p.gap.map fun c => (c, Region.code) := by
    rw [List.flatMap_map]
    exact List.flatMap_pure_eq_map _ p.gap
  rw [Piece.lexemes, List.flatMap_append, hgap, List.flatMap_singleton, Piece.marked]

theorem scan_of_apart (hps : ∀ p ∈ ps, p.Tidy) (hapart : Apart ps) :
    scan true (ps.flatMap Piece.text) = ps.flatMap Piece.marked := by
  rw [scan_eq_marked, lexemes_of_apart hps hapart, List.flatMap_assoc]
  simp only [marked_lexemes]

end Apart

/-! ### What stands between two pieces -/

namespace Lexeme

/-- What has to stand between a lexeme and the next significant one so that both are read. -/
def Meets (l : Lexeme) (gap : Text) (next : Lexeme) : Prop :=
  match l with
  | code c => c = '/' → gap = [] → next.text.head? ≠ some '/' ∧ next.text.head? ≠ some '*'
  | literal _ _ closed => closed = true
  | lineComment _ => gap.any isLineBreak = true
  | blockComment _ closed => closed = true

/-- What has to stand behind a lexeme and the blanks `gap` so that the lexeme ends before. -/
def Leaves (l : Lexeme) (gap rest : Text) : Prop :=
  match l with
  | code c => c = '/' → gap = [] → rest.head? ≠ some '/' ∧ rest.head? ≠ some '*'
  | literal _ _ closed => closed = false → rest = []
  | lineComment _ => gap.any isLineBreak = true ∨ ∀ c ∈ rest.head?, isLineBreak c = true
  | blockComment _ closed => closed = false → rest = []

end Lexeme

/-- Each piece of a sequence can be told from the lexeme before it; `before` are the lexemes before
the first piece, the latest first. -/
def Joined (before : List Lexeme) : List Piece → Prop
  | [] => True
  | p :: ps => (∀ x ∈ before.head?, x.Meets p.gap p.lexeme) ∧ Joined (p.lexeme :: before) ps

theorem Lexeme.Meets.not_open {l next : Lexeme} {gap : Text} (h : l.Meets gap next) :
    l.isOpen = false := by
  cases l with
  | code c => rfl
  | literal quote inside closed => rw [isOpen, show closed = true from h, Bool.not_true]
  | lineComment inside => rfl
  | blockComment inside closed => rw [isOpen, show closed = true from h, Bool.not_true]

/-- Blanks keep a closed lexeme apart from the next significant one, unless there are none and the
two open a comment, or the first is a line comment whose line they do not end. -/
theorem endsBefore_blanks {x next : Lexeme} {blanks : Text} (hblanks : blanks.isAllBlank = true)
    (hclosed : x.isOpen = false) (hsolid : Text.Solid next.text)
    (htouch : x = code '/' → blanks = [] →
      next.text.head? ≠ some '/' ∧ next.text.head? ≠ some '*')
    (hline : ∀ inside, x = lineComment inside → ∃ c ∈ blanks.head?, isLineBreak c = true)
    (rest : Text) : x.EndsBefore true (blanks ++ (next.text ++ rest)) := by
  cases x with
  | code c =>
    rintro - rfl
    cases blanks with
    | nil =>
      obtain ⟨d, hd, -⟩ := hsolid.head
      have hhead : ([] ++ (next.text ++ rest)).head? = next.text.head? := by
        rw [List.nil_append, List.head?_append, Option.mem_def.mp hd]
        rfl
      rw [hhead]
      exact htouch rfl rfl
    | cons b blanks =>
      rw [Text.isAllBlank, List.all_cons, Bool.and_eq_true] at hblanks
      have hb : b ≠ '/' ∧ b ≠ '*' := by
        constructor
        · rintro rfl
          exact absurd hblanks.1 (by decide)
        · rintro rfl
          exact absurd hblanks.1 (by decide)
      simpa using hb
  | literal quote inside closed =>
    rintro rfl
    exact absurd (show true = false from hclosed) (by decide)
  | lineComment inside =>
    obtain ⟨b, hb, hbreak⟩ := hline inside rfl
    intro c hc
    rw [List.head?_append, Option.mem_def.mp hb] at hc
    obtain rfl : b = c := Option.some.inj hc
    exact hbreak
  | blockComment inside closed =>
    rintro rfl
    exact absurd (show true = false from hclosed) (by decide)

theorem leaves_trimmed {l : Lexeme} {rest : Text} (hends : l.EndsBefore true rest) :
    l.trimmed.Leaves l.text.endBlanks rest := by
  cases l with
  | code c => exact fun hc _ => hends rfl hc
  | literal quote inside closed => cases closed <;> exact hends
  | lineComment inside => exact .inr hends
  | blockComment inside closed => cases closed <;> exact hends

theorem leaves_gap {x : Lexeme} {gap : Text} {c : Char} {rest : Text}
    (h : x.Leaves gap (c :: rest)) : x.Leaves (gap ++ [c]) rest := by
  cases x with
  | code d => exact fun _ hnil => absurd hnil (by simp)
  | literal quote inside closed => exact fun hopen => absurd (h hopen) (List.cons_ne_nil c rest)
  | lineComment inside =>
    refine .inl ?_
    rw [List.any_append, Bool.or_eq_true]
    rcases h with hgap | hhead
    · exact .inl hgap
    · exact .inr (by simpa using hhead c rfl)
  | blockComment inside closed =>
    exact fun hopen => absurd (h hopen) (List.cons_ne_nil c rest)

theorem meets_of_leaves {x y : Lexeme} {gap rest : Text} (hsolid : Text.Solid y.text)
    (h : x.Leaves gap (y.text ++ rest)) : x.Meets gap y := by
  obtain ⟨d, hd, hblank⟩ := hsolid.head
  have hhead : (y.text ++ rest).head? = some d := by
    rw [List.head?_append, Option.mem_def.mp hd]
    rfl
  have hne : y.text ++ rest ≠ [] := by
    intro hnil
    rw [hnil] at hhead
    exact absurd hhead (by simp)
  cases x with
  | code c =>
    intro hc hnil
    have hrest := h hc hnil
    rw [hhead] at hrest
    rw [Option.mem_def.mp hd]
    exact hrest
  | literal quote inside closed =>
    cases closed with
    | false => exact absurd (h rfl) hne
    | true => rfl
  | lineComment inside =>
    rcases h with hgap | hbreak
    · exact hgap
    · have hblank' := isBlank_of_isLineBreak (hbreak d hhead)
      rw [hblank] at hblank'
      exact absurd hblank' Bool.false_ne_true
  | blockComment inside closed =>
    cases closed with
    | false => exact absurd (h rfl) hne
    | true => rfl

theorem collect_joined {ls : List Lexeme} (hls : Lexed true ls) {before : List Lexeme} {gap : Text}
    (hbefore : ∀ x ∈ before.head?, x.Leaves gap (spelled ls)) :
    Joined before (Piece.collect gap ls).1 := by
  induction ls generalizing before gap with
  | nil => trivial
  | cons l ls ih =>
    obtain ⟨hwhole, hends, hrest⟩ := hls
    rw [spelled_cons] at hbefore
    cases hl : l.isGap with
    | true =>
      obtain ⟨c, rfl, -⟩ := eq_code_of_isGap hl
      rw [collect_gap hl]
      exact ih hrest fun x hx => leaves_gap (hbefore x hx)
    | false =>
      rw [collect_lexeme hl]
      refine ⟨fun x hx => ?_, ih hrest fun x hx => ?_⟩
      · have hleaves : x.Leaves gap (l.trimmed.text ++ (l.text.endBlanks ++ spelled ls)) := by
          rw [← List.append_assoc, trimmed_append_endBlanks hwhole hl]
          exact hbefore x hx
        exact meets_of_leaves (trimmed_solid hwhole hl) hleaves
      · obtain rfl : l.trimmed = x := by simpa using hx
        exact leaves_trimmed hends

theorem pieces_joined (text : Text) : Joined [] (pieces text) :=
  collect_joined (lexed_lexemes true text) fun _ hx => absurd hx (by simp)

end SourceText
