import SourceText.Proofs.Scan.Lexed
import SourceText.Proofs.Scan.Regions
import SourceText.Proofs.Text.Blanks

/-!
# What is significant in a text

Blanks between lexemes separate them and mean nothing else, and blanks at the end of a line comment
or of a literal that is left open mean nothing at all. `significant` keeps the lexemes without these
blanks, and `significantMarks` picks the same characters from a scan (`significantMarks_scan`).
-/

namespace SourceText
open Lexeme

namespace Lexeme

/-- Whether the lexeme is a blank between literals and comments. -/
def isGap (l : Lexeme) : Bool := l.isCode isBlank

/-- Whether the lexeme is a literal or block comment that is left open. -/
def isOpen : Lexeme → Bool
  | literal _ _ closed => !closed
  | blockComment _ closed => !closed
  | _ => false

/-- Whether the lexeme is a literal or block comment with both of its ends. -/
def isClosed : Lexeme → Bool
  | literal _ _ closed => closed
  | blockComment _ closed => closed
  | _ => false

/-- A lexeme without the blanks at its end. Only line comments and what is left open have some. -/
def trimmed : Lexeme → Lexeme
  | literal quote inside false => literal quote inside.trimRight false
  | lineComment inside => lineComment inside.trimRight
  | blockComment inside false => blockComment inside.trimRight false
  | l => l

/-- The significant lexemes of a sequence. -/
def significant (ls : List Lexeme) : List Lexeme := (ls.filter (!·.isGap)).map trimmed

end Lexeme

/-- Whether only blanks come before the next character of code. -/
def blankUntilCode : List (Char × Region) → Bool
  | [] => true
  | (c, region) :: rest => region == .code || (isBlank c && blankUntilCode rest)

/-- A scan without the blanks of code and the blanks at the end of a literal or comment. -/
def significantMarks : List (Char × Region) → List (Char × Region)
  | [] => []
  | (c, region) :: rest =>
    if isBlank c && (region == .code || blankUntilCode rest) then significantMarks rest
    else (c, region) :: significantMarks rest

/-! ### One lexeme -/

theorem isBlank_quote {quote : Char} (h : isQuote quote = true) : isBlank quote = false := by
  simp only [isQuote, Bool.or_eq_true, beq_iff_eq] at h
  rcases h with (rfl | rfl) | rfl <;> decide

theorem eq_code_of_isGap {l : Lexeme} (h : l.isGap = true) :
    ∃ c, l = code c ∧ isBlank c = true := by
  cases l with
  | code c => exact ⟨c, rfl, h⟩
  | literal quote inside closed => exact absurd h Bool.false_ne_true
  | lineComment inside => exact absurd h Bool.false_ne_true
  | blockComment inside closed => exact absurd h Bool.false_ne_true

theorem trimmed_region (l : Lexeme) : l.trimmed.region = l.region := by
  cases l with
  | code c => rfl
  | literal quote inside closed => cases closed <;> rfl
  | lineComment inside => rfl
  | blockComment inside closed => cases closed <;> rfl

theorem trimmed_trimmed (l : Lexeme) : l.trimmed.trimmed = l.trimmed := by
  cases l with
  | code c => rfl
  | literal quote inside closed =>
    cases closed with
    | false => simp only [trimmed, Text.trimRight_trimRight]
    | true => rfl
  | lineComment inside => simp only [trimmed, Text.trimRight_trimRight]
  | blockComment inside closed =>
    cases closed with
    | false => simp only [trimmed, Text.trimRight_trimRight]
    | true => rfl

theorem trimmed_isGap {l : Lexeme} (h : l.isGap = false) : l.trimmed.isGap = false := by
  cases l with
  | code c => exact h
  | literal quote inside closed => cases closed <;> rfl
  | lineComment inside => rfl
  | blockComment inside closed => cases closed <;> rfl

/-- Without the blanks at its end an open literal or comment is open still. -/
theorem trimmed_whole {l : Lexeme} (h : l.Whole true) : l.trimmed.Whole true := by
  cases l with
  | code c => exact h
  | literal quote inside closed =>
    cases closed with
    | false =>
      obtain ⟨hquote, hcut⟩ := h
      simp only [Bool.false_eq_true, if_false, List.append_nil] at hcut
      have hopen : (cutLiteral quote (inside.trimRight ++ inside.endBlanks)).2 = none := by
        rw [Text.trimRight_append_endBlanks, hcut]
      refine ⟨hquote, ?_⟩
      simp only [Bool.false_eq_true, if_false, List.append_nil]
      exact cutLiteral_open (quote_ne_backslash hquote) hopen
    | true => exact h
  | lineComment inside =>
    refine ⟨rfl, fun c hc => h.2 c ?_⟩
    rw [← Text.trimRight_append_endBlanks inside]
    exact List.mem_append_left _ hc
  | blockComment inside closed =>
    cases closed with
    | false =>
      obtain ⟨htrack, hcut⟩ := h
      simp only [Bool.false_eq_true, if_false, List.append_nil] at hcut
      have hopen : (cutBlock (inside.trimRight ++ inside.endBlanks)).2 = none := by
        rw [Text.trimRight_append_endBlanks, hcut]
      refine ⟨htrack, ?_⟩
      simp only [Bool.false_eq_true, if_false, List.append_nil]
      exact cutBlock_open hopen
    | true => exact h

/-- Trimming a lexeme takes all blanks off its end. -/
theorem trimmed_text {l : Lexeme} (hwhole : l.Whole true) (hgap : l.isGap = false) :
    l.trimmed.text = l.text.trimRight := by
  have hslash : isBlank '/' = false := by decide
  have hstar : isBlank '*' = false := by decide
  cases l with
  | code c => exact (Text.trimRight_of_last (Text.solid_singleton hgap).last).symm
  | literal quote inside closed =>
    have hquote := isBlank_quote hwhole.1
    cases closed with
    | false =>
      simp only [trimmed, text, Bool.false_eq_true, if_false, List.append_nil]
      rw [Text.trimRight_cons_of_solid hquote]
    | true =>
      have hlast : (literal quote inside true).text.getLast? = some quote := by
        simp [text, List.getLast?_cons]
      exact (Text.trimRight_of_last ⟨quote, hlast, hquote⟩).symm
  | lineComment inside =>
    simp only [trimmed, text]
    rw [Text.trimRight_cons_of_solid hslash, Text.trimRight_cons_of_solid hslash]
  | blockComment inside closed =>
    cases closed with
    | false =>
      simp only [trimmed, text, Bool.false_eq_true, if_false, List.append_nil]
      rw [Text.trimRight_cons_of_solid hslash, Text.trimRight_cons_of_solid hstar]
    | true =>
      have hlast : (blockComment inside true).text.getLast? = some '/' := by
        simp [text, List.getLast?_cons]
      exact (Text.trimRight_of_last ⟨'/', hlast, hslash⟩).symm

theorem trimmed_append_endBlanks {l : Lexeme} (hwhole : l.Whole true) (hgap : l.isGap = false) :
    l.trimmed.text ++ l.text.endBlanks = l.text := by
  rw [trimmed_text hwhole hgap, Text.trimRight_append_endBlanks]

theorem trimmed_solid {l : Lexeme} (hwhole : l.Whole true) (hgap : l.isGap = false) :
    Text.Solid l.trimmed.text := by
  rw [trimmed_text hwhole hgap]
  cases l with
  | code c => exact Text.solid_trimRight hgap []
  | literal quote inside closed => exact Text.solid_trimRight (isBlank_quote hwhole.1) _
  | lineComment inside => exact Text.solid_trimRight (by decide) _
  | blockComment inside closed => exact Text.solid_trimRight (by decide) _

/-- Besides comments only what is left open has blanks at its end. -/
theorem trimmed_of_not_open {l : Lexeme} (hcomment : l.region ≠ .comment)
    (hopen : l.isOpen = false) : l.trimmed = l := by
  cases l with
  | code c => rfl
  | literal quote inside closed =>
    cases closed with
    | false => exact absurd (show true = false from hopen) (by decide)
    | true => rfl
  | lineComment inside => exact absurd rfl hcomment
  | blockComment inside closed => exact absurd rfl hcomment

theorem nil_of_isOpen {l : Lexeme} (hopen : l.isOpen = true) {track : Bool} {rest : Text}
    (hends : l.EndsBefore track rest) : rest = [] := by
  cases l with
  | code c => exact absurd hopen Bool.false_ne_true
  | literal quote inside closed => exact hends (by simpa [isOpen] using hopen)
  | lineComment inside => exact absurd hopen Bool.false_ne_true
  | blockComment inside closed => exact hends (by simpa [isOpen] using hopen)

theorem significant_gap {l : Lexeme} (h : l.isGap = true) (ls : List Lexeme) :
    significant (l :: ls) = significant ls := by
  rw [significant, List.filter_cons, h, Bool.not_true, if_neg Bool.false_ne_true, significant]

theorem significant_lexeme {l : Lexeme} (h : l.isGap = false) (ls : List Lexeme) :
    significant (l :: ls) = l.trimmed :: significant ls := by
  rw [significant, List.filter_cons, h, Bool.not_false, if_pos rfl, List.map_cons, significant]

theorem isClosed_trimmed (l : Lexeme) : l.trimmed.isClosed = l.isClosed := by
  cases l with
  | code c => rfl
  | literal quote inside closed => cases closed <;> rfl
  | lineComment inside => rfl
  | blockComment inside closed => cases closed <;> rfl

theorem trimmed_of_isClosed {l : Lexeme} (h : l.isClosed = true) : l.trimmed = l := by
  cases l with
  | code c => rfl
  | literal quote inside closed =>
    obtain rfl : closed = true := h
    rfl
  | lineComment inside => exact absurd h Bool.false_ne_true
  | blockComment inside closed =>
    obtain rfl : closed = true := h
    rfl

/-- Closed literals and block comments are significant as they are. -/
theorem filter_isClosed_significant (ls : List Lexeme) :
    (significant ls).filter isClosed = ls.filter isClosed := by
  induction ls with
  | nil => rfl
  | cons l ls ih =>
    cases hl : l.isGap with
    | true =>
      obtain ⟨c, rfl, -⟩ := eq_code_of_isGap hl
      rw [significant_gap hl, ih]
      rfl
    | false =>
      rw [significant_lexeme hl, List.filter_cons, List.filter_cons, isClosed_trimmed, ih]
      cases hclosed : l.isClosed with
      | true => rw [if_pos rfl, if_pos rfl, trimmed_of_isClosed hclosed]
      | false => rw [if_neg Bool.false_ne_true, if_neg Bool.false_ne_true]

/-! ### The significant characters of a scan -/

theorem blankUntilCode_run {region : Region} (hregion : region ≠ .code) (t : Text)
    (rest : List (Char × Region)) :
    blankUntilCode (t.map (fun c => (c, region)) ++ rest)
      = (t.isAllBlank && blankUntilCode rest) := by
  have hcode : (region == Region.code) = false := beq_false_of_ne hregion
  induction t with
  | nil => rfl
  | cons c t ih =>
    rw [List.map_cons, List.cons_append, blankUntilCode, ih, hcode, Bool.false_or]
    simp only [Text.isAllBlank, List.all_cons, Bool.and_assoc]

/-- In a literal or comment the blanks at the end are dropped before code and at the end of the
text, and nowhere else. -/
theorem significantMarks_run {region : Region} (hregion : region ≠ .code) (t : Text)
    (rest : List (Char × Region)) :
    significantMarks (t.map (fun c => (c, region)) ++ rest)
      = (if blankUntilCode rest then t.trimRight else t).map (fun c => (c, region))
        ++ significantMarks rest := by
  have hcode : (region == Region.code) = false := beq_false_of_ne hregion
  induction t with
  | nil => cases blankUntilCode rest <;> rfl
  | cons c t ih =>
    rw [List.map_cons, List.cons_append, significantMarks, blankUntilCode_run hregion, hcode,
      Bool.false_or, ih]
    cases hrest : blankUntilCode rest with
    | false => simp only [Bool.and_false, Bool.false_eq_true, if_false, List.map_cons,
        List.cons_append]
    | true =>
      rw [Bool.and_true, if_pos rfl, if_pos rfl, Text.trimRight_cons]
      cases hblank : isBlank c && Text.isAllBlank t with
      | false => rfl
      | true =>
        rw [Bool.and_eq_true] at hblank
        rw [if_pos rfl, if_pos rfl, Text.trimRight_of_isAllBlank hblank.2]

theorem eq_code_of_isLineBreak {l : Lexeme} (hwhole : l.Whole true) {c : Char}
    (hc : c ∈ l.text.head?) (hbreak : isLineBreak c = true) : l = code c := by
  have hblank := isBlank_of_isLineBreak hbreak
  cases l with
  | code d => exact congrArg code (Option.some.inj hc)
  | literal quote inside closed =>
    obtain rfl : quote = c := Option.some.inj hc
    rw [isBlank_quote hwhole.1] at hblank
    exact absurd hblank Bool.false_ne_true
  | lineComment inside =>
    obtain rfl : '/' = c := Option.some.inj hc
    exact absurd hbreak (by decide)
  | blockComment inside closed =>
    obtain rfl : '/' = c := Option.some.inj hc
    exact absurd hbreak (by decide)

theorem nil_of_spelled_nil {ls : List Lexeme} (h : spelled ls = []) : ls = [] := by
  cases ls with
  | nil => rfl
  | cons l ls =>
    rw [spelled_cons, List.append_eq_nil_iff] at h
    exact absurd h.1 (text_ne_nil l)

/-- Where trimming a lexeme changes it, it ends with its line or with the text. -/
theorem blankUntilCode_of_trimmed {l : Lexeme} {ls : List Lexeme} (hls : Lexed true ls)
    (hends : l.EndsBefore true (spelled ls)) (htrim : l.trimmed ≠ l) :
    blankUntilCode (ls.flatMap marked) = true := by
  cases l with
  | code c => exact absurd rfl htrim
  | literal quote inside closed =>
    cases closed with
    | true => exact absurd rfl htrim
    | false =>
      rw [nil_of_spelled_nil (hends rfl)]
      rfl
  | lineComment inside =>
    cases ls with
    | nil => rfl
    | cons m ms =>
      obtain ⟨c, more, htext⟩ := List.exists_cons_of_ne_nil (text_ne_nil m)
      have hhead : c ∈ (spelled (m :: ms)).head? := by
        rw [spelled_cons, htext]
        rfl
      have hm : m = code c :=
        eq_code_of_isLineBreak hls.1 (by rw [htext]; rfl) (hends c hhead)
      rw [hm]
      rfl
  | blockComment inside closed =>
    cases closed with
    | true => exact absurd rfl htrim
    | false =>
      rw [nil_of_spelled_nil (hends rfl)]
      rfl

theorem significantMarks_lexeme {l : Lexeme} {ls : List Lexeme} (hls : Lexed true (l :: ls))
    (hgap : l.isGap = false) :
    significantMarks (l.marked ++ ls.flatMap marked)
      = l.trimmed.marked ++ significantMarks (ls.flatMap marked) := by
  obtain ⟨hwhole, hends, hrest⟩ := hls
  by_cases hcode : l.region = .code
  · cases l with
    | code c =>
      have hc : isBlank c = false := hgap
      simp [marked, text, trimmed, significantMarks, hc]
    | literal quote inside closed => exact absurd hcode (by simp [region])
    | lineComment inside => exact absurd hcode (by simp [region])
    | blockComment inside closed => exact absurd hcode (by simp [region])
  · rw [marked, significantMarks_run hcode, marked, trimmed_region, trimmed_text hwhole hgap]
    by_cases htrim : l.trimmed = l
    · have hsame : l.text.trimRight = l.text := by
        rw [← trimmed_text hwhole hgap, htrim]
      rw [hsame, ite_self]
    · rw [if_pos (blankUntilCode_of_trimmed hrest hends htrim)]

theorem significantMarks_lexed {ls : List Lexeme} (hls : Lexed true ls) :
    significantMarks (ls.flatMap marked) = (significant ls).flatMap marked := by
  induction ls with
  | nil => rfl
  | cons l ls ih =>
    rw [List.flatMap_cons]
    cases hl : l.isGap with
    | true =>
      obtain ⟨c, rfl, hc⟩ := eq_code_of_isGap hl
      rw [significant_gap hl, ← ih hls.2.2]
      simp [marked, text, region, significantMarks, hc]
    | false =>
      rw [significantMarks_lexeme hls hl, ih hls.2.2, significant_lexeme hl, List.flatMap_cons]

/-- A scan picks out the characters of the significant lexemes. -/
theorem significantMarks_scan (text : Text) :
    significantMarks (scan true text) = (significant (lexemes true text)).flatMap marked := by
  rw [scan_eq_marked, significantMarks_lexed (lexed_lexemes true text)]

end SourceText
