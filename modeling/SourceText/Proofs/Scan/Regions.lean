import SourceText.Proofs.Scan.Lexeme

/-!
# A scan gives every character the region of its lexeme

The scan carries a context from one character to the next, with one character of lookahead and one
of lookbehind. Between two lexemes none of that matters (`ScansTo`), so the scan of a text is put
together from the scans of its lexemes.
-/

namespace SourceText
open Lexeme

/-- The characters and regions of `text`, scanned from `cursor` on after the character
`previous?`. -/
def scanFrom (track : Bool) (previous? : Option Char) (cursor : Cursor) (text : Text) :
    List (Char × Region) :=
  (Scan.marksFrom track previous? cursor text).map fun mark => (mark.char, mark.region)

theorem scanFrom_cons (track : Bool) (previous? : Option Char) (cursor : Cursor) (c : Char)
    (rest : Text) :
    scanFrom track previous? cursor (c :: rest)
      = (c, (Scan.step track cursor.position previous? cursor.context c rest.head?).2) ::
        scanFrom track (some c) ⟨cursor.position + 1,
          (Scan.step track cursor.position previous? cursor.context c rest.head?).1⟩ rest := rfl

/-- Between literals and comments, `text` is scanned to `out` whatever came before it. -/
def ScansTo (track : Bool) (text : Text) (out : List (Char × Region)) : Prop :=
  ∀ previous? position, scanFrom track previous? ⟨position, .code⟩ text = out

theorem scansTo_nil (track : Bool) : ScansTo track [] [] := fun _ _ => rfl

/-! ### From within a lexeme to its end -/

theorem scanFrom_literal (track : Bool) {quote : Char} (hquote : quote ≠ '\\') (text : Text)
    {out : List (Char × Region)}
    (hout : ScansTo track ((cutLiteral quote text).2.getD []) out) (template : Bool)
    (previous? : Option Char) (position : Nat) :
    scanFrom track previous? ⟨position, .literal quote template false⟩ text
      = ((cutLiteral quote text).1 ++ if (cutLiteral quote text).2.isSome then [quote] else []).map
          (fun c => (c, Region.literal)) ++ out := by
  fun_induction cutLiteral quote text generalizing template previous? position with
  | case1 => exact hout previous? position
  | case2 c rest inside after? hcut ih =>
    rw [hcut] at ih
    rw [scanFrom_cons, scanFrom_cons]
    simp only [Scan.step, Scan.literalStep, if_true, Bool.false_eq_true, if_false]
    rw [ih hout]
    rfl
  | case3 rest hescape =>
    rw [scanFrom_cons]
    simp only [Scan.step, Scan.literalStep, hquote, Bool.false_eq_true, if_false, if_true]
    exact congrArg ((quote, Region.literal) :: ·) (hout (some quote) (position + 1))
  | case4 c rest hescape hc inside after? hcut ih =>
    rw [hcut] at ih
    rw [scanFrom_cons]
    by_cases hb : c = '\\'
    · -- A backslash at the end of the text takes nothing with it.
      cases rest with
      | cons d more => exact absurd rfl (hescape d more hb)
      | nil =>
        obtain ⟨rfl, rfl⟩ := Prod.mk.inj (hcut.symm.trans (by rw [cutLiteral]))
        obtain rfl : [] = out := hout previous? position
        rfl
    · simp only [Scan.step, Scan.literalStep, hb, hc, Bool.false_eq_true, if_false]
      rw [ih hout]
      rfl

/-- The slash that closes a block comment needs an asterisk before it that is not the one of the
opening. So nothing is closed while the scan stands behind the opening, or behind a character that
is no asterisk, or before a character that is no slash. -/
def KeepsOpen (start position : Nat) (previous? : Option Char) (text : Text) : Prop :=
  ¬ (text.head? = some '/' ∧ previous? = some '*' ∧ start + 3 ≤ position)

theorem scanFrom_blockComment (track : Bool) (start : Nat) (text : Text)
    {out : List (Char × Region)} (hout : ScansTo track ((cutBlock text).2.getD []) out)
    (previous? : Option Char) (position : Nat) (hstart : start + 2 ≤ position)
    (hopen : KeepsOpen start position previous? text) :
    scanFrom track previous? ⟨position, .blockComment start⟩ text
      = ((cutBlock text).1 ++ if (cutBlock text).2.isSome then ['*', '/'] else []).map
          (fun c => (c, Region.comment)) ++ out := by
  fun_induction cutBlock text generalizing previous? position with
  | case1 => exact hout previous? position
  | case2 rest =>
    have hclose : start + 3 ≤ position + 1 := by omega
    rw [scanFrom_cons, scanFrom_cons]
    simp only [Scan.step, hclose, decide_true, beq_self_eq_true, Bool.and_self, if_true,
      show ('*' == '/') = false from rfl, Bool.false_and, Bool.false_eq_true, if_false]
    exact congrArg (fun more => ('*', Region.comment) :: ('/', Region.comment) :: more)
      (hout (some '/') (position + 1 + 1))
  | case3 c rest hclose inside after? hcut ih =>
    rw [hcut] at ih
    have hstays : (c == '/' && previous? == some '*' && decide (start + 3 ≤ position)) = false := by
      by_contra hn
      simp only [Bool.not_eq_false, Bool.and_eq_true, beq_iff_eq, decide_eq_true_eq] at hn
      exact hopen ⟨congrArg some hn.1.1, hn.1.2, hn.2⟩
    have hnext : KeepsOpen start (position + 1) (some c) rest := by
      rintro ⟨hslash, hstar, -⟩
      cases rest with
      | nil => exact absurd hslash (by simp)
      | cons d more =>
        simp only [List.head?_cons, Option.some.injEq] at hslash hstar
        exact hclose more hstar (by rw [hslash])
    rw [scanFrom_cons]
    simp only [Scan.step, hstays, Bool.false_eq_true, if_false]
    rw [ih hout (some c) (position + 1) (by omega) hnext]
    rfl

theorem scanFrom_lineComment (track : Bool) (text : Text) {out : List (Char × Region)}
    (hout : ScansTo track (text.dropWhile (!isLineBreak ·)) out) (previous? : Option Char)
    (position : Nat) :
    scanFrom track previous? ⟨position, .lineComment⟩ text
      = (text.takeWhile (!isLineBreak ·)).map (fun c => (c, Region.comment)) ++ out := by
  induction text generalizing previous? position with
  | nil => exact hout previous? position
  | cons c rest ih =>
    by_cases hc : isLineBreak c = true
    · -- A line break is read as code whether or not a line comment ends with it.
      have hcode := hout previous? position
      simp only [List.dropWhile_cons, List.takeWhile_cons, hc, Bool.not_true, Bool.false_eq_true,
        if_false, scanFrom_cons, Scan.step, Scan.codeStep_lineBreak track _ _ hc,
        if_true] at hcode ⊢
      exact hcode
    · have hc' : isLineBreak c = false := by simpa using hc
      simp only [List.dropWhile_cons, hc', Bool.not_false, if_true] at hout
      rw [scanFrom_cons]
      simp only [Scan.step, List.takeWhile_cons, hc', Bool.false_eq_true, if_false, Bool.not_false,
        if_true]
      rw [ih hout]
      rfl

/-! ### Lexeme by lexeme -/

/-- One lexeme is scanned to its own characters and region, and what follows it is scanned on its
own. -/
theorem scansTo_cutFirst (track : Bool) (c : Char) (rest : Text) {out : List (Char × Region)}
    (hout : ScansTo track (cutFirst track c rest).2 out) :
    ScansTo track (c :: rest) ((cutFirst track c rest).1.marked ++ out) := by
  intro previous? position
  rcases cutFirst_cases track c rest with
    ⟨more, rfl, rfl, rfl⟩ | ⟨more, rfl, rfl, rfl⟩ | hquote | hcode
  · rw [cutFirst_lineComment] at hout ⊢
    rw [scanFrom_cons, scanFrom_cons]
    exact congrArg _ (congrArg _ (scanFrom_lineComment true more hout (some '/') (position + 1 + 1)))
  · rw [cutFirst_blockComment] at hout ⊢
    have hopen : KeepsOpen position (position + 1 + 1) (some '*') more := by
      rintro ⟨-, -, hle⟩
      omega
    rw [scanFrom_cons, scanFrom_cons]
    exact congrArg _ (congrArg _ (scanFrom_blockComment true position more hout (some '*')
      (position + 1 + 1) (by omega) hopen))
  · rw [cutFirst_literal track hquote] at hout ⊢
    have hescape : c ≠ '\\' := by
      rintro rfl
      exact absurd hquote (by decide)
    rw [scanFrom_cons]
    simp only [Scan.step, Scan.codeStep_quote track _ _ hquote]
    exact congrArg _ (scanFrom_literal track hescape rest hout (isTemplateQuote c) (some c)
      (position + 1))
  · rw [cutFirst_code hcode] at hout ⊢
    rw [scanFrom_cons]
    simp only [Scan.step, Scan.codeStep_plain position hcode.1 hcode.2]
    exact congrArg _ (hout (some c) (position + 1))

theorem scansTo_lexemes (track : Bool) (text : Text) :
    ScansTo track text ((lexemes track text).flatMap marked) := by
  induction text using lexemes.induct track with
  | case1 =>
    rw [lexemes]
    exact scansTo_nil track
  | case2 c rest ih =>
    rw [lexemes, List.flatMap_cons]
    exact scansTo_cutFirst track c rest ih

theorem scan_eq_marked (track : Bool) (text : Text) :
    scan track text = (lexemes track text).flatMap marked :=
  scansTo_lexemes track text none 0

/-- A scan yields the characters of the text in order, each with the region of the lexeme that it
belongs to when whole lexemes are read from left to right. -/
theorem scan_follows_lexemes (track : Bool) (text : Text) :
    (scan track text).map (·.1) = text ∧
      scan track text = (lexemes track text).flatMap marked :=
  ⟨chars_scan track text, scan_eq_marked track text⟩

end SourceText
