import SourceText.Console.Page
import SourceText.Proofs.Text.Raw
import SourceText.Proofs.Text.Split

/-!
# The text of a program on the page

A program stands on the page character by character and line by line, however long a line is and
whatever would be a tag in a message. Only tabulators are replaced and some control characters left
out, so that the page has the text itself just when there are none of them (`Shown.eq_iff`).
-/

namespace SourceText.Console
open Text

/-- Whether a character stays what it is on a page. -/
def isPlain (c : Char) : Bool := c != '\t' && !isStripped c

/-- How a text stands on a page, from a column of a line on. -/
inductive Shown : (column : Nat) → (text page : Text) → Prop where
  /-- A line feed ends the page. -/
  | nil (column : Nat) : Shown column [] ['\n']
  | lineFeed {text page : Text} (column : Nat) :
    Shown 0 text page → Shown column ('\n' :: text) ('\n' :: page)
  | stripped {column : Nat} {c : Char} {text page : Text} :
    isStripped c = true → Shown column text page → Shown column (c :: text) page
  /-- Spaces lead to the next stop. -/
  | tab {column count : Nat} {text page : Text} :
    0 < count → count ≤ tabSize → tabSize ∣ column + count → Shown (column + count) text page →
    Shown column ('\t' :: text) (List.replicate count ' ' ++ page)
  | char {column : Nat} {c : Char} {text page : Text} :
    c ≠ '\n' → isPlain c = true → Shown (column + Unicode.charWidth c) text page →
    Shown column (c :: text) (c :: page)

theorem isPlain_iff {c : Char} : isPlain c = true ↔ c ≠ '\t' ∧ isStripped c = false := by
  rw [isPlain, Bool.and_eq_true_iff, bne_iff_ne, Bool.not_eq_true']

theorem not_isPlain_of_isStripped {c : Char} (h : isStripped c = true) : isPlain c ≠ true := by
  rw [isPlain, h, Bool.not_true, Bool.and_false]
  exact Bool.false_ne_true

/-! ### Programs -/

theorem strip_cons (c : Char) (text : Text) :
    strip (c :: text) = if isStripped c then strip text else c :: strip text := by
  rw [strip, List.filter_cons]
  cases isStripped c <;> rfl

/-- A line feed ends the line before it. -/
theorem lines_lineFeed (text : Text) : lines ('\n' :: text) = [] :: lines text := rfl

/-- Any other character belongs to the line that is there. -/
theorem lines_cons {c : Char} (hc : c ≠ '\n') {text line : Text} {more : List Text}
    (hlines : lines text = line :: more) : lines (c :: text) = (c :: line) :: more := by
  rw [lines] at hlines ⊢
  rw [splitOn, if_neg (by simpa using hc), hlines]

theorem exists_cons_lines (text : Text) : ∃ line more, lines text = line :: more :=
  exists_cons_splitOn (· = '\n') text

/-- A tabulator at a column stands for the spaces to the next stop. -/
theorem shown_tabSpaces {column : Nat} {text page : Text}
    (h : Shown (column + (tabSize - column % tabSize)) text page) :
    Shown column ('\t' :: text) (tabSpaces column ++ page) := by
  have hmod : column % tabSize < tabSize := Nat.mod_lt _ (by decide)
  have hcolumn : column % tabSize + tabSize * (column / tabSize) = column :=
    Nat.mod_add_div column tabSize
  refine .tab (by omega) (by omega) ⟨column / tabSize + 1, ?_⟩ h
  rw [Nat.mul_add]
  omega

/-- From a column on: the first line goes on there, the others start anew. -/
theorem shown_expandFrom (column : Nat) {text line : Text} {more : List Text}
    (hlines : lines (strip text) = line :: more) :
    Shown column text (expandFrom column line ++ '\n' :: ended (more.map expandTabs)) := by
  induction text generalizing column line more with
  | nil =>
    obtain ⟨rfl, rfl⟩ := List.cons.inj hlines
    exact .nil column
  | cons c text ih =>
    rw [strip_cons] at hlines
    cases hc : isStripped c with
    | true =>
      rw [hc, if_pos rfl] at hlines
      exact .stripped hc (ih column hlines)
    | false =>
      rw [hc, if_neg Bool.false_ne_true] at hlines
      obtain ⟨first, others, hfirst⟩ := exists_cons_lines (strip text)
      by_cases hfeed : c = '\n'
      · subst hfeed
        rw [lines_lineFeed, hfirst] at hlines
        obtain ⟨rfl, rfl⟩ := List.cons.inj hlines
        have hrest := ih 0 hfirst
        rw [← List.singleton_append, ← List.append_assoc] at hrest
        exact .lineFeed column hrest
      · rw [lines_cons hfeed hfirst] at hlines
        obtain ⟨rfl, rfl⟩ := List.cons.inj hlines
        rw [expandFrom]
        by_cases htab : c = '\t'
        · subst htab
          rw [if_pos rfl, List.append_assoc]
          exact shown_tabSpaces (ih _ hfirst)
        · rw [if_neg htab]
          exact .char hfeed (isPlain_iff.mpr ⟨htab, hc⟩) (ih _ hfirst)

theorem shown_program (text : Text) : Shown 0 text (program text) := by
  obtain ⟨line, more, hlines⟩ := exists_cons_lines (strip text)
  have hshown := shown_expandFrom 0 hlines
  rw [program, hlines, List.map_cons, ended, List.flatMap_cons, List.append_assoc]
  exact hshown

/-! ### What is on the page -/

/-- There is one number of spaces that leads to the next stop. -/
theorem stop_unique {column m n : Nat} (hm : 0 < m) (hmstop : m ≤ tabSize)
    (hmdvd : tabSize ∣ column + m) (hn : 0 < n) (hnstop : n ≤ tabSize)
    (hndvd : tabSize ∣ column + n) : m = n := by
  unfold tabSize at *
  omega

theorem Shown.unique {column : Nat} {text page other : Text} (h : Shown column text page)
    (hother : Shown column text other) : other = page := by
  induction h generalizing other with
  | nil column =>
    cases hother
    rfl
  | lineFeed column _ ih =>
    cases hother with
    | lineFeed _ hrest => rw [ih hrest]
    | stripped hc _ => exact absurd hc (by decide)
    | char hc _ _ => exact absurd rfl hc
  | stripped hc _ ih =>
    cases hother with
    | lineFeed _ _ => exact absurd hc (by decide)
    | stripped _ hrest => exact ih hrest
    | tab _ _ _ _ => exact absurd hc (by decide)
    | char _ hplain _ => exact absurd hplain (not_isPlain_of_isStripped hc)
  | tab hcount hstop hdvd _ ih =>
    cases hother with
    | stripped hc _ => exact absurd hc (by decide)
    | tab hcount' hstop' hdvd' hrest =>
      obtain rfl := stop_unique hcount hstop hdvd hcount' hstop' hdvd'
      rw [ih hrest]
    | char _ hplain _ => exact absurd hplain (by decide)
  | char hfeed hplain _ ih =>
    cases hother with
    | lineFeed _ _ => exact absurd rfl hfeed
    | stripped hc _ => exact absurd hplain (not_isPlain_of_isStripped hc)
    | tab _ _ _ _ => exact absurd hplain (by decide)
    | char _ _ hrest => rw [ih hrest]

/-- A program is put on the page in the one way that a text stands there. -/
theorem shown_iff {text page : Text} : Shown 0 text page ↔ page = program text := by
  constructor
  · exact fun h => (shown_program text).unique h
  · rintro rfl
    exact shown_program text

theorem Shown.isPlain_page {column : Nat} {text page : Text} (h : Shown column text page) :
    ∀ c ∈ page, isPlain c = true := by
  induction h with
  | nil column => exact List.forall_mem_singleton.mpr (by decide)
  | lineFeed column _ ih => exact List.forall_mem_cons.mpr ⟨by decide, ih⟩
  | stripped _ _ ih => exact ih
  | tab _ _ _ _ ih =>
    intro c hc
    rcases List.mem_append.mp hc with hc | hc
    · rw [List.eq_of_mem_replicate hc]
      decide
    · exact ih c hc
  | char _ hplain _ ih => exact List.forall_mem_cons.mpr ⟨hplain, ih⟩

theorem Shown.eq_of_isPlain {column : Nat} {text page : Text} (h : Shown column text page)
    (hplain : ∀ c ∈ text, isPlain c = true) : page = text ++ ['\n'] := by
  induction h with
  | nil column => rfl
  | lineFeed column _ ih => rw [ih (List.forall_mem_cons.mp hplain).2, List.cons_append]
  | stripped hc _ _ =>
    exact absurd (List.forall_mem_cons.mp hplain).1 (not_isPlain_of_isStripped hc)
  | tab _ _ _ _ _ => exact absurd (List.forall_mem_cons.mp hplain).1 (by decide)
  | char _ _ _ ih => rw [ih (List.forall_mem_cons.mp hplain).2, List.cons_append]

/-- The page has a text as it is, with a line feed after it, just when every character stays what
it is. -/
theorem Shown.eq_iff {column : Nat} {text page : Text} (h : Shown column text page) :
    page = text ++ ['\n'] ↔ ∀ c ∈ text, isPlain c = true := by
  constructor
  · rintro rfl
    exact fun c hc => h.isPlain_page c (List.mem_append_left _ hc)
  · exact h.eq_of_isPlain

/-- Whether a console puts the text of a program on the page in this way. -/
def Rules.Renders (console : Rules) (text : Text) : Prop :=
  ∀ page, console.program text.raw = some page ↔ Shown 0 text page

theorem Rules.renders_plain (text : Text) : Rules.plain.Renders text := by
  intro page
  have hprogram : Rules.plain.program text.raw = some (Console.program text) :=
    congrArg (Option.map Console.program) (RawText.text?_raw text)
  rw [hprogram, Option.some.injEq, shown_iff, eq_comm]

/-- What would be a tag in a message is part of a program, and wide characters count for stops. -/
example : program "[b]\t漢\ta\u000cb".toList = "[b]     漢      ab\n".toList := by
  decide +kernel

end SourceText.Console
