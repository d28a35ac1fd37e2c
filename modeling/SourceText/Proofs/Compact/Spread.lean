import Mathlib.Data.List.DropRight
import SourceText.Proofs.Compact.Squeeze

/-!
# What collapsing keeps

The visible characters of a text are those of its literals and those of code that are not blank. A
collapsed text has them in order and in their regions, side by side where they were neighbours and
with one space of code between them elsewhere, and it has nothing else
(`scan_collapse_spreads_visible`). Scanning the collapsed text is what shows this: no comment comes
about and no literal is opened or closed.
-/

namespace SourceText

namespace Compact

/-- A scanned character and its place in the text. -/
abbrev Placed := (Char × Region) × Nat

/-- Whether a scanned character belongs to a literal, or to code and is not blank. -/
def isVisible (mark : Char × Region) : Bool :=
  mark.2 == .literal || (mark.2 == .code && !isBlank mark.1)

/-- The visible ones among scanned characters, the first of which stands at `place`. -/
def visibleFrom (place : Nat) (marks : List (Char × Region)) : List Placed :=
  (marks.zipIdx place).filter fun placed => isVisible placed.1

/-- Whether a scanned character is blank. -/
def isBlankPlaced (placed : Placed) : Bool := isBlank placed.1.1

/-- A space of code. -/
def space : Char × Region := (' ', .code)

/-- Scanned characters side by side where they were neighbours, and with one space of code between
them elsewhere. `next?` is the place right behind the character before the first. -/
def spreadFrom (next? : Option Nat) : List Placed → List (Char × Region)
  | [] => []
  | (mark, place) :: rest =>
    (if next?.all (· == place) then [] else [space]) ++ mark :: spreadFrom (some (place + 1)) rest

end Compact

open SourceText.Compact Lexeme

/-- Whether the text ends inside a literal. -/
def leavesLiteralOpen (text : Text) : Bool :=
  (lexemes true text).getLast?.any fun l => l.region == .literal && l.isOpen

/-- The visible characters of a text with their places. The blanks at the end of a literal that is
left open are not among them. -/
def visible (text : Text) : List Placed :=
  let found := visibleFrom 0 (scan true text)
  if leavesLiteralOpen text then found.rdropWhile isBlankPlaced else found

namespace Compact

/-! ### Runs of scanned characters -/

theorem visibleFrom_append (place : Nat) (a b : List (Char × Region)) :
    visibleFrom place (a ++ b) = visibleFrom place a ++ visibleFrom (place + a.length) b := by
  rw [visibleFrom, List.zipIdx_append, List.filter_append, visibleFrom, visibleFrom]

theorem visibleFrom_hidden {a : List (Char × Region)} (h : ∀ mark ∈ a, isVisible mark = false)
    (place : Nat) : visibleFrom place a = [] := by
  rw [visibleFrom, List.filter_eq_nil_iff]
  intro placed hplaced
  rw [h placed.1 (List.fst_mem_of_mem_zipIdx hplaced)]
  exact Bool.false_ne_true

theorem visibleFrom_shown {a : List (Char × Region)} (h : ∀ mark ∈ a, isVisible mark = true)
    (place : Nat) : visibleFrom place a = a.zipIdx place := by
  rw [visibleFrom, List.filter_eq_self]
  intro placed hplaced
  exact h placed.1 (List.fst_mem_of_mem_zipIdx hplaced)

theorem spreadFrom_neighbours (a : List (Char × Region)) (place : Nat) (rest : List Placed) :
    spreadFrom (some place) (a.zipIdx place ++ rest)
      = a ++ spreadFrom (some (place + a.length)) rest := by
  induction a generalizing place with
  | nil => rfl
  | cons mark a ih =>
    rw [List.zipIdx_cons, List.cons_append, spreadFrom, ih, List.length_cons]
    simp [Nat.add_assoc, Nat.add_comm 1]

theorem spreadFrom_run {a : List (Char × Region)} (ha : a ≠ []) (next? : Option Nat) (place : Nat)
    (rest : List Placed) :
    spreadFrom next? (a.zipIdx place ++ rest)
      = (if next?.all (· == place) then [] else [space]) ++ a
        ++ spreadFrom (some (place + a.length)) rest := by
  obtain ⟨mark, more, rfl⟩ := List.exists_cons_of_ne_nil ha
  rw [List.zipIdx_cons, List.cons_append, spreadFrom, spreadFrom_neighbours, List.length_cons]
  simp [Nat.add_assoc, Nat.add_comm 1]

/-! ### What the collapsing remembers -/

/-- What `started` and `gap` say about the place right behind the latest character that has been
written, when the next one stands at `place`. -/
def Remembers (next? : Option Nat) (place : Nat) (started gap : Bool) : Prop :=
  match next? with
  | none => started = false
  | some next => started = true ∧ next ≤ place ∧ (gap = false ↔ next = place)

theorem Remembers.skip {next? : Option Nat} {place : Nat} {started gap : Bool}
    (h : Remembers next? place started gap) {count : Nat} (hcount : 0 < count) :
    Remembers next? (place + count) started true := by
  cases next? with
  | none => exact h
  | some next =>
    obtain ⟨hstarted, hle, -⟩ := h
    refine ⟨hstarted, by omega, ?_⟩
    constructor
    · intro hgap
      exact absurd hgap (by decide)
    · intro hplace
      omega

theorem remembers_written (place : Nat) : Remembers (some place) place true false :=
  ⟨rfl, le_rfl, iff_of_true rfl rfl⟩

theorem Remembers.lead {next? : Option Nat} {place : Nat} {started gap : Bool}
    (h : Remembers next? place started gap) :
    (if next?.all (· == place) then [] else [space])
      = if started && gap then [space] else [] := by
  cases next? with
  | none =>
    obtain rfl : started = false := h
    rfl
  | some next =>
    obtain ⟨rfl, -, hgap⟩ := h
    cases gap with
    | false => simp [hgap.mp rfl]
    | true =>
      have hplace : next ≠ place := fun heq => Bool.noConfusion (hgap.mpr heq)
      simp [hplace]

/-- Collapsing writes the visible characters as `spreadFrom` does. -/
theorem collapseMarks_spread (marks : List (Char × Region)) {next? : Option Nat} {place : Nat}
    {started gap : Bool} (h : Remembers next? place started gap) :
    collapseMarks started gap marks
      = (spreadFrom next? (visibleFrom place marks)).map (·.1) := by
  induction marks generalizing next? place started gap with
  | nil => rfl
  | cons mark rest ih =>
    obtain ⟨c, region⟩ := mark
    have hsplit : visibleFrom place ((c, region) :: rest)
        = visibleFrom place [(c, region)] ++ visibleFrom (place + 1) rest :=
      visibleFrom_append place [(c, region)] rest
    rw [hsplit]
    cases hvisible : isVisible (c, region) with
    | false =>
      have hskip : (region = .comment || (region = .code && isBlank c)) = true := by
        cases region <;> simp_all [isVisible]
      rw [collapseMarks, if_pos hskip, visibleFrom_hidden (by simpa using hvisible), List.nil_append]
      exact ih (h.skip (by decide))
    | true =>
      have hkeep : (region = .comment || (region = .code && isBlank c)) = false := by
        cases region <;> simp_all [isVisible]
      rw [collapseMarks, if_neg (by rw [hkeep]; decide), visibleFrom_shown (by simpa using hvisible),
        spreadFrom_run (List.cons_ne_nil _ _), h.lead, ih (remembers_written (place + 1))]
      cases started <;> cases gap <;> rfl

/-! ### Blanks at the end -/

theorem rdropWhile_append {a : List Placed} (h : ∃ last ∈ a.getLast?, isBlankPlaced last = false)
    (b : List Placed) :
    (a ++ b).rdropWhile isBlankPlaced = a ++ b.rdropWhile isBlankPlaced := by
  have ha : a.rdropWhile isBlankPlaced = a := by
    rw [List.rdropWhile_eq_self_iff]
    intro hne
    obtain ⟨last, hlast, hblank⟩ := h
    rw [List.getLast?_eq_some_getLast hne] at hlast
    rw [Option.some.inj hlast, hblank]
    exact Bool.false_ne_true
  rw [List.rdropWhile, List.reverse_append, List.dropWhile_append]
  cases hb : (b.reverse.dropWhile isBlankPlaced).isEmpty with
  | true =>
    rw [if_pos rfl, List.rdropWhile, List.isEmpty_iff.mp hb, List.reverse_nil, List.append_nil]
    exact ha
  | false => rw [if_neg Bool.false_ne_true, List.reverse_append, List.reverse_reverse, List.rdropWhile]

theorem rdropWhile_append_blanks (a : List Placed) {b : List Placed}
    (hb : ∀ placed ∈ b, isBlankPlaced placed = true) :
    (a ++ b).rdropWhile isBlankPlaced = a.rdropWhile isBlankPlaced := by
  have hnone : b.reverse.dropWhile isBlankPlaced = [] :=
    List.dropWhile_eq_nil_iff.mpr fun placed hplaced => hb placed (List.mem_reverse.mp hplaced)
  rw [List.rdropWhile, List.reverse_append, List.dropWhile_append, hnone, List.isEmpty_nil,
    if_pos rfl, List.rdropWhile]

/-- What is written after the last character that is not blank is blank. -/
theorem isAllBlank_spreadFrom (next? : Option Nat) {b : List Placed}
    (hb : ∀ placed ∈ b, isBlankPlaced placed = true) :
    Text.isAllBlank ((spreadFrom next? b).map (·.1)) = true := by
  induction b generalizing next? with
  | nil => rfl
  | cons placed b ih =>
    have hplaced : isBlank placed.1.1 = true := hb placed (List.mem_cons_self ..)
    have hrest := ih (some (placed.2 + 1)) fun q hq => hb q (List.mem_cons_of_mem placed hq)
    rw [spreadFrom, List.map_append]
    refine Text.isAllBlank_append ?_ ?_
    · cases next?.all (· == placed.2) <;> rfl
    · rw [List.map_cons, Text.isAllBlank, List.all_cons, hplaced]
      exact hrest

theorem spreadFrom_append (next? : Option Nat) (a b : List Placed) :
    ∃ next', spreadFrom next? (a ++ b) = spreadFrom next? a ++ spreadFrom next' b := by
  induction a generalizing next? with
  | nil => exact ⟨next?, rfl⟩
  | cons placed a ih =>
    obtain ⟨next', hrest⟩ := ih (some (placed.2 + 1))
    refine ⟨next', ?_⟩
    rw [List.cons_append, spreadFrom, spreadFrom, hrest, List.append_assoc, List.cons_append]

/-! ### Lexemes among the visible characters -/

theorem isVisible_marked {l : Lexeme} (hgap : l.isGap = false) (hcomment : l.region ≠ .comment) :
    ∀ mark ∈ l.marked, isVisible mark = true := by
  intro mark hmark
  obtain ⟨c, hc, rfl⟩ := List.mem_map.mp hmark
  cases l with
  | code d =>
    rw [List.mem_singleton.mp hc]
    have hd : isBlank d = false := hgap
    simp [isVisible, region, hd]
  | literal quote inside closed => rfl
  | lineComment inside => exact absurd rfl hcomment
  | blockComment inside closed => exact absurd rfl hcomment

theorem isVisible_gap {l : Lexeme} (hgap : l.isGap = true) :
    ∀ mark ∈ l.marked, isVisible mark = false := by
  obtain ⟨c, rfl, hc⟩ := eq_code_of_isGap hgap
  intro mark hmark
  rw [List.mem_singleton.mp hmark]
  simp [isVisible, region, hc]

theorem isVisible_comment {l : Lexeme} (hcomment : l.region = .comment) :
    ∀ mark ∈ l.marked, isVisible mark = false := by
  intro mark hmark
  obtain ⟨c, -, rfl⟩ := List.mem_map.mp hmark
  rw [isVisible, hcomment]
  rfl

theorem last_marked {l : Lexeme} (hsolid : Text.Solid l.text) (place : Nat) :
    ∃ last ∈ (l.marked.zipIdx place).getLast?, isBlankPlaced last = false := by
  obtain ⟨c, hc, hblank⟩ := hsolid.last
  refine ⟨((c, l.region), place + l.marked.length - 1), ?_, hblank⟩
  rw [List.getLast?_zipIdx, marked, List.getLast?_map, Option.mem_def.mp hc]
  rfl

/-- Nothing but the blanks at the end of an open lexeme is cut off. -/
theorem rdropWhile_lexeme {l : Lexeme} (hwhole : l.Whole true) (hgap : l.isGap = false)
    (hcomment : l.region ≠ .comment) {rest : List Placed} (hopen : l.isOpen = true → rest = [])
    (place : Nat) :
    (l.marked.zipIdx place ++ rest).rdropWhile isBlankPlaced
      = l.trimmed.marked.zipIdx place ++ rest.rdropWhile isBlankPlaced := by
  have hlast := last_marked (trimmed_solid hwhole hgap) place
  cases hopened : l.isOpen with
  | false => rw [← trimmed_of_not_open hcomment hopened, trimmed_trimmed, rdropWhile_append hlast]
  | true =>
    obtain rfl := hopen hopened
    have hmarked : l.marked = l.trimmed.marked ++ l.text.endBlanks.map fun c => (c, l.region) := by
      rw [marked, marked, trimmed_region, ← List.map_append, trimmed_append_endBlanks hwhole hgap]
    have hblanks : ∀ placed ∈ (l.text.endBlanks.map fun c => (c, l.region)).zipIdx
        (place + l.trimmed.marked.length), isBlankPlaced placed = true := by
      intro placed hplaced
      obtain ⟨c, hc, hmark⟩ := List.mem_map.mp (List.fst_mem_of_mem_zipIdx hplaced)
      rw [isBlankPlaced, ← hmark]
      exact List.all_eq_true.mp (Text.isAllBlank_endBlanks l.text) c hc
    have hcut : (l.trimmed.marked.zipIdx place).rdropWhile isBlankPlaced
        = l.trimmed.marked.zipIdx place := by
      have happend := rdropWhile_append hlast []
      rwa [List.append_nil, List.rdropWhile_nil, List.append_nil] at happend
    rw [List.append_nil, hmarked, List.zipIdx_append, rdropWhile_append_blanks _ hblanks, hcut,
      List.rdropWhile_nil, List.append_nil]

/-! ### The visible characters of a text -/

/-- The visible characters of lexemes are spread as squeezing their pieces puts them. -/
theorem spreadFrom_squeeze {ls : List Lexeme} (hls : Lexed true ls) {gap : Text}
    {next? : Option Nat} {place : Nat} {started comment : Bool}
    (h : Remembers next? place started (comment || !gap.isEmpty)) :
    spreadFrom next? ((visibleFrom place (ls.flatMap Lexeme.marked)).rdropWhile isBlankPlaced)
      = (squeeze started comment (Piece.collect gap ls).1).flatMap Piece.marked := by
  induction ls generalizing gap next? place started comment with
  | nil => rfl
  | cons l ls ih =>
    obtain ⟨hwhole, hends, hrest⟩ := hls
    have hlength : 0 < l.marked.length := List.length_pos_iff.mpr (marked_ne_nil l)
    rw [List.flatMap_cons, visibleFrom_append]
    cases hgap : l.isGap with
    | true =>
      have hnext : (comment || !(gap ++ l.text).isEmpty) = true := by simp [text_ne_nil l]
      rw [collect_gap hgap, visibleFrom_hidden (isVisible_gap hgap), List.nil_append]
      refine ih hrest ?_
      rw [hnext]
      exact h.skip hlength
    | false =>
      rw [collect_lexeme hgap]
      by_cases hcomment : l.region = .comment
      · rw [squeeze_comment (by rw [trimmed_region]; exact hcomment),
          visibleFrom_hidden (isVisible_comment hcomment), List.nil_append]
        exact ih hrest (h.skip hlength)
      · have hopen : l.isOpen = true → ls = [] := fun hopened =>
          nil_of_spelled_nil (nil_of_isOpen hopened hends)
        have hrun : spreadFrom (some (place + l.trimmed.marked.length))
              ((visibleFrom (place + l.marked.length) (ls.flatMap Lexeme.marked)).rdropWhile
                isBlankPlaced)
            = (squeeze true false (Piece.collect l.text.endBlanks ls).1).flatMap Piece.marked := by
          cases hopened : l.isOpen with
          | true =>
            rw [hopen hopened]
            rfl
          | false =>
            have htrimmed := trimmed_of_not_open hcomment hopened
            have hsolid := trimmed_solid hwhole hgap
            rw [htrimmed] at hsolid ⊢
            rw [Text.endBlanks_of_last hsolid.last]
            exact ih hrest (remembers_written _)
        have hcut : l.isOpen = true →
            visibleFrom (place + l.marked.length) (ls.flatMap Lexeme.marked) = [] := by
          intro hopened
          rw [hopen hopened]
          rfl
        rw [squeeze_kept (by rw [trimmed_region]; exact hcomment),
          visibleFrom_shown (isVisible_marked hgap hcomment),
          rdropWhile_lexeme hwhole hgap hcomment hcut, spreadFrom_run (marked_ne_nil l.trimmed),
          hrun, h.lead, List.flatMap_cons, Piece.marked]
        cases started && (comment || !gap.isEmpty) <;> rfl

/-- A text that does not end inside a literal has no blank last among its visible characters. -/
theorem rdropWhile_visibleFrom {ls : List Lexeme} (hls : Lexed true ls)
    (hlast : (ls.getLast?.any fun l => l.region == .literal && l.isOpen) = false) (place : Nat) :
    (visibleFrom place (ls.flatMap Lexeme.marked)).rdropWhile isBlankPlaced
      = visibleFrom place (ls.flatMap Lexeme.marked) := by
  induction ls generalizing place with
  | nil => rfl
  | cons l ls ih =>
    obtain ⟨hwhole, hends, hrest⟩ := hls
    have hmore : (ls.getLast?.any fun l => l.region == .literal && l.isOpen) = false := by
      cases ls with
      | nil => rfl
      | cons m ms => rwa [List.getLast?_cons_cons] at hlast
    rw [List.flatMap_cons, visibleFrom_append]
    by_cases hhidden : ∀ mark ∈ l.marked, isVisible mark = false
    · rw [visibleFrom_hidden hhidden, List.nil_append]
      exact ih hrest hmore _
    · have hgap : l.isGap = false := by
        by_contra hn
        exact hhidden (isVisible_gap (by simpa using hn))
      have hcomment : l.region ≠ .comment := fun h => hhidden (isVisible_comment h)
      have hclosed : l.isOpen = false := by
        by_contra hn
        rw [Bool.not_eq_false] at hn
        obtain rfl : ls = [] := nil_of_spelled_nil (nil_of_isOpen hn hends)
        have hliteral : l.region = .literal := by
          cases l <;> simp_all [region, isOpen]
        simp [hliteral, hn] at hlast
      have hcut : l.isOpen = true →
          visibleFrom (place + l.marked.length) (ls.flatMap Lexeme.marked) = [] := fun hn =>
        absurd (hclosed.symm.trans hn) Bool.false_ne_true
      rw [visibleFrom_shown (isVisible_marked hgap hcomment),
        rdropWhile_lexeme hwhole hgap hcomment hcut, trimmed_of_not_open hcomment hclosed,
        ih hrest hmore]

theorem visible_eq_rdropWhile (text : Text) :
    visible text = (visibleFrom 0 (scan true text)).rdropWhile isBlankPlaced := by
  rw [visible]
  cases hopen : leavesLiteralOpen text with
  | true => rfl
  | false =>
    rw [scan_eq_marked, rdropWhile_visibleFrom (lexed_lexemes true text) hopen 0]
    rfl

theorem spreadFrom_visible (text : Text) :
    spreadFrom none (visible text)
      = (squeeze false false (pieces text)).flatMap Piece.marked := by
  have hstart : Remembers none 0 false (false || !([] : Text).isEmpty) := rfl
  rw [visible_eq_rdropWhile, scan_eq_marked]
  exact spreadFrom_squeeze (lexed_lexemes true text) hstart

theorem head_squeeze (ps : List Piece) (gap : Bool) :
    ∀ p ∈ (squeeze false gap ps).head?, p.gap = [] := by
  induction ps generalizing gap with
  | nil => simp [squeeze]
  | cons p ps ih =>
    by_cases hcomment : p.lexeme.region = .comment
    · rw [squeeze_comment hcomment]
      exact ih true
    · rw [squeeze_kept hcomment]
      intro q hq
      obtain rfl := Option.some.inj hq
      rfl

/-- A collapsed text is its pieces squeezed. -/
theorem collapseCode_squeeze (text : Text) :
    collapseCode text = (squeeze false false (pieces text)).flatMap Piece.text := by
  have hps := pieces_tidy text
  have hchars : (spreadFrom none (visible text)).map (·.1)
      = (squeeze false false (pieces text)).flatMap Piece.text := by
    rw [spreadFrom_visible, List.map_flatMap]
    simp only [chars_marked]
  have hends := pieces_ends
    (fun p hp => (tidy_squeeze hps false false p hp).solid) (head_squeeze (pieces text) false)
  rw [collapseCode, collapseMarks_spread _ (show Remembers none 0 false false from rfl)]
  -- The blanks that the visible characters end with are those that trimming takes off.
  have hfound : visibleFrom 0 (scan true text)
      = visible text ++ (visibleFrom 0 (scan true text)).rtakeWhile isBlankPlaced := by
    rw [visible_eq_rdropWhile, List.rdropWhile_append_rtakeWhile]
  obtain ⟨next', hspread⟩ := spreadFrom_append none (visible text)
    ((visibleFrom 0 (scan true text)).rtakeWhile isBlankPlaced)
  rw [hfound, hspread, List.map_append, hchars]
  exact Text.trim_append_of_ends hends
    (isAllBlank_spreadFrom next' fun placed hplaced => List.mem_rtakeWhile_imp hplaced)

theorem pieces_collapseCode (text : Text) :
    pieces (collapseCode text) = squeeze false false (pieces text) := by
  rw [collapseCode_squeeze]
  exact pieces_of_apart (tidy_squeeze (pieces_tidy text) false false)
    (apart_squeeze (pieces_tidy text) (pieces_joined text) false false)

theorem scan_collapseCode (text : Text) :
    scan true (collapseCode text) = spreadFrom none (visible text) := by
  rw [spreadFrom_visible, collapseCode_squeeze]
  exact scan_of_apart (tidy_squeeze (pieces_tidy text) false false)
    (apart_squeeze (pieces_tidy text) (pieces_joined text) false false)

theorem isVisible_of_mem_visible {text : Text} {placed : Placed} (h : placed ∈ visible text) :
    isVisible placed.1 = true := by
  rw [visible_eq_rdropWhile] at h
  have hmem := (List.rdropWhile_prefix isBlankPlaced _).subset h
  exact (List.mem_filter.mp hmem).2

theorem filter_spreadFrom {vs : List Placed} (hvs : ∀ placed ∈ vs, isVisible placed.1 = true)
    (next? : Option Nat) : (spreadFrom next? vs).filter isVisible = vs.map (·.1) := by
  induction vs generalizing next? with
  | nil => rfl
  | cons placed vs ih =>
    have hplaced := hvs placed (List.mem_cons_self ..)
    have hlead : (if next?.all (· == placed.2) then [] else [space]).filter isVisible = [] := by
      cases next?.all (· == placed.2) <;> rfl
    rw [spreadFrom, List.filter_append, hlead, List.nil_append, List.filter_cons, hplaced, if_pos rfl,
      List.map_cons, ih fun q hq => hvs q (List.mem_cons_of_mem placed hq)]

theorem not_comment_spreadFrom {vs : List Placed} (hvs : ∀ placed ∈ vs, isVisible placed.1 = true)
    (next? : Option Nat) : ∀ mark ∈ spreadFrom next? vs, mark.2 ≠ .comment := by
  induction vs generalizing next? with
  | nil => simp [spreadFrom]
  | cons placed vs ih =>
    have hplaced := hvs placed (List.mem_cons_self ..)
    intro mark hmark
    rw [spreadFrom, List.mem_append, List.mem_cons] at hmark
    rcases hmark with hspace | rfl | hmark
    · cases hnext : next?.all (· == placed.2) with
      | true =>
        rw [hnext, if_pos rfl] at hspace
        exact absurd hspace List.not_mem_nil
      | false =>
        rw [hnext, if_neg Bool.false_ne_true] at hspace
        rw [List.mem_singleton.mp hspace]
        decide
    · intro hcomment
      rw [isVisible, hcomment] at hplaced
      exact Bool.false_ne_true hplaced
    · exact ih (fun q hq => hvs q (List.mem_cons_of_mem placed hq)) _ mark hmark

end Compact

open SourceText.Compact in
/-- A collapsed text has no comment, its visible characters are those of the text in order and in
their regions, and between two of them it has one space of code if they were no neighbours in the
text, and nothing if they were. It has no other character. -/
theorem scan_collapse_spreads_visible (text : Text) :
    (∀ mark ∈ scan true (collapseCode text), mark.2 ≠ .comment) ∧
      (scan true (collapseCode text)).filter isVisible = (visible text).map (·.1) ∧
      scan true (collapseCode text) = spreadFrom none (visible text) := by
  have hvisible : ∀ placed ∈ visible text, isVisible placed.1 = true :=
    fun placed h => isVisible_of_mem_visible h
  rw [scan_collapseCode]
  exact ⟨not_comment_spreadFrom hvisible none, filter_spreadFrom hvisible none, rfl⟩

end SourceText
