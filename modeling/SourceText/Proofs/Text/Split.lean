import Mathlib.Data.List.Basic
import SourceText.Compact.Collapse
import SourceText.Proofs.Text.Blanks

/-!
# Texts split and joined again

Words that are joined with single spaces are the words of the text that they make, and lines joined
with line feeds are its lines. So a text that has been taken apart and joined once stays the same
when that is done again (`collapseBlanks_collapseBlanks`, `dropBlankLines_dropBlankLines`).
-/

namespace SourceText.Text

/-! ### Pieces between separators -/

section Split

variable {isSeparator : Char → Bool}

theorem splitOn_eq_splitOnP (t : Text) : splitOn isSeparator t = List.splitOnP isSeparator t := by
  induction t with
  | nil => rw [splitOn, List.splitOnP_nil]
  | cons c rest ih =>
    rw [splitOn, List.splitOnP_cons_eq_if_modifyHead, ih]
    cases hc : isSeparator c with
    | true => rfl
    | false =>
      obtain ⟨piece, pieces, hsplit⟩ :=
        List.exists_cons_of_ne_nil (List.splitOnP_ne_nil isSeparator rest)
      rw [hsplit]
      rfl

theorem exists_cons_splitOn (isSeparator : Char → Bool) (t : Text) :
    ∃ piece pieces, splitOn isSeparator t = piece :: pieces := by
  rw [splitOn_eq_splitOnP]
  exact List.exists_cons_of_ne_nil (List.splitOnP_ne_nil isSeparator t)

theorem splitOn_append_cons {piece : Text} (hpiece : ∀ c ∈ piece, isSeparator c = false) {d : Char}
    (hd : isSeparator d = true) (rest : Text) :
    splitOn isSeparator (piece ++ d :: rest) = piece :: splitOn isSeparator rest := by
  simp only [splitOn_eq_splitOnP]
  rw [List.splitOnP_append_cons _ _ hd, List.splitOnP_eq_singleton hpiece]
  rfl

theorem splitOn_of_unseparated {piece : Text} (hpiece : ∀ c ∈ piece, isSeparator c = false) :
    splitOn isSeparator piece = [piece] := by
  rw [splitOn_eq_splitOnP, List.splitOnP_eq_singleton hpiece]

/-- Pieces that are joined with a separator between them are the pieces of what they make. -/
theorem splitOn_join {d : Char} (hd : isSeparator d = true) {pieces : List Text}
    (hne : pieces ≠ []) (h : ∀ piece ∈ pieces, ∀ c ∈ piece, isSeparator c = false) :
    splitOn isSeparator (join [d] pieces) = pieces := by
  induction pieces with
  | nil => exact absurd rfl hne
  | cons piece pieces ih =>
    have hpiece := h piece (List.mem_cons_self ..)
    cases pieces with
    | nil => exact splitOn_of_unseparated hpiece
    | cons next pieces =>
      have hrest := ih (List.cons_ne_nil next pieces) fun p hp => h p (List.mem_cons_of_mem piece hp)
      rw [join, List.append_assoc, List.singleton_append, splitOn_append_cons hpiece hd, hrest]
      exact List.cons_ne_nil next pieces

/-- Characters put in front of a text without a separator belong to its first piece. -/
theorem exists_splitOn_append {w : Text} (hw : ∀ c ∈ w, isSeparator c = false) (t : Text) :
    ∃ first more, splitOn isSeparator t = first :: more ∧
      splitOn isSeparator (w ++ t) = (w ++ first) :: more := by
  induction w with
  | nil =>
    obtain ⟨first, more, hsplit⟩ := exists_cons_splitOn isSeparator t
    exact ⟨first, more, hsplit, hsplit⟩
  | cons c w ih =>
    obtain ⟨first, more, hsplit, happend⟩ := ih fun d hd => hw d (List.mem_cons_of_mem c hd)
    refine ⟨first, more, hsplit, ?_⟩
    rw [List.cons_append, splitOn, hw c (List.mem_cons_self ..), if_neg Bool.false_ne_true, happend]
    rfl

/-- A character put in front of the first of some pieces. -/
theorem forall_consFirst {P : Char → Prop} {c : Char} (hc : P c) {pieces : List Text}
    (hpieces : ∀ piece ∈ pieces, ∀ d ∈ piece, P d) :
    ∀ piece ∈ (match pieces with
      | [] => [[c]]
      | first :: more => (c :: first) :: more), ∀ d ∈ piece, P d := by
  intro piece h d hd
  cases pieces with
  | nil =>
    obtain rfl := List.mem_singleton.mp h
    rw [List.mem_singleton.mp hd]
    exact hc
  | cons first more =>
    rcases List.mem_cons.mp h with rfl | h
    · rcases List.mem_cons.mp hd with rfl | hd
      · exact hc
      · exact hpieces first (List.mem_cons_self ..) d hd
    · exact hpieces piece (List.mem_cons_of_mem first h) d hd

theorem unseparated_of_mem_splitOn (t : Text) :
    ∀ piece ∈ splitOn isSeparator t, ∀ c ∈ piece, isSeparator c = false := by
  induction t with
  | nil =>
    intro piece h
    rw [List.mem_singleton.mp h]
    simp
  | cons c rest ih =>
    rw [splitOn]
    cases hc : isSeparator c with
    | true =>
      intro piece h
      rcases List.mem_cons.mp h with rfl | h
      · simp
      · exact ih piece h
    | false => exact forall_consFirst hc ih

theorem forall_of_mem_splitOn {P : Char → Prop} {t : Text} (h : ∀ c ∈ t, P c) :
    ∀ piece ∈ splitOn isSeparator t, ∀ c ∈ piece, P c := by
  induction t with
  | nil =>
    intro piece h
    rw [List.mem_singleton.mp h]
    simp
  | cons c rest ih =>
    have hrest := ih fun d hd => h d (List.mem_cons_of_mem c hd)
    rw [splitOn]
    split
    · intro piece h
      rcases List.mem_cons.mp h with rfl | h
      · simp
      · exact hrest piece h
    · exact forall_consFirst (h c (List.mem_cons_self ..)) hrest

theorem join_splitOn (d : Char) (t : Text) : join [d] (splitOn (· = d) t) = t := by
  induction t with
  | nil => rfl
  | cons c rest ih =>
    obtain ⟨piece, pieces, hsplit⟩ := exists_cons_splitOn (· = d) rest
    rw [hsplit] at ih
    rw [splitOn]
    by_cases hc : c = d
    · rw [if_pos (decide_eq_true hc), hsplit, join, ih, hc]
      · rfl
      · exact List.cons_ne_nil piece pieces
    · rw [if_neg (by simpa using hc), hsplit]
      cases pieces with
      | nil => exact congrArg (c :: ·) ih
      | cons next pieces => exact congrArg (c :: ·) ih

end Split

/-! ### Words -/

/-- Characters without a blank among them. -/
structure IsWord (w : Text) : Prop where
  ne_nil : w ≠ []
  unbroken : ∀ c ∈ w, isBlank c = false

theorem isWord_of_mem_words {t w : Text} (h : w ∈ t.words) : IsWord w := by
  obtain ⟨hmem, hne⟩ := List.mem_filter.mp h
  have hne' : w ≠ [] := by simpa using hne
  exact ⟨hne', unseparated_of_mem_splitOn t w hmem⟩

theorem IsWord.isEmpty {w : Text} (h : IsWord w) : w.isEmpty = false :=
  List.isEmpty_eq_false_iff.mpr h.ne_nil

theorem words_join {ws : List Text} (h : ∀ w ∈ ws, IsWord w) : words (join [' '] ws) = ws := by
  cases ws with
  | nil => rfl
  | cons w ws =>
    have hfull : ∀ v ∈ w :: ws, (!v.isEmpty) = true := by
      intro v hv
      rw [(h v hv).isEmpty, Bool.not_false]
    have hsplit : splitOn isBlank (join [' '] (w :: ws)) = w :: ws :=
      splitOn_join (by decide) (List.cons_ne_nil w ws) fun v hv => (h v hv).unbroken
    rw [words, hsplit, List.filter_eq_self.mpr hfull]

/-! ### Lines -/

/-- The lines of a text when the characters with the property `isEnd` end a line. A carriage return
and a line feed together end one line, and the end of the text starts no new line. -/
def linesAt (isEnd : Char → Bool) : Text → List Text
  | [] => []
  | '\r' :: '\n' :: rest => [] :: linesAt isEnd rest
  | c :: rest =>
    if isEnd c then [] :: linesAt isEnd rest
    else
      match linesAt isEnd rest with
      | [] => [[c]]
      | line :: more => (c :: line) :: more

theorem lines_eq_linesAt (t : Text) : t.lines = linesAt isLineBoundary t := by
  fun_induction lines t with
  | case1 => rfl
  | case2 rest ih => rw [linesAt, ih]
  | case3 c rest hreturn hc ih => rw [linesAt.eq_3 _ c rest hreturn, if_pos hc, ih]
  | case4 c rest hreturn hc hrest ih => rw [linesAt.eq_3 _ c rest hreturn, if_neg hc, ← ih, hrest]
  | case5 c rest hreturn hc line more hrest ih =>
    rw [linesAt.eq_3 _ c rest hreturn, if_neg hc, ← ih, hrest]

/-- Characters none of which ends a line. -/
structure IsLine (isEnd : Char → Bool) (l : Text) : Prop where
  ne_nil : l ≠ []
  unbroken : ∀ c ∈ l, isEnd c = false

section Lines

variable {isEnd : Char → Bool}

theorem unbroken_of_mem_linesAt (t : Text) : ∀ l ∈ linesAt isEnd t, ∀ c ∈ l, isEnd c = false := by
  fun_induction linesAt isEnd t with
  | case1 => simp
  | case2 rest ih => simpa using ih
  | case3 c rest hreturn hc ih => simpa using ih
  | case4 c rest hreturn hc hrest ih =>
    rw [hrest] at ih
    exact forall_consFirst (Bool.not_eq_true _ ▸ hc) ih
  | case5 c rest hreturn hc line more hrest ih =>
    rw [hrest] at ih
    exact forall_consFirst (Bool.not_eq_true _ ▸ hc) ih

theorem isLine_trimRight {t l : Text} (h : l ∈ linesAt isEnd t) (hne : l.trimRight ≠ []) :
    IsLine isEnd l.trimRight := by
  refine ⟨hne, fun c hc => unbroken_of_mem_linesAt t l h c ?_⟩
  rw [← trimRight_append_endBlanks l]
  exact List.mem_append_left _ hc

theorem filter_eq_of_head_tail {ls ms : List Text} (h : ls.headD [] = ms.headD [] ∧
    ls.tail.filter (!·.isEmpty) = ms.tail.filter (!·.isEmpty)) :
    ls.filter (!·.isEmpty) = ms.filter (!·.isEmpty) := by
  have hfilter : ∀ ks : List Text, ks.filter (!·.isEmpty)
      = [ks.headD []].filter (!·.isEmpty) ++ ks.tail.filter (!·.isEmpty) := by
    intro ks
    cases ks with
    | nil => rfl
    | cons k ks =>
      rw [← List.filter_append]
      rfl
  rw [hfilter, h.1, h.2, ← hfilter]

section Return

variable (hreturn : isEnd '\r' = true)

include hreturn

theorem linesAt_cons {c : Char} (hc : isEnd c = false) (rest : Text) :
    linesAt isEnd (c :: rest)
      = match linesAt isEnd rest with
        | [] => [[c]]
        | line :: more => (c :: line) :: more := by
  have hother : ∀ more, c = '\r' → rest = '\n' :: more → False := by
    rintro more rfl
    exact absurd (hc.symm.trans hreturn) Bool.false_ne_true
  exact (linesAt.eq_3 isEnd c rest hother).trans (if_neg (by rw [hc]; exact Bool.false_ne_true))

theorem linesAt_of_isLine {l : Text} (h : IsLine isEnd l) : linesAt isEnd l = [l] := by
  obtain ⟨hne, hl⟩ := h
  induction l with
  | nil => exact absurd rfl hne
  | cons c l ih =>
    rw [linesAt_cons hreturn (hl c (List.mem_cons_self ..))]
    cases l with
    | nil => rfl
    | cons d l =>
      rw [ih (List.cons_ne_nil d l) fun e he => hl e (List.mem_cons_of_mem c he)]

variable (hfeed : isEnd '\n' = true)

include hfeed

theorem linesAt_append_feed {l : Text} (hl : ∀ c ∈ l, isEnd c = false) (rest : Text) :
    linesAt isEnd (l ++ '\n' :: rest) = l :: linesAt isEnd rest := by
  induction l with
  | nil =>
    rw [List.nil_append, linesAt.eq_3 _ _ _ fun _ h => absurd h (by decide), if_pos hfeed]
  | cons c l ih =>
    have hc := hl c (List.mem_cons_self ..)
    rw [List.cons_append, linesAt_cons hreturn hc, ih fun d hd => hl d (List.mem_cons_of_mem c hd)]

theorem linesAt_join {ls : List Text} (h : ∀ l ∈ ls, IsLine isEnd l) :
    linesAt isEnd (join ['\n'] ls) = ls := by
  induction ls with
  | nil => rfl
  | cons l ls ih =>
    have hl := h l (List.mem_cons_self ..)
    cases ls with
    | nil => exact linesAt_of_isLine hreturn hl
    | cons k ls =>
      rw [join, List.append_assoc, List.singleton_append,
        linesAt_append_feed hreturn hfeed hl.unbroken,
        ih fun m hm => h m (List.mem_cons_of_mem l hm)]
      exact List.cons_ne_nil k ls

/-- Lines are the pieces between the characters that end one, except that no line stands between a
carriage return and a line feed or behind the last end. The pieces there are empty. -/
theorem head_tail_linesAt (t : Text) :
    (linesAt isEnd t).headD [] = (splitOn isEnd t).headD [] ∧
      (linesAt isEnd t).tail.filter (!·.isEmpty) = (splitOn isEnd t).tail.filter (!·.isEmpty) := by
  fun_induction linesAt isEnd t with
  | case1 => exact ⟨rfl, rfl⟩
  | case2 rest ih =>
    have hrest := filter_eq_of_head_tail ih
    rw [splitOn, if_pos hreturn, splitOn, if_pos hfeed]
    exact ⟨rfl, hrest⟩
  | case3 c rest hother hc ih =>
    have hrest := filter_eq_of_head_tail ih
    rw [splitOn, if_pos hc]
    exact ⟨rfl, hrest⟩
  | case4 c rest hother hc hrest ih =>
    rw [hrest] at ih
    rw [splitOn, if_neg hc]
    cases hsplit : splitOn isEnd rest with
    | nil => exact ⟨rfl, rfl⟩
    | cons piece pieces =>
      rw [hsplit] at ih
      exact ⟨congrArg (c :: ·) ih.1, ih.2⟩
  | case5 c rest hother hc line more hrest ih =>
    rw [hrest] at ih
    rw [splitOn, if_neg hc]
    cases hsplit : splitOn isEnd rest with
    | nil =>
      rw [hsplit] at ih
      exact ⟨congrArg (c :: ·) ih.1, ih.2⟩
    | cons piece pieces =>
      rw [hsplit] at ih
      exact ⟨congrArg (c :: ·) ih.1, ih.2⟩

theorem filter_linesAt (t : Text) :
    (linesAt isEnd t).filter (!·.isEmpty) = (splitOn isEnd t).filter (!·.isEmpty) :=
  filter_eq_of_head_tail (head_tail_linesAt hreturn hfeed t)

end Return

end Lines

end SourceText.Text

namespace SourceText
open Text

theorem collapseBlanks_collapseBlanks (t : Text) :
    collapseBlanks (collapseBlanks t) = collapseBlanks t := by
  rw [collapseBlanks, collapseBlanks, words_join fun w hw => isWord_of_mem_words hw]

/-- The lines that are not blank, without the blanks at their ends. -/
def keptLines (ls : List Text) : List Text := (ls.map trimRight).filter (!·.isEmpty)

theorem dropBlankLines_eq_join (t : Text) :
    dropBlankLines t = join ['\n'] (keptLines (linesAt isLineBoundary t)) := by
  rw [dropBlankLines, lines_eq_linesAt, keptLines]

/-- The lines that are kept are lines again, and have no blanks at their ends. -/
theorem mem_keptLines {isEnd : Char → Bool} {t l : Text} (h : l ∈ keptLines (linesAt isEnd t)) :
    IsLine isEnd l ∧ l.trimRight = l := by
  obtain ⟨hmem, hne⟩ := List.mem_filter.mp h
  obtain ⟨line, hline, rfl⟩ := List.mem_map.mp hmem
  exact ⟨isLine_trimRight hline (by simpa using hne), trimRight_trimRight line⟩

theorem keptLines_keptLines (ls : List Text) : keptLines (keptLines ls) = keptLines ls := by
  have hmap : (keptLines ls).map trimRight = keptLines ls := by
    refine (List.map_congr_left fun l hl => ?_).trans (List.map_id _)
    obtain ⟨line, -, rfl⟩ := List.mem_map.mp (List.mem_filter.mp hl).1
    exact trimRight_trimRight line
  rw [keptLines, hmap, keptLines, List.filter_filter]
  simp only [Bool.and_self]

theorem dropBlankLines_dropBlankLines (t : Text) :
    dropBlankLines (dropBlankLines t) = dropBlankLines t := by
  rw [dropBlankLines_eq_join, dropBlankLines_eq_join,
    linesAt_join rfl rfl fun l hl => (mem_keptLines hl).1, keptLines_keptLines]

end SourceText
