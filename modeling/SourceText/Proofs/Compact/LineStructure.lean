import SourceText.Compact.Compactor
import SourceText.Proofs.Text.Split

/-!
# Source lines that are kept

Source text has fewer line ends than a text file: line feeds, carriage returns and pairs of the two.
When blank lines are dropped, a text is taken for a text file. So a source line is cut at all other
line boundaries in it, and stays one line just when it has none, the blanks at its end apart
(`sourceLines_dropBlankLines`).
-/

namespace SourceText
open Text

/-- The lines of source text. -/
def sourceLines (t : Text) : List Text := linesAt isLineBreak t

theorem isLineBoundary_of_isLineBreak {c : Char} (h : isLineBreak c = true) :
    isLineBoundary c = true := by
  simp only [isLineBreak, Bool.or_eq_true, beq_iff_eq] at h
  rcases h with rfl | rfl <;> decide

/-! ### Pieces of pieces -/

/-- Cutting at more places is cutting at some of them first. -/
theorem splitOn_splitOn {few many : Char → Bool} (h : ∀ c, few c = true → many c = true)
    (t : Text) : splitOn many t = (splitOn few t).flatMap (splitOn many) := by
  induction t with
  | nil => rfl
  | cons c rest ih =>
    cases hfew : few c with
    | true =>
      rw [splitOn, splitOn, if_pos hfew, if_pos (h c hfew), List.flatMap_cons, ih]
      rfl
    | false =>
      -- The character is put in front of the first of the many pieces, or makes a piece of its own,
      -- within the first of the few.
      obtain ⟨piece, pieces, hsplit⟩ := exists_cons_splitOn few rest
      obtain ⟨first, more, hfirst⟩ := exists_cons_splitOn many piece
      rw [hsplit, List.flatMap_cons, hfirst] at ih
      rw [splitOn, ih, splitOn, hfew, if_neg Bool.false_ne_true, hsplit, List.flatMap_cons, splitOn,
        hfirst]
      cases many c with
      | true => rfl
      | false => rfl

/-! ### Lines that are kept -/

theorem keptLines_filter (ls : List Text) : keptLines (ls.filter (!·.isEmpty)) = keptLines ls := by
  rw [keptLines, List.filter_map, List.filter_filter, keptLines, List.filter_map]
  congr 1
  refine List.filter_congr fun l _ => ?_
  cases l with
  | nil => rfl
  | cons c l => exact Bool.and_true _

theorem flatMap_filter {f : Text → List Text} (hf : f [] = []) (ls : List Text) :
    (ls.filter (!·.isEmpty)).flatMap f = ls.flatMap f := by
  induction ls with
  | nil => rfl
  | cons l ls ih =>
    cases l with
    | nil =>
      rw [List.flatMap_cons, hf]
      exact ih
    | cons c l =>
      rw [List.filter_cons_of_pos (by rfl), List.flatMap_cons, List.flatMap_cons, ih]

theorem keptLines_flatMap (f : Text → List Text) (ls : List Text) :
    keptLines (ls.flatMap f) = ls.flatMap fun l => keptLines (f l) := by
  rw [keptLines, List.map_flatMap, List.filter_flatMap]
  rfl

theorem keptLines_cons (l : Text) (ls : List Text) :
    keptLines (l :: ls) = keptLines [l] ++ keptLines ls := by
  rw [keptLines, List.map_cons, ← List.singleton_append, List.filter_append]
  rfl

theorem keptLines_of_blank {ls : List Text} (h : ∀ l ∈ ls, l.isAllBlank = true) :
    keptLines ls = [] := by
  refine List.filter_eq_nil_iff.mpr fun l hl => ?_
  obtain ⟨line, hline, rfl⟩ := List.mem_map.mp hl
  rw [trimRight_of_isAllBlank (h line hline)]
  decide

theorem keptLines_linesAt (t : Text) :
    keptLines (linesAt isLineBoundary t) = keptLines (splitOn isLineBoundary t) := by
  rw [← keptLines_filter, filter_linesAt rfl rfl, keptLines_filter]

/-- Each source line is kept as what stands between the line boundaries in it. -/
theorem keptLines_lines (t : Text) :
    keptLines (linesAt isLineBoundary t)
      = (sourceLines t).flatMap fun line => keptLines (splitOn isLineBoundary line) :=
  calc keptLines (linesAt isLineBoundary t)
      = keptLines ((splitOn isLineBreak t).flatMap (splitOn isLineBoundary)) := by
        rw [keptLines_linesAt, splitOn_splitOn fun c => isLineBoundary_of_isLineBreak]
    _ = (splitOn isLineBreak t).flatMap fun line => keptLines (splitOn isLineBoundary line) :=
        keptLines_flatMap _ _
    _ = (sourceLines t).flatMap fun line => keptLines (splitOn isLineBoundary line) := by
        rw [← flatMap_filter (by rfl), ← filter_linesAt rfl rfl, flatMap_filter (by rfl)]
        rfl

/-- A line is kept whole when the only line boundaries in it are among the blanks at its end. -/
theorem keptLines_splitOn {line : Text} (h : ∀ c ∈ line.trimRight, isLineBoundary c = false) :
    keptLines (splitOn isLineBoundary line) = keptLines [line] := by
  obtain ⟨blanks, hblanks, hline⟩ := exists_trimRight_append line
  obtain ⟨first, more, hsplit, happend⟩ := exists_splitOn_append h blanks
  have hpieces : ∀ piece ∈ first :: more, piece.isAllBlank = true := by
    intro piece hpiece
    rw [← hsplit] at hpiece
    exact List.all_eq_true.mpr
      (forall_of_mem_splitOn (List.all_eq_true.mp hblanks) piece hpiece)
  have hfirst : trimRight (line.trimRight ++ first) = line.trimRight := by
    rw [trimRight_append_of_isAllBlank _ (hpieces first (List.mem_cons_self ..)),
      trimRight_trimRight]
  rw [← hline] at happend
  calc keptLines (splitOn isLineBoundary line)
      = keptLines [line.trimRight ++ first] ++ keptLines more := by rw [happend, keptLines_cons]
    _ = keptLines [line] := by
        rw [keptLines_of_blank fun piece hp => hpieces piece (List.mem_cons_of_mem first hp),
          List.append_nil, keptLines, keptLines, List.map_singleton, List.map_singleton, hfirst]

/-! ### Source lines -/

theorem sourceLines_dropBlankLines_eq (t : Text) :
    sourceLines (dropBlankLines t) = keptLines (linesAt isLineBoundary t) := by
  rw [dropBlankLines_eq_join]
  refine linesAt_join rfl rfl fun l hl => ?_
  obtain ⟨hne, hunbroken⟩ := (mem_keptLines hl).1
  refine ⟨hne, fun c hc => ?_⟩
  by_contra hbreak
  rw [Bool.not_eq_false] at hbreak
  exact absurd ((isLineBoundary_of_isLineBreak hbreak).symm.trans (hunbroken c hc)) (by decide)

/-- Dropping blank lines leaves of each source line what stands between the line boundaries in it,
with line feeds between these lines. So it leaves the source lines that are not blank, without the
blanks at their ends, just when none of them has another line boundary before these blanks. -/
theorem sourceLines_dropBlankLines (text : Text) :
    dropBlankLines text = join ['\n'] (sourceLines (dropBlankLines text)) ∧
      sourceLines (dropBlankLines text)
        = (sourceLines text).flatMap (fun line => keptLines (splitOn isLineBoundary line)) ∧
      (sourceLines (dropBlankLines text) = keptLines (sourceLines text) ↔
        ∀ line ∈ sourceLines text, ∀ c ∈ line.trimRight, isLineBoundary c = false) := by
  have hlines := (sourceLines_dropBlankLines_eq text).trans (keptLines_lines text)
  refine ⟨?_, hlines, fun hsame line hline c hc => ?_, fun hwhole => ?_⟩
  · rw [sourceLines_dropBlankLines_eq]
    exact dropBlankLines_eq_join text
  · -- A source line that is kept is a line of the text file then, and these have no boundary.
    have hkept : line.trimRight ∈ keptLines (sourceLines text) := by
      refine List.mem_filter.mpr ⟨List.mem_map.mpr ⟨line, hline, rfl⟩, ?_⟩
      simpa using List.ne_nil_of_mem hc
    rw [← hsame, sourceLines_dropBlankLines_eq] at hkept
    exact (mem_keptLines hkept).1.unbroken c hc
  · calc sourceLines (dropBlankLines text)
        = (sourceLines text).flatMap fun line => keptLines [line] := by
          rw [hlines]
          exact List.flatMap_congr fun line hline => keptLines_splitOn (hwhole line hline)
      _ = keptLines (sourceLines text) := by
          rw [← keptLines_flatMap, List.flatMap_singleton']

/-- A form feed cuts a comment in two, and the second part becomes a line of code. -/
theorem not_sourceLines_formFeed :
    sourceLines "# page\x0cend\n".toList = ["# page\x0cend".toList] ∧
      dropBlankLines "# page\x0cend\n".toList = "# page\nend".toList ∧
      (Compactor.standard.compact "# page\x0cend\n".toList (some "python")).value
        = .ofString "# page\nend" ∧
      sourceLines (dropBlankLines "# page\x0cend\n".toList)
        ≠ keptLines (sourceLines "# page\x0cend\n".toList) := by
  decide +kernel

end SourceText
