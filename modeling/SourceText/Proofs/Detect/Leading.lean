import Mathlib.Algebra.BigOperators.Fin
import SourceText.Proofs.Detect.Proposal

/-!
# The leading language

Every language has the weights of those of its fingerprints that a text passes as its total. The
classifier finds the first language of the greatest total, if that is positive, and the engine over
it proposes the tag of this language (`classify_leads`).
-/

namespace SourceText.Detect

open Binary64 (overflow)

/-- The total of a language: each of its fingerprints counts once if the text passes its test. -/
def total (fingerprints : List Fingerprint) (text : Text) : Int :=
  ∑ i : Fin fingerprints.length, if fingerprints[i].test text then fingerprints[i].weight else 0

/-- The language that leads for a text, with its total: the first one of the greatest total. Without
a positive total it is the unknown one. -/
inductive Leads (table : FingerprintTable) (text : Text) : Relevance → Prop where
  | first {before after : FingerprintTable} {language : String} {fingerprints : List Fingerprint}
    (place : table = before ++ (language, fingerprints) :: after)
    (positive : 0 < total fingerprints text)
    (earlier : ∀ entry ∈ before, total entry.2 text < total fingerprints text)
    (later : ∀ entry ∈ after, total entry.2 text ≤ total fingerprints text) :
    Leads table text ⟨language, total fingerprints text⟩
  | nobody (none : ∀ entry ∈ table, total entry.2 text ≤ 0) :
    Leads table text ⟨unknownLanguage, 0⟩

theorem points_eq_total (fingerprints : List Fingerprint) (text : Text) :
    points fingerprints text = total fingerprints text := by
  induction fingerprints with
  | nil => rfl
  | cons f fingerprints ih =>
    have htotal : total (f :: fingerprints) text
        = (if f.test text then f.weight else 0) + total fingerprints text :=
      Fin.sum_univ_succ _
    rw [htotal, ← ih, points, points, List.filter_cons]
    split
    · rw [List.map_cons, List.sum_cons]
    · rw [zero_add]

/-! ### One more language -/

section Step

variable {table : FingerprintTable} {text : Text} {best : Relevance}

theorem Leads.nonneg (h : Leads table text best) : 0 ≤ best.points := by
  cases h with
  | first place positive => exact positive.le
  | nobody => exact le_rfl

theorem Leads.total_le (h : Leads table text best) {entry : String × List Fingerprint}
    (hentry : entry ∈ table) : total entry.2 text ≤ best.points := by
  cases h with
  | first place positive earlier later =>
    subst place
    rcases List.mem_append.mp hentry with hbefore | hrest
    · exact (earlier entry hbefore).le
    · rcases List.mem_cons.mp hrest with rfl | hafter
      · exact le_rfl
      · exact later entry hafter
  | nobody none => exact none entry hentry

/-- A language behind all others leads if it has more points than they have, and only then. -/
theorem Leads.concat (h : Leads table text best) (entry : String × List Fingerprint) :
    Leads (table ++ [entry]) text (best.orBetter ⟨entry.1, points entry.2 text⟩) := by
  rw [Relevance.orBetter, points_eq_total]
  split
  · next hbetter =>
    have hplace : table ++ [entry] = table ++ (entry.1, entry.2) :: [] := rfl
    exact .first hplace (h.nonneg.trans_lt hbetter)
      (fun other hother => (h.total_le hother).trans_lt hbetter)
      fun other hother => absurd hother List.not_mem_nil
  · next hbetter =>
    have hle : total entry.2 text ≤ best.points := not_lt.mp hbetter
    cases h with
    | first place positive earlier later =>
      refine .first (place ▸ List.append_assoc _ _ _) positive earlier fun other hother => ?_
      rcases List.mem_append.mp hother with hafter | hlast
      · exact later other hafter
      · exact List.mem_singleton.mp hlast ▸ hle
    | nobody none =>
      refine .nobody fun other hother => ?_
      rcases List.mem_append.mp hother with hmem | hlast
      · exact none other hmem
      · exact List.mem_singleton.mp hlast ▸ hle

end Step

/-- Going through the table language by language finds the one that leads. -/
theorem leads_top (table : FingerprintTable) (text : Text) :
    Leads table text (top (scores table text)) := by
  induction table using List.reverseRecOn with
  | nil => exact .nobody fun _ hentry => absurd hentry List.not_mem_nil
  | append_singleton table entry ih =>
    have hstep : top (scores (table ++ [entry]) text)
        = (top (scores table text)).orBetter ⟨entry.1, points entry.2 text⟩ := by
      rw [top, scores, List.map_append, List.foldl_append]
      rfl
    rw [hstep]
    exact ih.concat entry

/-! ### The engine over the table -/

theorem value_classify (table : FingerprintTable) (text : Text) :
    (classify table text).value = if (top (scores table text)).points < 10 ^ Number.maxDigits
      then .ok (top (scores table text)) else .error Number.tooLongToWrite := by
  have hnonneg := (leads_top table text).nonneg
  have hiff : (top (scores table text)).points.natAbs < 10 ^ Number.maxDigits
      ↔ (top (scores table text)).points < 10 ^ Number.maxDigits := by
    rw [← Int.ofNat_lt, Int.natCast_natAbs, abs_of_nonneg hnonneg, Nat.cast_pow, Nat.cast_ofNat]
  simp only [classify]
  split
  · next h => rw [if_pos (hiff.mp h)]; rfl
  · next h => rw [if_neg (mt hiff.mpr h)]; rfl

/-- Points whose hundredth is a number can be written. -/
theorem hundred_overflow_le : 100 * (overflow : Int) ≤ 10 ^ Number.maxDigits := by
  exact_mod_cast (by decide +kernel : 100 * overflow ≤ 10 ^ Number.maxDigits)

theorem tooLongToWrite_eq : Number.tooLongToWrite
    = "Exceeds the limit (4300 digits) for integer string conversion; use sys.set_int_max_str_digits() to increase the limit" := by
  decide +kernel

/-- What a table finds in a text: its leading language, which the classifier returns unless its
points have too many digits to be logged, and the proposal of the engine over it. A candidate is
proposed for positive points of a language that is known, with a hundredth of the points as its
confidence, up to one. The engine fails with the classifier, and for points whose hundredth is
beyond all numbers. -/
structure Finds (table : FingerprintTable) (text : Text) (id : String) (found : Relevance) :
    Prop where
  leads : Leads table text found
  returns : found.points < 10 ^ Number.maxDigits → (classify table text).value = .ok found
  refuses : 10 ^ Number.maxDigits ≤ found.points → (classify table text).value
    = .error "Exceeds the limit (4300 digits) for integer string conversion; use sys.set_int_max_str_digits() to increase the limit"
  proposes : ∀ c, ((Engine.heuristic (classify table) id).classify text).value = .ok (some c) ↔
    0 < found.points ∧ normalizeLanguage (some found.language) ≠ unknownLanguage ∧
      found.points < 100 * (overflow : Int) ∧
      c = ⟨id, normalizeLanguage (some found.language),
        if found.points < 100 then Binary64.ofQuotient found.points 100 else Binary64.one⟩
  fails : ∀ reason,
    ((Engine.heuristic (classify table) id).classify text).value = .error reason ↔
    (10 ^ Number.maxDigits ≤ found.points ∧ (classify table text).value = .error reason) ∨
    (found.points < 10 ^ Number.maxDigits ∧ 0 < found.points ∧
      normalizeLanguage (some found.language) ≠ unknownLanguage ∧
      100 * (overflow : Int) ≤ found.points ∧
      reason = "integer division result too large for a float")

theorem classify_leads (table : FingerprintTable) (text : Text) (id : String) :
    ∃ found, Finds table text id found := by
  refine ⟨top (scores table text), ?_⟩
  have hleads := leads_top table text
  have hvalue := value_classify table text
  generalize top (scores table text) = found at hleads hvalue
  by_cases hshort : found.points < 10 ^ Number.maxDigits
  · rw [if_pos hshort] at hvalue
    have hengine : ((Engine.heuristic (classify table) id).classify text).value
        = Engine.ofRelevance id found := by
      rw [Engine.value_heuristic, hvalue, Except.bind]
    refine ⟨hleads, fun _ => hvalue, fun h => absurd h hshort.not_ge, fun c => ?_, fun reason => ?_⟩
    · rw [hengine]
      exact Engine.ofRelevance_eq_some_iff
    · rw [hengine, Engine.ofRelevance_eq_error_iff, or_iff_right fun h => h.1.not_gt hshort,
        and_iff_right hshort]
      rfl
  · rw [if_neg hshort] at hvalue
    have hlong := not_lt.mp hshort
    have hengine : ((Engine.heuristic (classify table) id).classify text).value
        = .error Number.tooLongToWrite := by
      simp only [Engine.value_heuristic, hvalue, Except.bind]
    refine ⟨hleads, fun h => absurd h hshort, fun _ => hvalue.trans (congrArg _ tooLongToWrite_eq),
      fun c => ?_, fun reason => ?_⟩
    · rw [hengine]
      exact iff_of_false nofun fun h => (hundred_overflow_le.trans hlong).not_gt h.2.2.1
    · rw [hengine, hvalue, or_iff_left fun h => hshort h.1, and_iff_right hlong,
        Except.error.injEq, Except.error.injEq]

/-- A table with a language of more points than a number can hold the hundredth of. -/
def heavy : FingerprintTable := [("python", [⟨fun _ => true, 10 ^ 311⟩])]

/-- The hundredth of the points is taken before it is brought down to one. -/
theorem not_proposes_heavy :
    Leads heavy "abc".toList ⟨"python", 10 ^ 311⟩ ∧
      normalizeLanguage (some "python") ≠ unknownLanguage ∧
      ∀ c, ((Engine.heuristic (classify heavy) "heuristic").classify "abc".toList).value
        ≠ .ok (some c) := by
  have htotal : total [⟨fun _ => true, 10 ^ 311⟩] "abc".toList = 10 ^ 311 := by
    rw [← points_eq_total]
    decide +kernel
  have hfails : ((Engine.heuristic (classify heavy) "heuristic").classify "abc".toList).value
      = .error Engine.relevanceTooLarge := by
    decide +kernel
  refine ⟨?_, by decide +kernel, fun c hc => nomatch hfails.symm.trans hc⟩
  have hplace : heavy = [] ++ ("python", [⟨fun _ => true, 10 ^ 311⟩]) :: [] := rfl
  have hfirst : Leads heavy "abc".toList
      ⟨"python", total [⟨fun _ => true, 10 ^ 311⟩] "abc".toList⟩ :=
    .first hplace (by rw [htotal]; decide +kernel)
      (fun _ hentry => absurd hentry List.not_mem_nil)
      fun _ hentry => absurd hentry List.not_mem_nil
  exact htotal ▸ hfirst

end SourceText.Detect
