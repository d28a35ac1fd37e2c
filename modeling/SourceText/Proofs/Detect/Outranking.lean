import Mathlib.Algebra.Order.BigOperators.Group.Finset
import SourceText.Proofs.Detect.Guesses
import SourceText.Proofs.Detect.Leading

/-!
# Which engine outranks the other

Guesses by lexers are capped at one and weighted, and come to a half at most. So a language with
more than fifty points is the best one whatever the lexers say, and whichever engine is asked first
(`detect_outranks`).
-/

namespace SourceText.Detect

open Binary64 (lt_iff_rank_lt rank_one ofQuotient overflow)

/-! ### The points of the standard fingerprints -/

/-- A total is not above that of a text that passes all tests, each worth the most that one is. -/
theorem total_le {fingerprints : List Fingerprint} {most : Int} (hnonneg : 0 ≤ most)
    (hmost : ∀ f ∈ fingerprints, f.weight ≤ most) (text : Text) :
    total fingerprints text ≤ fingerprints.length * most := by
  have heach : ∀ i : Fin fingerprints.length,
      (if fingerprints[i].test text then fingerprints[i].weight else 0) ≤ most := by
    intro i
    split
    · exact hmost _ (List.getElem_mem i.isLt)
    · exact hnonneg
  refine (Finset.sum_le_card_nsmul _ _ most fun i _ => heach i).trans_eq ?_
  rw [Finset.card_univ, Fintype.card_fin, nsmul_eq_mul]

theorem standardFingerprints_moderate : ∀ entry ∈ standardFingerprints,
    entry.2.length ≤ 20 ∧ ∀ f ∈ entry.2, f.weight ≤ 100 := by
  decide +kernel

theorem standardFingerprints_known : ∀ entry ∈ standardFingerprints,
    normalizeLanguage (some entry.1) ≠ unknownLanguage := by
  decide +kernel

theorem points_nil : (top (scores standardFingerprints [])).points = 0 := by
  decide +kernel

/-- Points of the standard fingerprints are for a known language, and not too many for a number. -/
theorem known_and_bounded {text : Text} (h : 0 < (top (scores standardFingerprints text)).points) :
    normalizeLanguage (some (top (scores standardFingerprints text)).language) ≠ unknownLanguage ∧
      (top (scores standardFingerprints text)).points < 100 * (overflow : Int) := by
  have hleads := leads_top standardFingerprints text
  generalize top (scores standardFingerprints text) = r at *
  cases hleads with
  | nobody => exact absurd h (lt_irrefl 0)
  | @first before after language fingerprints place =>
    have hentry : (language, fingerprints) ∈ standardFingerprints := by
      rw [place]
      exact List.mem_append_right _ List.mem_cons_self
    obtain ⟨hlength, hweights⟩ := standardFingerprints_moderate _ hentry
    have htotal := total_le (by decide) hweights text
    have hoverflow : 20 < overflow := by decide +kernel
    have hknown := standardFingerprints_known _ hentry
    dsimp only at hlength htotal hknown ⊢
    refine ⟨hknown, ?_⟩
    generalize overflow = bound at *
    omega

/-- The standard fingerprints always find a language, since their points are not too many to be
written. -/
theorem classify_standardFingerprints (text : Text) : (classify standardFingerprints text).value
    = .ok (top (scores standardFingerprints text)) := by
  rw [value_classify, if_pos]
  by_cases h : 0 < (top (scores standardFingerprints text)).points
  · exact (known_and_bounded h).2.trans_le hundred_overflow_le
  · exact (not_lt.mp h).trans_lt (pow_pos (by decide) _)

/-! ### The confidence of either engine -/

namespace LexerTable

variable {t : LexerTable} {text : Text} {g : Guess}

theorem capped_of_guess? {l : Lexer} (h : t.guess? text l = .ok (some g)) :
    ∃ x, g.confidence = Binary64.minFirst Binary64.one x := by
  obtain ⟨score, -, hscored⟩ := exists_of_bind_eq_ok h
  split at hscored
  · exact nomatch Except.ok.inj hscored
  obtain ⟨holds, -, hmade⟩ := exists_of_bind_eq_ok hscored
  split at hmade
  · split at hmade
    · next x hx =>
      obtain rfl := Option.some.inj (Except.ok.inj hmade)
      exact ⟨x, rfl⟩
    · exact nomatch hmade
  · exact nomatch Except.ok.inj hmade

/-- Whatever the lexers answer, a guess is as sure as one at most. -/
theorem capped_of_mem_guesses {guesses : List Guess} (h : (t.guesses text).value = .ok guesses)
    (hg : g ∈ guesses) : ∃ x, g.confidence = Binary64.minFirst Binary64.one x := by
  obtain ⟨made, hmade, hguesses⟩ := exists_of_bind_eq_ok h
  obtain rfl := Except.ok.inj hguesses
  have hmem : g ∈ made.filterMap id := List.mem_mergeSort.mp (List.mem_of_mem_take hg)
  obtain ⟨guess, hguess, rfl⟩ := List.mem_filterMap.mp hmem
  obtain ⟨l, -, hl⟩ := exists_of_mem_mapM hmade hguess
  exact capped_of_guess? hl

end LexerTable

theorem rank_le_of_statistical {lexers : LexerTable} {text : Text} {c : Candidate}
    (h : (EngineKind.statistical.engine lexers).opinion? text = some c) :
    c.confidence.rank ≤ Engine.guessWeight.rank := by
  obtain ⟨guesses, hguesses, hfirst⟩ := exists_of_map_eq_ok (Engine.classify_of_opinion h)
  obtain ⟨g, hg, hcandidate⟩ := Option.bind_eq_some_iff.mp hfirst
  obtain ⟨x, hcapped⟩ := LexerTable.capped_of_mem_guesses (eq_ok_of_mapError_eq_ok hguesses)
    (List.mem_of_mem_head? hg)
  obtain ⟨-, rfl⟩ := candidate?_eq_some_iff.mp hcandidate
  obtain ⟨hnan, hle⟩ := Engine.rank_mul_guessWeight (minFirst_one_ne_nan x) (rank_minFirst_one_le x)
  have hzero : 0 ≤ Engine.guessWeight.rank := Binary64.rank_ofRatio_nonneg 1 2
  dsimp only
  rw [hcapped, rank_clampConfidence hnan]
  exact max_le hzero ((min_le_right _ _).trans hle)

/-- More than fifty points are worth more than the weight of a guess. -/
theorem lt_rank_of_points {points : Int} (h : 50 < points) : Engine.guessWeight.rank
    < (if points < 100 then ofQuotient points 100 else Binary64.one).rank := by
  have hweight : Engine.guessWeight ≠ .nan := Binary64.ofRatio_ne_nan _ _ _
  split
  · have hleast : Binary64.lt Engine.guessWeight (ofQuotient 51 100) = true := by decide +kernel
    rw [lt_iff_rank_lt hweight (ofQuotient_ne_nan (by decide) 100)] at hleast
    exact hleast.trans_le (rank_ofQuotient_le (by decide) (Int.add_one_le_of_lt h) (by decide))
  · have hone : Binary64.lt Engine.guessWeight Binary64.one = true := by decide +kernel
    exact (lt_iff_rank_lt hweight one_ne_nan).mp hone

theorem opinion_of_heuristic (lexers : LexerTable) {text : Text}
    (h : 50 < (top (scores standardFingerprints text)).points) :
    ∃ c, (EngineKind.heuristic.engine lexers).opinion? text = some c ∧
      c.language = normalizeLanguage (some (top (scores standardFingerprints text)).language) ∧
      Engine.guessWeight.rank < c.confidence.rank := by
  have hpositive : 0 < (top (scores standardFingerprints text)).points := by omega
  obtain ⟨hknown, hbounded⟩ := known_and_bounded hpositive
  have hclassify : ((EngineKind.heuristic.engine lexers).classify text).value
      = Engine.ofRelevance EngineKind.heuristic.id (top (scores standardFingerprints text)) := by
    rw [EngineKind.engine, Engine.value_heuristic, classify_standardFingerprints, Except.bind]
  rw [Engine.ofRelevance_of_known hpositive hknown, if_pos hbounded] at hclassify
  have hopinion := Engine.opinion_of_classify rfl hclassify
  generalize top (scores standardFingerprints text) = r at *
  exact ⟨_, hopinion, rfl, lt_rank_of_points h⟩

/-! ### The ranking of both -/

namespace Detector

/-- The classifier finds a language, which is the best one for a text that is not too short if it
has more than fifty points. Every confidence that is found lies between zero and one. -/
structure Outranks (d : Detector) (text : Text) : Prop where
  best : ∃ relevance, (classify standardFingerprints text).value = .ok relevance ∧
    (50 < relevance.points → d.minChars ≤ text.trim.length →
      ∃ found, (d.detect text).value = some found ∧
        found.best = normalizeLanguage (some relevance.language))
  shares : ∀ found, (d.detect text).value = some found →
    ∀ c ∈ found.candidates, IsShare c.confidence

section Standard

variable {lexers : LexerTable} {kinds : List EngineKind} {text : Text}

theorem builtIn_of_kinds : ∀ e ∈ kinds.map (EngineKind.engine lexers), e.BuiltIn := by
  intro e he
  obtain ⟨kind, -, rfl⟩ := List.mem_map.mp he
  exact EngineKind.builtIn lexers kind

/-- A candidate with more than fifty points is ahead of all that lexers can make, so that the order
of the engines makes no difference. -/
theorem best_of_points (hkinds : .heuristic ∈ kinds)
    (hpoints : 50 < (top (scores standardFingerprints text)).points) :
    ∃ found,
      rank ((kinds.map (EngineKind.engine lexers)).filterMap (·.opinion? text)) = some found ∧
      found.best = normalizeLanguage (some (top (scores standardFingerprints text)).language) := by
  obtain ⟨leading, hleading, hlanguage, hsure⟩ := opinion_of_heuristic lexers hpoints
  have hmem : leading ∈ (kinds.map (EngineKind.engine lexers)).filterMap (·.opinion? text) :=
    List.mem_filterMap.mpr ⟨_, List.mem_map_of_mem hkinds, hleading⟩
  cases hrank : rank ((kinds.map (EngineKind.engine lexers)).filterMap (·.opinion? text)) with
  | none => exact absurd ((rank_eq_none_iff _).mp hrank) (List.ne_nil_of_mem hmem)
  | some found =>
    obtain ⟨best, hbest, hfound, hmost⟩ := exists_best_of_rank
      (fun c hc => (isShare_of_mem_opinions builtIn_of_kinds hc).1) hrank
    refine ⟨found, rfl, ?_⟩
    obtain ⟨e, he, hopinion⟩ := List.mem_filterMap.mp hbest
    obtain ⟨kind, -, rfl⟩ := List.mem_map.mp he
    cases kind with
    | statistical =>
      exact absurd (hmost leading hmem) ((rank_le_of_statistical hopinion).trans_lt hsure).not_ge
    | heuristic =>
      obtain rfl := Option.some.inj (hopinion.symm.trans hleading)
      rw [hfound, hlanguage]

end Standard

/-- The order of the engines and the answers of the lexers make no difference to a language with
more than fifty points. -/
theorem detect_outranks (lexers : LexerTable) (kinds : List EngineKind) (minChars : Int)
    (text : Text) (hkinds : .heuristic ∈ kinds) :
    Outranks ⟨kinds.map (EngineKind.engine lexers), minChars⟩ text where
  best := by
    refine ⟨_, classify_standardFingerprints text, fun hpoints hlong => ?_⟩
    have htext : text ≠ [] := by
      rintro rfl
      rw [points_nil] at hpoints
      exact absurd hpoints (by decide)
    have hshown : isTooShort ⟨kinds.map (EngineKind.engine lexers), minChars⟩ text = false := by
      rw [← Bool.not_eq_true, isTooShort_iff]
      exact not_or.mpr ⟨htext, not_lt.mpr hlong⟩
    rw [value_detect _ text hshown]
    exact best_of_points hkinds hpoints
  shares _ hfound _ hc := isShare_of_detect builtIn_of_kinds hfound hc

/-- A lexer that is surer of any text than can be. -/
def overconfident : LexerTable where
  lexers := [⟨"Java", ["java"], false, fun _ => .ok (.number (.infinite false))⟩]

theorem detect_outranks_overconfident :
    .heuristic ∈ EngineKind.all ∧
      (classify standardFingerprints "<?php".toList).value.toOption.any (50 < ·.points) ∧
      Outranks ⟨EngineKind.all.map (EngineKind.engine overconfident), 3⟩ "<?php".toList :=
  ⟨by decide, by decide +kernel, detect_outranks overconfident EngineKind.all 3 _ (by decide)⟩

end Detector

end SourceText.Detect
