import SourceText.Proofs.Detect.Opinion
import SourceText.Proofs.Number.Monotone
import SourceText.Proofs.Success

/-!
# What engines propose

A proposal is of a known tag, and its confidence lies between zero and one
(`isShare_clampConfidence`). That of a relevance is a hundredth of its points, up to one; that of a
guess is brought down by its weight. Every opinion of the engines that there are is such a proposal
(`Engine.BuiltIn.candidate?_of_opinion`).
-/

namespace SourceText.Detect

open Binary64 (rank lt_iff_rank_lt rank_minFirst rank_maxFirst rank_zero rank_one rank_ofRatio_le
  ofQuotient overflow)

theorem candidate?_eq_some_iff {engine raw : String} {confidence : Binary64} {c : Candidate} :
    candidate? engine raw confidence = some c ↔ normalizeLanguage (some raw) ≠ unknownLanguage ∧
      c = ⟨engine, normalizeLanguage (some raw), clampConfidence confidence⟩ := by
  rw [candidate?]
  split
  · next hunknown => exact iff_of_false nofun fun h => h.1 hunknown
  · next hknown =>
    rw [Option.some.injEq, eq_comm]
    exact (and_iff_right hknown).symm

theorem candidate?_eq_none_iff {engine raw : String} {confidence : Binary64} :
    candidate? engine raw confidence = none ↔ normalizeLanguage (some raw) = unknownLanguage := by
  rw [candidate?]
  split
  · next hunknown => exact iff_of_true rfl hunknown
  · next hknown => exact iff_of_false nofun hknown

/-! ### Confidence -/

theorem one_ne_nan : Binary64.one ≠ .nan := by
  decide +kernel

/-- What is capped at one is a number, whatever it was before. -/
theorem minFirst_one_ne_nan (x : Binary64) : Binary64.minFirst Binary64.one x ≠ .nan := by
  rw [Binary64.minFirst]
  split
  · next hlt =>
    intro hnan
    rw [hnan] at hlt
    exact Bool.false_ne_true hlt
  · exact one_ne_nan

theorem rank_minFirst_one_le (x : Binary64) : (Binary64.minFirst Binary64.one x).rank ≤ 1 := by
  by_cases hx : x = .nan
  · rw [hx]
    exact rank_one.le
  · rw [rank_minFirst one_ne_nan hx, rank_one]
    exact min_le_left _ _

theorem rank_clampConfidence {x : Binary64} (hx : x ≠ .nan) :
    (clampConfidence x).rank = max 0 (min 1 x.rank) := by
  rw [clampConfidence, rank_maxFirst (by nofun) (minFirst_one_ne_nan x),
    rank_minFirst one_ne_nan hx, rank_zero, rank_one]

/-- Whether a confidence lies between zero and one. -/
def IsShare (x : Binary64) : Prop := x ≠ .nan ∧ 0 ≤ x.rank ∧ x.rank ≤ 1

theorem isShare_clampConfidence (x : Binary64) : IsShare (clampConfidence x) := by
  have hcapped := minFirst_one_ne_nan x
  have hzero : Binary64.zero ≠ .nan := nofun
  refine ⟨?_, ?_, ?_⟩
  · rw [clampConfidence, Binary64.maxFirst]
    split
    · exact hcapped
    · exact hzero
  · rw [clampConfidence, rank_maxFirst hzero hcapped, rank_zero]
    exact le_max_left _ _
  · rw [clampConfidence, rank_maxFirst hzero hcapped, rank_zero]
    exact max_le zero_le_one (rank_minFirst_one_le x)

/-! ### The confidence of a relevance -/

section Quotient

variable {p q : Int} (hp : 0 < p)

include hp

theorem ofQuotient_of_pos (d : ℕ) : ofQuotient p d = .ofRatio false p.natAbs d := by
  rw [ofQuotient, decide_eq_false hp.not_gt]

theorem ofQuotient_ne_nan (d : ℕ) : ofQuotient p d ≠ .nan := by
  rw [ofQuotient_of_pos hp]
  exact Binary64.ofRatio_ne_nan _ _ _

theorem rank_ofQuotient_le (h : p ≤ q) {d : ℕ} (hd : 0 < d) :
    (ofQuotient p d).rank ≤ (ofQuotient q d).rank := by
  rw [ofQuotient_of_pos hp, ofQuotient_of_pos (hp.trans_le h)]
  refine rank_ofRatio_le hd hd (div_le_div_of_nonneg_right ?_ (Nat.cast_nonneg d))
  exact_mod_cast (by omega : p.natAbs ≤ q.natAbs)

theorem isSome_bounded?_ofQuotient :
    (ofQuotient p 100).bounded?.isSome = true ↔ p < 100 * (overflow : Int) := by
  rw [ofQuotient_of_pos hp, Binary64.isSome_bounded?_ofRatio false _ (by decide)]
  omega

theorem clampConfidence_ofQuotient :
    clampConfidence (ofQuotient p 100) = if p < 100 then ofQuotient p 100 else Binary64.one := by
  have hnan := ofQuotient_ne_nan hp 100
  split
  · next hsmall =>
    have hleast : Binary64.lt Binary64.zero (ofQuotient 1 100) = true := by decide +kernel
    have hmost : Binary64.lt (ofQuotient 99 100) Binary64.one = true := by decide +kernel
    rw [lt_iff_rank_lt (by nofun) (ofQuotient_ne_nan one_pos 100)] at hleast
    rw [lt_iff_rank_lt (ofQuotient_ne_nan (by decide) 100) one_ne_nan] at hmost
    have hlow : Binary64.lt Binary64.zero (ofQuotient p 100) = true :=
      (lt_iff_rank_lt (by nofun) hnan).mpr
        (hleast.trans_le (rank_ofQuotient_le one_pos hp (by decide)))
    have hhigh : Binary64.lt (ofQuotient p 100) Binary64.one = true :=
      (lt_iff_rank_lt hnan one_ne_nan).mpr
        ((rank_ofQuotient_le hp (Int.le_sub_one_of_lt hsmall) (by decide)).trans_lt hmost)
    rw [clampConfidence, Binary64.minFirst, if_pos hhigh, Binary64.maxFirst, if_pos hlow]
  · next hlarge =>
    have hone : ofQuotient 100 100 = Binary64.one := by decide +kernel
    have hhigh : ¬ Binary64.lt (ofQuotient p 100) Binary64.one = true := by
      rw [lt_iff_rank_lt hnan one_ne_nan, not_lt, ← hone]
      exact rank_ofQuotient_le (by decide) (not_lt.mp hlarge) (by decide)
    rw [clampConfidence, Binary64.minFirst, if_neg hhigh]
    decide +kernel

end Quotient

namespace Engine

variable {id : String} {r : Relevance}

theorem candidate?_of_ofRelevance {c : Candidate} (h : ofRelevance id r = .ok (some c)) :
    candidate? id r.language (ofQuotient r.points 100) = some c := by
  unfold ofRelevance at h
  split at h
  · exact nomatch Except.ok.inj h
  · dsimp only at h
    split at h
    · exact nomatch Except.ok.inj h
    · next made hmade =>
      split at h
      · exact hmade.trans (Except.ok.inj h)
      · exact nomatch h

theorem ofRelevance_of_nonpos (h : r.points ≤ 0) : ofRelevance id r = .ok none := by
  rw [ofRelevance, if_pos h]

theorem ofRelevance_of_unknown (h : normalizeLanguage (some r.language) = unknownLanguage) :
    ofRelevance id r = .ok none := by
  rw [ofRelevance]
  split
  · rfl
  · simp only [candidate?_eq_none_iff.mpr h]

/-- Points for a known language come to a candidate, up to those that are too many for a number. -/
theorem ofRelevance_of_known (hp : 0 < r.points)
    (hknown : normalizeLanguage (some r.language) ≠ unknownLanguage) :
    ofRelevance id r = if r.points < 100 * (overflow : Int) then
      .ok (some ⟨id, normalizeLanguage (some r.language),
        if r.points < 100 then ofQuotient r.points 100 else Binary64.one⟩)
      else .error relevanceTooLarge := by
  have hcandidate : candidate? id r.language (ofQuotient r.points 100) = some _ :=
    candidate?_eq_some_iff.mpr ⟨hknown, rfl⟩
  rw [ofRelevance, if_neg hp.not_ge]
  simp only [hcandidate, isSome_bounded?_ofQuotient hp, clampConfidence_ofQuotient hp]

theorem value_heuristic (classifier : Text → Recorded (Except String Relevance)) (id : String)
    (text : Text) : ((heuristic classifier id).classify text).value
      = (classifier text).value.bind (ofRelevance id) := rfl

theorem ofRelevance_eq_some_iff {c : Candidate} : ofRelevance id r = .ok (some c) ↔
    0 < r.points ∧ normalizeLanguage (some r.language) ≠ unknownLanguage ∧
      r.points < 100 * (overflow : Int) ∧
      c = ⟨id, normalizeLanguage (some r.language),
        if r.points < 100 then ofQuotient r.points 100 else Binary64.one⟩ := by
  by_cases hp : 0 < r.points
  · by_cases hknown : normalizeLanguage (some r.language) = unknownLanguage
    · rw [ofRelevance_of_unknown hknown]
      exact iff_of_false nofun fun h => h.2.1 hknown
    · rw [ofRelevance_of_known hp hknown]
      split
      · next hsmall =>
        rw [Except.ok.injEq, Option.some.injEq, eq_comm]
        exact ⟨fun h => ⟨hp, hknown, hsmall, h⟩, fun h => h.2.2.2⟩
      · next hlarge => exact iff_of_false nofun fun h => hlarge h.2.2.1
  · rw [ofRelevance_of_nonpos (not_lt.mp hp)]
    exact iff_of_false nofun fun h => hp h.1

theorem ofRelevance_eq_error_iff {reason : String} : ofRelevance id r = .error reason ↔
    0 < r.points ∧ normalizeLanguage (some r.language) ≠ unknownLanguage ∧
      100 * (overflow : Int) ≤ r.points ∧ reason = relevanceTooLarge := by
  by_cases hp : 0 < r.points
  · by_cases hknown : normalizeLanguage (some r.language) = unknownLanguage
    · rw [ofRelevance_of_unknown hknown]
      exact iff_of_false nofun fun h => h.2.1 hknown
    · rw [ofRelevance_of_known hp hknown]
      split
      · next hsmall => exact iff_of_false nofun fun h => h.2.2.1.not_gt hsmall
      · next hlarge =>
        rw [Except.error.injEq, eq_comm]
        exact ⟨fun h => ⟨hp, hknown, not_lt.mp hlarge, h⟩, fun h => h.2.2.2⟩
  · rw [ofRelevance_of_nonpos (not_lt.mp hp)]
    exact iff_of_false nofun fun h => hp h.1

/-! ### The confidence of a guess -/

theorem guessWeight_eq : guessWeight = .finite false (2 ^ 52) (-53) := by
  decide +kernel

/-- A number up to one is brought down to the weight or below it. -/
theorem rank_mul_guessWeight {x : Binary64} (hx : x ≠ .nan) (hone : x.rank ≤ 1) :
    x * guessWeight ≠ .nan ∧ (x * guessWeight).rank ≤ guessWeight.rank := by
  cases x with
  | nan => exact absurd rfl hx
  | infinite s =>
    cases s with
    | false => exact absurd hone (by decide)
    | true =>
      have hmul : Binary64.infinite true * guessWeight = .infinite true := by decide +kernel
      rw [hmul]
      exact ⟨nofun, bot_le⟩
  | finite s m e =>
    have hmul : Binary64.finite s m e * guessWeight = .ofUnits (s != false)
        (Binary64.signed (s != false) (m * 2 ^ 52)) (e + -53) := by
      rw [guessWeight_eq]
      rfl
    have hvalue : Binary64.toRat s m e ≤ 1 :=
      WithTop.coe_le_coe.mp (WithBot.coe_le_coe.mp hone)
    rw [hmul]
    refine ⟨Binary64.ofUnits_ne_nan _ _ _, Binary64.rank_ofUnits_le _ two_pos ?_⟩
    have hhalf : ((Binary64.signed (s != false) (m * 2 ^ 52) : ℤ) : ℚ) * 2 ^ (e + -53)
        = Binary64.toRat s m e / 2 := by
      rw [Binary64.toRat, zpow_add₀ two_ne_zero]
      cases s <;> simp only [Binary64.signed] <;> push_cast <;> norm_num <;> ring
    rw [hhalf, Nat.cast_one, Nat.cast_ofNat]
    linarith

end Engine

/-! ### Opinions -/

/-- The engines that there are: over a model, such as that of a table of lexers, and over a
classifier that gives points, such as that by a table of fingerprints. -/
inductive Engine.BuiltIn : Engine → Prop where
  | statistical (model : Model) (id : String) (weight : Binary64) :
    BuiltIn (.statistical model id weight)
  | heuristic (classifier : Text → Recorded (Except String Relevance)) (id : String) :
    BuiltIn (.heuristic classifier id)

theorem EngineKind.builtIn (lexers : LexerTable) (kind : EngineKind) :
    (kind.engine lexers).BuiltIn := by
  cases kind with
  | statistical => exact .statistical _ _ _
  | heuristic => exact .heuristic _ _

section Opinion

variable {e : Engine} (he : e.BuiltIn) {text : Text} {c : Candidate}
  (h : e.opinion? text = some c)

include he h

/-- An opinion is of a language with a confidence, brought to a tag and a share. -/
theorem Engine.BuiltIn.candidate?_of_opinion :
    ∃ engine raw confidence, candidate? engine raw confidence = some c := by
  have hclassify := classify_of_opinion h
  cases he with
  | statistical model id weight =>
    obtain ⟨guesses, -, hguesses⟩ := exists_of_map_eq_ok hclassify
    obtain ⟨g, -, hg⟩ := Option.bind_eq_some_iff.mp hguesses
    exact ⟨_, _, _, hg⟩
  | heuristic classifier id =>
    obtain ⟨r, -, hr⟩ := exists_of_bind_eq_ok hclassify
    exact ⟨_, _, _, candidate?_of_ofRelevance hr⟩

/-- The engines propose tags only, and never an unknown language. -/
theorem Engine.BuiltIn.language_of_opinion :
    (∃ raw, c.language = normalizeLanguage (some raw)) ∧ c.language ≠ unknownLanguage := by
  obtain ⟨engine, raw, confidence, hcandidate⟩ := he.candidate?_of_opinion h
  obtain ⟨hknown, rfl⟩ := candidate?_eq_some_iff.mp hcandidate
  dsimp only
  exact ⟨⟨raw, rfl⟩, hknown⟩

theorem Engine.BuiltIn.isShare_of_opinion : IsShare c.confidence := by
  obtain ⟨engine, raw, confidence, hcandidate⟩ := he.candidate?_of_opinion h
  obtain ⟨-, rfl⟩ := candidate?_eq_some_iff.mp hcandidate
  exact isShare_clampConfidence confidence

end Opinion

theorem Detector.isShare_of_mem_opinions {engines : List Engine}
    (hbuilt : ∀ e ∈ engines, e.BuiltIn) {text : Text} {c : Candidate}
    (hc : c ∈ engines.filterMap (·.opinion? text)) : IsShare c.confidence := by
  obtain ⟨e, he, hopinion⟩ := List.mem_filterMap.mp hc
  exact (hbuilt e he).isShare_of_opinion hopinion

/-- Every confidence that is found lies between zero and one. -/
theorem Detector.isShare_of_detect {d : Detector} (hbuilt : ∀ e ∈ d.engines, e.BuiltIn)
    {text : Text} {found : Detection} (hfound : (d.detect text).value = some found)
    {c : Candidate} (hc : c ∈ found.candidates) : IsShare c.confidence := by
  cases hshort : d.isTooShort text with
  | true =>
    rw [detect_of_short d text hshort] at hfound
    exact nomatch hfound
  | false =>
    rw [value_detect d text hshort] at hfound
    exact isShare_of_mem_opinions hbuilt (mem_candidates_of_rank hfound hc)

end SourceText.Detect
