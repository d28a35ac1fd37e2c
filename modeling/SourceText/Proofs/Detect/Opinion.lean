import SourceText.Detect.Detector
import SourceText.Proofs.Detect.Ranking

/-!
# What a detector asks and finds

A detector works with the opinions of its engines (`Engine.opinion?`): an engine that is not
available, fails or proposes nothing has none, and it makes no difference whether it is in the list
at all. What is found is the ranking of these opinions (`detect_ranks_opinions`).
-/

namespace SourceText.Detect

namespace Engine

/-- What an engine proposes for a text, if it is available and does not fail. -/
def opinion? (e : Engine) (text : Text) : Option Candidate :=
  match e.isAvailable.value, (e.classify text).value with
  | .ok true, .ok candidate => candidate
  | _, _ => none

/-- An opinion is what the engine answers when it is asked. -/
theorem classify_of_opinion {e : Engine} {text : Text} {c : Candidate}
    (h : e.opinion? text = some c) : (e.classify text).value = .ok (some c) := by
  rw [opinion?] at h
  split at h
  · next hclassify => rw [hclassify, h]
  · exact absurd h.symm (Option.some_ne_none c)

theorem opinion_of_classify {e : Engine} {text : Text} {c : Option Candidate}
    (havailable : e.isAvailable.value = .ok true) (h : (e.classify text).value = .ok c) :
    e.opinion? text = c := by
  rw [opinion?, havailable, h]

/-- The questions to the engine at a place: what a text is only when it says that it is available.
-/
def questions (place : Nat) (e : Engine) : List (Nat × Question) :=
  match e.isAvailable.value with
  | .ok true => [(place, .isAvailable), (place, .classify)]
  | _ => [(place, .isAvailable)]

/-- Whether an engine leaves it to the detector to ask engines. -/
def AsksNobody (e : Engine) (text : Text) : Prop :=
  Event.questions e.isAvailable.events = [] ∧ Event.questions (e.classify text).events = []

end Engine

namespace Detector

/-! ### One engine -/

theorem value_ask (text : Text) (place : Nat) (e : Engine) :
    (ask text place e).value = e.opinion? text := by
  simp only [ask, Engine.opinion?, Recorded.value_bind]
  cases e.isAvailable.value with
  | error reason => rfl
  | ok available =>
    cases available with
    | false => rfl
    | true =>
      simp only [Recorded.value_bind]
      cases (e.classify text).value with
      | error reason => rfl
      | ok candidate => rfl

theorem questions_append (first second : List Event) :
    Event.questions (first ++ second) = Event.questions first ++ Event.questions second :=
  List.filterMap_append

theorem questions_ask {text : Text} {e : Engine} (he : e.AsksNobody text) (place : Nat) :
    Event.questions (ask text place e).events = e.questions place := by
  simp only [ask, Engine.questions, Recorded.events_bind, questions_append, he.1,
    List.nil_append]
  cases e.isAvailable.value with
  | error reason => rfl
  | ok available =>
    cases available with
    | false => rfl
    | true =>
      simp only [Recorded.events_bind, questions_append, he.2, List.nil_append]
      cases (e.classify text).value with
      | error reason => rfl
      | ok candidate => rfl

/-! ### All engines -/

theorem value_askFrom (text : Text) (place : Nat) (engines : List Engine) :
    (askFrom text place engines).value = engines.filterMap (·.opinion? text) := by
  induction engines generalizing place with
  | nil => rfl
  | cons e engines ih =>
    simp only [askFrom, Recorded.value_bind, Recorded.value_pure, value_ask, ih,
      List.filterMap_cons]
    cases e.opinion? text with
    | none => rfl
    | some candidate => rfl

theorem questions_askFrom {text : Text} {engines : List Engine}
    (hengines : ∀ e ∈ engines, e.AsksNobody text) (place : Nat) :
    Event.questions (askFrom text place engines).events
      = (engines.zipIdx place).flatMap fun (e, i) => e.questions i := by
  induction engines generalizing place with
  | nil => rfl
  | cons e engines ih =>
    have hrest := ih (fun e' he' => hengines e' (List.mem_cons_of_mem _ he')) (place + 1)
    simp only [askFrom, Recorded.events_bind, Recorded.events_pure, List.append_nil,
      questions_append, questions_ask (hengines e (List.mem_cons_self ..)), hrest,
      List.zipIdx_cons, List.flatMap_cons]

theorem place_of_mem_questions {place : Nat} {e : Engine} {q : Nat × Question}
    (hq : q ∈ e.questions place) : q.1 = place := by
  unfold Engine.questions at hq
  split at hq <;> simp only [List.mem_cons, List.not_mem_nil, or_false] at hq
  · rcases hq with rfl | rfl <;> rfl
  · rw [hq]

/-- The questions to one engine of a list. -/
theorem filter_questions (engines : List Engine) (start place : Nat) :
    ((engines.zipIdx start).flatMap fun (e, i) => e.questions i).filter (·.1 = start + place)
      = (engines[place]?.map (·.questions (start + place))).getD [] := by
  induction engines generalizing start place with
  | nil => rfl
  | cons e engines ih =>
    rw [List.zipIdx_cons, List.flatMap_cons, List.filter_append]
    cases place with
    | zero =>
      have hfirst : (e.questions start).filter (·.1 = start + 0) = e.questions start :=
        List.filter_eq_self.mpr fun q hq => decide_eq_true (place_of_mem_questions hq)
      have hrest : ((engines.zipIdx (start + 1)).flatMap fun (e, i) => e.questions i).filter
          (·.1 = start + 0) = [] := by
        refine List.filter_eq_nil_iff.mpr fun q hq => ?_
        obtain ⟨⟨e', i⟩, hmem, hq⟩ := List.mem_flatMap.mp hq
        have hplace := place_of_mem_questions hq
        have hle := (List.mk_mem_zipIdx_iff_le_and_getElem?_sub.mp hmem).1
        simp only [decide_eq_true_eq]
        omega
      rw [hfirst, hrest, List.append_nil]
      rfl
    | succ place =>
      have hfirst : (e.questions start).filter (·.1 = start + (place + 1)) = [] := by
        refine List.filter_eq_nil_iff.mpr fun q hq => ?_
        have hplace := place_of_mem_questions hq
        simp only [decide_eq_true_eq]
        omega
      rw [hfirst, List.nil_append, List.getElem?_cons_succ,
        show start + (place + 1) = start + 1 + place by omega]
      exact ih (start + 1) place

/-! ### Detection -/

section Detect

variable (d : Detector) (text : Text)

theorem isTooShort_iff :
    d.isTooShort text = true ↔ text = [] ∨ (text.trim.length : Int) < d.minChars := by
  rw [isTooShort, Bool.or_eq_true, List.isEmpty_iff, decide_eq_true_eq]

theorem detect_of_short (h : d.isTooShort text = true) : d.detect text = pure none := by
  rw [detect, if_pos h]

theorem value_detect (h : d.isTooShort text = false) :
    (d.detect text).value = rank (d.engines.filterMap (·.opinion? text)) := by
  rw [detect, h, if_neg Bool.false_ne_true]
  simp only [Recorded.value_bind, Recorded.value_pure, value_askFrom]

theorem events_detect (h : d.isTooShort text = false) :
    (d.detect text).events = (askFrom text 0 d.engines).events := by
  rw [detect, h, if_neg Bool.false_ne_true]
  simp only [Recorded.events_bind, Recorded.events_pure, List.append_nil]

end Detect

theorem rank_eq_none_iff (candidates : List Candidate) :
    rank candidates = none ↔ candidates = [] := by
  have hlength : (sortByConfidence (·.confidence) candidates).length = candidates.length :=
    List.length_mergeSort _
  rw [rank]
  cases hsort : sortByConfidence (·.confidence) candidates with
  | nil =>
    rw [hsort] at hlength
    exact iff_of_true rfl (List.length_eq_zero_iff.mp hlength.symm)
  | cons best others =>
    refine iff_of_false (Option.some_ne_none _) ?_
    rintro rfl
    rw [hsort] at hlength
    exact absurd hlength (Nat.succ_ne_zero _)

theorem rank_eq_some {candidates : List Candidate} {found : Detection}
    (h : rank candidates = some found) :
    ∃ best others, sortByConfidence (·.confidence) candidates = best :: others ∧
      found = ⟨best.language, best :: others⟩ := by
  rw [rank] at h
  split at h
  · exact absurd h.symm (Option.some_ne_none _)
  · next best others hsort => exact ⟨best, others, hsort, (Option.some.inj h).symm⟩

/-- What is found is the language of a candidate that is as sure as any other. -/
theorem exists_best_of_rank {candidates : List Candidate} {found : Detection}
    (hnumber : ∀ c ∈ candidates, c.confidence ≠ .nan) (h : rank candidates = some found) :
    ∃ best ∈ candidates, found.best = best.language ∧
      ∀ c ∈ candidates, c.confidence.rank ≤ best.confidence.rank := by
  obtain ⟨best, others, hsort, rfl⟩ := rank_eq_some h
  have hranked := sortByConfidence_ranked hnumber
  rw [hsort] at hranked
  have hbest : best ∈ candidates := hranked.perm.mem_iff.mp List.mem_cons_self
  refine ⟨best, hbest, rfl, fun c hc => ?_⟩
  rcases List.mem_cons.mp (hranked.perm.mem_iff.mpr hc) with rfl | hother
  · exact le_rfl
  · exact (Binary64.le_iff_rank_le (hnumber c hc) (hnumber best hbest)).mp
      ((List.pairwise_cons.mp hranked.descending).1 c hother)

theorem mem_candidates_of_rank {candidates : List Candidate} {found : Detection}
    (h : rank candidates = some found) {c : Candidate} (hc : c ∈ found.candidates) :
    c ∈ candidates := by
  obtain ⟨best, others, hsort, rfl⟩ := rank_eq_some h
  exact List.mem_mergeSort.mp (hsort ▸ hc)

/-- What is found is the language of one of the opinions. -/
theorem exists_opinion_of_detect {d : Detector} {text : Text} {found : Detection}
    (h : (d.detect text).value = some found) :
    ∃ e ∈ d.engines, ∃ c, e.opinion? text = some c ∧ found.best = c.language := by
  cases hshort : d.isTooShort text with
  | true =>
    rw [detect_of_short d text hshort] at h
    exact nomatch h
  | false =>
    rw [value_detect d text hshort] at h
    obtain ⟨best, others, hsort, rfl⟩ := rank_eq_some h
    have hbest : best ∈ sortByConfidence (·.confidence) (d.engines.filterMap (·.opinion? text)) := by
      rw [hsort]
      exact List.mem_cons_self
    obtain ⟨e, he, hopinion⟩ := List.mem_filterMap.mp (List.mem_mergeSort.mp hbest)
    exact ⟨e, he, best, hopinion, rfl⟩

section Engines

variable {text : Text} {engines : List Engine}

/-- The first of the ranked opinions is that of the first engine that is surest. -/
theorem exists_surest {best : Candidate} {others : List Candidate}
    (hnumber : ∀ c ∈ engines.filterMap (·.opinion? text), c.confidence ≠ .nan)
    (hranked : Ranked (·.confidence) (engines.filterMap (·.opinion? text)) (best :: others)) :
    ∃ before e after, engines = before ++ e :: after ∧ e.opinion? text = some best ∧
      (∀ e' ∈ before, ∀ c, e'.opinion? text = some c →
        c.confidence.lt best.confidence = true) ∧
      ∀ e' ∈ after, ∀ c, e'.opinion? text = some c → c.confidence.le best.confidence = true := by
  obtain ⟨earlier, later, hmade, hearlier, hlater⟩ := hranked.head_first hnumber
  obtain ⟨before, rest, rfl, rfl, hrest⟩ := List.filterMap_eq_append_iff.mp hmade
  obtain ⟨silent, e, after, rfl, hsilent, he, rfl⟩ := List.filterMap_eq_cons_iff.mp hrest
  refine ⟨before ++ silent, e, after, (List.append_assoc ..).symm, he, ?_, ?_⟩
  · intro e' he' c hc
    rcases List.mem_append.mp he' with hbefore | hmem
    · exact hearlier c (List.mem_filterMap.mpr ⟨e', hbefore, hc⟩)
    · exact absurd ((hsilent e' hmem).symm.trans hc) (Option.some_ne_none c).symm
  · intro e' he' c hc
    exact hlater c (List.mem_filterMap.mpr ⟨e', he', hc⟩)

theorem filterMap_opinion_filter {keep : Engine → Bool}
    (hkeep : ∀ e ∈ engines, (e.opinion? text).isSome = true → keep e = true) :
    (engines.filter keep).filterMap (·.opinion? text) = engines.filterMap (·.opinion? text) := by
  rw [List.filterMap_filter]
  refine List.filterMap_congr fun e he => ?_
  cases hopinion : e.opinion? text with
  | none => rw [ite_self]
  | some c => rw [if_pos (hkeep e he (by rw [hopinion]; rfl))]

end Engines

/-- How a detector answers for a text: what it finds are the opinions of its engines, ranked, and
the language of the first engine that is surest; engines without an opinion may be left out. A text
that is too short is shown to no engine. Else each engine is asked once whether it is available, and
after a yes once for its opinion. -/
structure Answers (d : Detector) (text : Text) : Prop where
  nothing : (d.detect text).value = none ↔
    text = [] ∨ (text.trim.length : Int) < d.minChars ∨ ∀ e ∈ d.engines, e.opinion? text = none
  ranked : ∀ found, (d.detect text).value = some found →
    Ranked (·.confidence) (d.engines.filterMap (·.opinion? text)) found.candidates
  best : ∀ found, (d.detect text).value = some found →
    ∃ before e after c, d.engines = before ++ e :: after ∧ e.opinion? text = some c ∧
      found.best = c.language ∧
      (∀ e' ∈ before, ∀ c', e'.opinion? text = some c' → c'.confidence.lt c.confidence = true) ∧
      ∀ e' ∈ after, ∀ c', e'.opinion? text = some c' → c'.confidence.le c.confidence = true
  without : ∀ keep : Engine → Bool,
    (∀ e ∈ d.engines, (e.opinion? text).isSome = true → keep e = true) →
    (detect ⟨d.engines.filter keep, d.minChars⟩ text).value = (d.detect text).value
  unasked : text = [] ∨ (text.trim.length : Int) < d.minChars → (d.detect text).events = []
  asked : ¬ (text = [] ∨ (text.trim.length : Int) < d.minChars) →
    (∀ e ∈ d.engines, e.AsksNobody text) → ∀ place,
      (Event.questions (d.detect text).events).filter (·.1 = place)
        = (d.engines[place]?.map (·.questions place)).getD []

theorem answers_of_short {d : Detector} {text : Text} (hshort : d.isTooShort text = true) :
    d.Answers text := by
  have hnone := detect_of_short d text hshort
  have hwords := (d.isTooShort_iff text).mp hshort
  refine ⟨iff_of_true (by rw [hnone]; rfl) (or_assoc.mp (.inl hwords)), ?_, ?_, ?_, ?_, ?_⟩
  · intro found hfound
    rw [hnone] at hfound
    exact absurd hfound.symm (Option.some_ne_none found)
  · intro found hfound
    rw [hnone] at hfound
    exact absurd hfound.symm (Option.some_ne_none found)
  · intro keep _
    rw [hnone, detect_of_short ⟨d.engines.filter keep, d.minChars⟩ text hshort]
  · intro _
    rw [hnone]
    rfl
  · exact fun hlong => absurd hwords hlong

/-- Every text is answered for by the ranked opinions, as long as these can be ranked. -/
theorem detect_ranks_opinions (d : Detector) (text : Text)
    (hnumber : ∀ e ∈ d.engines, ∀ c, e.opinion? text = some c → c.confidence ≠ .nan) :
    d.Answers text := by
  have hmade : ∀ c ∈ d.engines.filterMap (·.opinion? text), c.confidence ≠ .nan := by
    intro c hc
    obtain ⟨e, he, hopinion⟩ := List.mem_filterMap.mp hc
    exact hnumber e he c hopinion
  cases hshort : d.isTooShort text with
  | true => exact answers_of_short hshort
  | false =>
    have hvalue := value_detect d text hshort
    have hlong : ¬ (text = [] ∨ (text.trim.length : Int) < d.minChars) := by
      rw [← d.isTooShort_iff, hshort]
      exact Bool.false_ne_true
    have hranked : Ranked (·.confidence) (d.engines.filterMap (·.opinion? text))
        (sortByConfidence (·.confidence) (d.engines.filterMap (·.opinion? text))) :=
      sortByConfidence_ranked hmade
    refine ⟨?_, ?_, ?_, ?_, ?_, ?_⟩
    · rw [hvalue, rank_eq_none_iff, List.filterMap_eq_nil_iff, ← or_assoc, or_iff_right hlong]
    · intro found hfound
      obtain ⟨best, others, hsort, rfl⟩ := rank_eq_some (hvalue.symm.trans hfound)
      exact hsort ▸ hranked
    · intro found hfound
      obtain ⟨best, others, hsort, rfl⟩ := rank_eq_some (hvalue.symm.trans hfound)
      rw [hsort] at hranked
      obtain ⟨before, e, after, hengines, he, hbefore, hafter⟩ := exists_surest hmade hranked
      exact ⟨before, e, after, best, hengines, he, rfl, hbefore, hafter⟩
    · intro keep hkeep
      rw [hvalue, value_detect ⟨d.engines.filter keep, d.minChars⟩ text hshort,
        filterMap_opinion_filter hkeep]
    · exact fun h => absurd h hlong
    · intro _ hengines place
      have hplace := filter_questions d.engines 0 place
      rw [Nat.zero_add] at hplace
      rw [events_detect d text hshort, questions_askFrom hengines, hplace]

/-- Engines of which one is not available, one fails and one proposes nothing, and two that are
equally sure. -/
def tied : Detector where
  engines := [
    .statistical ⟨pure (.ok false), fun _ => pure (.ok [⟨"c", Binary64.one⟩])⟩ "absent" Binary64.one,
    .statistical ⟨pure (.ok true), fun _ => pure (.error "crashed")⟩ "broken" Binary64.one,
    .heuristic (fun _ => pure (.ok ⟨"java", 40⟩)) "less",
    .heuristic (fun _ => pure (.ok ⟨"sql", 0⟩)) "silent",
    .heuristic (fun _ => pure (.ok ⟨"go", 50⟩)) "first",
    .statistical ⟨pure (.ok true), fun _ => pure (.ok [⟨"rust", Binary64.one⟩])⟩ "second"
      Engine.guessWeight]
  minChars := 3

theorem detect_ranks_opinions_tied :
    (∀ e ∈ tied.engines, ∀ c, e.opinion? "a := b".toList = some c → c.confidence ≠ .nan) ∧
      tied.engines.map (fun e => (e.opinion? "a := b".toList).map (·.language))
        = [none, none, some "java", none, some "go", some "rust"] ∧
      tied.Answers "a := b".toList := by
  have hall : ∀ e ∈ tied.engines,
      (e.opinion? "a := b".toList).all (·.confidence != .nan) = true := by decide +kernel
  have hnumber : ∀ e ∈ tied.engines, ∀ c,
      e.opinion? "a := b".toList = some c → c.confidence ≠ .nan := by
    intro e he c hc
    have hc' := hall e he
    rw [hc, Option.all_some] at hc'
    exact bne_iff_ne.mp hc'
  exact ⟨hnumber, by decide +kernel, detect_ranks_opinions tied _ hnumber⟩

end Detector

end SourceText.Detect
