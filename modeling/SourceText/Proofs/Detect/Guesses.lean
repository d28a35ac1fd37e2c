import SourceText.Proofs.Detect.Proposal
import SourceText.Proofs.Detect.Ranking
import SourceText.Proofs.Success
import SourceText.Proofs.Value.Order

/-!
# The guesses of a table of lexers

Every lexer that scores a text well enough has a guess to offer (`Offers`). Of these the table picks
the surest, equals in the order of the table (`guesses_picks`). The engine over it goes by the first
guess only, so that it proposes the first language of the greatest capped score.
-/

namespace SourceText.Detect

namespace LexerTable

/-- A lexer makes a guess: its score is neither zero nor below the least confidence, and the guess
is as sure as the score, up to one. -/
inductive Makes (t : LexerTable) (text : Text) (l : Lexer) : Guess → Prop where
  | mk {score : Value} {x : Binary64} (scored : l.score text = .ok score)
    (nonzero : score.rank? ≠ some 0) (enough : score.AtLeast t.minConfidence)
    (converted : score.toBinary64? = some x) :
    Makes t text l ⟨l.language, Binary64.minFirst Binary64.one x⟩

theorem Makes.ne_nan {t : LexerTable} {text : Text} {l : Lexer} {g : Guess}
    (h : t.Makes text l g) : g.confidence ≠ .nan := by
  cases h with
  | mk => exact minFirst_one_ne_nan _

/-- The lexer at a place of the table makes a guess, can be used and is not one that takes any
text. -/
def Offers (t : LexerTable) (text : Text) (place : Nat) (g : Guess) : Prop :=
  ∃ l, t.lexers[place]? = some l ∧ l.isMissing = false ∧ l.language ∉ ignoredLanguages ∧
    t.Makes text l g

/-- Whether a lexer scores a text by a number, or by something that counts as nothing. A score that
is good enough is not an integer beyond the binary numbers. -/
def Scores (t : LexerTable) (text : Text) (l : Lexer) : Prop :=
  ∃ score, l.score text = .ok score ∧ (score.isGiven = true → score.IsNumeric ∧
    (score.AtLeast t.minConfidence → ∀ n, score.toInt? = some n → n.natAbs < Binary64.overflow))

/-- Whether the guess at one place comes before that at another one: it is surer, or as sure and
from an earlier place. -/
def Ahead (a b : Nat × Guess) : Prop :=
  b.2.confidence.lt a.2.confidence = true ∨
    a.2.confidence.same b.2.confidence = true ∧ a.1 < b.1

/-- The guesses that are picked for a text, with their places: the ones ahead of all others, in this
order, and as many as are wanted. -/
structure Picks (t : LexerTable) (text : Text) (picked : List (Nat × Guess)) : Prop where
  few : (picked.length : Int) ≤ t.maxResults
  distinct : (picked.map (·.1)).Nodup
  offered : ∀ p ∈ picked, t.Offers text p.1 p.2
  ordered : picked.Pairwise Ahead
  leftOut : ∀ place g, t.Offers text place g → (place, g) ∉ picked →
    (picked.length : Int) = t.maxResults ∧ ∀ p ∈ picked, Ahead p (place, g)

/-! ### One lexer -/

section Lexer

variable {t : LexerTable} {text : Text} {l : Lexer}

theorem scores_of_number {x : Binary64} (h : l.score text = .ok (.number x)) : t.Scores text l :=
  ⟨_, h, fun _ => ⟨.number x, fun _ => nofun⟩⟩

theorem scores_of_int {v : Value} {n : Int} (h : l.score text = .ok v) (hv : v.toInt? = some n)
    (hn : n.natAbs < Binary64.overflow) : t.Scores text l :=
  ⟨v, h, fun _ => ⟨.int hv, fun _ _ hm => Option.some.inj (hv.symm.trans hm) ▸ hn⟩⟩

section Score

variable {score : Value} (hscore : l.score text = .ok score)

include hscore

theorem makes_iff {g : Guess} : t.Makes text l g ↔ score.rank? ≠ some 0 ∧
    score.AtLeast t.minConfidence ∧
    ∃ x, score.toBinary64? = some x ∧ ⟨l.language, Binary64.minFirst Binary64.one x⟩ = g := by
  constructor
  · rintro ⟨scored, nonzero, enough, converted⟩
    obtain rfl := Except.ok.inj (hscore.symm.trans scored)
    exact ⟨nonzero, enough, _, converted, rfl⟩
  · rintro ⟨nonzero, enough, x, converted, rfl⟩
    exact .mk hscore nonzero enough converted

theorem guess?_of_nothing (hgiven : score.isGiven = false) : t.guess? text l = .ok none := by
  rw [guess?, hscore]
  change (if (!score.isGiven) = true then _ else _) = _
  rw [hgiven]
  rfl

theorem guess?_of_given (hgiven : score.isGiven = true) {holds : Bool}
    (hholds : score.isAtLeast t.minConfidence = .ok holds) :
    t.guess? text l = if holds then
      match score.toBinary64? with
      | some x => .ok (some ⟨l.language, Binary64.minFirst Binary64.one x⟩)
      | none => .error .tooLarge
      else .ok none := by
  rw [guess?, hscore]
  change (if (!score.isGiven) = true then _ else _) = _
  rw [hgiven, hholds]
  rfl

end Score

/-- Scoring a text comes to the guess that the lexer makes. -/
theorem guess?_makes (hleast : t.minConfidence.IsNumeric) (h : t.Scores text l) :
    ∃ made, t.guess? text l = .ok made ∧ ∀ g, made = some g ↔ t.Makes text l g := by
  obtain ⟨score, hscore, hjudged⟩ := h
  simp only [makes_iff hscore]
  cases hgiven : score.isGiven with
  | false =>
    refine ⟨none, guess?_of_nothing hscore hgiven, fun g => iff_of_false nofun ?_⟩
    rintro ⟨nonzero, enough, -⟩
    rw [(Value.isGiven_iff_rank? enough.isNumeric).mpr nonzero] at hgiven
    exact Bool.false_ne_true hgiven.symm
  | true =>
    obtain ⟨hnumeric, hbounded⟩ := hjudged hgiven
    have hnonzero := (Value.isGiven_iff_rank? hnumeric).mp hgiven
    obtain ⟨holds, hholds, henough⟩ := Value.isAtLeast_eq_ok hnumeric hleast
    rw [guess?_of_given hscore hgiven hholds]
    cases holds with
    | false =>
      refine ⟨none, rfl, fun g => iff_of_false nofun ?_⟩
      rintro ⟨-, enough, -⟩
      exact Bool.false_ne_true (henough.mpr enough)
    | true =>
      have enough := henough.mp rfl
      obtain ⟨x, hx⟩ := Option.isSome_iff_exists.mp
        ((Value.isSome_toBinary64? hnumeric).mpr (hbounded enough))
      rw [hx]
      refine ⟨_, rfl, fun g => ⟨fun hg => ⟨hnonzero, enough, x, rfl, Option.some.inj hg⟩, ?_⟩⟩
      rintro ⟨-, -, x', hx', rfl⟩
      rw [Option.some.inj hx']

/-- The guess that a lexer makes of a text, if it makes one. -/
def made (t : LexerTable) (text : Text) (l : Lexer) : Option Guess :=
  (t.guess? text l).toOption.join

theorem guess?_eq_made (hleast : t.minConfidence.IsNumeric) (h : t.Scores text l) :
    t.guess? text l = .ok (t.made text l) := by
  obtain ⟨made, hmade, -⟩ := guess?_makes hleast h
  rw [LexerTable.made, hmade]
  rfl

theorem made_eq_some_iff (hleast : t.minConfidence.IsNumeric) (h : t.Scores text l) {g : Guess} :
    t.made text l = some g ↔ t.Makes text l g := by
  obtain ⟨made, hmade, hguess⟩ := guess?_makes hleast h
  rw [LexerTable.made, hmade, ← hguess]
  rfl

end Lexer

/-! ### All lexers -/

/-- Whether the guess of a lexer counts. -/
def counts (l : Lexer) : Bool := l.language ∉ ignoredLanguages && !l.isMissing

theorem counts_iff {l : Lexer} :
    counts l = true ↔ l.isMissing = false ∧ l.language ∉ ignoredLanguages := by
  rw [counts, Bool.and_eq_true, decide_eq_true_iff, Bool.not_eq_true', and_comm]

/-- The guesses that lexers make, with the places of the lexers. -/
def offers (t : LexerTable) (text : Text) : List (Nat × Guess) :=
  t.lexers.zipIdx.filterMap fun (l, place) =>
    if counts l then (t.made text l).map fun g => (place, g) else none

section Table

variable {t : LexerTable} {text : Text}

/-- The offers are in the order of the table, one for each place at most. -/
theorem offers_pairwise (t : LexerTable) (text : Text) :
    (t.offers text).Pairwise fun a b => a.1 < b.1 := by
  have hplaces : t.lexers.zipIdx.Pairwise fun a b => a.2 < b.2 := by
    rw [← List.pairwise_map (f := Prod.snd), List.zipIdx_map_snd]
    exact List.pairwise_lt_range'
  refine hplaces.filterMap _ ?_
  rintro ⟨l, i⟩ ⟨l', j⟩ hij a ha b hb
  obtain ⟨-, ha⟩ := Option.ite_none_right_eq_some.mp ha
  obtain ⟨-, hb⟩ := Option.ite_none_right_eq_some.mp hb
  obtain ⟨g, -, rfl⟩ := Option.map_eq_some_iff.mp ha
  obtain ⟨g', -, rfl⟩ := Option.map_eq_some_iff.mp hb
  exact hij

/-- Without the places the offers are the guesses of the lexers that can be used. -/
theorem map_offers (hbuilt : t.failure = none) :
    (t.offers text).map (·.2) = t.usable.filterMap (t.made text) := by
  have husable : t.usable = t.lexers.filter counts := by
    rw [usable, hbuilt]
    rfl
  rw [husable, List.filterMap_filter, offers, List.map_filterMap]
  conv_rhs => rw [← List.zipIdx_map_fst 0 t.lexers, List.filterMap_map]
  refine List.filterMap_congr fun entry _ => ?_
  obtain ⟨l, place⟩ := entry
  dsimp only [Function.comp_apply]
  split
  · rw [Option.map_map]
    exact Option.map_id'
  · rfl

variable (hleast : t.minConfidence.IsNumeric)
  (hscores : ∀ l ∈ t.lexers, l.isMissing = false → l.language ∉ ignoredLanguages → t.Scores text l)

include hleast hscores

theorem mem_offers_iff {place : Nat} {g : Guess} :
    (place, g) ∈ t.offers text ↔ t.Offers text place g := by
  rw [offers, List.mem_filterMap]
  constructor
  · rintro ⟨⟨l, i⟩, hentry, hoffer⟩
    obtain ⟨hcounts, hoffer⟩ := Option.ite_none_right_eq_some.mp hoffer
    obtain ⟨g', hmade, hpair⟩ := Option.map_eq_some_iff.mp hoffer
    obtain ⟨rfl, rfl⟩ := Prod.mk.inj hpair
    obtain ⟨hfound, hwanted⟩ := counts_iff.mp hcounts
    have hl := List.mk_mem_zipIdx_iff_getElem?.mp hentry
    have hscored := hscores l (List.mem_of_getElem? hl) hfound hwanted
    exact ⟨l, hl, hfound, hwanted, (made_eq_some_iff hleast hscored).mp hmade⟩
  · rintro ⟨l, hl, hfound, hwanted, hmakes⟩
    have hscored := hscores l (List.mem_of_getElem? hl) hfound hwanted
    refine ⟨(l, place), List.mk_mem_zipIdx_iff_getElem?.mpr hl, ?_⟩
    dsimp only
    rw [if_pos (counts_iff.mpr ⟨hfound, hwanted⟩), (made_eq_some_iff hleast hscored).mpr hmakes,
      Option.map_some]

theorem value_guesses (hbuilt : t.failure = none) : (t.guesses text).value
    = .ok (firstItems t.maxResults
        (sortByConfidence (·.confidence) ((t.offers text).map (·.2)))) := by
  have hmade : t.usable.mapM (t.guess? text) = .ok (t.usable.map (t.made text)) := by
    refine mapM_eq_ok fun l hl => guess?_eq_made hleast ?_
    rw [usable, hbuilt] at hl
    obtain ⟨hmem, hcounts⟩ := List.mem_filter.mp hl
    obtain ⟨hfound, hwanted⟩ := counts_iff.mp hcounts
    exact hscores l hmem hfound hwanted
  have hvalue : (t.guesses text).value = (t.usable.mapM (t.guess? text)).bind fun made =>
      .ok (firstItems t.maxResults (sortByConfidence (·.confidence) (made.filterMap id))) := rfl
  rw [hvalue, hmade, map_offers hbuilt]
  simp only [Except.bind, List.filterMap_map, Function.id_comp]

/-- The offers that are picked. -/
theorem picks_take (hmax : 0 ≤ t.maxResults) :
    t.Picks text ((sortByConfidence (·.2.confidence) (t.offers text)).take t.maxResults.toNat) := by
  have hnumber : ∀ p ∈ t.offers text, p.2.confidence ≠ .nan := by
    intro p hp
    obtain ⟨l, -, -, -, hmakes⟩ := (mem_offers_iff hleast hscores).mp hp
    exact hmakes.ne_nan
  have hranked := sortByConfidence_ranked hnumber
  have hahead := hranked.pairwise hnumber (offers_pairwise t text)
  have hperm := hranked.perm
  have hplaces : ((sortByConfidence (·.2.confidence) (t.offers text)).map (·.1)).Nodup :=
    (hperm.map _).nodup_iff.mpr
      (List.pairwise_map.mpr ((offers_pairwise t text).imp fun hlt => hlt.ne))
  generalize sortByConfidence (·.2.confidence) (t.offers text) = sorted at *
  rw [← List.take_append_drop t.maxResults.toNat sorted, List.pairwise_append] at hahead
  obtain ⟨hordered, -, hcross⟩ := hahead
  refine ⟨?_, hplaces.sublist ((List.take_sublist _ _).map _), ?_, hordered, ?_⟩
  · have hlength := List.length_take_le t.maxResults.toNat sorted
    omega
  · intro p hp
    exact (mem_offers_iff hleast hscores).mp (hperm.mem_iff.mp (List.mem_of_mem_take hp))
  · intro place g hoffers hout
    have hmem := hperm.mem_iff.mpr ((mem_offers_iff hleast hscores).mpr hoffers)
    rw [← List.take_append_drop t.maxResults.toNat sorted, List.mem_append,
      or_iff_right hout] at hmem
    have hlong := List.length_pos_of_mem hmem
    rw [List.length_drop] at hlong
    refine ⟨?_, fun p hp => hcross p hp _ hmem⟩
    rw [List.length_take]
    omega

end Table

/-! ### The engine over the table -/

/-- What the engine over a table proposes: the language of the guess ahead of all others, if it is a
known one. Without a guess it proposes nothing. -/
structure Proposes (t : LexerTable) (text : Text) (id : String) (weight : Binary64) : Prop where
  surest : 1 ≤ t.maxResults → (∃ place g, t.Offers text place g) → ∃ place g,
    t.Offers text place g ∧
    (∀ other g', t.Offers text other g' → other ≠ place → Ahead (place, g) (other, g')) ∧
    ((Engine.statistical t.model id weight).classify text).value
      = .ok (if normalizeLanguage (some g.language) = unknownLanguage then none
        else some ⟨id, normalizeLanguage (some g.language),
          clampConfidence (g.confidence * weight)⟩)
  nothing : (∀ place g, ¬ t.Offers text place g) →
    ((Engine.statistical t.model id weight).classify text).value = .ok none

theorem value_statistical {t : LexerTable} {text : Text} {guesses : List Guess}
    (h : (t.guesses text).value = .ok guesses) (id : String) (weight : Binary64) :
    ((Engine.statistical t.model id weight).classify text).value
      = .ok (Engine.ofGuesses id weight guesses) := by
  have hvalue : ((Engine.statistical t.model id weight).classify text).value
      = ((t.guesses text).value.mapError Fault.message).map (Engine.ofGuesses id weight) := rfl
  rw [hvalue, h]
  rfl

theorem Picks.proposes {t : LexerTable} {text : Text} {picked : List (Nat × Guess)}
    (h : t.Picks text picked) (hvalue : (t.guesses text).value = .ok (picked.map (·.2)))
    (id : String) (weight : Binary64) : t.Proposes text id weight := by
  have hengine := value_statistical hvalue id weight
  cases picked with
  | nil =>
    refine ⟨fun hmax ⟨place, g, hoffers⟩ => ?_, fun _ => hengine⟩
    have hfull := (h.leftOut place g hoffers List.not_mem_nil).1
    rw [List.length_nil] at hfull
    omega
  | cons best others =>
    have hbest := h.offered best List.mem_cons_self
    refine ⟨fun _ _ => ⟨best.1, best.2, hbest, ?_, ?_⟩, fun hnone => absurd hbest (hnone _ _)⟩
    · intro other g hoffers hother
      by_cases hmem : (other, g) ∈ best :: others
      · rcases List.mem_cons.mp hmem with heq | htail
        · exact absurd (congrArg Prod.fst heq) hother
        · exact (List.pairwise_cons.mp h.ordered).1 _ htail
      · exact (h.leftOut other g hoffers hmem).2 best List.mem_cons_self
    · rw [hengine, List.map_cons, Engine.ofGuesses, List.head?_cons, Option.bind_some, candidate?]

/-- A table that is built picks the guesses that are ahead of all others, whenever its lexers score
the text, and the engine over it goes by the first of them. -/
theorem guesses_picks (t : LexerTable) (text : Text) (hbuilt : t.failure = none)
    (hmax : 0 ≤ t.maxResults) (hleast : t.minConfidence.IsNumeric)
    (hscores : ∀ l ∈ t.lexers, l.isMissing = false → l.language ∉ ignoredLanguages →
      t.Scores text l) :
    ∃ picked, (t.guesses text).value = .ok (picked.map (·.2)) ∧ t.Picks text picked ∧
      ∀ id weight, t.Proposes text id weight := by
  have hpicks := picks_take hleast hscores hmax
  have hvalue : (t.guesses text).value
      = .ok (((sortByConfidence (·.2.confidence) (t.offers text)).take
          t.maxResults.toNat).map (·.2)) := by
    rw [value_guesses hleast hscores hbuilt, firstItems, if_neg hmax.not_gt, List.map_take,
      map_sortByConfidence]
  exact ⟨_, hvalue, hpicks, hpicks.proposes hvalue⟩

/-- Lexers of which one takes any text and one is listed only. The others score by zero, by a half,
by a truth value, by infinity and by three. Of their guesses two are wanted. -/
def crowded : LexerTable where
  lexers := [
    ⟨"Text only", ["text"], false, fun _ => .ok (.number Binary64.one)⟩,
    ⟨"Plain", [], false, fun _ => .ok (.integer 0)⟩,
    ⟨"Half", ["half"], false, fun _ => .ok (.number (Binary64.ofRatio false 1 2))⟩,
    ⟨"Go", ["go", "golang"], false, fun _ => .ok (.bool true)⟩,
    ⟨"Gone", ["gone"], true, fun _ => .error "not found"⟩,
    ⟨"Rust", ["rust"], false, fun _ => .ok (.number (.infinite false))⟩,
    ⟨"Java", ["java"], false, fun _ => .ok (.integer 3)⟩]
  maxResults := 2

theorem guesses_picks_crowded :
    crowded.failure = none ∧ 0 ≤ crowded.maxResults ∧ crowded.minConfidence.IsNumeric ∧
      (∀ l ∈ crowded.lexers, l.isMissing = false → l.language ∉ ignoredLanguages →
        crowded.Scores [] l) ∧
      ∃ picked, (crowded.guesses []).value = .ok (picked.map (·.2)) ∧ crowded.Picks [] picked ∧
        ∀ id weight, crowded.Proposes [] id weight := by
  have hmax : 0 ≤ crowded.maxResults := by decide
  have hleast : crowded.minConfidence.IsNumeric := .number _
  have hscores : ∀ l ∈ crowded.lexers, l.isMissing = false → l.language ∉ ignoredLanguages →
      crowded.Scores [] l := by
    intro l hl hfound _
    simp only [crowded, List.mem_cons, List.not_mem_nil, or_false] at hl
    rcases hl with rfl | rfl | rfl | rfl | rfl | rfl | rfl
    · exact scores_of_number rfl
    · exact scores_of_int rfl rfl Binary64.overflow_pos
    · exact scores_of_number rfl
    · exact scores_of_int (n := 1) rfl rfl (by decide +kernel)
    · exact nomatch hfound
    · exact scores_of_number rfl
    · exact scores_of_int (n := 3) rfl rfl (by decide +kernel)
  exact ⟨rfl, hmax, hleast, hscores, guesses_picks crowded [] rfl hmax hleast hscores⟩

/-- A table of one lexer, whose score is an integer beyond the binary numbers. -/
def boundless : LexerTable where
  lexers := [⟨"Python", ["python"], false, fun _ => .ok (.integer (10 ^ 309))⟩]

/-- A score is made a binary number before it is capped at one. -/
theorem not_guesses_boundless :
    boundless.failure = none ∧ 0 ≤ boundless.maxResults ∧
      (∀ l ∈ boundless.lexers, ∃ score, l.score "abc".toList = .ok score ∧
        score.rank? ≠ some 0 ∧ score.AtLeast boundless.minConfidence) ∧
      ∀ guesses, (boundless.guesses "abc".toList).value ≠ .ok guesses := by
  have hfails : (boundless.guesses "abc".toList).value = .error .tooLarge := by decide +kernel
  have hnumeric : (Value.integer (10 ^ 309)).IsNumeric := .int rfl
  obtain ⟨holds, hholds, henough⟩ := Value.isAtLeast_eq_ok hnumeric
    (show boundless.minConfidence.IsNumeric from .number _)
  have hleast : (Value.integer (10 ^ 309)).isAtLeast boundless.minConfidence = .ok true := by
    decide +kernel
  obtain rfl := Except.ok.inj (hholds.symm.trans hleast)
  refine ⟨rfl, by decide, ?_, fun guesses hguesses => nomatch hfails.symm.trans hguesses⟩
  intro l hl
  obtain rfl := List.mem_singleton.mp hl
  exact ⟨_, rfl, (Value.isGiven_iff_rank? hnumeric).mp (by decide +kernel), henough.mp rfl⟩

end LexerTable

end SourceText.Detect
