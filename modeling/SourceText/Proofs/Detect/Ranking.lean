import Mathlib.Data.List.Basic
import SourceText.Detect.Candidate
import SourceText.Proofs.Number.Order

/-!
# Ranking by confidence

Sorting by confidence loses nothing, puts the surest first and leaves equals in their order
(`sortByConfidence_ranked`), as long as every confidence is a number. So the item in front is the
first one of greatest confidence (`Ranked.head_first`).
-/

namespace SourceText.Detect

open Binary64 (lt le same rank lt_iff_rank_lt le_iff_rank_le same_iff_rank_eq)

/-- `ranked` holds the items of `made`, the surest first and equals in their order. -/
structure Ranked {α : Type} (confidence : α → Binary64) (made ranked : List α) : Prop where
  perm : ranked.Perm made
  descending : ranked.Pairwise fun a b => le (confidence b) (confidence a) = true
  stable : ∀ a ∈ made, ranked.filter (fun b => same (confidence a) (confidence b))
    = made.filter fun b => same (confidence a) (confidence b)

section Ranking

variable {α : Type} {confidence : α → Binary64} {items : List α}

/-- The order by rank puts items of any confidence into an order, those without a number too. Where
all are numbers, it is the order that is sorted by. -/
theorem sortByConfidence_eq (hnumber : ∀ a ∈ items, confidence a ≠ .nan) :
    sortByConfidence confidence items
      = items.mergeSort fun a b => decide ((confidence b).rank ≤ (confidence a).rank) := by
  have hsame : ∀ a ∈ items, ∀ b ∈ items,
      decide ((confidence b).rank ≤ (confidence a).rank) = !(confidence a).lt (confidence b) := by
    intro a ha b hb
    rw [Bool.eq_iff_iff, decide_eq_true_iff, Bool.not_eq_true', ← Bool.not_eq_true,
      lt_iff_rank_lt (hnumber a ha) (hnumber b hb), not_lt]
  have hsort := List.map_mergeSort (f := id) (s := fun a b => !(confidence a).lt (confidence b)) hsame
  rw [List.map_id, List.map_id] at hsort
  exact hsort.symm

theorem map_sortByConfidence {β : Type} (f : β → α) (items : List β) :
    (sortByConfidence (fun b => confidence (f b)) items).map f
      = sortByConfidence confidence (items.map f) :=
  List.map_mergeSort fun _ _ _ _ => rfl

theorem sortByConfidence_ranked (hnumber : ∀ a ∈ items, confidence a ≠ .nan) :
    Ranked confidence items (sortByConfidence confidence items) := by
  have htrans : ∀ a b c : α, decide ((confidence b).rank ≤ (confidence a).rank) = true →
      decide ((confidence c).rank ≤ (confidence b).rank) = true →
      decide ((confidence c).rank ≤ (confidence a).rank) = true := by
    intro a b c hab hbc
    exact decide_eq_true ((of_decide_eq_true hbc).trans (of_decide_eq_true hab))
  have htotal : ∀ a b : α, (decide ((confidence b).rank ≤ (confidence a).rank) ||
      decide ((confidence a).rank ≤ (confidence b).rank)) = true := by
    intro a b
    simpa using le_total (confidence b).rank (confidence a).rank
  rw [sortByConfidence_eq hnumber]
  have hperm := List.mergeSort_perm items
    fun a b => decide ((confidence b).rank ≤ (confidence a).rank)
  refine ⟨hperm, ?_, ?_⟩
  · refine (List.pairwise_mergeSort htrans htotal items).imp_of_mem ?_
    intro a b ha hb hab
    exact (le_iff_rank_le (hnumber b (hperm.mem_iff.mp hb)) (hnumber a (hperm.mem_iff.mp ha))).mpr
      (of_decide_eq_true hab)
  · -- Equals are in order as a part of the items, and such a part is kept by sorting.
    intro a ha
    have hequal : (items.filter fun b => same (confidence a) (confidence b)).Pairwise
        fun b c => decide ((confidence c).rank ≤ (confidence b).rank) = true := by
      refine List.pairwise_of_forall_mem_list fun b hb c hc => decide_eq_true ?_
      obtain ⟨hb, hab⟩ := List.mem_filter.mp hb
      obtain ⟨hc, hac⟩ := List.mem_filter.mp hc
      rw [same_iff_rank_eq (hnumber a ha) (hnumber b hb)] at hab
      rw [same_iff_rank_eq (hnumber a ha) (hnumber c hc)] at hac
      exact (hac.symm.trans hab).le
    have hpart := List.sublist_mergeSort htrans htotal hequal List.filter_sublist
    have hfilter := hpart.filter fun b => same (confidence a) (confidence b)
    simp only [List.filter_filter, Bool.and_self] at hfilter
    exact (hfilter.eq_of_length (hperm.filter _).length_eq.symm).symm

/-- Ranked items of the same confidence stand to one another as they did before. -/
theorem Ranked.pairwise {made ranked : List α} {R : α → α → Prop}
    (h : Ranked confidence made ranked) (hnumber : ∀ a ∈ made, confidence a ≠ .nan)
    (hmade : made.Pairwise R) :
    ranked.Pairwise fun a b => lt (confidence b) (confidence a) = true ∨
      same (confidence a) (confidence b) = true ∧ R a b := by
  rw [List.pairwise_iff_forall_sublist]
  intro a b hpart
  have ha : a ∈ made := h.perm.mem_iff.mp (hpart.subset List.mem_cons_self)
  have hb : b ∈ made := h.perm.mem_iff.mp (hpart.subset (List.mem_cons_of_mem a List.mem_cons_self))
  have hle := List.pairwise_iff_forall_sublist.mp h.descending hpart
  rw [le_iff_rank_le (hnumber b hb) (hnumber a ha)] at hle
  rcases hle.lt_or_eq with hlt | heq
  · exact .inl ((lt_iff_rank_lt (hnumber b hb) (hnumber a ha)).mpr hlt)
  · have hself : same (confidence a) (confidence a) = true :=
      (same_iff_rank_eq (hnumber a ha) (hnumber a ha)).mpr rfl
    have hsame : same (confidence a) (confidence b) = true :=
      (same_iff_rank_eq (hnumber a ha) (hnumber b hb)).mpr heq.symm
    have hequals := hpart.filter fun c => same (confidence a) (confidence c)
    rw [h.stable a ha, List.filter_cons, if_pos hself, List.filter_cons, if_pos hsame] at hequals
    have hearlier := hequals.trans List.filter_sublist
    exact .inr ⟨hsame, List.pairwise_iff_forall_sublist.mp hmade hearlier⟩

/-- The first of the ranked items is the first of greatest confidence. -/
theorem Ranked.head_first {made others : List α} {best : α}
    (h : Ranked confidence made (best :: others)) (hnumber : ∀ a ∈ made, confidence a ≠ .nan) :
    ∃ before after, made = before ++ best :: after ∧
      (∀ a ∈ before, lt (confidence a) (confidence best) = true) ∧
      ∀ a ∈ after, le (confidence a) (confidence best) = true := by
  have hbest : best ∈ made := h.perm.mem_iff.mp (List.mem_cons_self ..)
  have hsame : same (confidence best) (confidence best) = true :=
    (same_iff_rank_eq (hnumber best hbest) (hnumber best hbest)).mpr rfl
  have hmost : ∀ a ∈ made, (confidence a).rank ≤ (confidence best).rank := by
    intro a ha
    rcases List.mem_cons.mp (h.perm.mem_iff.mpr ha) with rfl | hother
    · exact le_rfl
    · exact (le_iff_rank_le (hnumber a ha) (hnumber best hbest)).mp
        ((List.pairwise_cons.mp h.descending).1 a hother)
  have hequals := h.stable best hbest
  rw [List.filter_cons, if_pos hsame] at hequals
  obtain ⟨before, after, rfl, hbefore, -, -⟩ := List.filter_eq_cons_iff.mp hequals.symm
  refine ⟨before, after, rfl, ?_, ?_⟩
  · intro a ha
    have hmem : a ∈ before ++ best :: after := List.mem_append_left _ ha
    refine (lt_iff_rank_lt (hnumber a hmem) (hnumber best hbest)).mpr
      (lt_of_le_of_ne (hmost a hmem) fun heq => hbefore a ha ?_)
    exact (same_iff_rank_eq (hnumber best hbest) (hnumber a hmem)).mpr heq.symm
  · intro a ha
    have hmem : a ∈ before ++ best :: after :=
      List.mem_append_right _ (List.mem_cons_of_mem _ ha)
    exact (le_iff_rank_le (hnumber a hmem) (hnumber best hbest)).mpr (hmost a hmem)

end Ranking

end SourceText.Detect
