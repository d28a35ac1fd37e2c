import Mathlib.Algebra.Order.Field.Power
import Mathlib.Algebra.Order.Field.Rat
import Mathlib.Algebra.Order.Ring.Rat
import Mathlib.Order.Compare
import Mathlib.Order.WithBot
import SourceText.Number.Binary64

/-!
# The order of binary numbers

Finite numbers stand for rationals, and the two infinities for the ends of their order. All that
are numbers are compared by where they stand there (`compare?_eq_compare_rank`).
-/

namespace SourceText.Binary64

/-- The rational that a finite number stands for. -/
def toRat (negative : Bool) (mantissa : Nat) (exponent : Int) : ℚ :=
  (signed negative mantissa : ℚ) * 2 ^ exponent

/-- Where a number stands in the order of numbers. -/
def rank : Binary64 → WithBot (WithTop ℚ)
  | nan => ⊥
  | infinite negative => if negative then ⊥ else WithBot.some ⊤
  | finite negative mantissa exponent =>
    WithBot.some (WithTop.some (toRat negative mantissa exponent))

theorem intCast_mul_two_zpow (m : Int) {e e₀ : Int} (h : e₀ ≤ e) :
    ((m * 2 ^ (e - e₀).toNat : Int) : ℚ) * 2 ^ e₀ = m * 2 ^ e := by
  have hexponent : ((e - e₀).toNat : Int) + e₀ = e := by omega
  push_cast
  rw [mul_assoc, ← zpow_natCast, ← zpow_add₀ (by norm_num), hexponent]

/-- A map that keeps the strict order keeps comparisons. -/
theorem compare_map {α β : Type} [LinearOrder α] [LinearOrder β] {f : α → β} (hf : StrictMono f)
    (a b : α) : compare (f a) (f b) = compare a b := by
  rw [← cmp_eq_compare, ← cmp_eq_compare, hf.cmp_map_eq]

theorem compare_align (m e m' e' : Int) :
    compare (align m e m' e').1 (align m e m' e').2.1
      = compare ((m : ℚ) * 2 ^ e) ((m' : ℚ) * 2 ^ e') := by
  have hunit : (0 : ℚ) < 2 ^ min e e' := zpow_pos (by norm_num) _
  have hmono : StrictMono fun n : Int => (n : ℚ) * 2 ^ min e e' := fun a b hab =>
    mul_lt_mul_of_pos_right (Int.cast_lt.mpr hab) hunit
  rw [← intCast_mul_two_zpow m (min_le_left e e'), ← intCast_mul_two_zpow m' (min_le_right e e')]
  exact (compare_map hmono _ _).symm

theorem compare_finite (a b : ℚ) :
    compare (WithBot.some (WithTop.some a)) (WithBot.some (WithTop.some b)) = compare a b := by
  have hmono : StrictMono fun q : ℚ => WithBot.some (WithTop.some q) := fun a b hab =>
    WithBot.coe_lt_coe.mpr (WithTop.coe_lt_coe.mpr hab)
  exact compare_map hmono a b

theorem compare?_eq_compare_rank {x y : Binary64} (hx : x ≠ nan) (hy : y ≠ nan) :
    compare? x y = some (compare x.rank y.rank) := by
  cases x with
  | nan => exact absurd rfl hx
  | infinite s =>
    cases y with
    | nan => exact absurd rfl hy
    | infinite s' => cases s <;> cases s' <;> rfl
    | finite s' m' e' => cases s <;> rfl
  | finite s m e =>
    cases y with
    | nan => exact absurd rfl hy
    | infinite s' => cases s' <;> rfl
    | finite s' m' e' =>
      rw [rank, rank, compare_finite]
      exact congrArg some (compare_align (signed s m) e (signed s' m') e')

section Comparison

variable {x y : Binary64} (hx : x ≠ nan) (hy : y ≠ nan)

include hx hy

theorem lt_iff_rank_lt : lt x y = true ↔ x.rank < y.rank := by
  rw [lt, compare?_eq_compare_rank hx hy, beq_iff_eq, Option.some.injEq, compare_lt_iff_lt]

theorem same_iff_rank_eq : same x y = true ↔ x.rank = y.rank := by
  rw [same, compare?_eq_compare_rank hx hy, beq_iff_eq, Option.some.injEq, compare_eq_iff_eq]

theorem le_iff_rank_le : le x y = true ↔ x.rank ≤ y.rank := by
  have hlt := lt_iff_rank_lt hx hy
  have hsame := same_iff_rank_eq hx hy
  rw [lt] at hlt
  rw [same] at hsame
  rw [le, Bool.or_eq_true, hlt, hsame, le_iff_lt_or_eq]

theorem rank_minFirst : (minFirst x y).rank = min x.rank y.rank := by
  rw [minFirst]
  split
  · next hlt => exact (min_eq_right ((lt_iff_rank_lt hy hx).mp hlt).le).symm
  · next hlt => exact (min_eq_left (not_lt.mp (mt (lt_iff_rank_lt hy hx).mpr hlt))).symm

theorem rank_maxFirst : (maxFirst x y).rank = max x.rank y.rank := by
  rw [maxFirst]
  split
  · next hlt => exact (max_eq_right ((lt_iff_rank_lt hx hy).mp hlt).le).symm
  · next hlt => exact (max_eq_left (not_lt.mp (mt (lt_iff_rank_lt hx hy).mpr hlt))).symm

end Comparison

theorem rank_zero : zero.rank = 0 := by
  rw [zero, rank, toRat, signed]
  norm_num

theorem rank_one : one.rank = 1 := by
  have hone : one = finite false (2 ^ 52) (-52) := by decide +kernel
  rw [hone, rank, toRat, signed]
  norm_num

end SourceText.Binary64
