import Mathlib.Algebra.Order.Floor.Semifield
import Mathlib.Data.Rat.Floor
import Mathlib.Tactic.Positivity
import SourceText.Number.Shortest
import SourceText.Proofs.Number.Rounding

/-!
# The shortest digits read back

The digits that are found for a number lie in its rounding interval (`roundsTo_shortestDigits`), so
that reading them gives the number again (`ofDecimal_of_roundsTo`). With seventeen digits the step
of the decimal grid is smaller than the interval, and the search comes to an end.
-/

namespace SourceText.Binary64

-- Powers are those of the core library whatever else is imported.
attribute [local instance (high)] instPowNat

/-! ### The interval -/

theorem RoundingInterval.contains_iff {i : RoundingInterval} (hunit : 0 < i.unit) {n d : ℕ}
    (hd : 0 < d) : i.contains n d = true ↔
      (i.low : ℚ) / i.unit ≤ n / d ∧ (n : ℚ) / d ≤ i.high / i.unit ∧
        (i.closed = false → (i.low : ℚ) / i.unit < n / d ∧ (n : ℚ) / d < i.high / i.unit) := by
  have hunit' : (0 : ℚ) < i.unit := Nat.cast_pos.mpr hunit
  have hd' : (0 : ℚ) < d := Nat.cast_pos.mpr hd
  rw [div_le_div_iff₀ hunit' hd', div_le_div_iff₀ hd' hunit', div_lt_div_iff₀ hunit' hd',
    div_lt_div_iff₀ hd' hunit']
  norm_cast
  cases hclosed : i.closed with
  | true => simp [contains, hclosed]
  | false =>
    simp only [contains, hclosed, Bool.false_eq_true, if_false, Bool.and_eq_true, decide_eq_true_eq,
      forall_const]
    exact ⟨fun h => ⟨h.1.le, h.2.le, h⟩, fun h => h.2.2⟩

section Interval

variable {m : ℕ} {e : ℤ}

theorem unit_roundingInterval_pos (m : ℕ) (e : ℤ) : 0 < (roundingInterval m e).unit :=
  Nat.mul_pos (by decide) (Nat.two_pow_pos _)

/-- A count of quarters of the unit, over the unit of the interval. -/
theorem quarters_div_unit (quarters m : ℕ) (e : ℤ) :
    ((quarters * 2 ^ e.toNat : ℕ) : ℚ) / (roundingInterval m e).unit = quarters / 4 * 2 ^ e :=
  mul_pow_div two_pos quarters 4 e

theorem value_div_unit (m : ℕ) (e : ℤ) :
    ((roundingInterval m e).value : ℚ) / (roundingInterval m e).unit = m * 2 ^ e := by
  have hquarters : ((4 * m : ℕ) : ℚ) / 4 = m := by
    push_cast
    ring
  exact (quarters_div_unit (4 * m) m e).trans (by rw [hquarters])

theorem high_div_unit (m : ℕ) (e : ℤ) :
    ((roundingInterval m e).high : ℚ) / (roundingInterval m e).unit = (m + 1 / 2) * 2 ^ e := by
  have hquarters : ((4 * m + 2 : ℕ) : ℚ) / 4 = m + 1 / 2 := by
    push_cast
    ring
  exact (quarters_div_unit (4 * m + 2) m e).trans (by rw [hquarters])

theorem low_div_unit (hm : 0 < m) (e : ℤ) :
    ((roundingInterval m e).low : ℚ) / (roundingInterval m e).unit
      = (m - reachBelow m e) * 2 ^ e := by
  have hquarters : ((4 * m - if m = 2 ^ 52 && minExponent < e then 1 else 2 : ℕ) : ℚ) / 4
      = m - reachBelow m e := by
    rw [Nat.cast_sub (by split <;> omega), reachBelow]
    simp only [Bool.and_eq_true, decide_eq_true_eq]
    split <;> push_cast <;> ring
  exact (quarters_div_unit _ m e).trans (by rw [hquarters])

theorem contains_roundingInterval_iff (hm : 0 < m) {n d : ℕ} (hd : 0 < d) :
    (roundingInterval m e).contains n d = true ↔ RoundsTo (n / d) m e := by
  have hpow : (0 : ℚ) < 2 ^ e := zpow_pos two_pos e
  have hodd : (roundingInterval m e).closed = false ↔ m % 2 = 1 := by
    simp [roundingInterval]
  rw [RoundingInterval.contains_iff (unit_roundingInterval_pos m e) hd, low_div_unit hm,
    high_div_unit, hodd, ← le_div_iff₀ hpow, ← div_le_iff₀ hpow, ← lt_div_iff₀ hpow,
    ← div_lt_iff₀ hpow]
  exact ⟨fun h => ⟨h.1, h.2.1, h.2.2⟩, fun h => ⟨h.low, h.high, h.odd⟩⟩

end Interval

/-! ### The search -/

namespace RoundingInterval

/-- Whether digits at a power of ten lie in the interval. -/
def Holds (i : RoundingInterval) (n : ℕ) (exponent : ℤ) : Prop :=
  i.contains (n * 10 ^ exponent.toNat) (10 ^ (-exponent).toNat) = true

variable {i : RoundingInterval} {exponent : ℤ}

theorem gridPoint?_holds {n : ℕ} (h : i.gridPoint? exponent = some n) : i.Holds n exponent := by
  unfold gridPoint? at h
  dsimp only at h
  unfold Holds
  split_ifs at h with hbelow habove _ _ _ habove <;> obtain rfl := Option.some.inj h <;> assumption

theorem not_holds_of_gridPoint?_eq_none (h : i.gridPoint? exponent = none) :
    ¬ i.Holds (i.value * 10 ^ (-exponent).toNat / (i.unit * 10 ^ exponent.toNat)) exponent ∧
      ¬ i.Holds (i.value * 10 ^ (-exponent).toNat / (i.unit * 10 ^ exponent.toNat) + 1)
        exponent := by
  unfold gridPoint? at h
  dsimp only at h
  unfold Holds
  split_ifs at h with hbelow habove _ _ habove
  exact ⟨hbelow, habove⟩

theorem search_of_gridPoint? {leading : ℤ} {fuel digits n : ℕ}
    (h : i.gridPoint? (leading - digits + 1) = some n) :
    ((i.search leading (fuel + 1) digits).digits : ℚ)
      * 10 ^ (i.search leading (fuel + 1) digits).exponent = n * 10 ^ (leading - digits + 1) := by
  simp only [search, h]
  split_ifs with hpower
  · rw [hpower, zpow_add₀ (by norm_num)]
    push_cast
    rw [zpow_natCast]
    ring
  · rfl

/-- If the grid of seventeen digits has a point in the interval, a search that goes on to it finds
digits there. -/
theorem search_holds {leading : ℤ} (h : i.gridPoint? (leading - 17 + 1) ≠ none) (fuel digits : ℕ)
    (hfuel : fuel + digits = 17) :
    ∃ n exponent, i.Holds n exponent ∧
      ((i.search leading (fuel + 1) digits).digits : ℚ)
        * 10 ^ (i.search leading (fuel + 1) digits).exponent = n * 10 ^ exponent := by
  induction fuel generalizing digits with
  | zero =>
    obtain rfl : digits = 17 := by omega
    obtain ⟨n, hn⟩ := Option.ne_none_iff_exists'.mp h
    exact ⟨n, _, gridPoint?_holds hn, search_of_gridPoint? hn⟩
  | succ fuel ih =>
    cases hgrid : i.gridPoint? (leading - digits + 1) with
    | some n => exact ⟨n, _, gridPoint?_holds hgrid, search_of_gridPoint? hgrid⟩
    | none =>
      rw [search, hgrid]
      exact ih (digits + 1) (by omega)

end RoundingInterval

section Search

variable {m : ℕ} {e : ℤ}

theorem holds_roundingInterval_iff (hm : 0 < m) {n : ℕ} {exponent : ℤ} :
    (roundingInterval m e).Holds n exponent ↔ RoundsTo (n * 10 ^ exponent) m e := by
  have hquotient := mul_pow_div (show 0 < 10 by decide) n 1 exponent
  rw [one_mul, Nat.cast_one, div_one] at hquotient
  rw [RoundingInterval.Holds, contains_roundingInterval_iff hm (Nat.pow_pos (by decide)), hquotient]
  rfl

/-- The length of the decimal text of a positive number tells the place of its first digit. -/
theorem ten_pow_place {n : ℕ} (hn : 0 < n) :
    10 ^ ((Nat.toDigits 10 n).length - 1) ≤ n ∧ n < 10 ^ ((Nat.toDigits 10 n).length - 1 + 1) := by
  have hlength : 0 < (Nat.toDigits 10 n).length := Nat.length_toDigits_pos
  constructor
  · by_contra hlt
    by_cases hone : (Nat.toDigits 10 n).length - 1 = 0
    · rw [hone, Nat.pow_zero] at hlt
      omega
    · have := (Nat.length_toDigits_le_iff (by decide) (by omega)).mpr (not_le.mp hlt)
      omega
  · rw [Nat.sub_add_cancel hlength]
    exact (Nat.length_toDigits_le_iff (by decide) hlength).mp le_rfl

theorem ten_zpow_floorLog10_le (hm : 0 < m) (e : ℤ) :
    (10 : ℚ) ^ (roundingInterval m e).floorLog10 ≤ m * 2 ^ e := by
  have hvalue : 0 < (roundingInterval m e).value := Nat.mul_pos (by omega) (Nat.two_pow_pos _)
  have hestimate : ∀ a b : ℕ, 0 < a → 0 < b → (a : ℤ) - b = ((a - 1 : ℕ) : ℤ) - (b - 1 : ℕ) := by
    omega
  have hfloor : (roundingInterval m e).floorLog10 = _ :=
    RoundingInterval.floorLog10.eq_1 (roundingInterval m e)
  rw [hestimate _ _ Nat.length_toDigits_pos Nat.length_toDigits_pos] at hfloor
  have hplace := zpow_place (show 0 < 10 by decide) (ten_pow_place hvalue)
    (ten_pow_place (unit_roundingInterval_pos m e)) hfloor
  rw [value_div_unit] at hplace
  exact_mod_cast hplace.1

/-- Of the two points of a grid around a number, one lies in its interval if the step of the grid is
smaller than that. -/
theorem roundsTo_or_roundsTo {n : ℕ} {g : ℤ} (hbelow : (n : ℚ) * 10 ^ g ≤ m * 2 ^ e)
    (habove : (m : ℚ) * 2 ^ e < ((n + 1 : ℕ) : ℚ) * 10 ^ g)
    (hstep : (10 : ℚ) ^ g / 2 ^ e < reachBelow m e + 1 / 2) :
    RoundsTo (n * 10 ^ g) m e ∨ RoundsTo (((n + 1 : ℕ) : ℚ) * 10 ^ g) m e := by
  have hpow : (0 : ℚ) < 2 ^ e := zpow_pos two_pos e
  have hreach := reachBelow_pos m e
  rw [← div_le_iff₀ hpow] at hbelow
  rw [← lt_div_iff₀ hpow] at habove
  have hdistance : ((n + 1 : ℕ) : ℚ) * 10 ^ g / 2 ^ e - n * 10 ^ g / 2 ^ e = 10 ^ g / 2 ^ e := by
    push_cast
    ring
  by_cases hnear : (m : ℚ) - reachBelow m e < n * 10 ^ g / 2 ^ e
  · exact .inl ⟨hnear.le, by linarith, fun _ => ⟨hnear, by linarith⟩⟩
  · exact .inr ⟨by linarith, by linarith, fun _ => ⟨by linarith, by linarith⟩⟩

/-- A step that goes into a number ten to the sixteen times is smaller than its interval. -/
theorem step_lt (hcanonical : IsCanonical m e) {g : ℤ} (h : (10 : ℚ) ^ (16 + g) ≤ m * 2 ^ e) :
    (10 : ℚ) ^ g / 2 ^ e < reachBelow m e + 1 / 2 := by
  have hpow : (0 : ℚ) < 2 ^ e := zpow_pos two_pos e
  rw [zpow_add₀ (by norm_num), ← div_le_iff₀ hpow, mul_div_assoc] at h
  have hten : (10 : ℚ) ^ (16 : ℤ) = 10 ^ 16 := rfl
  rw [hten] at h
  unfold reachBelow
  split_ifs with hpower
  · have hm : (m : ℚ) = 2 ^ 52 := by exact_mod_cast hpower.1
    linarith
  · have hm : (m : ℚ) < 2 ^ 53 := by exact_mod_cast hcanonical.mantissa_lt
    linarith

/-- The count of whole steps of a grid in a number. -/
theorem gridFloor_bounds (m : ℕ) (e g : ℤ) {n : ℕ} (hn : (roundingInterval m e).value
      * 10 ^ (-g).toNat / ((roundingInterval m e).unit * 10 ^ g.toNat) = n) :
    (n : ℚ) * 10 ^ g ≤ m * 2 ^ e ∧ (m : ℚ) * 2 ^ e < ((n + 1 : ℕ) : ℚ) * 10 ^ g := by
  have hstep : (0 : ℚ) < 10 ^ g := zpow_pos (by norm_num) g
  have hratio : ((roundingInterval m e).value * 10 ^ (-g).toNat : ℕ)
      / ((roundingInterval m e).unit * 10 ^ g.toNat : ℕ) = (m * 2 ^ e / 10 ^ g : ℚ) := by
    have hquotient := mul_pow_div (show 0 < 10 by decide) (roundingInterval m e).value
      (roundingInterval m e).unit (-g)
    rw [value_div_unit, neg_neg, zpow_neg, ← div_eq_mul_inv] at hquotient
    exact_mod_cast hquotient
  have hleft := Nat.floor_le (show (0 : ℚ) ≤ m * 2 ^ e / 10 ^ g by positivity)
  have hright := Nat.lt_floor_add_one (m * 2 ^ e / 10 ^ g : ℚ)
  rw [← hratio, Nat.floor_div_eq_div, hratio, hn] at hleft hright
  push_cast
  exact ⟨(le_div_iff₀ hstep).mp hleft, (div_lt_iff₀ hstep).mp hright⟩

theorem gridPoint?_seventeen (hm : 0 < m) (hcanonical : IsCanonical m e) :
    (roundingInterval m e).gridPoint? ((roundingInterval m e).floorLog10 - 17 + 1) ≠ none := by
  intro hnone
  obtain ⟨hbelow, habove⟩ := RoundingInterval.not_holds_of_gridPoint?_eq_none hnone
  rw [holds_roundingInterval_iff hm] at hbelow habove
  have hfloor := ten_zpow_floorLog10_le hm e
  generalize hexponent : (roundingInterval m e).floorLog10 - 17 + 1 = g at *
  have hleading : (roundingInterval m e).floorLog10 = 16 + g := by omega
  rw [hleading] at hfloor
  obtain ⟨hleft, hright⟩ := gridFloor_bounds m e g rfl
  exact (roundsTo_or_roundsTo hleft hright (step_lt hcanonical hfloor)).elim hbelow habove

/-- The shortest digits of a positive number lie in its interval. -/
theorem roundsTo_shortestDigits (hm : 0 < m) (hcanonical : IsCanonical m e) :
    RoundsTo ((shortestDigits m e).digits * 10 ^ (shortestDigits m e).exponent) m e := by
  obtain ⟨n, exponent, hholds, heq⟩ :=
    RoundingInterval.search_holds (gridPoint?_seventeen hm hcanonical) 16 1 rfl
  rw [shortestDigits, if_neg hm.ne']
  exact heq ▸ (holds_roundingInterval_iff hm).mp hholds

end Search

/-! ### Reading -/

theorem two_pow_le_ten_pow : (2 : ℚ) ^ 1088 ≤ 10 ^ 340 :=
  calc (2 : ℚ) ^ 1088 = (2 ^ 16) ^ 68 := by rw [← pow_mul]
    _ ≤ (10 ^ 5) ^ 68 := pow_le_pow_left₀ (by norm_num) (by norm_num) 68
    _ = 10 ^ 340 := by rw [← pow_mul]

section Reading

variable {m digits : ℕ} {e exponent : ℤ} (hm : 0 < m) (hcanonical : IsCanonical m e)
  (hrounds : RoundsTo (digits * 10 ^ exponent) m e)

include hm hcanonical hrounds

theorem RoundsTo.bounds : (10 : ℚ) ^ (-340 : ℤ) ≤ digits * 10 ^ exponent ∧
    (digits : ℚ) * 10 ^ exponent ≤ 10 ^ (340 : ℤ) := by
  have hpow : (0 : ℚ) < 2 ^ e := zpow_pos two_pos e
  have hlow := hrounds.low
  have hhigh := hrounds.high
  rw [le_div_iff₀ hpow] at hlow
  rw [div_le_iff₀ hpow] at hhigh
  have hreach := reachBelow_le m e
  have hone : (1 : ℚ) ≤ m := Nat.one_le_cast.mpr hm
  have hmlt : (m : ℚ) + 1 ≤ 2 ^ 53 := by exact_mod_cast hcanonical.mantissa_lt
  have hmin := hcanonical.minExponent_le
  have hmax := hcanonical.le_maxExponent
  rw [minExponent] at hmin
  rw [maxExponent] at hmax
  constructor
  · calc (10 : ℚ) ^ (-340 : ℤ) = (10 ^ 340)⁻¹ := by rw [zpow_neg]; rfl
      _ ≤ (2 ^ 1088)⁻¹ := inv_anti₀ (by positivity) two_pow_le_ten_pow
      _ = 2 ^ (-1088 : ℤ) := by rw [zpow_neg]; rfl
      _ ≤ 2 ^ (e - 1) := zpow_le_zpow_right₀ one_le_two (by omega)
      _ = 1 / 2 * 2 ^ e := by rw [zpow_sub_one₀ two_ne_zero]; ring
      _ ≤ (m - reachBelow m e) * 2 ^ e := mul_le_mul_of_nonneg_right (by linarith) hpow.le
      _ ≤ digits * 10 ^ exponent := hlow
  · calc (digits : ℚ) * 10 ^ exponent ≤ (m + 1 / 2) * 2 ^ e := hhigh
      _ ≤ 2 ^ 53 * 2 ^ e := mul_le_mul_of_nonneg_right (by linarith) hpow.le
      _ = 2 ^ (53 + e) := by rw [zpow_add₀ two_ne_zero]; rfl
      _ ≤ 2 ^ (1088 : ℤ) := zpow_le_zpow_right₀ one_le_two (by omega)
      _ ≤ 10 ^ (340 : ℤ) := two_pow_le_ten_pow

/-- Digits in the interval of a number read as that number. -/
theorem ofDecimal_of_roundsTo (negative : Bool) :
    ofDecimal negative digits exponent = .finite negative m e := by
  obtain ⟨hlow, hhigh⟩ := hrounds.bounds hm hcanonical
  have hten : (1 : ℚ) < 10 := by norm_num
  have hdigits : 0 < digits := by
    refine Nat.pos_of_ne_zero fun hzero => ?_
    rw [hzero, Nat.cast_zero, zero_mul] at hlow
    exact absurd hlow (not_le.mpr (zpow_pos (by norm_num) _))
  obtain ⟨hplace, hplace'⟩ := ten_pow_place hdigits
  have hlength : 0 < (Nat.toDigits 10 digits).length := Nat.length_toDigits_pos
  rw [Nat.sub_add_cancel hlength] at hplace'
  have hscale : (0 : ℚ) < 10 ^ exponent := zpow_pos (by norm_num) _
  have hsmall : ¬ ((Nat.toDigits 10 digits).length : ℤ) + exponent > 400 := by
    intro hlarge
    have hpast : (10 : ℚ) ^ (((Nat.toDigits 10 digits).length - 1 : ℕ) + exponent)
        ≤ digits * 10 ^ exponent := by
      rw [zpow_add₀ (by norm_num), zpow_natCast]
      exact mul_le_mul_of_nonneg_right (by exact_mod_cast hplace) hscale.le
    have := (zpow_le_zpow_iff_right₀ hten).mp (hpast.trans hhigh)
    omega
  have hlarge : ¬ ((Nat.toDigits 10 digits).length : ℤ) + exponent < -400 := by
    intro hsmall
    have hpast : (digits : ℚ) * 10 ^ exponent
        < 10 ^ (((Nat.toDigits 10 digits).length : ℤ) + exponent) := by
      rw [zpow_add₀ (by norm_num), zpow_natCast]
      exact mul_lt_mul_of_pos_right (by exact_mod_cast hplace') hscale
    have := (zpow_lt_zpow_iff_right₀ hten).mp (hlow.trans_lt hpast)
    omega
  rw [ofDecimal, if_neg hdigits.ne']
  simp only [if_neg hsmall, if_neg hlarge]
  have hquotient := mul_pow_div (show 0 < 10 by decide) digits 1 exponent
  rw [one_mul, Nat.cast_one, div_one] at hquotient
  refine ofRatio_of_roundsTo (Nat.pow_pos (by decide)) hm hcanonical ?_ negative
  rw [hquotient]
  exact hrounds

end Reading

theorem digits_shortestDigits_pos {m : ℕ} {e : ℤ} (hm : 0 < m) (hcanonical : IsCanonical m e) :
    0 < (shortestDigits m e).digits := by
  obtain ⟨hlow, -⟩ := (roundsTo_shortestDigits hm hcanonical).bounds hm hcanonical
  refine Nat.pos_of_ne_zero fun hzero => ?_
  rw [hzero, Nat.cast_zero, zero_mul] at hlow
  exact absurd hlow (not_le.mpr (zpow_pos (by norm_num) _))

/-- Digits that stand for the same rational as the shortest ones of a number read as that number. -/
theorem ofDecimal_of_eq_shortestDigits (negative : Bool) {m digits : ℕ} {e exponent : ℤ}
    (hcanonical : IsCanonical m e) (h : (digits : ℚ) * 10 ^ exponent
      = (shortestDigits m e).digits * 10 ^ (shortestDigits m e).exponent) :
    ofDecimal negative digits exponent = .finite negative m e := by
  obtain rfl | hm := Nat.eq_zero_or_pos m
  · have hscale : (10 : ℚ) ^ exponent ≠ 0 := zpow_ne_zero _ (by norm_num)
    have hleast : e = minExponent := hcanonical.full.resolve_left (by decide)
    rw [shortestDigits, if_pos rfl, Nat.cast_zero, zero_mul] at h
    have hdigits : digits = 0 := Nat.cast_eq_zero.mp ((mul_eq_zero_iff_right hscale).mp h)
    rw [hleast, hdigits]
    rfl
  · exact ofDecimal_of_roundsTo hm hcanonical (h ▸ roundsTo_shortestDigits hm hcanonical) negative

theorem wellFormed_ofDecimal (negative : Bool) (digits : ℕ) (exponent : ℤ) :
    (ofDecimal negative digits exponent).WellFormed := by
  unfold ofDecimal
  dsimp only
  split_ifs
  · exact wellFormed_ofRatio negative 0 one_pos
  · trivial
  · exact wellFormed_ofRatio negative 0 one_pos
  · exact wellFormed_ofRatio negative _ (Nat.pow_pos (by decide))

end SourceText.Binary64
