import Mathlib.Algebra.Order.Field.Basic
import Mathlib.Algebra.Order.Field.Power
import Mathlib.Algebra.Order.Field.Rat
import Mathlib.Algebra.Order.Ring.Rat
import Mathlib.Tactic.FieldSimp
import Mathlib.Tactic.Linarith
import Mathlib.Tactic.Qify
import Mathlib.Tactic.Ring
import SourceText.Number.Binary64

/-!
# Rounding to binary numbers

A quotient is rounded to a finite number if it lies nearer to it than to its neighbours, and at an
end of that interval if the mantissa is even (`ofRatio_of_roundsTo`). What comes out of rounding has
its exponent as small as it can be (`isCanonical_ofRatio`).
-/

namespace SourceText.Binary64

-- Powers are those of the core library whatever else is imported.
attribute [local instance (high)] instPowNat

/-! ### The nearest natural number -/

theorem roundHalfEven_eq {n d m : ℕ} (hd : 0 < d) (hlow : 2 * m * d ≤ 2 * n + d)
    (hhigh : 2 * n ≤ (2 * m + 1) * d)
    (hodd : m % 2 = 1 → 2 * m * d < 2 * n + d ∧ 2 * n < (2 * m + 1) * d) :
    roundHalfEven n d = m := by
  have hn : d * (n / d) + n % d = n := Nat.div_add_mod n d
  have hr : n % d < d := Nat.mod_lt n hd
  unfold roundHalfEven
  generalize n / d = q at *
  generalize n % d = r at *
  have hqm : q ≤ m := by
    by_contra hlt
    have hmul : d * (m + 1) ≤ d * q := Nat.mul_le_mul_left d (not_le.mp hlt)
    nlinarith
  have hmq : m ≤ q + 1 := by
    by_contra hlt
    have hmul : d * (q + 2) ≤ d * m := Nat.mul_le_mul_left d (not_le.mp hlt)
    nlinarith
  obtain rfl | rfl : m = q ∨ m = q + 1 := by omega
  · have hbelow : 2 * r ≤ d := by nlinarith
    have hstrict : m % 2 = 1 → 2 * r < d := fun h => by nlinarith [(hodd h).2]
    dsimp only
    split_ifs <;> omega
  · have habove : d ≤ 2 * r := by nlinarith
    have hstrict : (q + 1) % 2 = 1 → d < 2 * r := fun h => by nlinarith [(hodd h).1]
    dsimp only
    split_ifs <;> omega

/-- A quotient is rounded to a natural number that is at most a half away from it, if that number is
even or nearer than a half. -/
theorem roundHalfEven_eq_of_near {n d m : ℕ} (hd : 0 < d) (hlow : (m : ℚ) - 1 / 2 ≤ n / d)
    (hhigh : (n : ℚ) / d ≤ m + 1 / 2)
    (hodd : m % 2 = 1 → (m : ℚ) - 1 / 2 < n / d ∧ (n : ℚ) / d < m + 1 / 2) :
    roundHalfEven n d = m := by
  have hdcast : (0 : ℚ) < d := Nat.cast_pos.mpr hd
  rw [le_div_iff₀ hdcast] at hlow
  rw [div_le_iff₀ hdcast] at hhigh
  rw [lt_div_iff₀ hdcast, div_lt_iff₀ hdcast] at hodd
  refine roundHalfEven_eq hd ?_ ?_ fun h => ⟨?_, ?_⟩ <;> qify
  · linarith
  · linarith
  · linarith [(hodd h).1]
  · linarith [(hodd h).2]

theorem roundHalfEven_le {n d b : ℕ} (h : n < d * b) : roundHalfEven n d ≤ b := by
  have hq : n / d < b := Nat.div_lt_of_lt_mul h
  unfold roundHalfEven
  dsimp only
  split_ifs <;> omega

theorem le_roundHalfEven {n d a : ℕ} (hd : 0 < d) (h : d * a ≤ n) : a ≤ roundHalfEven n d := by
  have hq : a ≤ n / d := (Nat.le_div_iff_mul_le hd).mpr (by rwa [Nat.mul_comm])
  unfold roundHalfEven
  dsimp only
  split_ifs <;> omega

/-! ### Powers as quotients -/

section Powers

variable {b : ℕ} (hb : 0 < b)

include hb

theorem natCast_pow_div (e : ℤ) : ((b ^ e.toNat : ℕ) : ℚ) / (b ^ (-e).toNat : ℕ) = (b : ℚ) ^ e := by
  have hbase : (b : ℚ) ≠ 0 := Nat.cast_ne_zero.mpr hb.ne'
  push_cast
  rw [← zpow_natCast, ← zpow_natCast, ← zpow_sub₀ hbase]
  congr 1
  omega

theorem mul_pow_div (n d : ℕ) (e : ℤ) :
    ((n * b ^ e.toNat : ℕ) : ℚ) / (d * b ^ (-e).toNat : ℕ) = n / d * b ^ e := by
  rw [Nat.cast_mul, Nat.cast_mul, mul_div_mul_comm, natCast_pow_div hb]

theorem mul_pow_lt_iff {d : ℕ} (hd : 0 < d) (n : ℕ) (e : ℤ) :
    n * b ^ (-e).toNat < d * b ^ e.toNat ↔ (n : ℚ) / d < b ^ e := by
  have hpos : (0 : ℚ) < (d * b ^ e.toNat : ℕ) :=
    Nat.cast_pos.mpr (Nat.mul_pos hd (Nat.pow_pos hb))
  have hpow : (0 : ℚ) < (b : ℚ) ^ e := zpow_pos (Nat.cast_pos.mpr hb) e
  have hquotient := mul_pow_div hb n d (-e)
  rw [neg_neg, zpow_neg, ← div_eq_mul_inv] at hquotient
  rw [← Nat.cast_lt (α := ℚ), ← div_lt_one hpos, hquotient, div_lt_one hpow]

/-- The place of the first digit of a quotient, from those of its parts. -/
theorem zpow_place {n d a c : ℕ} (hn : b ^ a ≤ n ∧ n < b ^ (a + 1))
    (hd : b ^ c ≤ d ∧ d < b ^ (c + 1)) {k : ℤ}
    (hk : k = if n * b ^ (-((a : ℤ) - c)).toNat < d * b ^ ((a : ℤ) - c).toNat
      then (a : ℤ) - c - 1 else a - c) :
    (b : ℚ) ^ k ≤ n / d ∧ (n : ℚ) / d < b ^ (k + 1) := by
  have hdpos : 0 < d := (Nat.pow_pos hb).trans_le hd.1
  have hbase : (b : ℚ) ≠ 0 := Nat.cast_ne_zero.mpr hb.ne'
  have hdcast : (0 : ℚ) < d := Nat.cast_pos.mpr hdpos
  have hpow : ∀ i : ℕ, (0 : ℚ) < (b : ℚ) ^ i := fun i => pow_pos (Nat.cast_pos.mpr hb) i
  have hn₁ : (b : ℚ) ^ a ≤ n := by exact_mod_cast hn.1
  have hn₂ : (n : ℚ) < (b : ℚ) ^ (a + 1) := by exact_mod_cast hn.2
  have hd₁ : (b : ℚ) ^ c ≤ d := by exact_mod_cast hd.1
  have hd₂ : (d : ℚ) < (b : ℚ) ^ (c + 1) := by exact_mod_cast hd.2
  have hlow : (b : ℚ) ^ ((a : ℤ) - c - 1) ≤ n / d := by
    have heq : (b : ℚ) ^ ((a : ℤ) - c - 1) = (b : ℚ) ^ a / (b : ℚ) ^ (c + 1) := by
      rw [← zpow_natCast, ← zpow_natCast, ← zpow_sub₀ hbase]
      congr 1
      push_cast
      ring
    rw [heq]
    exact div_le_div₀ (hn₁.trans' (hpow a).le) hn₁ hdcast hd₂.le
  have hhigh : (n : ℚ) / d < (b : ℚ) ^ ((a : ℤ) - c + 1) := by
    have heq : (b : ℚ) ^ ((a : ℤ) - c + 1) = (b : ℚ) ^ (a + 1) / (b : ℚ) ^ c := by
      rw [← zpow_natCast, ← zpow_natCast, ← zpow_sub₀ hbase]
      congr 1
      push_cast
      ring
    rw [heq]
    exact div_lt_div₀ hn₂ hd₁ (hpow _).le (hpow c)
  have hlt := mul_pow_lt_iff hb hdpos n ((a : ℤ) - c)
  by_cases hbelow : (n : ℚ) / d < b ^ ((a : ℤ) - c)
  · rw [if_pos (hlt.mpr hbelow)] at hk
    subst hk
    exact ⟨hlow, by rwa [sub_add_cancel]⟩
  · rw [if_neg (mt hlt.mp hbelow)] at hk
    subst hk
    exact ⟨not_lt.mp hbelow, hhigh⟩

end Powers

theorem two_zpow_floorLog2 {n d : ℕ} (hn : 0 < n) (hd : 0 < d) :
    (2 : ℚ) ^ floorLog2 n d ≤ n / d ∧ (n : ℚ) / d < 2 ^ (floorLog2 n d + 1) := by
  have hplace := zpow_place two_pos ⟨Nat.log2_self_le hn.ne', Nat.lt_log2_self⟩
    ⟨Nat.log2_self_le hd.ne', Nat.lt_log2_self⟩ (k := floorLog2 n d) rfl
  exact_mod_cast hplace

/-! ### Units -/

theorem inUnits_pos {d : ℕ} (hd : 0 < d) (n : ℕ) (e : ℤ) : 0 < (inUnits n d e).2 :=
  Nat.mul_pos hd (Nat.two_pow_pos _)

theorem inUnits_div (n d : ℕ) (e : ℤ) :
    ((inUnits n d e).1 : ℚ) / (inUnits n d e).2 = n / d / 2 ^ e := by
  have hquotient := mul_pow_div two_pos n d (-e)
  rw [neg_neg, zpow_neg, ← div_eq_mul_inv] at hquotient
  exact_mod_cast hquotient

/-! ### Finite numbers -/

/-- Whether a mantissa and an exponent are those of a finite number: the exponent is as small as 53
binary digits and the least exponent allow. -/
structure IsCanonical (m : ℕ) (e : ℤ) : Prop where
  mantissa_lt : m < 2 ^ 53
  minExponent_le : minExponent ≤ e
  le_maxExponent : e ≤ maxExponent
  full : 2 ^ 52 ≤ m ∨ e = minExponent

/-- How far below a number its rounding interval reaches, in units of its last digit. -/
def reachBelow (m : ℕ) (e : ℤ) : ℚ := if m = 2 ^ 52 ∧ minExponent < e then 1 / 4 else 1 / 2

theorem reachBelow_pos (m : ℕ) (e : ℤ) : 0 < reachBelow m e := by
  unfold reachBelow
  split <;> norm_num

theorem reachBelow_le (m : ℕ) (e : ℤ) : reachBelow m e ≤ 1 / 2 := by
  unfold reachBelow
  split <;> norm_num

/-- Whether a rational is in the interval that is rounded to `m · 2 ^ e`. -/
structure RoundsTo (q : ℚ) (m : ℕ) (e : ℤ) : Prop where
  low : (m : ℚ) - reachBelow m e ≤ q / 2 ^ e
  high : q / 2 ^ e ≤ m + 1 / 2
  odd : m % 2 = 1 → (m : ℚ) - reachBelow m e < q / 2 ^ e ∧ q / 2 ^ e < m + 1 / 2

theorem ofRatio_eq (negative : Bool) {n d m : ℕ} {f : ℤ} (hn : n ≠ 0)
    (hf : max (floorLog2 n d - 52) minExponent = f)
    (hm : roundHalfEven (inUnits n d f).1 (inUnits n d f).2 = m) :
    ofRatio negative n d
      = if m = 2 ^ 53 then
          if maxExponent < f + 1 then .infinite negative else .finite negative (2 ^ 52) (f + 1)
        else if maxExponent < f then .infinite negative else .finite negative m f := by
  rw [ofRatio, if_neg hn]
  simp only [hf, hm]
  split <;> rfl

section Rounding

variable {n d m : ℕ} {e : ℤ} (hd : 0 < d) (hm : 0 < m) (hcanonical : IsCanonical m e)
  (hrounds : RoundsTo (n / d) m e)

include hm hrounds in
theorem RoundsTo.pos : 0 < n := by
  have hreach := reachBelow_le m e
  have hone : (1 : ℚ) ≤ m := Nat.one_le_cast.mpr hm
  have hlow := hrounds.low
  refine Nat.pos_of_ne_zero fun hn => ?_
  rw [hn, Nat.cast_zero, zero_div, zero_div] at hlow
  linarith

include hd hm hcanonical hrounds

/-- The unit in which a quotient is rounded is that of its number, or half of it when the quotient
lies below a power of two. -/
theorem RoundsTo.unit_cases :
    max (floorLog2 n d - 52) minExponent = e ∨
      max (floorLog2 n d - 52) minExponent = e - 1 ∧ m = 2 ^ 52 ∧ minExponent < e ∧
        (n : ℚ) / d / 2 ^ e < 2 ^ 52 := by
  obtain ⟨hplace, hplace'⟩ := two_zpow_floorLog2 (hrounds.pos hm) hd
  have hlow := hrounds.low
  have hhigh := hrounds.high
  have hunit : (0 : ℚ) < 2 ^ e := zpow_pos two_pos e
  have hscale : ∀ i : ℤ, (2 : ℚ) ^ i = 2 ^ (i - e) * 2 ^ e := fun i => by
    rw [← zpow_add₀ two_ne_zero, sub_add_cancel]
  rw [hscale, ← le_div_iff₀ hunit] at hplace
  rw [hscale, ← div_lt_iff₀ hunit] at hplace'
  generalize floorLog2 n d = k at *
  generalize (n : ℚ) / d / 2 ^ e = u at *
  have habove : ∀ i : ℤ, u < 2 ^ i → k - e < i := fun i hi =>
    (zpow_lt_zpow_iff_right₀ one_lt_two).mp (hplace.trans_lt hi)
  have hbelow : ∀ i : ℤ, (2 : ℚ) ^ i ≤ u → i < k + 1 - e := fun i hi =>
    (zpow_lt_zpow_iff_right₀ one_lt_two).mp (hi.trans_lt hplace')
  have hmin := hcanonical.minExponent_le
  have hupper : k - e < 53 := by
    refine habove 53 (hhigh.trans_lt ?_)
    have hmlt : (m : ℚ) + 1 ≤ 2 ^ 53 := by exact_mod_cast hcanonical.mantissa_lt
    have hpow : (2 : ℚ) ^ (53 : ℤ) = 2 ^ 53 := rfl
    linarith
  by_cases hleast : e = minExponent
  · left
    omega
  have hfull : 2 ^ 52 ≤ m := hcanonical.full.resolve_right hleast
  have hpow : (2 : ℚ) ^ (52 : ℤ) = 2 ^ 52 := rfl
  by_cases hge : (2 : ℚ) ^ 52 ≤ u
  · have := hbelow 52 hge
    left
    omega
  · have hreach := reachBelow_le m e
    have hm' : m = 2 ^ 52 := by
      by_contra hne
      have hgt : (2 : ℚ) ^ 52 + 1 ≤ m := by exact_mod_cast Nat.lt_of_le_of_ne hfull (Ne.symm hne)
      linarith
    have hm'' : (m : ℚ) = 2 ^ 52 := by exact_mod_cast hm'
    have h52 : k - e < 52 := habove 52 (not_le.mp hge)
    have h51 : 51 < k + 1 - e := by
      refine hbelow 51 ?_
      have hpow' : (2 : ℚ) ^ 52 = 2 * 2 ^ (51 : ℤ) := by norm_num
      have hone : (1 : ℚ) ≤ 2 ^ (51 : ℤ) := one_le_zpow₀ one_le_two (by norm_num)
      linarith
    exact .inr ⟨by omega, hm', by omega, not_le.mp hge⟩

theorem ofRatio_of_roundsTo (negative : Bool) : ofRatio negative n d = .finite negative m e := by
  have hn : n ≠ 0 := (hrounds.pos hm).ne'
  obtain hunit | ⟨hunit, rfl, hmin, hbelow⟩ := hrounds.unit_cases hd hm hcanonical
  · have hm' : roundHalfEven (inUnits n d e).1 (inUnits n d e).2 = m := by
      have hreach := reachBelow_le m e
      refine roundHalfEven_eq_of_near (inUnits_pos hd n e) ?_ ?_ fun hodd => ⟨?_, ?_⟩ <;>
        rw [inUnits_div]
      · linarith [hrounds.low]
      · exact hrounds.high
      · linarith [(hrounds.odd hodd).1]
      · exact (hrounds.odd hodd).2
    rw [ofRatio_eq negative hn hunit hm', if_neg hcanonical.mantissa_lt.ne,
      if_neg hcanonical.le_maxExponent.not_gt]
  · -- Rounded in the half unit, the quotient is carried up to the power of two.
    have hm' : roundHalfEven (inUnits n d (e - 1)).1 (inUnits n d (e - 1)).2 = 2 ^ 53 := by
      have hlow := hrounds.low
      rw [reachBelow, if_pos ⟨rfl, hmin⟩] at hlow
      have hhalf : (n : ℚ) / d / 2 ^ (e - 1) = 2 * (n / d / 2 ^ e) := by
        rw [zpow_sub_one₀ two_ne_zero]
        field_simp
      refine roundHalfEven_eq_of_near (inUnits_pos hd n _) ?_ ?_ fun hodd => absurd hodd (by decide)
        <;> rw [inUnits_div, hhalf] <;> push_cast at hlow ⊢ <;> linarith
    rw [ofRatio_eq negative hn hunit hm', if_pos rfl, sub_add_cancel,
      if_neg hcanonical.le_maxExponent.not_gt]

end Rounding

/-- Whether a number is kept as it should be, with its exponent as small as it can be. -/
def WellFormed : Binary64 → Prop
  | nan => True
  | infinite _ => True
  | finite _ m e => IsCanonical m e

theorem isCanonical_zero : IsCanonical 0 minExponent :=
  ⟨by decide, le_rfl, by decide, .inr rfl⟩

/-- In its unit a quotient is rounded to a mantissa that fits, up to the carry, and that is a full
one above the least exponent. -/
theorem roundHalfEven_inUnits_bounds {n d : ℕ} (hn : 0 < n) (hd : 0 < d) {f : ℤ}
    (hf : max (floorLog2 n d - 52) minExponent = f) :
    roundHalfEven (inUnits n d f).1 (inUnits n d f).2 ≤ 2 ^ 53 ∧
      (2 ^ 52 ≤ roundHalfEven (inUnits n d f).1 (inUnits n d f).2 ∨ f = minExponent) := by
  obtain ⟨hplace, hplace'⟩ := two_zpow_floorLog2 hn hd
  have hattained : f = minExponent ∨ f = floorLog2 n d - 52 := by omega
  have hfloor : floorLog2 n d - 52 ≤ f := by omega
  have hunit : (0 : ℚ) < 2 ^ f := zpow_pos two_pos f
  have hdenominator : (0 : ℚ) < (inUnits n d f).2 := Nat.cast_pos.mpr (inUnits_pos hd n f)
  constructor
  · have hlt : (n : ℚ) / d / 2 ^ f < 2 ^ (53 : ℤ) := by
      rw [div_lt_iff₀ hunit, ← zpow_add₀ two_ne_zero]
      exact hplace'.trans_le (zpow_le_zpow_right₀ one_le_two (by omega))
    rw [← inUnits_div, div_lt_iff₀ hdenominator, mul_comm] at hlt
    exact roundHalfEven_le (by exact_mod_cast hlt)
  · refine hattained.symm.imp_left fun hf => ?_
    have hge : (2 : ℚ) ^ (52 : ℤ) ≤ n / d / 2 ^ f := by
      rw [le_div_iff₀ hunit, ← zpow_add₀ two_ne_zero, hf, add_sub_cancel]
      exact hplace
    rw [← inUnits_div, le_div_iff₀ hdenominator, mul_comm] at hge
    exact le_roundHalfEven (inUnits_pos hd n f) (by exact_mod_cast hge)

theorem wellFormed_ofRatio (negative : Bool) (n : ℕ) {d : ℕ} (hd : 0 < d) :
    (ofRatio negative n d).WellFormed := by
  by_cases hn : n = 0
  · rw [ofRatio, if_pos hn]
    exact isCanonical_zero
  obtain ⟨hle, hfull⟩ := roundHalfEven_inUnits_bounds (Nat.pos_of_ne_zero hn) hd rfl
  rw [ofRatio_eq negative hn rfl rfl]
  have hmin : minExponent ≤ max (floorLog2 n d - 52) minExponent := le_max_right _ _
  generalize max (floorLog2 n d - 52) minExponent = f at *
  split_ifs with hcarry hlarge hlarge
  · trivial
  · exact ⟨by decide, by omega, by omega, .inl le_rfl⟩
  · trivial
  · exact ⟨by omega, hmin, by omega, hfull⟩

/-- A quotient of moderate size is rounded to a finite number. -/
theorem exists_ofRatio_eq_finite (negative : Bool) {n d : ℕ} (hd : 0 < d) (hn : n < 2 ^ 1000) :
    ∃ m e, ofRatio negative n d = .finite negative m e := by
  by_cases hzero : n = 0
  · exact ⟨0, minExponent, by rw [ofRatio, if_pos hzero]⟩
  have hplace := (two_zpow_floorLog2 (Nat.pos_of_ne_zero hzero) hd).1
  have hfloor : floorLog2 n d < 1000 := by
    have hone : (1 : ℚ) ≤ d := Nat.one_le_cast.mpr hd
    have hlt : (n : ℚ) < 2 ^ (1000 : ℤ) := by exact_mod_cast hn
    have hle : (n : ℚ) / d ≤ n := div_le_self (Nat.cast_nonneg n) hone
    exact (zpow_lt_zpow_iff_right₀ one_lt_two).mp ((hplace.trans hle).trans_lt hlt)
  have hsmall : max (floorLog2 n d - 52) minExponent + 1 ≤ maxExponent := by
    have hmin : minExponent = -1074 := rfl
    have hmax : maxExponent = 971 := rfl
    omega
  rw [ofRatio_eq negative hzero rfl rfl]
  split_ifs
  · omega
  · exact ⟨_, _, rfl⟩
  · omega
  · exact ⟨_, _, rfl⟩

end SourceText.Binary64
