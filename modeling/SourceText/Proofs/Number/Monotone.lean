import SourceText.Proofs.Number.Order
import SourceText.Proofs.Number.Rounding

/-!
# Rounding keeps the order

A greater quotient is never rounded to a smaller number (`rank_ofRatio_le`). So a bound on a
quotient is a bound on its number, as soon as it is one for a single quotient that can be computed.
A quotient is too large for a number from half a unit above the largest one on
(`isSome_bounded?_ofRatio`).
-/

namespace SourceText.Binary64

-- Powers are those of the core library whatever else is imported.
attribute [local instance (high)] instPowNat

/-! ### The nearest natural number -/

theorem roundHalfEven_near (n : ℕ) {d : ℕ} (hd : 0 < d) :
    (roundHalfEven n d : ℚ) - 1 / 2 ≤ n / d ∧ (n : ℚ) / d ≤ roundHalfEven n d + 1 / 2 ∧
      (roundHalfEven n d % 2 = 1 →
        (roundHalfEven n d : ℚ) - 1 / 2 < n / d ∧ (n : ℚ) / d < roundHalfEven n d + 1 / 2) := by
  have hdcast : (0 : ℚ) < d := Nat.cast_pos.mpr hd
  have hn : (n : ℚ) = d * (n / d : ℕ) + (n % d : ℕ) := by exact_mod_cast (Nat.div_add_mod n d).symm
  have hr : n % d < d := Nat.mod_lt n hd
  rw [le_div_iff₀ hdcast, div_le_iff₀ hdcast, lt_div_iff₀ hdcast, div_lt_iff₀ hdcast, hn]
  unfold roundHalfEven
  generalize n / d = q
  generalize n % d = r at *
  have hrcast : (r : ℚ) < d := Nat.cast_lt.mpr hr
  have hrpos : (0 : ℚ) ≤ r := Nat.cast_nonneg r
  dsimp only
  split_ifs with hbelow habove
  · have hbelow : (2 : ℚ) * r < d := by exact_mod_cast hbelow
    refine ⟨?_, ?_, fun _ => ⟨?_, ?_⟩⟩ <;> linarith
  · have habove : (d : ℚ) < 2 * r := by exact_mod_cast habove
    push_cast
    refine ⟨?_, ?_, fun _ => ⟨?_, ?_⟩⟩ <;> linarith
  · -- A half goes to the even one of its neighbours.
    have hhalf : (2 : ℚ) * r = d := by exact_mod_cast (by omega : 2 * r = d)
    obtain heven | hodd := Nat.mod_two_eq_zero_or_one q
    · rw [heven, Nat.add_zero]
      refine ⟨?_, ?_, fun h => absurd (heven.symm.trans h) Nat.zero_ne_one⟩ <;> linarith
    · rw [hodd]
      push_cast
      refine ⟨?_, ?_, fun h => absurd h (by omega)⟩ <;> linarith

theorem roundHalfEven_mono {n d n' d' : ℕ} (hd : 0 < d) (hd' : 0 < d')
    (h : (n : ℚ) / d ≤ n' / d') : roundHalfEven n d ≤ roundHalfEven n' d' := by
  obtain ⟨hlow, -, hodd⟩ := roundHalfEven_near n hd
  obtain ⟨-, hhigh, hodd'⟩ := roundHalfEven_near n' hd'
  by_contra hlt
  have hsucc : (roundHalfEven n' d' : ℚ) + 1 ≤ roundHalfEven n d := by
    exact_mod_cast Nat.succ_le_of_lt (not_le.mp hlt)
  -- Both quotients would be the half between two neighbours, and it goes to one of them.
  have hnext : roundHalfEven n d = roundHalfEven n' d' + 1 := by
    have hle : (roundHalfEven n d : ℚ) ≤ roundHalfEven n' d' + 1 := by linarith
    exact_mod_cast le_antisymm hle hsucc
  obtain hone | hone : roundHalfEven n d % 2 = 1 ∨ roundHalfEven n' d' % 2 = 1 := by omega
  · linarith [(hodd hone).1]
  · linarith [(hodd' hone).2]

/-! ### Numbers -/

/-- The rational that a positive quotient is rounded to, were there no largest number. -/
def rounded (n d : ℕ) : ℚ :=
  let unit := max (floorLog2 n d - 52) minExponent
  roundHalfEven (inUnits n d unit).1 (inUnits n d unit).2 * 2 ^ unit

theorem two_zpow_eq {i j k : ℤ} (h : i + j = k) : (2 : ℚ) ^ i * 2 ^ j = 2 ^ k := by
  rw [← zpow_add₀ two_ne_zero, h]

theorem rank_ofRatio {n d : ℕ} (hn : 0 < n) (hd : 0 < d) :
    (ofRatio false n d).rank = WithBot.some
      (if rounded n d < 2 ^ (1024 : ℤ) then WithTop.some (rounded n d) else ⊤) := by
  obtain ⟨hle, hfull⟩ := roundHalfEven_inUnits_bounds hn hd rfl
  rw [ofRatio_eq false hn.ne' rfl rfl, rounded]
  generalize max (floorLog2 n d - 52) minExponent = f at *
  generalize roundHalfEven (inUnits n d f).1 (inUnits n d f).2 = m at *
  have hmax : maxExponent = 971 := rfl
  have hunit : (0 : ℚ) < 2 ^ f := zpow_pos two_pos f
  have hmcast : (m : ℚ) ≤ 2 ^ (53 : ℤ) := by exact_mod_cast hle
  -- Up to the largest exponent the carry fits; above it even the least mantissa does not.
  have hsmall : f < maxExponent → (m : ℚ) * 2 ^ f < 2 ^ (1024 : ℤ) := by
    intro hf
    calc (m : ℚ) * 2 ^ f ≤ 2 ^ (53 : ℤ) * 2 ^ f := mul_le_mul_of_nonneg_right hmcast hunit.le
      _ = 2 ^ (53 + f) := two_zpow_eq rfl
      _ < 2 ^ (1024 : ℤ) := zpow_lt_zpow_right₀ one_lt_two (by omega)
  have hlarge : maxExponent < f → ¬ (m : ℚ) * 2 ^ f < 2 ^ (1024 : ℤ) := by
    intro hf
    have hm : (2 : ℚ) ^ (52 : ℤ) ≤ m := by
      exact_mod_cast hfull.resolve_right (by rintro rfl; exact absurd hf (by decide))
    rw [not_lt]
    calc (2 : ℚ) ^ (1024 : ℤ) ≤ 2 ^ (52 + f) := zpow_le_zpow_right₀ one_le_two (by omega)
      _ = 2 ^ (52 : ℤ) * 2 ^ f := (two_zpow_eq rfl).symm
      _ ≤ m * 2 ^ f := mul_le_mul_of_nonneg_right hm hunit.le
  by_cases hcarry : m = 2 ^ 53
  · have hvalue : (m : ℚ) * 2 ^ f = 2 ^ (53 + f) := by
      rw [hcarry, ← two_zpow_eq (i := 53) rfl]
      norm_num
    rw [if_pos hcarry]
    by_cases hf : maxExponent < f + 1
    · rw [if_pos hf, if_neg]
      · rfl
      · rw [hvalue, not_lt]
        exact zpow_le_zpow_right₀ one_le_two (by omega)
    · have hcarried : toRat false (2 ^ 52) (f + 1) = m * 2 ^ f := by
        have hpower : toRat false (2 ^ 52) (f + 1) = 2 ^ (52 : ℤ) * 2 ^ (f + 1) := by
          rw [toRat, signed]
          norm_num
        exact hpower.trans ((two_zpow_eq (by omega)).trans hvalue.symm)
      rw [if_neg hf, if_pos (hsmall (by omega)), rank, hcarried]
  · rw [if_neg hcarry]
    by_cases hf : maxExponent < f
    · rw [if_pos hf, if_neg (hlarge hf)]
      rfl
    · rw [if_neg hf, if_pos]
      · rw [rank, toRat, signed]
        norm_num
      · have hlt : (m : ℚ) < 2 ^ (53 : ℤ) := by
          exact_mod_cast lt_of_le_of_ne hle hcarry
        calc (m : ℚ) * 2 ^ f < 2 ^ (53 : ℤ) * 2 ^ f := mul_lt_mul_of_pos_right hlt hunit
          _ = 2 ^ (53 + f) := two_zpow_eq rfl
          _ ≤ 2 ^ (1024 : ℤ) := zpow_le_zpow_right₀ one_le_two (by omega)

theorem rounded_mono {n d n' d' : ℕ} (hn : 0 < n) (hd : 0 < d) (hn' : 0 < n') (hd' : 0 < d')
    (h : (n : ℚ) / d ≤ n' / d') : rounded n d ≤ rounded n' d' := by
  obtain ⟨hle, -⟩ := roundHalfEven_inUnits_bounds hn hd rfl
  obtain ⟨-, hfull⟩ := roundHalfEven_inUnits_bounds hn' hd' rfl
  have hfloor : floorLog2 n d < floorLog2 n' d' + 1 :=
    (zpow_lt_zpow_iff_right₀ one_lt_two).mp
      (((two_zpow_floorLog2 hn hd).1.trans h).trans_lt (two_zpow_floorLog2 hn' hd').2)
  unfold rounded
  dsimp only
  have hunits : max (floorLog2 n d - 52) minExponent ≤ max (floorLog2 n' d' - 52) minExponent := by
    omega
  have hleast : minExponent ≤ max (floorLog2 n d - 52) minExponent := le_max_right _ _
  generalize max (floorLog2 n d - 52) minExponent = f at *
  generalize max (floorLog2 n' d' - 52) minExponent = f' at *
  have hunit : ∀ i : ℤ, (0 : ℚ) < 2 ^ i := fun i => zpow_pos two_pos i
  rcases hunits.eq_or_lt with rfl | hlt
  · have hm : roundHalfEven (inUnits n d f).1 (inUnits n d f).2
        ≤ roundHalfEven (inUnits n' d' f).1 (inUnits n' d' f).2 := by
      refine roundHalfEven_mono (inUnits_pos hd n f) (inUnits_pos hd' n' f) ?_
      rw [inUnits_div, inUnits_div]
      exact div_le_div_of_nonneg_right h (hunit f).le
    exact mul_le_mul_of_nonneg_right (Nat.cast_le.mpr hm) (hunit f).le
  · -- The greater unit is not the least one, so that its mantissa is a full one.
    have hm : (2 : ℚ) ^ (52 : ℤ)
        ≤ (roundHalfEven (inUnits n' d' f').1 (inUnits n' d' f').2 : ℕ) := by
      exact_mod_cast hfull.resolve_right (by omega)
    have hmcast : ((roundHalfEven (inUnits n d f).1 (inUnits n d f).2 : ℕ) : ℚ) ≤ 2 ^ (53 : ℤ) := by
      exact_mod_cast hle
    calc _ ≤ (2 : ℚ) ^ (53 : ℤ) * 2 ^ f := mul_le_mul_of_nonneg_right hmcast (hunit f).le
      _ = 2 ^ (53 + f) := two_zpow_eq rfl
      _ ≤ 2 ^ (52 + f') := zpow_le_zpow_right₀ one_le_two (by omega)
      _ = 2 ^ (52 : ℤ) * 2 ^ f' := (two_zpow_eq rfl).symm
      _ ≤ _ := mul_le_mul_of_nonneg_right hm (hunit f').le

/-- What a quotient is rounded to has its sign. -/
theorem ofRatio_sign (negative : Bool) (n d : ℕ) :
    ofRatio negative n d = .infinite negative ∨
      ∃ m e, ofRatio negative n d = .finite negative m e := by
  by_cases hn : n = 0
  · exact .inr ⟨0, minExponent, by rw [ofRatio, if_pos hn]⟩
  · rw [ofRatio_eq negative hn rfl rfl]
    split_ifs
    · exact .inl rfl
    · exact .inr ⟨_, _, rfl⟩
    · exact .inl rfl
    · exact .inr ⟨_, _, rfl⟩

theorem rank_finite_nonneg (m : ℕ) (e : ℤ) : 0 ≤ (finite false m e).rank :=
  WithBot.coe_le_coe.mpr (WithTop.coe_le_coe.mpr
    (mul_nonneg (Int.cast_nonneg (Int.natCast_nonneg m)) (zpow_nonneg zero_le_two e)))

theorem rank_finite_nonpos (m : ℕ) (e : ℤ) : (finite true m e).rank ≤ 0 :=
  WithBot.coe_le_coe.mpr (WithTop.coe_le_coe.mpr
    (mul_nonpos_of_nonpos_of_nonneg (Int.cast_nonpos.mpr (neg_nonpos.mpr (Int.natCast_nonneg m)))
      (zpow_nonneg zero_le_two e)))

theorem rank_ofRatio_nonneg (n d : ℕ) : 0 ≤ (ofRatio false n d).rank := by
  obtain h | ⟨m, e, h⟩ := ofRatio_sign false n d
  · rw [h]
    exact WithBot.coe_le_coe.mpr le_top
  · rw [h]
    exact rank_finite_nonneg m e

theorem rank_ofRatio_nonpos (n d : ℕ) : (ofRatio true n d).rank ≤ 0 := by
  obtain h | ⟨m, e, h⟩ := ofRatio_sign true n d
  · rw [h]
    exact bot_le
  · rw [h]
    exact rank_finite_nonpos m e

/-- Rounding keeps the order of quotients. -/
theorem rank_ofRatio_le {n d n' d' : ℕ} (hd : 0 < d) (hd' : 0 < d')
    (h : (n : ℚ) / d ≤ n' / d') : (ofRatio false n d).rank ≤ (ofRatio false n' d').rank := by
  rcases Nat.eq_zero_or_pos n with rfl | hn
  · have hzero : (ofRatio false 0 d).rank ≤ 0 := by
      rw [ofRatio, if_pos rfl, rank, toRat, signed]
      norm_num
    exact hzero.trans (rank_ofRatio_nonneg n' d')
  have hn' : 0 < n' := by
    rcases Nat.eq_zero_or_pos n' with rfl | hn'
    · have hpos : (0 : ℚ) < n / d := div_pos (Nat.cast_pos.mpr hn) (Nat.cast_pos.mpr hd)
      rw [Nat.cast_zero, zero_div] at h
      exact absurd h (not_le.mpr hpos)
    · exact hn'
  have hmono := rounded_mono hn hd hn' hd' h
  rw [rank_ofRatio hn hd, rank_ofRatio hn' hd', WithBot.coe_le_coe]
  split_ifs with hfinite hfinite' hfinite'
  · exact WithTop.coe_le_coe.mpr hmono
  · exact le_top
  · exact absurd (hmono.trans_lt hfinite') hfinite
  · exact le_rfl

theorem ofRatio_ne_nan (negative : Bool) (n d : ℕ) : ofRatio negative n d ≠ nan := by
  obtain h | ⟨m, e, h⟩ := ofRatio_sign negative n d <;> rw [h] <;> nofun

theorem ofUnits_ne_nan (negativeZero : Bool) (m e : ℤ) : ofUnits negativeZero m e ≠ nan := by
  rw [ofUnits]
  split
  · nofun
  · exact ofRatio_ne_nan _ _ _

/-- An integer in units of a power of two that is not above a quotient is not rounded beyond it. -/
theorem rank_ofUnits_le (negativeZero : Bool) {m e : ℤ} {n d : ℕ} (hd : 0 < d)
    (h : (m : ℚ) * 2 ^ e ≤ n / d) :
    (ofUnits negativeZero m e).rank ≤ (ofRatio false n d).rank := by
  have hnonneg := rank_ofRatio_nonneg n d
  rw [ofUnits]
  split
  · refine le_trans ?_ hnonneg
    cases negativeZero with
    | false => rw [rank, toRat, signed]; norm_num
    | true => exact rank_finite_nonpos 0 minExponent
  · next hm =>
    rcases lt_or_gt_of_ne hm with hneg | hpos
    · rw [decide_eq_true hneg]
      exact (rank_ofRatio_nonpos _ _).trans hnonneg
    · rw [decide_eq_false hpos.not_gt]
      refine rank_ofRatio_le (Nat.two_pow_pos _) hd ?_
      have hcast : ((m.natAbs : ℕ) : ℚ) = m := by
        rw [← Int.cast_natCast, Int.natAbs_of_nonneg hpos.le]
      rw [Nat.cast_mul, mul_div_assoc, natCast_pow_div two_pos, hcast]
      exact_mod_cast h

/-! ### The largest numbers -/

/-- Half a unit above the largest finite number. -/
def overflow : ℕ := (2 ^ 54 - 1) * 2 ^ 970

theorem overflow_cast : (overflow : ℚ) = (2 ^ (53 : ℤ) - 1 / 2) * 2 ^ (971 : ℤ) := by
  have hpower : (2 : ℚ) ^ (971 : ℤ) = 2 * (2 : ℕ) ^ 970 := by
    rw [← two_zpow_eq (show (1 : ℤ) + 970 = 971 from rfl), Nat.cast_ofNat, zpow_one]
    rfl
  rw [overflow, Nat.cast_mul, Nat.cast_pow, hpower]
  generalize ((2 : ℕ) : ℚ) ^ 970 = power
  norm_num
  ring

theorem overflow_pos : 0 < overflow := by
  decide +kernel

theorem rounded_lt_iff {n d : ℕ} (hn : 0 < n) (hd : 0 < d) :
    rounded n d < 2 ^ (1024 : ℤ) ↔ n < d * overflow := by
  have hdcast : (0 : ℚ) < d := Nat.cast_pos.mpr hd
  have hquotient : n < d * overflow ↔ (n : ℚ) / d < overflow := by
    rw [div_lt_iff₀ hdcast, mul_comm, ← Nat.cast_mul, Nat.cast_lt]
  rw [hquotient]
  refine ⟨fun h => not_le.mp fun hlarge => ?_, fun h => ?_⟩
  · have hdecided : ofRatio false overflow 1 = .infinite false := by decide +kernel
    have hleast := rank_ofRatio overflow_pos one_pos
    rw [hdecided] at hleast
    have hquotient : (overflow : ℚ) / (1 : ℕ) = overflow := by rw [Nat.cast_one, div_one]
    have hmono := rounded_mono overflow_pos one_pos hn hd (hquotient.trans_le hlarge)
    rw [if_pos (hmono.trans_lt h)] at hleast
    exact absurd (WithBot.coe_injective hleast) (WithTop.top_ne_coe)
  · obtain ⟨hle, -⟩ := roundHalfEven_inUnits_bounds hn hd rfl
    have hplace : (2 : ℚ) ^ floorLog2 n d < 2 ^ (1024 : ℤ) := by
      refine ((two_zpow_floorLog2 hn hd).1.trans_lt h).trans_le ?_
      rw [overflow_cast, ← two_zpow_eq (show (53 : ℤ) + 971 = 1024 from rfl)]
      exact mul_le_mul_of_nonneg_right (by norm_num) (zpow_nonneg zero_le_two _)
    have hfloor := (zpow_lt_zpow_iff_right₀ one_lt_two).mp hplace
    have hmin : minExponent = -1074 := rfl
    unfold rounded
    dsimp only
    have hf : max (floorLog2 n d - 52) minExponent ≤ 971 := by omega
    generalize max (floorLog2 n d - 52) minExponent = f at *
    have hunit : (0 : ℚ) < 2 ^ f := zpow_pos two_pos f
    have hmcast : ((roundHalfEven (inUnits n d f).1 (inUnits n d f).2 : ℕ) : ℚ) ≤ 2 ^ (53 : ℤ) := by
      exact_mod_cast hle
    rcases hf.lt_or_eq with hsmall | rfl
    · calc _ ≤ (2 : ℚ) ^ (53 : ℤ) * 2 ^ f := mul_le_mul_of_nonneg_right hmcast hunit.le
        _ = 2 ^ (53 + f) := two_zpow_eq rfl
        _ < 2 ^ (1024 : ℤ) := zpow_lt_zpow_right₀ one_lt_two (by omega)
    · -- Below the half unit there is no carry out of the last binade.
      have hnear := (roundHalfEven_near (inUnits n d 971).1 (inUnits_pos hd n 971)).1
      rw [inUnits_div] at hnear
      rw [overflow_cast, ← div_lt_iff₀ hunit] at h
      calc _ < (2 : ℚ) ^ (53 : ℤ) * 2 ^ (971 : ℤ) :=
            mul_lt_mul_of_pos_right (by linarith) hunit
        _ = 2 ^ (1024 : ℤ) := two_zpow_eq rfl

theorem bounded?_ofRatio_sign (negative : Bool) (n d : ℕ) :
    (ofRatio negative n d).bounded?.isSome = (ofRatio false n d).bounded?.isSome := by
  by_cases hn : n = 0
  · rw [ofRatio, ofRatio, if_pos hn, if_pos hn]
    rfl
  · rw [ofRatio_eq negative hn rfl rfl, ofRatio_eq false hn rfl rfl]
    split_ifs <;> rfl

/-- The quotients that are not too large for a number. -/
theorem isSome_bounded?_ofRatio (negative : Bool) (n : ℕ) {d : ℕ} (hd : 0 < d) :
    (ofRatio negative n d).bounded?.isSome = true ↔ n < d * overflow := by
  rw [bounded?_ofRatio_sign]
  rcases Nat.eq_zero_or_pos n with rfl | hn
  · have hpos : 0 < overflow := by decide +kernel
    rw [ofRatio, if_pos rfl]
    exact iff_of_true rfl (Nat.mul_pos hd hpos)
  · have hrank := rank_ofRatio hn hd
    rw [← rounded_lt_iff hn hd]
    obtain h | ⟨m, e, h⟩ := ofRatio_sign false n d
    · rw [h] at hrank ⊢
      refine iff_of_false Bool.false_ne_true fun hlt => ?_
      rw [if_pos hlt] at hrank
      exact WithTop.top_ne_coe (WithBot.coe_injective hrank)
    · rw [h] at hrank ⊢
      refine iff_of_true rfl (by_contra fun hlt => ?_)
      rw [if_neg hlt] at hrank
      exact WithTop.coe_ne_top (WithBot.coe_injective hrank)

end SourceText.Binary64
