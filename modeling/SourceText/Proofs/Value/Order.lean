import SourceText.Proofs.Number.Monotone
import SourceText.Value.Limit

/-!
# The order of values

Numbers of all kinds stand in one order, integers among the binary numbers (`rank?`), and they are
compared by where they stand there (`isAtLeast_eq_ok`). An integer has a binary number near it
unless it is too large (`isSome_toBinary64?`).
-/

namespace SourceText

/-- Where an integer stands in the order of numbers. -/
def intRank (n : Int) : WithBot (WithTop ℚ) := WithBot.some (WithTop.some (n : ℚ))

theorem intRank_lt_intRank {m n : Int} (h : m < n) : intRank m < intRank n :=
  WithBot.coe_lt_coe.mpr (WithTop.coe_lt_coe.mpr (Int.cast_lt.mpr h))

theorem intRank_inj {m n : Int} : intRank m = intRank n ↔ m = n := by
  rw [intRank, intRank, WithBot.coe_inj, WithTop.coe_inj, Int.cast_inj]

theorem Binary64.compareInt?_eq_compare_rank {x : Binary64} (hx : x ≠ nan) (n : Int) :
    compareInt? x n = some (compare x.rank (intRank n)) := by
  cases x with
  | nan => exact absurd rfl hx
  | infinite s => cases s <;> rfl
  | finite s m e =>
    have halign := compare_align (signed s m) e n 0
    rw [zpow_zero, mul_one] at halign
    rw [rank, intRank, compare_finite]
    exact congrArg some halign

theorem Binary64.isZero_iff_rank {x : Binary64} (hx : x ≠ nan) : x.isZero = true ↔ x.rank = 0 := by
  cases x with
  | nan => exact absurd rfl hx
  | infinite s => cases s <;> exact iff_of_false Bool.false_ne_true (by decide)
  | finite s m e =>
    have hpower : (2 : ℚ) ^ e ≠ 0 := zpow_ne_zero e two_ne_zero
    have hrank : (finite s m e).rank = 0 ↔ toRat s m e = 0 := by
      rw [rank]
      norm_cast
    have hzero : (finite s m e).isZero = true ↔ m = 0 := by
      cases m with
      | zero => exact iff_of_true rfl rfl
      | succ m => exact iff_of_false Bool.false_ne_true (Nat.succ_ne_zero m)
    rw [hzero, hrank, toRat, mul_eq_zero, or_iff_left hpower]
    cases s <;> simp [signed]

namespace Value

/-- The values that are numbers of some kind. -/
inductive IsNumeric : Value → Prop where
  | int {v : Value} {n : Int} (h : v.toInt? = some n) : IsNumeric v
  | number (x : Binary64) : IsNumeric (number x)

/-- Where a value stands in the order of numbers, if it has a place there. -/
def rank? : Value → Option (WithBot (WithTop ℚ))
  | number x => if x = .nan then none else some x.rank
  | value => value.toInt?.map intRank

/-- Whether two values have places in the order of numbers, the first one no lower. -/
def AtLeast (a b : Value) : Prop := ∃ x y, a.rank? = some x ∧ b.rank? = some y ∧ y ≤ x

theorem rank?_number {x : Binary64} (hx : x ≠ .nan) : (number x).rank? = some x.rank :=
  if_neg hx

theorem toInt?_eq_some {v : Value} {n : Int} (h : v.toInt? = some n) :
    (∃ b, v = bool b) ∨ v = integer n := by
  cases v with
  | bool b => exact .inl ⟨b, rfl⟩
  | integer m => exact .inr (congrArg integer (Option.some.inj h))
  | _ => exact nomatch h

theorem rank?_of_toInt? {v : Value} {n : Int} (h : v.toInt? = some n) :
    v.rank? = some (intRank n) := by
  cases v with
  | number x => exact nomatch h
  | _ => simp only [rank?, h, Option.map_some]

/-- A place in the order is that of a binary number or of an integer. -/
theorem rank?_eq_some {v : Value} {p : WithBot (WithTop ℚ)} (h : v.rank? = some p) :
    (∃ x, v = number x ∧ x ≠ .nan ∧ x.rank = p) ∨ ∃ n, v.toInt? = some n ∧ intRank n = p := by
  cases v with
  | number x =>
    by_cases hx : x = .nan
    · rw [hx] at h
      exact nomatch h
    · exact .inl ⟨x, rfl, hx, Option.some.inj ((rank?_number hx).symm.trans h)⟩
  | _ => exact .inr (Option.map_eq_some_iff.mp (by simpa only [rank?] using h))

theorem AtLeast.isNumeric {a b : Value} (h : a.AtLeast b) : a.IsNumeric := by
  obtain ⟨p, q, hp, -⟩ := h
  obtain ⟨x, rfl, -⟩ | ⟨n, hn, -⟩ := rank?_eq_some hp
  · exact .number x
  · exact .int hn

/-- Of the numbers only the zeros do not count as given. -/
theorem isGiven_iff_rank? {v : Value} (h : v.IsNumeric) : v.isGiven = true ↔ v.rank? ≠ some 0 := by
  cases h with
  | number x =>
    by_cases hx : x = .nan
    · rw [hx]
      exact iff_of_true rfl nofun
    · rw [rank?_number hx, Ne, Option.some.injEq, ← Binary64.isZero_iff_rank hx, Bool.not_eq_true,
        ← Bool.not_eq_true']
      rfl
  | int hv =>
    have hzero : intRank 0 = 0 := by
      rw [intRank, Int.cast_zero]
      rfl
    rw [rank?_of_toInt? hv, Ne, Option.some.injEq, ← hzero, intRank_inj]
    obtain ⟨b, rfl⟩ | rfl := toInt?_eq_some hv
    · obtain rfl := Option.some.inj hv
      cases b <;> decide
    · exact bne_iff_ne

/-! ### Comparison -/

section Compare

variable {a b : Value} {m n : Int}

theorem compareNumbers?_number_int (x : Binary64) (hb : b.toInt? = some n) :
    compareNumbers? (number x) b = some (Binary64.compareInt? x n) := by
  obtain ⟨t, rfl⟩ | rfl := toInt?_eq_some hb
  · exact congrArg (fun i => some (Binary64.compareInt? x i)) (Option.some.inj hb)
  · rfl

theorem compareNumbers?_int_number (ha : a.toInt? = some m) (y : Binary64) :
    compareNumbers? a (number y) = some ((Binary64.compareInt? y m).map Ordering.swap) := by
  obtain ⟨t, rfl⟩ | rfl := toInt?_eq_some ha
  · exact congrArg (fun i => some ((Binary64.compareInt? y i).map Ordering.swap))
      (Option.some.inj ha)
  · rfl

theorem compareNumbers?_int_int (ha : a.toInt? = some m) (hb : b.toInt? = some n) :
    compareNumbers? a b = some (some (compare m n)) := by
  have hints : compareNumbers? a b
      = a.toInt?.bind fun m => b.toInt?.map fun n => some (compare m n) := by
    obtain ⟨t, rfl⟩ | rfl := toInt?_eq_some ha <;>
      obtain ⟨t', rfl⟩ | rfl := toInt?_eq_some hb <;> rfl
  rw [hints, ha, Option.bind_some, hb, Option.map_some]

/-- Numbers of all kinds are compared by where they stand. -/
theorem compareNumbers?_eq (ha : a.IsNumeric) (hb : b.IsNumeric) :
    compareNumbers? a b = some (a.rank?.bind fun x => b.rank?.map fun y => compare x y) := by
  cases ha with
  | number x =>
    cases hb with
    | number y =>
      by_cases hx : x = .nan
      · rw [hx]
        rfl
      by_cases hy : y = .nan
      · rw [hy, rank?_number hx]
        cases x <;> rfl
      rw [rank?_number hx, rank?_number hy, Option.bind_some, Option.map_some,
        ← Binary64.compare?_eq_compare_rank hx hy]
      rfl
    | int hb =>
      rw [compareNumbers?_number_int x hb, rank?_of_toInt? hb]
      by_cases hx : x = .nan
      · rw [hx]
        rfl
      rw [Binary64.compareInt?_eq_compare_rank hx, rank?_number hx, Option.bind_some,
        Option.map_some]
  | int ha =>
    rw [rank?_of_toInt? ha, Option.bind_some]
    cases hb with
    | number y =>
      rw [compareNumbers?_int_number ha y]
      by_cases hy : y = .nan
      · rw [hy]
        rfl
      rw [Binary64.compareInt?_eq_compare_rank hy, rank?_number hy, Option.map_some,
        Option.map_some, ← cmp_eq_compare, ← cmp_eq_compare, cmp_swap]
    | int hb =>
      rw [compareNumbers?_int_int ha hb, rank?_of_toInt? hb, Option.map_some,
        Binary64.compare_map fun _ _ => intRank_lt_intRank]

theorem isAtLeast_eq_ok (ha : a.IsNumeric) (hb : b.IsNumeric) :
    ∃ holds, a.isAtLeast b = .ok holds ∧ (holds = true ↔ a.AtLeast b) := by
  rw [isAtLeast, compareNumbers?_eq ha hb]
  refine ⟨_, rfl, ?_⟩
  rw [AtLeast]
  cases a.rank? with
  | none => exact iff_of_false Bool.false_ne_true nofun
  | some x =>
    cases b.rank? with
    | none => exact iff_of_false Bool.false_ne_true nofun
    | some y =>
      have hplaces : (∃ p q, some x = some p ∧ some y = some q ∧ q ≤ p) ↔ y ≤ x :=
        ⟨fun ⟨_, _, hp, hq, h⟩ => Option.some.inj hp ▸ Option.some.inj hq ▸ h,
          fun h => ⟨x, y, rfl, rfl, h⟩⟩
      rw [hplaces, Option.bind_some, Option.map_some, Bool.or_eq_true, beq_iff_eq, beq_iff_eq,
        Option.some.injEq, Option.some.injEq, compare_gt_iff_gt, compare_eq_iff_eq,
        le_iff_lt_or_eq, eq_comm (a := y)]

end Compare

/-- The numbers that are not integers too large have a binary number. -/
theorem isSome_toBinary64? {v : Value} (h : v.IsNumeric) :
    v.toBinary64?.isSome = true ↔ ∀ n, v.toInt? = some n → n.natAbs < Binary64.overflow := by
  cases h with
  | number x => exact iff_of_true rfl nofun
  | int hv =>
    next n =>
    have hint : v.toBinary64? = (Binary64.ofInt n).bounded? := by
      obtain ⟨b, rfl⟩ | rfl := toInt?_eq_some hv
      · exact congrArg (fun i => (Binary64.ofInt i).bounded?) (Option.some.inj hv)
      · rfl
    rw [hint, Binary64.ofInt, Binary64.isSome_bounded?_ofRatio _ _ one_pos, one_mul]
    exact ⟨fun h m hm => Option.some.inj (hv.symm.trans hm) ▸ h, fun h => h n hv⟩

end Value

end SourceText
