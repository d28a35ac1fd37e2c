import SourceText.Number.Reader

/-!
# Integers as they are written

A text stands for an integer when it is blanks, a sign, digits and blanks, where the sign may be
missing, the digits may be of any script, and one low line may stand between two of them
(`WritesInteger`). The reader accepts these texts and no others (`readInteger_eq_ok_iff`).
-/

namespace SourceText.Number

open Unicode (digitValue?)

/-- Decimal digits with at most one low line between two of them, and the values of the digits. -/
inductive WritesDigits : Text → List Nat → Prop where
  | single {c : Char} {d : Nat} : digitValue? c = some d → WritesDigits [c] [d]
  | cons {c : Char} {d : Nat} {t : Text} {ds : List Nat} :
    digitValue? c = some d → WritesDigits t ds → WritesDigits (c :: t) (d :: ds)
  | line {c : Char} {d : Nat} {t : Text} {ds : List Nat} :
    digitValue? c = some d → WritesDigits t ds → WritesDigits (c :: '_' :: t) (d :: ds)

/-- A sign and whether it makes a number negative. -/
inductive WritesSign : Text → Bool → Prop where
  | none : WritesSign [] false
  | plus : WritesSign ['+'] false
  | minus : WritesSign ['-'] true

/-- A text that stands for an integer. -/
def WritesInteger (text : Text) (n : Int) : Prop :=
  ∃ (before sign body after : Text) (negative : Bool) (digits : List Nat),
    text = before ++ sign ++ body ++ after ∧ before.all isPadding = true ∧
      after.all isPadding = true ∧ WritesSign sign negative ∧ WritesDigits body digits ∧
      digits.length ≤ maxDigits ∧ n = if negative then -(ofDigits digits : Int) else ofDigits digits

/-! ### Blanks are no digits -/

/-- The digits of scripts other than ASCII stand clear of the blanks. -/
theorem digitZeros_clear : ∀ start ∈ Unicode.digitZeros, 128 ≤ start + 9 →
    0xA0 < start ∧ start + 9 < 0x1680 ∨ 0x1680 < start ∧ start + 9 < 0x2000 ∨
      0x205F < start ∧ start + 9 < 0x3000 ∨ 0x3000 < start := by
  decide

theorem isBlank_bounds {c : Char} (h : isBlank c = true) :
    c.toNat ≤ 32 ∨ 0x85 ≤ c.toNat ∧ c.toNat ≤ 0xA0 ∨ c.toNat = 0x1680 ∨
      0x2000 ≤ c.toNat ∧ c.toNat ≤ 0x205F ∨ c.toNat = 0x3000 := by
  simp only [isBlank, Bool.or_eq_true, Bool.and_eq_true, decide_eq_true_eq, beq_iff_eq] at h
  omega

theorem digitValue?_of_isBlank {c : Char} (h : isBlank c = true) : digitValue? c = none := by
  have hbounds := isBlank_bounds h
  unfold digitValue?
  split
  · have hdigit : ¬ c.isDigit = true := by
      rw [Char.isDigit_iff_toNat, show '0'.toNat = 48 from rfl]
      omega
    rw [if_neg hdigit]
  · refine Option.map_eq_none_iff.mpr (List.find?_eq_none.mpr fun start hstart hc => ?_)
    simp only [Bool.and_eq_true, decide_eq_true_eq] at hc
    have hclear := digitZeros_clear start hstart
    omega

theorem digitValue?_of_isPadding {c : Char} (h : isPadding c = true) : digitValue? c = none :=
  digitValue?_of_isBlank (Bool.and_eq_true_iff.mp h).1

/-! ### Digits -/

theorem takeDigits_append {t : Text} {ds : List Nat} (h : WritesDigits t ds) (rest : Text)
    (fresh : Bool) :
    takeDigits fresh (t ++ rest)
      = (takeDigits false rest).map fun (more, left) => (ds ++ more, left) := by
  have hlow : digitValue? '_' = none := by decide
  induction h generalizing fresh with
  | single hc => simp [takeDigits, hc]
  | cons hc _ ih =>
    simp only [List.cons_append, takeDigits, hc, ih, Option.map_map]
    rfl
  | line hc _ ih =>
    simp only [List.cons_append, takeDigits, hc, hlow, ih, Bool.false_eq_true, if_false, if_true,
      Option.map_map]
    rfl

theorem takeDigits_writesDigits {t : Text} {ds : List Nat} (h : WritesDigits t ds) {rest : Text}
    (hrest : ∀ c ∈ rest.head?, digitValue? c = none ∧ c ≠ '_') (fresh : Bool) :
    takeDigits fresh (t ++ rest) = some (ds, rest) := by
  have hstop : takeDigits false rest = some ([], rest) := by
    cases rest with
    | nil => rfl
    | cons c rest =>
      obtain ⟨hdigit, hline⟩ := hrest c rfl
      simp [takeDigits, hdigit, hline]
  simp [takeDigits_append h, hstop]

/-- What is taken as digits: they come first, or after a low line, unless nothing is taken. -/
theorem writesDigits_of_takeDigits {fresh : Bool} {t rest : Text} {ds : List Nat}
    (h : takeDigits fresh t = some (ds, rest)) :
    (∃ body, WritesDigits body ds ∧ t = body ++ rest) ∨
      fresh = false ∧ (ds = [] ∧ rest = t ∨
        ∃ body, WritesDigits body ds ∧ t = '_' :: body ++ rest) := by
  induction t generalizing fresh ds with
  | nil =>
    cases fresh with
    | true => simp [takeDigits] at h
    | false =>
      simp only [takeDigits, Bool.false_eq_true, if_false, Option.some.injEq, Prod.mk.injEq] at h
      exact .inr ⟨rfl, .inl ⟨h.1.symm, h.2.symm⟩⟩
  | cons c t ih =>
    rw [takeDigits] at h
    cases hc : digitValue? c with
    | some d =>
      simp only [hc, Option.map_eq_some_iff] at h
      obtain ⟨⟨ds', rest'⟩, htaken, heq⟩ := h
      obtain ⟨rfl, rfl⟩ := Prod.mk.inj heq
      refine .inl ?_
      obtain ⟨body, hbody, rfl⟩ | ⟨-, ⟨rfl, rfl⟩ | ⟨body, hbody, rfl⟩⟩ := ih htaken
      · exact ⟨c :: body, .cons hc hbody, rfl⟩
      · exact ⟨[c], .single hc, rfl⟩
      · exact ⟨c :: '_' :: body, .line hc hbody, rfl⟩
    | none =>
      simp only [hc] at h
      cases fresh with
      | true => simp at h
      | false =>
        refine .inr ⟨rfl, ?_⟩
        rw [if_neg Bool.false_ne_true] at h
        by_cases hline : c = '_'
        · subst hline
          rw [if_pos rfl] at h
          obtain ⟨body, hbody, rfl⟩ | ⟨hfresh, -⟩ := ih h
          · exact .inr ⟨body, hbody, rfl⟩
          · exact absurd hfresh.symm Bool.false_ne_true
        · rw [if_neg hline, Option.some.injEq, Prod.mk.injEq] at h
          exact .inl ⟨h.1.symm, h.2.symm⟩

/-! ### Integers -/

theorem WritesDigits.exists_cons {t : Text} {ds : List Nat} (h : WritesDigits t ds) :
    ∃ c d tail, digitValue? c = some d ∧ t = c :: tail := by
  cases h with
  | single hc => exact ⟨_, _, _, hc, rfl⟩
  | cons hc _ => exact ⟨_, _, _, hc, rfl⟩
  | line hc _ => exact ⟨_, _, _, hc, rfl⟩

theorem takeSign_of_writesDigits {t : Text} {ds : List Nat} (h : WritesDigits t ds) (rest : Text) :
    takeSign (t ++ rest) = (false, t ++ rest) := by
  obtain ⟨c, d, tail, hc, rfl⟩ := h.exists_cons
  have hsign : ∀ s, digitValue? s = none → c ≠ s := by
    rintro s hs rfl
    exact absurd (hc.symm.trans hs) (Option.some_ne_none d)
  rw [List.cons_append, takeSign]
  · intro rest' heq
    exact hsign '-' (by decide) (List.cons.inj heq).1
  · intro rest' heq
    exact hsign '+' (by decide) (List.cons.inj heq).1

theorem takeSign_append {sign : Text} {negative : Bool} (hsign : WritesSign sign negative)
    {t : Text} {ds : List Nat} (h : WritesDigits t ds) (rest : Text) :
    takeSign (sign ++ t ++ rest) = (negative, t ++ rest) := by
  cases hsign with
  | none => exact takeSign_of_writesDigits h rest
  | plus => rfl
  | minus => rfl

theorem exists_writesSign (t : Text) :
    ∃ sign, WritesSign sign (takeSign t).1 ∧ t = sign ++ (takeSign t).2 := by
  unfold takeSign
  split
  · exact ⟨['-'], .minus, rfl⟩
  · exact ⟨['+'], .plus, rfl⟩
  · exact ⟨[], .none, rfl⟩

theorem dropWhile_isPadding_append {sign : Text} {negative : Bool}
    (hsign : WritesSign sign negative) {t : Text} {ds : List Nat} (h : WritesDigits t ds)
    (rest : Text) :
    (sign ++ t ++ rest).dropWhile isPadding = sign ++ t ++ rest := by
  obtain ⟨c, d, tail, hc, rfl⟩ := h.exists_cons
  have hpad : ¬ isPadding c = true := by
    intro hpad
    rw [digitValue?_of_isPadding hpad] at hc
    exact absurd hc.symm (Option.some_ne_none d)
  cases hsign with
  | none => exact List.dropWhile_cons_of_neg hpad
  | plus => exact List.dropWhile_cons_of_neg (by decide)
  | minus => exact List.dropWhile_cons_of_neg (by decide)

theorem readInteger_of_writesInteger {text : Text} {n : Int} (h : WritesInteger text n) :
    readInteger text = .ok n := by
  obtain ⟨before, sign, body, after, negative, digits, rfl, hbefore, hafter, hsign, hbody, hcount,
    rfl⟩ := h
  have hdrop : (before ++ sign ++ body ++ after).dropWhile isPadding = sign ++ body ++ after := by
    rw [List.append_assoc, List.append_assoc,
      List.dropWhile_append_of_pos (List.all_eq_true.mp hbefore), ← List.append_assoc,
      dropWhile_isPadding_append hsign hbody after]
  have hrest : ∀ c ∈ after.head?, digitValue? c = none ∧ c ≠ '_' := by
    intro c hc
    have hpad : isPadding c = true := List.all_eq_true.mp hafter c (List.mem_of_mem_head? hc)
    refine ⟨digitValue?_of_isPadding hpad, ?_⟩
    rintro rfl
    exact absurd hpad (by decide)
  rw [readInteger, hdrop, takeSign_append hsign hbody after]
  simp only [takeDigits_writesDigits hbody hrest true, hafter, if_true,
    if_neg (Nat.not_lt.mpr hcount)]

theorem writesInteger_of_readInteger {text : Text} {n : Int} (h : readInteger text = .ok n) :
    WritesInteger text n := by
  obtain ⟨sign, hsign, htext⟩ := exists_writesSign (text.dropWhile isPadding)
  rw [readInteger] at h
  simp only at h
  split at h
  · exact absurd h nofun
  · next digits rest htaken =>
    split at h
    · exact absurd h nofun
    · next hcount =>
      split at h
      · next hrest =>
        obtain ⟨body, hbody, happend⟩ | ⟨hfresh, -⟩ := writesDigits_of_takeDigits htaken
        · refine ⟨text.takeWhile isPadding, sign, body, rest, _, digits, ?_, List.all_takeWhile,
            hrest, hsign, hbody, Nat.not_lt.mp hcount, (Except.ok.inj h).symm⟩
          rw [List.append_assoc, ← happend, List.append_assoc, ← htext,
            List.takeWhile_append_dropWhile]
        · exact absurd hfresh.symm Bool.false_ne_true
      · exact absurd h nofun

/-- The texts that are read as integers are those that are written as integers. -/
theorem readInteger_eq_ok_iff (text : Text) (n : Int) :
    readInteger text = .ok n ↔ WritesInteger text n :=
  ⟨writesInteger_of_readInteger, readInteger_of_writesInteger⟩

/-! ### Integers that go on -/

theorem WritesDigits.ne_nil {t : Text} {ds : List Nat} (h : WritesDigits t ds) : ds ≠ [] := by
  cases h <;> exact List.cons_ne_nil _ _

theorem le_foldl_digits (more : List Nat) (n : Nat) :
    n ≤ more.foldl (fun n d => 10 * n + d) n := by
  induction more generalizing n with
  | nil => exact Nat.le_refl n
  | cons d more ih =>
    have hstep := ih (10 * n + d)
    rw [List.foldl_cons]
    omega

theorem ten_mul_ofDigits_le {ds more : List Nat} (h : more ≠ []) :
    10 * ofDigits ds ≤ ofDigits (ds ++ more) := by
  obtain ⟨d, more, rfl⟩ := List.exists_cons_of_ne_nil h
  have hrest := le_foldl_digits more (10 * ofDigits ds + d)
  have happend : ofDigits (ds ++ d :: more)
      = more.foldl (fun n d => 10 * n + d) (10 * ofDigits ds + d) := by
    rw [ofDigits, List.foldl_append, List.foldl_cons, ← ofDigits]
  omega

/-- A text that still stands for an integer when it goes on has gone on with blanks, or with digits
that make the number at least ten times as large. -/
theorem writesInteger_append {t moved : Text} {n n' : Int} (h : WritesInteger t n)
    (h' : WritesInteger (t ++ moved) n') :
    moved.all isPadding = true ∧ n' = n ∨ 10 * n.natAbs ≤ n'.natAbs := by
  obtain ⟨before, sign, body, after, negative, digits, rfl, hbefore, hafter, hsign, hbody, -,
    rfl⟩ := h
  have hread := readInteger_of_writesInteger h'
  have hdrop : (before ++ sign ++ body ++ after ++ moved).dropWhile isPadding
      = sign ++ body ++ (after ++ moved) := by
    simp only [List.append_assoc]
    rw [List.dropWhile_append_of_pos (List.all_eq_true.mp hbefore), ← List.append_assoc,
      dropWhile_isPadding_append hsign hbody]
  rw [readInteger, hdrop, takeSign_append hsign hbody] at hread
  simp only [takeDigits_append hbody] at hread
  cases htaken : takeDigits false (after ++ moved) with
  | none =>
    rw [htaken] at hread
    exact absurd hread nofun
  | some taken =>
    obtain ⟨more, rest⟩ := taken
    simp only [htaken, Option.map_some] at hread
    split at hread
    · exact absurd hread nofun
    · split at hread
      · next hrest =>
        obtain rfl := Except.ok.inj hread
        by_cases hmore : more = []
        · subst hmore
          have hsame : rest = after ++ moved := by
            obtain ⟨body', hbody', -⟩ | ⟨-, ⟨-, hrest⟩ | ⟨body', hbody', -⟩⟩ :=
              writesDigits_of_takeDigits htaken
            · exact absurd rfl hbody'.ne_nil
            · exact hrest
            · exact absurd rfl hbody'.ne_nil
          rw [hsame, List.all_append, Bool.and_eq_true] at hrest
          rw [List.append_nil]
          exact .inl ⟨hrest.2, rfl⟩
        · have hten : 10 * ofDigits digits ≤ ofDigits (digits ++ more) := ten_mul_ofDigits_le hmore
          right
          cases negative <;> simpa using hten
      · exact absurd hread nofun

end SourceText.Number
