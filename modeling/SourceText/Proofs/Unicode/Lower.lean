import SourceText.Unicode.Case

/-!
# Lower case

Every character has a lower-case form, so that only the empty text has an empty one
(`lower_eq_nil_iff`). Outside of ASCII there is one character whose form is an ASCII text: the sign
of the kelvin, which becomes a `k`. An ASCII text without this letter is therefore the lower case of
ASCII texts only (`lower_eq_iff_map_toLower`).
-/

namespace SourceText.Unicode

theorem lowerChar_ne_nil (c : Char) : lowerChar c ≠ [] := by
  unfold lowerChar
  split
  · exact List.cons_ne_nil _ _
  · split <;> exact List.cons_ne_nil _ _

/-- The form that a character takes between its neighbours. -/
def lowerForm (afterCased : Bool) (c : Char) (rest : List Char) : List Char :=
  if c = 'Σ' then [if afterCased && !startsCased rest then 'ς' else 'σ'] else lowerChar c

theorem lowerFrom_cons (afterCased : Bool) (c : Char) (rest : List Char) :
    lowerFrom afterCased (c :: rest) = lowerForm afterCased c rest
      ++ lowerFrom (if isCaseIgnorable c then afterCased else isCased c) rest := rfl

theorem lowerForm_ne_nil (afterCased : Bool) (c : Char) (rest : List Char) :
    lowerForm afterCased c rest ≠ [] := by
  unfold lowerForm
  split
  · exact List.cons_ne_nil _ _
  · exact lowerChar_ne_nil c

theorem lower_eq_nil_iff (text : List Char) : lower text = [] ↔ text = [] := by
  constructor
  · intro h
    cases text with
    | nil => rfl
    | cons c rest =>
      rw [lower, lowerFrom_cons] at h
      exact absurd (List.append_eq_nil_iff.mp h).1 (lowerForm_ne_nil false c rest)
  · rintro rfl
    rfl

/-! ### Lower case within ASCII -/

/-- The runs stay outside of ASCII and among the characters, but for the sign of the kelvin. -/
theorem lowerRuns_bounds : ∀ run ∈ lowerRuns,
    run.first = 8490 ∧ run.last = 8490 ∧ run.shift = -8383 ∨
    128 ≤ run.first + run.shift ∧
      (run.last + run.shift < 0xD800 ∨
        0xDFFF < run.first + run.shift ∧ run.last + run.shift < 0x110000) := by
  decide +kernel

/-- The table moves a character by the shift of a run that holds it, or leaves it alone. -/
theorem mapByRuns_lowerRuns_cases (c : Char) :
    (∃ run ∈ lowerRuns, run.contains c.toNat = true ∧
      ((mapByRuns lowerRuns c).toNat : Int) = c.toNat + run.shift) ∨
    (∀ run ∈ lowerRuns, run.contains c.toNat = false) ∧ mapByRuns lowerRuns c = c := by
  unfold mapByRuns
  split
  · next run hrun =>
    have hmem : run ∈ lowerRuns := List.mem_of_find?_eq_some hrun
    have hcontains : run.contains c.toNat = true :=
      List.find?_some (p := (CaseRun.contains · c.toNat)) hrun
    refine .inl ⟨run, hmem, hcontains, ?_⟩
    simp only [CaseRun.contains, Bool.and_eq_true, decide_eq_true_eq] at hcontains
    have hbounds := lowerRuns_bounds run hmem
    have hvalid : (run.map c.toNat).isValidChar := by
      unfold CaseRun.map Nat.isValidChar
      omega
    have hcode : (Char.ofNat (run.map c.toNat)).toNat = run.map c.toNat := by
      rw [Char.ofNat, dif_pos hvalid]
      rfl
    rw [hcode, CaseRun.map]
    omega
  · next hnone =>
    exact .inr ⟨fun run hrun => Bool.eq_false_iff.mpr (List.find?_eq_none.mp hnone run hrun), rfl⟩

theorem mapByRuns_lowerRuns {c : Char} (hc : 128 ≤ c.toNat) :
    128 ≤ (mapByRuns lowerRuns c).toNat ∨ mapByRuns lowerRuns c = 'k' := by
  obtain ⟨run, hmem, hcontains, hcode⟩ | ⟨-, hsame⟩ := mapByRuns_lowerRuns_cases c
  · simp only [CaseRun.contains, Bool.and_eq_true, decide_eq_true_eq] at hcontains
    obtain ⟨hfirst, hlast, hshift⟩ | ⟨hlow, -⟩ := lowerRuns_bounds run hmem
    · have hkelvin : (mapByRuns lowerRuns c).toNat = 'k'.toNat := by
        rw [show 'k'.toNat = 107 from rfl]
        omega
      exact .inr (Char.toNat_inj.mp hkelvin)
    · exact .inl (by omega)
  · rw [hsame]
    exact .inl hc

/-- A character whose form starts an ASCII text without `k` is itself an ASCII character. -/
theorem lowerForm_append_eq_cons {afterCased : Bool} {c d : Char} {rest tail h : List Char}
    (hplain : ∀ e ∈ d :: h, e.toNat < 128 ∧ e ≠ 'k')
    (heq : lowerForm afterCased c rest ++ tail = d :: h) : c.toLower = d ∧ tail = h := by
  have hd := hplain d List.mem_cons_self
  unfold lowerForm at heq
  split at heq
  · obtain ⟨rfl, -⟩ := List.cons.inj heq
    exact absurd hd.1 (by split <;> decide)
  · unfold lowerChar at heq
    split at heq
    · exact List.cons.inj heq
    · next hc =>
      split at heq
      · obtain ⟨-, rfl⟩ := List.cons.inj heq
        exact absurd (hplain '\u0307' (by simp)).1 (by decide)
      · obtain ⟨rfl, -⟩ := List.cons.inj heq
        obtain hlarge | hk := mapByRuns_lowerRuns (Nat.not_lt.mp hc)
        · exact absurd hd.1 (Nat.not_lt.mpr hlarge)
        · exact absurd hk hd.2

theorem toNat_lt_of_toLower {c : Char} (h : c.toLower.toNat < 128) : c.toNat < 128 := by
  unfold Char.toLower at h
  split at h
  · next hupper => exact Nat.lt_of_le_of_lt hupper.2 (by decide)
  · exact h

theorem lowerForm_of_toNat_lt (afterCased : Bool) {c : Char} (rest : List Char)
    (h : c.toNat < 128) : lowerForm afterCased c rest = [c.toLower] := by
  have hsigma : c ≠ 'Σ' := by
    rintro rfl
    exact absurd h (by decide)
  rw [lowerForm, if_neg hsigma, lowerChar, if_pos h]

theorem lowerFrom_eq_iff_map_toLower (t : List Char) {h : List Char}
    (hplain : ∀ d ∈ h, d.toNat < 128 ∧ d ≠ 'k') (afterCased : Bool) :
    lowerFrom afterCased t = h ↔ t.map Char.toLower = h := by
  induction t generalizing h afterCased with
  | nil => rfl
  | cons c rest ih =>
    rw [lowerFrom_cons, List.map_cons]
    constructor
    · intro heq
      cases h with
      | nil => exact absurd (List.append_eq_nil_iff.mp heq).1 (lowerForm_ne_nil afterCased c rest)
      | cons d h =>
        obtain ⟨hc, htail⟩ := lowerForm_append_eq_cons hplain heq
        rw [hc, (ih (fun e he => hplain e (List.mem_cons_of_mem d he)) _).mp htail]
    · rintro rfl
      have hc : c.toNat < 128 := toNat_lt_of_toLower (hplain _ List.mem_cons_self).1
      rw [lowerForm_of_toNat_lt afterCased rest hc, List.singleton_append,
        (ih (fun e he => hplain e (List.mem_cons_of_mem _ he)) _).mpr rfl]

theorem lower_eq_iff_map_toLower (t : List Char) {h : List Char}
    (hplain : ∀ d ∈ h, d.toNat < 128 ∧ d ≠ 'k') : lower t = h ↔ t.map Char.toLower = h :=
  lowerFrom_eq_iff_map_toLower t hplain false

end SourceText.Unicode
