import SourceText.Proofs.Text.Blanks
import SourceText.Proofs.Unicode.Lower

/-!
# Texts in lower case

A text in lower case is its own lower case (`lower_lower`): the table of letter case moves no
character to one that it moves again. Nor does it make a blank of a letter, so that lower case keeps
texts solid.
-/

namespace SourceText.Unicode

/-- A character that lower case leaves alone wherever it stands. -/
def IsLow (c : Char) : Prop := c ≠ 'Σ' ∧ lowerChar c = [c]

theorem lowerFrom_of_isLow {t : List Char} (h : ∀ c ∈ t, IsLow c) (afterCased : Bool) :
    lowerFrom afterCased t = t := by
  induction t generalizing afterCased with
  | nil => rfl
  | cons c rest ih =>
    obtain ⟨hsigma, hlow⟩ := h c List.mem_cons_self
    have hrest := ih fun d hd => h d (List.mem_cons_of_mem c hd)
    rw [lowerFrom_cons, lowerForm, if_neg hsigma, hlow, hrest, List.singleton_append]

/-- Whether no image of a run lies in another run: their spans are apart, or they hold characters
of different parity. -/
def CaseRun.avoids (run other : CaseRun) : Bool :=
  run.map run.last < other.first || other.last < run.map run.first ||
    (run.stride == 2 || run.first == run.last) && other.stride == 2 &&
      (run.map run.first + other.first) % 2 == 1

theorem lowerRuns_avoid :
    (lowerRuns.all fun run => lowerRuns.all fun other => run.avoids other) = true := by
  decide +kernel

/-- No run moves a character to a blank or to the dotted capital I. -/
theorem lowerRuns_letters : ∀ run ∈ lowerRuns,
    (32 < run.first + run.shift ∧ run.last + run.shift < 0x80 ∨
      0xA0 < run.first + run.shift ∧ run.last + run.shift < 0x1680 ∨
      0x1680 < run.first + run.shift ∧ run.last + run.shift < 0x2000 ∨
      0x205F < run.first + run.shift ∧ run.last + run.shift < 0x3000 ∨
      0x3000 < run.first + run.shift) ∧
    (run.last + run.shift < 304 ∨ 304 < run.first + run.shift) := by
  decide +kernel

theorem contains_lowerRuns_eq_false {run other : CaseRun} (hrun : run ∈ lowerRuns)
    (hother : other ∈ lowerRuns) {code image : Nat} (hcode : run.contains code = true)
    (himage : (image : Int) = code + run.shift) : other.contains image = false := by
  have havoids := List.all_eq_true.mp (List.all_eq_true.mp lowerRuns_avoid run hrun) other hother
  have hletters := (lowerRuns_letters run hrun).1
  rw [Bool.eq_false_iff]
  intro hcontains
  simp only [CaseRun.contains, Bool.and_eq_true, decide_eq_true_eq, beq_iff_eq] at hcode hcontains
  simp only [CaseRun.avoids, Bool.or_eq_true, Bool.and_eq_true, decide_eq_true_eq,
    beq_iff_eq] at havoids
  unfold CaseRun.map at havoids
  obtain (h | h) | ⟨⟨hstride | hsingle, hother⟩, hparity⟩ := havoids
  · omega
  · omega
  · rw [hstride] at hcode
    rw [hother] at hcontains
    omega
  · rw [hother] at hcontains
    omega

theorem isLow_toLower {c : Char} (hc : c.toNat < 128) : IsLow c.toLower := by
  have hall : ∀ code : Fin 128, (Char.ofNat code).toLower ≠ 'Σ' ∧
      lowerChar (Char.ofNat code).toLower = [(Char.ofNat code).toLower] := by
    decide +kernel
  have hlow := hall ⟨c.toNat, hc⟩
  rwa [Char.ofNat_toNat] at hlow

theorem contains_mapByRuns_eq_false (c : Char) {run : CaseRun} (h : run ∈ lowerRuns) :
    run.contains (mapByRuns lowerRuns c).toNat = false := by
  obtain ⟨moving, hmem, hcontains, hcode⟩ | ⟨hnone, hsame⟩ := mapByRuns_lowerRuns_cases c
  · exact contains_lowerRuns_eq_false hmem h hcontains hcode
  · rw [hsame]
    exact hnone run h

theorem mapByRuns_mapByRuns (c : Char) :
    mapByRuns lowerRuns (mapByRuns lowerRuns c) = mapByRuns lowerRuns c := by
  obtain ⟨run, hmem, hcontains, -⟩ | ⟨-, hsame⟩ :=
    mapByRuns_lowerRuns_cases (mapByRuns lowerRuns c)
  · rw [contains_mapByRuns_eq_false c hmem] at hcontains
    exact absurd hcontains Bool.false_ne_true
  · exact hsame

theorem mapByRuns_ne_dotted {c : Char} (h : c ≠ 'İ') : mapByRuns lowerRuns c ≠ 'İ' := by
  obtain ⟨run, hmem, hcontains, hcode⟩ | ⟨-, hsame⟩ := mapByRuns_lowerRuns_cases c
  · intro hdotted
    have hletters := (lowerRuns_letters run hmem).2
    rw [hdotted, show 'İ'.toNat = 304 from rfl] at hcode
    simp only [CaseRun.contains, Bool.and_eq_true, decide_eq_true_eq] at hcontains
    omega
  · rw [hsame]
    exact h

theorem isLow_mapByRuns {c : Char} (hc : 128 ≤ c.toNat) (hdotted : c ≠ 'İ') :
    IsLow (mapByRuns lowerRuns c) := by
  have hne := mapByRuns_ne_dotted hdotted
  constructor
  · intro hsigma
    have hcapital : ∃ run ∈ lowerRuns, run.contains 'Σ'.toNat = true := by decide +kernel
    obtain ⟨run, hmem, hcontains⟩ := hcapital
    rw [← hsigma, contains_mapByRuns_eq_false c hmem] at hcontains
    exact absurd hcontains Bool.false_ne_true
  · rw [lowerChar, if_neg hne, mapByRuns_mapByRuns]
    split
    · obtain hlarge | hk := mapByRuns_lowerRuns hc
      · omega
      · rw [hk]
        rfl
    · rfl

theorem isLow_of_mem_lowerForm {afterCased : Bool} {c d : Char} {rest : List Char}
    (h : d ∈ lowerForm afterCased c rest) : IsLow d := by
  unfold lowerForm at h
  split at h
  · rw [List.mem_singleton.mp h]
    split <;> exact ⟨by decide, by decide +kernel⟩
  · unfold lowerChar at h
    split at h
    · next hc =>
      rw [List.mem_singleton.mp h]
      exact isLow_toLower hc
    · next hc =>
      split at h
      · simp only [List.mem_cons, List.not_mem_nil, or_false] at h
        obtain rfl | rfl := h <;> exact ⟨by decide, by decide +kernel⟩
      · next hdotted =>
        rw [List.mem_singleton.mp h]
        exact isLow_mapByRuns (Nat.not_lt.mp hc) hdotted

theorem isLow_of_mem_lowerFrom {t : List Char} {afterCased : Bool} {d : Char}
    (h : d ∈ lowerFrom afterCased t) : IsLow d := by
  induction t generalizing afterCased with
  | nil => exact absurd h List.not_mem_nil
  | cons c rest ih =>
    rw [lowerFrom_cons, List.mem_append] at h
    obtain hform | hrest := h
    · exact isLow_of_mem_lowerForm hform
    · exact ih hrest

theorem lower_lower (t : List Char) : lower (lower t) = lower t :=
  lowerFrom_of_isLow (fun _ h => isLow_of_mem_lowerFrom h) false

/-! ### Blanks and lower case -/

theorem isBlank_mapByRuns {c : Char} (h : isBlank c = false) :
    isBlank (mapByRuns lowerRuns c) = false := by
  obtain ⟨run, hmem, hcontains, hcode⟩ | ⟨-, hsame⟩ := mapByRuns_lowerRuns_cases c
  · simp only [CaseRun.contains, Bool.and_eq_true, decide_eq_true_eq] at hcontains
    have hletters := (lowerRuns_letters run hmem).1
    have hcodes : ∀ code : Nat, code = (mapByRuns lowerRuns c).toNat → (32 < code ∧ code < 0x80 ∨
        0xA0 < code ∧ code < 0x1680 ∨ 0x1680 < code ∧ code < 0x2000 ∨
        0x205F < code ∧ code < 0x3000 ∨ 0x3000 < code) := by
      rintro code rfl
      omega
    have hspan := hcodes _ rfl
    simp only [isBlank, Bool.or_eq_false_iff, Bool.and_eq_false_iff, decide_eq_false_iff_not,
      beq_eq_false_iff_ne]
    omega
  · rw [hsame]
    exact h

theorem isBlank_of_mem_lowerForm {afterCased : Bool} {c d : Char} {rest : List Char}
    (hc : isBlank c = false) (h : d ∈ lowerForm afterCased c rest) : isBlank d = false := by
  unfold lowerForm at h
  split at h
  · rw [List.mem_singleton.mp h]
    split <;> decide
  · unfold lowerChar at h
    split at h
    · next hascii =>
      have hall : ∀ code : Fin 128, isBlank (Char.ofNat code) = false →
          isBlank (Char.ofNat code).toLower = false := by
        decide +kernel
      have hlower := hall ⟨c.toNat, hascii⟩
      rw [Char.ofNat_toNat] at hlower
      rw [List.mem_singleton.mp h]
      exact hlower hc
    · split at h
      · simp only [List.mem_cons, List.not_mem_nil, or_false] at h
        obtain rfl | rfl := h <;> decide
      · rw [List.mem_singleton.mp h]
        exact isBlank_mapByRuns hc

theorem exists_last_lowerFrom {t : List Char} (h : ∃ c ∈ t.getLast?, isBlank c = false)
    (afterCased : Bool) : ∃ c ∈ (lowerFrom afterCased t).getLast?, isBlank c = false := by
  induction t generalizing afterCased with
  | nil =>
    obtain ⟨c, hc, -⟩ := h
    exact absurd hc (by simp)
  | cons c rest ih =>
    rw [lowerFrom_cons]
    cases rest with
    | nil =>
      obtain ⟨d, hd, hblank⟩ := h
      rw [List.getLast?_singleton, Option.mem_some_iff] at hd
      subst hd
      rw [lowerFrom, List.append_nil]
      have hlast := List.getLast?_eq_some_getLast (lowerForm_ne_nil afterCased c [])
      exact ⟨_, hlast, isBlank_of_mem_lowerForm hblank (List.getLast_mem _)⟩
    | cons d rest =>
      rw [List.getLast?_cons_cons] at h
      obtain ⟨e, he, hblank⟩ := ih h (if isCaseIgnorable c then afterCased else isCased c)
      exact ⟨e, by rw [List.getLast?_append, Option.mem_def.mp he]; rfl, hblank⟩

theorem solid_lower {t : Text} (h : Text.Solid t) : Text.Solid (lower t) := by
  refine ⟨?_, exists_last_lowerFrom h.last false⟩
  obtain ⟨c, hc, hblank⟩ := h.head
  obtain ⟨rest, rfl⟩ : ∃ rest, t = c :: rest := ⟨_, List.eq_cons_of_mem_head? hc⟩
  have hhead := List.head?_eq_some_head (lowerForm_ne_nil false c rest)
  refine ⟨_, ?_, isBlank_of_mem_lowerForm hblank (List.head_mem (lowerForm_ne_nil false c rest))⟩
  rw [lower, lowerFrom_cons, List.head?_append, hhead]
  rfl

end SourceText.Unicode
