import SourceText.Compact.Compactor
import SourceText.Proofs.Number.Rounding

/-!
# What comes of compaction

Compaction always has a text to show. For the web languages a minifier decides, and the collapsed
text stands in for every answer that is of no use. Only when the way of a family fails as a whole,
or no minifier can be looked up, the text stays as it is, and this is the one case in which an error
is logged (`compact_ends`).
-/

namespace SourceText.Compactor

-- Powers are those of the core library whatever else is imported.
attribute [local instance (high)] instPowNat

/-- How a text is made compact in a family. The web languages have no way of their own here. -/
def reduce : Family → Text → Text
  | .cStyle, text | .unknown, text => collapseCode text
  | .indentation, text => dropBlankLines text
  | .other, text => collapseBlanks text
  | .web, text => text

theorem reduce_nil (family : Family) : reduce family [] = [] := by
  cases family <;> rfl

/-- What a minifier's answer is good for: a text that is not blank. -/
def usable? : Compact.Minified → Option RawText
  | .text minified => if minified.isAllBlank then none else some minified
  | _ => none

theorem usable?_eq_some_iff (answer : Compact.Minified) (minified : RawText) :
    usable? answer = some minified ↔
      answer = .text minified ∧ ∃ point ∈ minified, point.isBlank = false := by
  cases answer with
  | text t =>
    rw [usable?, Compact.Minified.text.injEq]
    cases hblank : t.isAllBlank with
    | true =>
      simp only [if_true, reduceCtorEq, false_iff]
      rintro ⟨rfl, point, hmem, hpoint⟩
      exact absurd ((List.all_eq_true.mp hblank point hmem).symm.trans hpoint) (by decide)
    | false =>
      simp only [Bool.false_eq_true, if_false, Option.some.injEq]
      refine ⟨?_, And.left⟩
      rintro rfl
      exact ⟨rfl, by simpa [RawText.isAllBlank] using hblank⟩
  | nothing => simp [usable?]
  | foreign kind => simp [usable?]
  | failed reason => simp [usable?]

/-! ### The way of a family -/

section Handle

variable (c : Compactor) (text : Text) (tag : String)

theorem handle_refused {family : Family} {reason : String} (h : c.refusal family = some reason) :
    c.handle family text tag = pure (.error reason) := by
  simp only [handle, h]

theorem handle_reduce {family : Family} (h : c.refusal family = none) (hfamily : family ≠ .web) :
    c.handle family text tag = pure (.ok (reduce family text).raw) := by
  simp only [handle, h]
  cases family with
  | web => exact absurd rfl hfamily
  | cStyle => rfl
  | indentation => rfl
  | other => rfl
  | unknown => rfl

theorem handle_web (h : c.refusal .web = none) : c.handle .web text tag = c.compactWeb text tag := by
  simp only [handle, h]

theorem value_minifyOrCollapse (minifier : Compact.Minifier) :
    (minifyOrCollapse minifier tag text).value
      = (usable? (minifier text)).getD (collapseCode text).raw := by
  unfold minifyOrCollapse
  cases minifier text with
  | text minified =>
    cases hblank : minified.isAllBlank <;> simp [usable?, hblank]
  | nothing => rfl
  | foreign kind => rfl
  | failed reason => rfl

theorem value_compactWeb : (c.compactWeb text tag).value
    = (c.minifier tag).map fun minifier? =>
        (minifier?.bind fun minifier => usable? (minifier text)).getD (collapseCode text).raw := by
  unfold compactWeb
  cases c.minifier tag with
  | error reason => rfl
  | ok minifier? =>
    cases minifier? with
    | none => rfl
    | some minifier => exact congrArg Except.ok (value_minifyOrCollapse text tag minifier)

/-- Whatever a minifier does, no more than a warning is logged. -/
theorem error_not_mem_compactWeb (message : String) :
    Event.logged .error message ∉ (c.compactWeb text tag).events := by
  unfold compactWeb
  cases c.minifier tag with
  | error reason => simp
  | ok minifier? =>
    cases minifier? with
    | none => simp
    | some minifier =>
      simp only [Recorded.events_bind, Recorded.events_pure, List.append_nil]
      unfold minifyOrCollapse
      cases minifier text with
      | text minified =>
        cases hblank : minified.isAllBlank <;>
          simp [hblank, minifierEmpty, Recorded.log]
      | nothing => simp [minifierEmpty, Recorded.log]
      | foreign kind => simp [minifierFailure, Recorded.log]
      | failed reason => simp [minifierFailure, Recorded.log]

theorem error_not_mem_handle (family : Family) (message : String) :
    Event.logged .error message ∉ (c.handle family text tag).events := by
  cases hrefusal : c.refusal family with
  | some reason =>
    rw [handle_refused c text tag hrefusal]
    simp
  | none =>
    by_cases hfamily : family = .web
    · subst hfamily
      rw [handle_web c text tag hrefusal]
      exact error_not_mem_compactWeb c text tag message
    · rw [handle_reduce c text tag hrefusal hfamily]
      simp

end Handle

/-! ### Compaction -/

section Compact

variable (c : Compactor) (language : Option String)

/-- The family whose way a text in the given language goes. -/
def familyFor : Family := c.registry.familyOf (some (c.registry.normalize language))

/-- Whether the way of the language fails: the way of its family does, or the look-up of a minifier
when one is wanted. -/
def Fails : Prop :=
  (∃ reason, c.refusal (c.familyFor language) = some reason) ∨
    c.familyFor language = .web ∧
      ∃ reason, c.minifier (c.registry.normalize language) = .error reason

/-- Whether there is a minifier for the language, and it makes of the text another one that is not
blank. -/
def Minifies (text : Text) (minified : RawText) : Prop :=
  ∃ minifier, c.minifier (c.registry.normalize language) = .ok (some minifier) ∧
    minifier text = .text minified ∧ ∃ point ∈ minified, point.isBlank = false

/-- How compaction ends for a text: with which text, and whether an error is logged. The length of
the text is divided by in the message about a success, which goes well for texts that a machine can
hold. -/
structure Ends (text : Text) (result : Recorded RawText) : Prop where
  empty : text = [] → result.value = []
  failed : c.Fails language → result.value = text.raw
  logged : text ≠ [] →
    ((∃ message, Event.logged .error message ∈ result.events) ↔ c.Fails language)
  cStyle : ¬ c.Fails language → c.familyFor language = .cStyle →
    result.value = (collapseCode text).raw
  unknown : ¬ c.Fails language → c.familyFor language = .unknown →
    result.value = (collapseCode text).raw
  indentation : ¬ c.Fails language → c.familyFor language = .indentation →
    result.value = (dropBlankLines text).raw
  other : ¬ c.Fails language → c.familyFor language = .other →
    result.value = (collapseBlanks text).raw
  minified : text ≠ [] → ¬ c.Fails language → c.familyFor language = .web →
    ∀ minified, c.Minifies language text minified → result.value = minified
  unminified : ¬ c.Fails language → c.familyFor language = .web →
    (∀ minified, ¬ c.Minifies language text minified) → result.value = (collapseCode text).raw
  measured : text ≠ [] → result.value.length < 2 ^ 64 → ∃ m e,
    Binary64.ofQuotient (result.value.length * 100) text.length = .finite false m e

section Ways

variable {c language} {text : Text}

theorem value_compact (htext : text ≠ []) : (c.compact text language).value
    = ((c.handle (c.familyFor language) text (c.registry.normalize language)).value.toOption).getD
        text.raw := by
  have hempty : text.isEmpty = false := List.isEmpty_eq_false_iff.mpr htext
  unfold familyFor
  simp only [compact, hempty, Bool.false_eq_true, if_false, Recorded.value_bind]
  split
  · next hvalue =>
    rw [hvalue]
    rfl
  · next hvalue =>
    rw [hvalue]
    rfl

/-- An error is logged by compaction itself, and only about a way that fails. -/
theorem error_mem_compact_iff (htext : text ≠ []) :
    (∃ message, Event.logged .error message ∈ (c.compact text language).events) ↔
      ∃ reason, (c.handle (c.familyFor language) text (c.registry.normalize language)).value
        = .error reason := by
  have hempty : text.isEmpty = false := List.isEmpty_eq_false_iff.mpr htext
  have hhandle := c.error_not_mem_handle text (c.registry.normalize language) (c.familyFor language)
  unfold familyFor at hhandle ⊢
  simp only [compact, hempty, Bool.false_eq_true, if_false, Recorded.events_bind,
    List.mem_append, hhandle, false_or]
  cases (c.handle (c.registry.familyOf (some (c.registry.normalize language))) text
      (c.registry.normalize language)).value with
  | error reason => simp [Recorded.log]
  | ok compacted => simp [Recorded.log]

theorem error_handle_iff : (∃ reason,
    (c.handle (c.familyFor language) text (c.registry.normalize language)).value = .error reason) ↔
      c.Fails language := by
  unfold Fails
  cases hrefusal : c.refusal (c.familyFor language) with
  | some reason =>
    rw [handle_refused c text _ hrefusal]
    simp
  | none =>
    by_cases hfamily : c.familyFor language = .web
    · rw [hfamily] at hrefusal ⊢
      rw [handle_web c text _ hrefusal, value_compactWeb]
      cases c.minifier (c.registry.normalize language) <;> simp [Except.map]
    · rw [handle_reduce c text _ hrefusal hfamily]
      simp [hfamily]

theorem refusal_of_not_fails (h : ¬ c.Fails language) : c.refusal (c.familyFor language) = none := by
  cases hrefusal : c.refusal (c.familyFor language) with
  | none => rfl
  | some reason => exact absurd (.inl ⟨reason, hrefusal⟩) h

theorem value_compact_of_fails (h : c.Fails language) : (c.compact text language).value = text.raw := by
  by_cases htext : text = []
  · rw [htext]
    rfl
  · obtain ⟨reason, hreason⟩ := error_handle_iff.mpr h
    rw [value_compact htext, hreason]
    rfl

/-- Outside the web languages a text is made compact by the one function of its family. -/
theorem value_compact_reduce (h : ¬ c.Fails language) (hfamily : c.familyFor language ≠ .web) :
    (c.compact text language).value = (reduce (c.familyFor language) text).raw := by
  by_cases htext : text = []
  · rw [htext, reduce_nil]
    rfl
  · rw [value_compact htext, handle_reduce c text _ (refusal_of_not_fails h) hfamily]
    rfl

/-- In the web languages the minifier decides if its answer is good for anything. -/
theorem value_compact_web (htext : text ≠ []) (h : ¬ c.Fails language)
    (hfamily : c.familyFor language = .web) : ∃ minifier?,
      c.minifier (c.registry.normalize language) = .ok minifier? ∧
      (c.compact text language).value
        = (minifier?.bind fun minifier => usable? (minifier text)).getD (collapseCode text).raw := by
  have hrefusal := refusal_of_not_fails h
  rw [hfamily] at hrefusal
  cases hlookup : c.minifier (c.registry.normalize language) with
  | error reason => exact absurd (.inr ⟨hfamily, reason, hlookup⟩) h
  | ok minifier? =>
    refine ⟨minifier?, rfl, ?_⟩
    rw [value_compact htext, hfamily, handle_web c text _ hrefusal, value_compactWeb, hlookup]
    rfl

end Ways

/-- Compaction ends in one of these ways, whatever the registry, the minifiers and the ways of the
families do. -/
theorem compact_ends (text : Text) : c.Ends language text (c.compact text language) := by
  have hway : ∀ {family : Family}, family ≠ .web → ¬ c.Fails language →
      c.familyFor language = family → (c.compact text language).value = (reduce family text).raw := by
    rintro family hfamily h rfl
    exact value_compact_reduce h hfamily
  refine ⟨?_, ?_, ?_, ?_, ?_, ?_, ?_, ?_, ?_, ?_⟩
  · rintro rfl
    rfl
  · exact value_compact_of_fails
  · intro htext
    rw [error_mem_compact_iff htext, error_handle_iff]
  · exact hway (by decide)
  · exact hway (by decide)
  · exact hway (by decide)
  · exact hway (by decide)
  · rintro htext h hfamily minified ⟨minifier, hminifier, hanswer⟩
    obtain ⟨minifier?, hlookup, hvalue⟩ := value_compact_web htext h hfamily
    obtain rfl : some minifier = minifier? := Except.ok.inj (hminifier.symm.trans hlookup)
    rw [hvalue, Option.bind_some, (usable?_eq_some_iff _ minified).mpr hanswer, Option.getD_some]
  · intro h hfamily hnone
    by_cases htext : text = []
    · rw [htext]
      rfl
    · obtain ⟨minifier?, hlookup, hvalue⟩ := value_compact_web htext h hfamily
      have huseless : (minifier?.bind fun minifier => usable? (minifier text)) = none := by
        refine Option.eq_none_iff_forall_ne_some.mpr fun minified hsome => ?_
        obtain ⟨minifier, rfl, husable⟩ := Option.bind_eq_some_iff.mp hsome
        exact hnone minified ⟨minifier, hlookup, (usable?_eq_some_iff _ minified).mp husable⟩
      rw [hvalue, huseless, Option.getD_none]
  · intro htext hlength
    have hpercent : (c.compact text language).value.length * 100 < 2 ^ 1000 := by omega
    exact Binary64.exists_ofRatio_eq_finite false (List.length_pos_iff.mpr htext) hpercent

end Compact

end SourceText.Compactor
