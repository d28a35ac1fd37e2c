import SourceText.Proofs.Detect.Proposal
import SourceText.Proofs.Language.Settled
import SourceText.Proofs.Layout.Writing
import SourceText.Service.Basic

/-!
# Operations that agree

Inside the service a language that was not found is none at all, and in reports it is called
unknown; a given language is passed on as it came, and a found one is a tag. Compaction and
formatting cannot tell these apart, so that the language in a report is the one to get the same text
with again (`operations_agree`).
-/

namespace SourceText

/-! ### Languages in reports -/

theorem normalize_unknownLanguage : normalizeLanguage (some unknownLanguage) = unknownLanguage := by
  have hkey : languageKey unknownLanguage = unknownLanguage := by decide +kernel
  rw [normalizeLanguage, Registry.Made.standard.eq_ofHistory]
  exact (Registry.normalize_eq_self_iff_settled hkey).mpr (Registry.settled_normalizeLanguage none)

/-- The language that is reported has the tag of the one that was worked with. -/
theorem normalize_reportedLanguage (language : Option String) :
    normalizeLanguage (some (reportedLanguage language)) = normalizeLanguage language := by
  cases language with
  | none => exact normalize_unknownLanguage
  | some name =>
    cases hempty : name.isEmpty with
    | true =>
      rw [reportedLanguage, hempty, if_pos rfl, String.isEmpty_iff.mp hempty]
      exact normalize_unknownLanguage
    | false => rw [reportedLanguage, hempty, if_neg Bool.false_ne_true]

theorem Compactor.compact_reportedLanguage {c : Compactor} (h : c.registry = Registry.standard)
    (text : Text) (language : Option String) :
    c.compact text (some (reportedLanguage language)) = c.compact text language := by
  have htag : c.registry.normalize (some (reportedLanguage language))
      = c.registry.normalize language := by
    rw [h]
    exact normalize_reportedLanguage language
  rw [compact, compact, htag]

theorem Format.Formatter.formatCode_reportedLanguage (f : Formatter) (code : RawText)
    (language : Option String) :
    f.formatCode code (some (reportedLanguage language)) = f.formatCode code language := by
  rw [formatCode, formatCode, parserOf?, parserOf?, normalize_reportedLanguage]

/-! ### Backends that answer -/

namespace Format.Formatter

/-- Whether every backend can say which parsers it knows. -/
def Decides (f : Formatter) : Prop :=
  ∀ backend ∈ f.backends, ∀ parser, ∃ answer, backend.supports parser = .ok answer

theorem exists_backendFor {backends : List Backend} (parser : String)
    (h : ∀ backend ∈ backends, ∃ answer, backend.supports parser = .ok answer) :
    ∃ found, backendFor parser backends = .ok found := by
  induction backends with
  | nil => exact ⟨none, rfl⟩
  | cons backend backends ih =>
    obtain ⟨answer, hanswer⟩ := h backend List.mem_cons_self
    rw [backendFor, hanswer]
    cases answer with
    | true => exact ⟨some backend, rfl⟩
    | false => exact ih fun b hb => h b (List.mem_cons_of_mem _ hb)

/-- Formatting ends with a text, whether or not the backend that is found can format the code. -/
theorem Decides.exists_formatCode {f : Formatter} (h : f.Decides) (code : RawText)
    (language : Option String) :
    ∃ formatted, (f.formatCode code language).value = .ok formatted := by
  unfold formatCode
  split
  · exact ⟨code, rfl⟩
  · next parser _ =>
    obtain ⟨found, hfound⟩ := exists_backendFor parser fun b hb => h b hb parser
    rw [hfound]
    cases found with
    | none => exact ⟨code, rfl⟩
    | some backend =>
      simp only [Recorded.value_bind]
      cases (backend.format parser code).value with
      | ok formatted => exact ⟨formatted, rfl⟩
      | error failure => exact ⟨code, rfl⟩

end Format.Formatter

/-! ### Languages that are found -/

namespace Service

open Detect

variable {s : Service} {text : Text}

theorem detection_ok {least : Option Int} (hleast : s.minChars = .ok least) (text : Text) :
    ∃ found, (s.detection text).value = .ok found := by
  unfold detection
  split
  · exact ⟨none, rfl⟩
  · rw [hleast]
    cases least with
    | none => exact ⟨none, rfl⟩
    | some least => exact ⟨_, rfl⟩

/-- The language that is found is what one of the engines proposes. -/
theorem exists_opinion_of_detection {d : Detection}
    (h : (s.detection text).value = .ok (some d)) :
    ∃ e ∈ s.engines, ∃ c, e.opinion? text = some c ∧ d.best = c.language := by
  unfold detection at h
  split at h
  · exact nomatch Except.ok.inj h
  · split at h
    · exact nomatch h
    · exact nomatch Except.ok.inj h
    · exact Detector.exists_opinion_of_detect (Except.ok.inj h)

theorem reportedLanguage_of_detection (hengines : ∀ e ∈ s.engines, e.BuiltIn) {d : Detection}
    (h : (s.detection text).value = .ok (some d)) :
    reportedLanguage (some d.best) = d.best ∧ d.best ≠ unknownLanguage := by
  obtain ⟨e, he, c, hopinion, hbest⟩ := exists_opinion_of_detection h
  obtain ⟨⟨raw, htag⟩, hknown⟩ := (hengines e he).language_of_opinion hopinion
  have hnamed : d.best ≠ "" := by
    rw [hbest, htag]
    exact (Registry.settled_normalizeLanguage (some raw)).1
  refine ⟨?_, hbest ▸ hknown⟩
  rw [reportedLanguage, if_neg (String.isEmpty_iff.not.mpr hnamed)]

/-! ### What the operations report -/

theorem value_formatCode {code : Text} {language : Option String} {formatted : RawText}
    (h : (s.formatter.formatCode code.raw language).value = .ok formatted) :
    (s.formatCode code language).value = .ok formatted := by
  rw [formatCode, Recorded.value_bind, h]
  rfl

section Reports

variable {found : Option Detection} (h : (s.detection text).value = .ok found)

include h

theorem value_detect : (s.detect text).value = .ok (.ofDetection found) := by
  simp only [detect, Recorded.value_bind, Recorded.value_pure, h]
  rfl

theorem value_bestLanguage : (s.bestLanguage text).value = .ok (found.map (·.best)) := by
  simp only [bestLanguage, Recorded.value_bind, Recorded.value_pure, h]
  rfl

theorem value_compact : (s.compact text none).value
    = .ok (.ofTexts (found.map (·.best)) text
        (s.compactor.compact text (found.map (·.best))).value) :=
  value_andThen (value_bestLanguage h) _

theorem value_uncompact {formatted : RawText}
    (hformatted :
      (s.formatter.formatCode (reformat s.indentUnit text).raw (found.map (·.best))).value
        = .ok formatted) :
    (s.uncompact text).value = .ok (.ofTexts (found.map (·.best)) text formatted true) := by
  rw [uncompact, value_andThen (value_bestLanguage h)]
  simp only [Recorded.value_bind, Layout.value_reformatLogged]
  exact value_andThen (value_formatCode hformatted) _

theorem value_format {formatted : RawText}
    (hformatted :
      (s.formatter.formatCode text.raw (found.map (·.best))).value = .ok formatted) :
    (s.format text).value
      = .ok (.ofTexts (found.map (·.best)) text formatted (formatted != text.raw)) := by
  rw [format, value_andThen (value_bestLanguage h)]
  exact value_andThen (value_formatCode hformatted) _

end Reports

/-- A report of compaction that its own language explains. -/
structure Compacts (s : Service) (text : Text) (o : CompactOutcome) : Prop where
  compacted : o.compactedText = (s.compactor.compact text (some o.language)).value
  originalLength : o.originalLength = text.length
  compactedLength : o.compactedLength = o.compactedText.length

/-- A report about the formatting of some code, made from a text, that its own language explains. -/
structure Formats (s : Service) (text code : Text) (o : FormatOutcome) : Prop where
  formatted : (s.formatter.formatCode code.raw (some o.language)).value = .ok o.formattedText
  originalLength : o.originalLength = text.length
  formattedLength : o.formattedLength = o.formattedText.length

/-- Reports about one text that agree about its language. -/
structure Agree (s : Service) (text : Text) (d : DetectOutcome) (c : CompactOutcome)
    (u f : FormatOutcome) : Prop where
  compactLanguage : c.language = d.language
  uncompactLanguage : u.language = d.language
  formatLanguage : f.language = d.language
  unknown : d.language = unknownLanguage ↔ (s.detection text).value = .ok none
  compact : s.Compacts text c
  uncompact : s.Formats text (reformat s.indentUnit text) u
  format : s.Formats text text f
  success : f.success = true ↔ f.formattedText ≠ text.raw

theorem compacts_ofTexts (hregistry : s.compactor.registry = Registry.standard) (text : Text)
    (language : Option String) :
    s.Compacts text (.ofTexts language text (s.compactor.compact text language).value) := by
  refine ⟨?_, rfl, rfl⟩
  exact congrArg Recorded.value (Compactor.compact_reportedLanguage hregistry text language).symm

theorem formats_ofTexts {code : Text} {language : Option String} {formatted : RawText}
    (h : (s.formatter.formatCode code.raw language).value = .ok formatted) (text : Text)
    (success : Bool) : s.Formats text code (.ofTexts language text formatted success) := by
  refine ⟨Eq.trans ?_ h, rfl, rfl⟩
  exact congrArg Recorded.value (s.formatter.formatCode_reportedLanguage code.raw language)

/-- All operations report one language for a text, and it explains what they made of the text, as
long as the backends of the formatter can say what they know. The same is true of compaction for any
given language. -/
theorem operations_agree (s : Service) {least : Option Int} (hleast : s.minChars = .ok least)
    (hengines : ∀ e ∈ s.engines, e.BuiltIn)
    (hregistry : s.compactor.registry = Registry.standard) (hformatter : s.formatter.Decides)
    (text : Text) :
    (∃ d c u f, (s.detect text).value = .ok d ∧ (s.compact text none).value = .ok c ∧
      (s.uncompact text).value = .ok u ∧ (s.format text).value = .ok f ∧ s.Agree text d c u f) ∧
    ∀ given : String, ∃ o, (s.compact text (some given)).value = .ok o ∧
      o.language = (if given = "" then unknownLanguage else given) ∧ s.Compacts text o := by
  refine ⟨?_, fun given => ?_⟩
  · obtain ⟨found, hfound⟩ := detection_ok hleast text
    have hlanguage : reportedLanguage (found.map (·.best))
        = (DetectOutcome.ofDetection found).language := by
      cases found with
      | none => rfl
      | some d => exact (reportedLanguage_of_detection hengines hfound).1
    have hunknown : (DetectOutcome.ofDetection found).language = unknownLanguage ↔
        (s.detection text).value = .ok none := by
      rw [hfound, Except.ok.injEq]
      cases found with
      | none => exact iff_of_true rfl rfl
      | some d =>
        exact iff_of_false (reportedLanguage_of_detection hengines hfound).2
          (Option.some_ne_none d)
    obtain ⟨laidOut, hlaidOut⟩ :=
      hformatter.exists_formatCode (reformat s.indentUnit text).raw (found.map (·.best))
    obtain ⟨formatted, hformatted⟩ := hformatter.exists_formatCode text.raw (found.map (·.best))
    exact ⟨_, _, _, _, value_detect hfound, value_compact hfound, value_uncompact hfound hlaidOut,
      value_format hfound hformatted, hlanguage, hlanguage, hlanguage, hunknown,
      compacts_ofTexts hregistry text _, formats_ofTexts hlaidOut text _,
      formats_ofTexts hformatted text _, bne_iff_ne⟩
  · refine ⟨.ofTexts (some given) text (s.compactor.compact text (some given)).value, rfl, ?_,
      compacts_ofTexts hregistry text _⟩
    simp only [CompactOutcome.ofTexts, reportedLanguage, String.isEmpty_iff]

/-- A service with a lexer that fails, and with a fingerprint of a language under one of its
aliases. -/
def aliased : Service where
  engines := [
    .statistical (LexerTable.model
      { lexers := [⟨"JSON", ["json"], false, fun _ => .error "crashed"⟩] }) "pygments"
      Engine.guessWeight,
    .heuristic (classify [("JS", [⟨fun text => text.contains '{', 40⟩])]) "heuristic"]
  minChars := .ok (some 3)
  compactor := Compactor.standard
  formatter := .ofRemote (fun _ => .error "refused") none

theorem operations_agree_aliased :
    (∀ e ∈ aliased.engines, e.BuiltIn) ∧ aliased.formatter.Decides ∧
      (aliased.detect "{ a : 1 }".toList).value.toOption.map (·.language) = some "javascript" ∧
      (aliased.compact "{ a : 1 }".toList none).value.toOption.map (·.language)
        = some "javascript" ∧
      ∃ o, (aliased.compact "{ a : 1 }".toList (some "")).value = .ok o ∧
        o.language = unknownLanguage ∧ aliased.Compacts "{ a : 1 }".toList o := by
  have hengines : ∀ e ∈ aliased.engines, e.BuiltIn := by
    intro e he
    rcases List.mem_pair.mp he with rfl | rfl
    · exact .statistical _ _ _
    · exact .heuristic _ _
  have hformatter : aliased.formatter.Decides := by
    intro backend hbackend parser
    rw [List.mem_singleton.mp hbackend]
    exact ⟨_, rfl⟩
  obtain ⟨⟨d, c, u, f, hd, hc, -, -, hagree⟩, hgiven⟩ :=
    operations_agree aliased rfl hengines rfl hformatter "{ a : 1 }".toList
  have hlanguage : (aliased.detect "{ a : 1 }".toList).value.toOption.map (·.language)
      = some "javascript" := by
    decide +kernel
  refine ⟨hengines, hformatter, hlanguage, ?_, hgiven ""⟩
  rw [hd] at hlanguage
  rw [hc]
  exact (congrArg some hagree.compactLanguage).trans hlanguage

end Service

end SourceText
