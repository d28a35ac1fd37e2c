import SourceText.Proofs.Settings.Layers

/-!
# Settings that the environment overrides

The variables of settings stand in a table and are applied in its order. Each writes one setting, or
ends the run when its text cannot be read: then the settings before it are written and nothing else
is (`applyEnvironment_overrides`). The shared secret of the gateway is looked at last, and only when
all variables could be read.
-/

namespace SourceText.Settings

/-- A variable of the environment, the setting that it overrides and how its text is read. -/
structure Variable where
  name : String
  setting : Setting
  reading : Reading

/-- The variables, in the order in which they are applied. -/
def variableTable : List Variable :=
  [⟨"CODETOOLS_SERVER_HOST", .host, .text⟩,
    ⟨"CODETOOLS_SERVER_PORT", .port, .integer⟩,
    ⟨"CODETOOLS_LIMITS_MAX_DETECT_CHARS", .maxDetectChars, .integer⟩,
    ⟨"CODETOOLS_LIMITS_MAX_BODY_BYTES", .maxBodyBytes, .integer⟩,
    ⟨"CODETOOLS_LIMITS_MIN_DETECT_CHARS", .minDetectChars, .integer⟩,
    ⟨"CODETOOLS_DETECTION_ENGINES", .engines, .items⟩,
    ⟨"CODETOOLS_FORMATTER_API_URL", .apiUrl, .text⟩,
    ⟨"CODETOOLS_FORMATTER_API_KEY", .apiKey, .text⟩,
    ⟨"CODETOOLS_FORMATTER_ENDPOINT", .endpoint, .text⟩,
    ⟨"CODETOOLS_FORMATTER_TIMEOUT", .timeout, .number⟩,
    ⟨"CODETOOLS_AUTH_INTERNAL_KEY", .internalKey, .text⟩,
    ⟨"CODETOOLS_AUTH_MAX_SKEW_MS", .maxSkewMs, .integer⟩,
    ⟨"CODETOOLS_LOGGING_LEVEL", .logLevel, .text⟩]

theorem settings_of_variables : Setting.all = variableTable.map (·.setting) ++ [.logFormat] := rfl

theorem reading_of_variable : ∀ v ∈ variableTable,
    reading? v.setting = some v.reading ∧ variableName v.setting = v.name := by
  decide +kernel

/-- Whether the text of every variable that is set can be read. -/
def Readable (environment : Environment) (vs : List Variable) : Prop :=
  ∀ v ∈ vs, ∀ text, environment v.name = some text → ∃ value, v.reading.read text = .ok value

/-- The settings after the variables that are set were written, and nothing else. -/
structure Written (environment : Environment) (vs : List Variable) (before after : Settings) :
    Prop where
  overridden : ∀ v ∈ vs, ∀ text, environment v.name = some text →
    v.reading.read text = .ok (after.value v.setting)
  kept : ∀ setting, (∀ v ∈ vs, v.setting = setting → environment v.name = none) →
    after.value setting = before.value setting

/-- The settings after the secret of the gateway was taken from the variable that shares it, if
there was none. -/
structure Shared (environment : Environment) (before after : Settings) : Prop where
  taken : ∀ key, environment "INTERNAL_API_KEY" = some key → key ≠ "" →
    (before.value .internalKey).isGiven = false → after.value .internalKey = .string key
  left : environment "INTERNAL_API_KEY" = none ∨ environment "INTERNAL_API_KEY" = some "" ∨
    (before.value .internalKey).isGiven = true →
    after.value .internalKey = before.value .internalKey
  kept : ∀ setting, setting ≠ .internalKey → after.value setting = before.value setting

/-! ### One variable -/

section Variable

variable {environment : Environment} {v : Variable} (hv : v ∈ variableTable)

include hv

theorem override?_variable {text : String} (htext : environment v.name = some text) :
    override? environment v.setting = some (v.reading.read text) := by
  obtain ⟨hreading, hname⟩ := reading_of_variable v hv
  exact override?_of_set hreading (hname ▸ htext)

theorem override?_variable_unset (hunset : environment v.name = none) :
    override? environment v.setting = none :=
  override?_of_unset (.inr ((reading_of_variable v hv).2 ▸ hunset))

theorem override?_of_readable
    (hread : ∀ text, environment v.name = some text → ∃ value, v.reading.read text = .ok value) :
    override? environment v.setting = none ∨
      ∃ value, override? environment v.setting = some (.ok value) := by
  cases hname : environment v.name with
  | none => exact .inl (override?_variable_unset hv hname)
  | some text =>
    obtain ⟨value, hvalue⟩ := hread text hname
    exact .inr ⟨value, hvalue ▸ override?_variable hv hname⟩

end Variable

/-- A text that cannot be read makes the fault that names it. -/
theorem fault_of_read {reading : Reading} {text : String} {fault : Fault}
    (h : reading.read text = .error fault) :
    (∃ error, fault = .integer text error) ∨ fault = .number text := by
  cases reading with
  | text => exact nomatch h
  | items => exact nomatch h
  | integer =>
    rw [Reading.read] at h
    cases hread : Number.readInteger text.toList with
    | ok n => rw [hread] at h; exact nomatch h
    | error e => rw [hread] at h; exact .inl ⟨e, (Except.error.inj h).symm⟩
  | number =>
    rw [Reading.read] at h
    split at h
    · exact nomatch h
    · exact .inr (Except.error.inj h).symm

/-! ### A run through variables -/

section Run

variable {environment : Environment} {vs : List Variable} (hvs : ∀ v ∈ vs, v ∈ variableTable)

include hvs

/-- A run goes on behind variables that can be read. -/
theorem applyVariables_append (hread : Readable environment vs) (s : Settings) :
    ∃ s', applyVariables environment s (vs.map (·.setting)) = (s', none) ∧
      ∀ rest, applyVariables environment s (vs.map (·.setting) ++ rest)
        = applyVariables environment s' rest := by
  induction vs generalizing s with
  | nil => exact ⟨s, rfl, fun _ => rfl⟩
  | cons v vs ih =>
    have hrest := ih (fun v' hv' => hvs v' (List.mem_cons_of_mem _ hv'))
      (fun v' hv' => hread v' (List.mem_cons_of_mem _ hv'))
    rw [List.map_cons]
    simp only [List.cons_append, applyVariables]
    obtain hnone | ⟨value, hvalue⟩ :=
      override?_of_readable (hvs v List.mem_cons_self) (hread v List.mem_cons_self)
    · rw [hnone]
      exact hrest s
    · rw [hvalue]
      exact hrest (s.set v.setting value)

theorem written_of_applyVariables {s s' : Settings}
    (h : applyVariables environment s (vs.map (·.setting)) = (s', none)) :
    Written environment vs s s' where
  overridden v hv text htext :=
    (value_applyVariables h).1 (List.mem_map_of_mem hv) _ (override?_variable (hvs v hv) htext)
  kept setting hunset := by
    refine (value_applyVariables h).2 ?_
    by_cases hmem : setting ∈ vs.map (·.setting)
    · obtain ⟨v, hv, rfl⟩ := List.mem_map.mp hmem
      exact .inl (override?_variable_unset (hvs v hv) (hunset v hv rfl))
    · exact .inr hmem

end Run

/-- A table in which some text cannot be read has a first variable of that kind. -/
theorem exists_first_unreadable {environment : Environment} {vs : List Variable}
    (h : ¬ Readable environment vs) :
    ∃ before v after text fault, vs = before ++ v :: after ∧ Readable environment before ∧
      environment v.name = some text ∧ v.reading.read text = .error fault := by
  induction vs with
  | nil => exact absurd (fun _ hv => absurd hv List.not_mem_nil) h
  | cons v vs ih =>
    have hfirst : (∃ text fault, environment v.name = some text ∧
        v.reading.read text = .error fault) ∨
        ∀ text, environment v.name = some text → ∃ value, v.reading.read text = .ok value := by
      cases hname : environment v.name with
      | none => exact .inr fun _ htext => nomatch htext
      | some text =>
        cases hread : v.reading.read text with
        | ok value => exact .inr fun _ htext => ⟨value, Option.some.inj htext ▸ hread⟩
        | error fault => exact .inl ⟨text, fault, rfl, hread⟩
    rcases hfirst with ⟨text, fault, htext, hfault⟩ | hfirst
    · exact ⟨[], v, vs, text, fault, rfl, fun _ hv => absurd hv List.not_mem_nil, htext, hfault⟩
    · have hrest : ¬ Readable environment vs := fun hvs => h fun v' hv' =>
        (List.mem_cons.mp hv').elim (fun heq => heq ▸ hfirst) (hvs v')
      obtain ⟨before, v', after, text, fault, rfl, hbefore, htext, hfault⟩ := ih hrest
      refine ⟨v :: before, v', after, text, fault, rfl, fun w hw => ?_, htext, hfault⟩
      rcases List.mem_cons.mp hw with rfl | hw
      · exact hfirst
      · exact hbefore w hw

/-! ### The shared secret -/

section Shared

variable (environment : Environment) (s : Settings)

theorem shared_applySharedKey : Shared environment s (applySharedKey environment s) where
  taken key hkey hne hgiven := by
    rw [applySharedKey_of_shared hkey hne hgiven, value_set, if_pos rfl]
  left hleft := by rw [applySharedKey_of_unshared hleft]
  kept _ hne := value_applySharedKey_of_ne hne

/-- A secret that was taken counts as given, so that it is not taken again. -/
theorem applySharedKey_applySharedKey :
    applySharedKey environment (applySharedKey environment s) = applySharedKey environment s := by
  by_cases hleft : environment "INTERNAL_API_KEY" = none ∨ environment "INTERNAL_API_KEY" = some "" ∨
      (s.value .internalKey).isGiven = true
  · rw [applySharedKey_of_unshared hleft, applySharedKey_of_unshared hleft]
  · obtain ⟨hnone, hempty, hgiven⟩ := (by simpa only [not_or] using hleft)
    obtain ⟨key, hkey⟩ := Option.ne_none_iff_exists'.mp hnone
    have hne : key ≠ "" := fun heq => hempty (heq ▸ hkey)
    have htaken := applySharedKey_of_shared hkey hne (Bool.eq_false_iff.mpr hgiven)
    refine applySharedKey_of_unshared (.inr (.inr ?_))
    rw [htaken, value_set, if_pos rfl, Value.isGiven, Bool.not_eq_true', Bool.eq_false_iff]
    exact mt String.isEmpty_iff.mp hne

end Shared

/-! ### The environment applied again -/

/-- What a run through all variables comes to is settled by the texts of those that are set. -/
theorem eq_of_applyVariables {environment : Environment} {s s' t : Settings}
    (h : applyVariables environment s Setting.all = (s', none))
    (hset : ∀ setting value, override? environment setting = some (.ok value) →
      t.value setting = value)
    (hunset : ∀ setting, override? environment setting = none →
      t.value setting = s.value setting) : s' = t := by
  have hvalue : ∀ setting, s'.value setting = t.value setting := by
    intro setting
    cases hread : override? environment setting with
    | none => rw [(value_applyVariables h).2 (.inl hread), hunset setting hread]
    | some read =>
      have hok := (value_applyVariables h).1 (Setting.mem_all setting) read hread
      rw [hset setting _ (hok ▸ hread)]
  obtain ⟨value⟩ := s'
  obtain ⟨value'⟩ := t
  exact congrArg Settings.mk (funext hvalue)

/-- Settings to which the environment was applied are left as they are by it. Where the variable of
the secret is set, the run undoes what was shared, and the shared secret is taken again. -/
theorem applySharedKey_of_applyVariables {environment : Environment} {s written again : Settings}
    (h : applyVariables environment s Setting.all = (written, none))
    (hagain : applyVariables environment (applySharedKey environment written) Setting.all
      = (again, none)) :
    applySharedKey environment again = applySharedKey environment written := by
  have hset : ∀ setting value, override? environment setting = some (.ok value) →
      written.value setting = value := by
    intro setting value hread
    have hok := (value_applyVariables h).1 (Setting.mem_all setting) _ hread
    exact (Except.ok.inj hok).symm
  cases hkey : override? environment .internalKey with
  | some read =>
    have heq : again = written := by
      refine eq_of_applyVariables hagain hset fun setting hnone => ?_
      have hne : setting ≠ .internalKey := by
        rintro rfl
        exact nomatch hkey.symm.trans hnone
      rw [value_applySharedKey_of_ne hne]
    rw [heq]
  | none =>
    have heq : again = applySharedKey environment written := by
      refine eq_of_applyVariables hagain (fun setting value hread => ?_) fun _ _ => rfl
      have hne : setting ≠ .internalKey := by
        rintro rfl
        exact nomatch hkey.symm.trans hread
      rw [value_applySharedKey_of_ne hne, hset setting value hread]
    rw [heq, applySharedKey_applySharedKey]

/-- How the environment overrides settings. -/
structure Overrides (environment : Environment) (s : Settings) : Prop where
  /-- Where all texts can be read, all are written, the shared secret is looked at, and nothing is
  left to do. -/
  succeeds : Readable environment variableTable →
    ∃ written s', applyEnvironment environment s = (s', none) ∧
      Written environment variableTable s written ∧ Shared environment written s' ∧
      applyEnvironment environment s' = (s', none)
  /-- The first text that cannot be read is what is reported, and only those before it are
  written. -/
  fails : ¬ Readable environment variableTable →
    ∃ before v after text fault written, variableTable = before ++ v :: after ∧
      Readable environment before ∧ environment v.name = some text ∧
      v.reading.read text = .error fault ∧
      ((∃ error, fault = .integer text error) ∨ fault = .number text) ∧
      applyEnvironment environment s = (written, some fault) ∧
      Written environment before s written

/-- A run through all variables, as long as all can be read. -/
theorem exists_applyVariables {environment : Environment}
    (hread : Readable environment variableTable) (s : Settings) :
    ∃ written, applyVariables environment s Setting.all = (written, none) ∧
      Written environment variableTable s written := by
  obtain ⟨written, hrun, hrest⟩ := applyVariables_append (fun _ hv => hv) hread s
  refine ⟨written, ?_, written_of_applyVariables (fun _ hv => hv) hrun⟩
  rw [settings_of_variables, hrest]
  rfl

theorem applyEnvironment_overrides (environment : Environment) (s : Settings) :
    Overrides environment s where
  succeeds hread := by
    obtain ⟨written, hrun, hwritten⟩ := exists_applyVariables hread s
    obtain ⟨again, hagain, -⟩ := exists_applyVariables hread (applySharedKey environment written)
    refine ⟨written, applySharedKey environment written, ?_, hwritten,
      shared_applySharedKey environment written, ?_⟩
    · rw [applyEnvironment, hrun]
    · have hsame := applySharedKey_of_applyVariables hrun hagain
      rw [applyEnvironment, hagain]
      exact congrArg (·, none) hsame
  fails hread := by
    obtain ⟨before, v, after, text, fault, hvs, hbefore, htext, hfault⟩ :=
      exists_first_unreadable hread
    have hmem : ∀ v' ∈ before, v' ∈ variableTable := fun v' hv' => hvs ▸ List.mem_append_left _ hv'
    have hv : v ∈ variableTable := hvs ▸ List.mem_append_right _ List.mem_cons_self
    obtain ⟨written, hrun, hrest⟩ := applyVariables_append hmem hbefore s
    have hstop : applyVariables environment s Setting.all = (written, some fault) := by
      rw [settings_of_variables, hvs, List.map_append, List.append_assoc, hrest, List.map_cons,
        List.cons_append, applyVariables, override?_variable hv htext, hfault]
    refine ⟨before, v, after, text, fault, written, hvs, hbefore, htext, hfault,
      fault_of_read hfault, ?_, written_of_applyVariables hmem hrun⟩
    rw [applyEnvironment, hstop]

end SourceText.Settings
