import SourceText.Proofs.Settings.Kinds
import SourceText.Proofs.Value.Keys

/-!
# The layers that settings come from

Every setting has the value of its variable if there is one, or else that of the file, of the
defaults, or its built-in value, in this order. Only the secret of the gateway may come from one
more variable, and only groups that are known count (`load_layered`).
-/

namespace SourceText.Settings

open Value (Keyed KeyedDocument TextKeysDiffer)

/-- The value that a document gives to a setting: that of its key in the mapping of its group. -/
def given? (document : Value) (setting : Setting) : Option Value :=
  match document with
  | .mapping groups =>
    match Value.lookup? setting.group.name groups with
    | some (.mapping entries) => Value.lookup? setting.key entries
    | _ => none
  | _ => none

/-- The value of a setting that no variable is set for: that of the file, or else of the defaults,
or else the one it always has. -/
def documented (defaults file : Value) (setting : Setting) : Value :=
  (given? file setting).getD ((given? defaults setting).getD setting.builtIn)

/-- The documents that give values of the right kinds. -/
def TypedDocument (document : Value) : Prop :=
  ∀ setting value, given? document setting = some value →
    ((reading? setting).getD .text).fits value = true

instance (document : Value) : Decidable (TypedDocument document) :=
  decidable_of_iff
    (∀ setting ∈ Setting.all, ∀ value ∈ given? document setting,
      ((reading? setting).getD .text).fits value = true)
    ⟨fun h setting value => h setting (Setting.mem_all setting) value,
      fun h setting _ value => h setting value⟩

/-- The document that settings are loaded from; without a path it is empty. -/
def fileDocument (yaml : Yaml.Library) (files : Files) (path : Option String) :
    Except Fault Value :=
  match givenPath? path with
  | some path => readDocument yaml files (Path.ofString path)
  | none => .ok (.mapping [])

/-- Whether an entry is that of a known group. -/
def isKnown (entry : Value × Value) : Bool :=
  Group.all.any fun group => Value.sameKey entry.1 (.string group.name)

/-- The value that a setting has from its variable, the file, the defaults or itself. -/
structure Obtained (environment : Environment) (defaults file : Value) (setting : Setting)
    (value : Value) : Prop where
  variable_set : ∀ reading text, reading? setting = some reading →
    environment (variableName setting) = some text → reading.read text = .ok value
  variable_unset : reading? setting = none ∨ environment (variableName setting) = none →
    value = documented defaults file setting

/-- What the settings are that are loaded: each has the value that is obtained for it, but a secret
of the gateway that counts as not given takes the shared one. -/
structure Layered (environment : Environment) (defaults file : Value) (s : Settings) : Prop where
  obtained : ∀ setting, setting ≠ .internalKey →
    Obtained environment defaults file setting (s.value setting)
  internalKey : ∃ value, Obtained environment defaults file .internalKey value ∧
    (∀ key, environment "INTERNAL_API_KEY" = some key → key ≠ "" → value.isGiven = false →
      s.value .internalKey = .string key) ∧
    (environment "INTERNAL_API_KEY" = none ∨ environment "INTERNAL_API_KEY" = some "" ∨
      value.isGiven = true → s.value .internalKey = value)

/-! ### Taking a document -/

theorem eq_of_group_eq_of_key_eq {a b : Setting} (hgroup : a.group = b.group)
    (hkey : a.key = b.key) : a = b := by
  have hall : ∀ a ∈ Setting.all, ∀ b ∈ Setting.all, a.group = b.group → a.key = b.key → a = b := by
    decide
  exact hall a (Setting.mem_all a) b (Setting.mem_all b) hgroup hkey

theorem takeEntry_eq_ok {group : Group} {s s' : Settings} {entry : Value × Value}
    (h : takeEntry group s entry = .ok s') :
    ∃ setting : Setting, setting.group = group ∧ entry.1 = .string setting.key ∧
      s' = s.set setting entry.2 := by
  unfold takeEntry at h
  split at h
  · next key hkey =>
    split at h
    · next setting hsetting =>
      have hfound := List.find?_some hsetting
      simp only [Bool.and_eq_true, decide_eq_true_eq] at hfound
      exact ⟨setting, hfound.1, hfound.2 ▸ hkey, (Except.ok.inj h).symm⟩
    · exact nomatch h
  · exact nomatch h
  · exact nomatch h

/-- Taken entry by entry, the settings of a group have the values that stand under their keys. -/
theorem value_foldlM_takeEntry {group : Group} {entries : List (Value × Value)} {s s' : Settings}
    (hkeys : TextKeysDiffer entries) (h : entries.foldlM (takeEntry group) s = .ok s')
    (setting : Setting) :
    s'.value setting = if setting.group = group
      then (Value.lookup? setting.key entries).getD (s.value setting) else s.value setting := by
  induction entries generalizing s with
  | nil =>
    rw [← Except.ok.inj h]
    split <;> rfl
  | cons entry rest ih =>
    obtain ⟨key, value⟩ := entry
    rw [List.foldlM_cons] at h
    obtain ⟨next, hnext, hrest⟩ := exists_of_bind_eq_ok h
    obtain ⟨taken, hgroup, rfl, rfl⟩ := takeEntry_eq_ok hnext
    obtain ⟨hnew, hkeys⟩ := List.pairwise_cons.mp hkeys
    rw [ih hkeys hrest, value_set]
    by_cases hsetting : setting = taken
    · subst hsetting
      have hlookup : Value.lookup? setting.key rest = none :=
        Value.lookup?_eq_none fun k hk heq => hnew k hk setting.key rfl heq
      rw [if_pos hgroup, if_pos hgroup, if_pos rfl, hlookup, Value.lookup?_cons_same]
      rfl
    · rw [if_neg hsetting]
      by_cases hsame : setting.group = group
      · have hkey : Value.string taken.key ≠ .string setting.key := fun heq =>
          hsetting (eq_of_group_eq_of_key_eq (hsame.trans hgroup.symm) (Value.string.inj heq).symm)
        rw [if_pos hsame, if_pos hsame, Value.lookup?_cons_of_ne hkey]
      · rw [if_neg hsame, if_neg hsame]

theorem value_takeGroup {group : Group} {given : Value} {s s' : Settings} (hkeyed : Keyed given)
    (h : s.takeGroup group given = .ok s') :
    ∃ entries, given = .mapping entries ∧ ∀ setting, s'.value setting =
      if setting.group = group
        then (Value.lookup? setting.key entries).getD (s.value setting) else s.value setting := by
  unfold takeGroup at h
  split at h
  · next entries =>
    split at h
    · exact ⟨entries, rfl, value_foldlM_takeEntry (hkeyed entries rfl) (eq_ok_of_mapError_eq_ok h)⟩
    · exact nomatch h
  · exact nomatch h

/-- The settings of the groups that are taken have the values that the document gives. -/
theorem value_foldlM_takeGroup {groups : List Group} {entries : List (Value × Value)}
    {s s' : Settings} (hkeyed : ∀ e ∈ entries, Keyed e.2)
    (h : groups.foldlM (fun s group =>
      match Value.lookup? group.name entries with
      | some given => s.takeGroup group given
      | none => .ok s) s = .ok s') (setting : Setting) :
    s'.value setting = if setting.group ∈ groups
      then (given? (.mapping entries) setting).getD (s.value setting) else s.value setting := by
  induction groups generalizing s with
  | nil => exact Except.ok.inj h ▸ rfl
  | cons group rest ih =>
    rw [List.foldlM_cons] at h
    obtain ⟨next, hnext, hrest⟩ := exists_of_bind_eq_ok h
    have hvalue : next.value setting = if setting.group = group
        then (given? (.mapping entries) setting).getD (s.value setting) else s.value setting := by
      split at hnext
      · next given hgiven =>
        obtain ⟨inner, rfl, hinner⟩ :=
          value_takeGroup (hkeyed _ (Value.mem_of_lookup? hgiven)) hnext
        rw [hinner setting]
        split
        · next hgroup => rw [given?, hgroup, hgiven]
        · rfl
      · next hnone =>
        rw [← Except.ok.inj hnext]
        split
        · next hgroup => rw [given?, hgroup, hnone]; rfl
        · rfl
    rw [ih hrest, hvalue]
    by_cases hgroup : setting.group = group
    · rw [if_pos hgroup, if_pos (List.mem_cons.mpr (.inl hgroup))]
      split
      · cases given? (.mapping entries) setting <;> rfl
      · rfl
    · rw [if_neg hgroup]
      simp only [List.mem_cons, hgroup, false_or]

theorem mem_groups (group : Group) : group ∈ Group.all := by
  cases group <;> decide

theorem value_takeDocument {defaults s : Settings} {document : Value}
    (hkeyed : KeyedDocument document) (h : defaults.takeDocument document = .ok s)
    (setting : Setting) :
    s.value setting = (given? document setting).getD (defaults.value setting) := by
  unfold takeDocument at h
  split at h
  · next entries =>
    rw [value_foldlM_takeGroup (hkeyed.2 entries rfl) h, if_pos (mem_groups _)]
  · next hother =>
    have hnone : given? document setting = none := by
      cases document with
      | mapping entries => exact absurd rfl (hother entries)
      | _ => rfl
    obtain ⟨mentioned, -, hmentioned⟩ := exists_of_bind_eq_ok h
    rw [hnone, Option.getD_none]
    split at hmentioned
    · exact nomatch hmentioned
    · rw [Except.ok.inj hmentioned]

/-! ### Defaults -/

theorem lookup?_defaultEntries {document : Value} {setting : Setting}
    {entries : List (Value × Value)} (h : defaultEntries document setting.group = .ok entries) :
    Value.lookup? setting.key entries = given? document setting := by
  obtain ⟨groups, hgroups, h⟩ := exists_of_bind_eq_ok h
  cases document with
  | mapping groups' =>
    obtain rfl := Except.ok.inj hgroups
    rw [given?]
    split at h
    · next hnone => rw [hnone, ← Except.ok.inj h]; rfl
    · next given hgiven =>
      rw [hgiven]
      split at h
      · cases given with
        | mapping inner => rw [← Except.ok.inj h]
        | _ => exact nomatch h
      · next hempty =>
        rw [← Except.ok.inj h]
        cases given with
        | mapping inner =>
          cases inner with
          | nil => rfl
          | cons e inner => exact absurd rfl hempty
        | _ => rfl
  | _ => exact nomatch hgroups

/-- The items of a list of names are the list itself. -/
theorem items?_of_fits {value : Value} (h : Reading.fits .items value = true) :
    ∃ names, value = .list names ∧ value.items? = .ok names := by
  cases value with
  | list names => exact ⟨names, rfl, rfl⟩
  | _ => exact absurd h Bool.false_ne_true

theorem fits_builtIn (setting : Setting) :
    ((reading? setting).getD .text).fits setting.builtIn = true := by
  cases setting <;> rfl

theorem defaultValue_eq_ok {document value : Value} {setting : Setting}
    (htyped : TypedDocument document) (h : defaultValue document setting = .ok value) :
    value = (given? document setting).getD setting.builtIn := by
  obtain ⟨entries, hentries, h⟩ := exists_of_bind_eq_ok h
  rw [lookup?_defaultEntries hentries] at h
  dsimp only at h
  split at h
  · next hengines =>
    have hfits : Reading.fits .items ((given? document setting).getD setting.builtIn) = true := by
      have hreading : (reading? setting).getD .text = .items := hengines ▸ rfl
      cases hgiven : given? document setting with
      | none => exact hreading ▸ fits_builtIn setting
      | some given => exact hreading ▸ htyped setting given hgiven
    obtain ⟨names, hlist, hitems⟩ := items?_of_fits hfits
    rw [hitems] at h
    rw [hlist]
    exact (Except.ok.inj h).symm
  · exact (Except.ok.inj h).symm

/-- Every setting that is gone through gets its default; one that has it keeps it. -/
theorem defaultValue_foldlM {document : Value} {settings : List Setting} {s s' : Settings}
    (h : settings.foldlM
      (fun s setting => do .ok (s.set setting (← defaultValue document setting))) s = .ok s')
    {setting : Setting}
    (hsetting : setting ∈ settings ∨ defaultValue document setting = .ok (s.value setting)) :
    defaultValue document setting = .ok (s'.value setting) := by
  induction settings generalizing s with
  | nil => exact Except.ok.inj h ▸ hsetting.resolve_left List.not_mem_nil
  | cons first rest ih =>
    rw [List.foldlM_cons] at h
    obtain ⟨next, hnext, hrest⟩ := exists_of_bind_eq_ok h
    obtain ⟨value, hvalue, hnext⟩ := exists_of_bind_eq_ok hnext
    obtain rfl := Except.ok.inj hnext
    refine ih hrest ?_
    rw [value_set]
    by_cases hfirst : setting = first
    · exact .inr (by rw [if_pos hfirst, hfirst, hvalue])
    · rw [if_neg hfirst]
      exact hsetting.imp_left fun hmem => (List.mem_cons.mp hmem).resolve_left hfirst

theorem value_ofDefaults {document : Value} {s : Settings} (htyped : TypedDocument document)
    (h : ofDefaults document = .ok s) (setting : Setting) :
    s.value setting = (given? document setting).getD setting.builtIn :=
  defaultValue_eq_ok htyped (defaultValue_foldlM h (.inl (Setting.mem_all setting)))

/-! ### Variables -/

section Variables

variable {environment : Environment} {setting : Setting}

theorem override?_of_set {reading : Reading} {text : String}
    (hreading : reading? setting = some reading)
    (htext : environment (variableName setting) = some text) :
    override? environment setting = some (reading.read text) := by
  rw [override?, hreading]
  simp [htext]

theorem override?_of_unset
    (h : reading? setting = none ∨ environment (variableName setting) = none) :
    override? environment setting = none := by
  rw [override?]
  rcases h with h | h
  · rw [h]
    rfl
  · cases reading? setting <;> simp [h]

/-- A run through variables that all can be read: a setting has the value of its variable, and one
without a variable is left as it is. -/
theorem value_applyVariables {settings : List Setting} {s s' : Settings}
    (h : applyVariables environment s settings = (s', none)) :
    (setting ∈ settings → ∀ read, override? environment setting = some read →
      read = .ok (s'.value setting)) ∧
    (override? environment setting = none ∨ setting ∉ settings →
      s'.value setting = s.value setting) := by
  induction settings generalizing s with
  | nil =>
    obtain ⟨rfl, -⟩ := Prod.mk.inj h
    exact ⟨fun hmem => absurd hmem List.not_mem_nil, fun _ => rfl⟩
  | cons first rest ih =>
    rw [applyVariables] at h
    split at h
    · next hfirst =>
      refine ⟨fun hmem read hread => ?_, fun hleft => (ih h).2 ?_⟩
      · rcases List.mem_cons.mp hmem with rfl | hmem
        · exact absurd (hfirst.symm.trans hread) nofun
        · exact (ih h).1 hmem read hread
      · exact hleft.imp_right fun hnot hmem => hnot (List.mem_cons_of_mem _ hmem)
    · next value hfirst =>
      refine ⟨fun hmem read hread => ?_, fun hleft => ?_⟩
      · by_cases hrest : setting ∈ rest
        · exact (ih h).1 hrest read hread
        · obtain rfl := (List.mem_cons.mp hmem).resolve_right hrest
          rw [(ih h).2 (.inr hrest), value_set, if_pos rfl]
          exact Option.some.inj (hread.symm.trans hfirst)
      · have hne : setting ≠ first := by
          rintro rfl
          rcases hleft with hnone | hnot
          · exact absurd (hnone.symm.trans hfirst) nofun
          · exact hnot List.mem_cons_self
        rw [(ih h).2 (hleft.imp_right fun hnot hmem => hnot (List.mem_cons_of_mem _ hmem)),
          value_set, if_neg hne]
    · exact absurd (Prod.mk.inj h).2 nofun

end Variables

/-! ### The shared secret -/

section SharedKey

variable {environment : Environment} {s : Settings}

theorem value_applySharedKey_of_ne {setting : Setting} (h : setting ≠ .internalKey) :
    (applySharedKey environment s).value setting = s.value setting := by
  unfold applySharedKey
  split
  · split
    · rfl
    · rw [value_set, if_neg h]
  · rfl

theorem applySharedKey_of_shared {key : String} (hkey : environment "INTERNAL_API_KEY" = some key)
    (hne : key ≠ "") (hgiven : (s.value .internalKey).isGiven = false) :
    applySharedKey environment s = s.set .internalKey (.string key) := by
  have hempty : key.isEmpty = false := Bool.eq_false_iff.mpr (mt String.isEmpty_iff.mp hne)
  rw [applySharedKey, sharedKeyName, hkey]
  simp only [hempty, hgiven, Bool.or_false, Bool.false_eq_true, if_false]

theorem applySharedKey_of_unshared
    (h : environment "INTERNAL_API_KEY" = none ∨ environment "INTERNAL_API_KEY" = some "" ∨
      (s.value .internalKey).isGiven = true) : applySharedKey environment s = s := by
  rw [applySharedKey, sharedKeyName]
  rcases h with hnone | hempty | hgiven
  · rw [hnone]
  · rw [hempty]
    rfl
  · split
    · rw [hgiven, Bool.or_true, if_pos rfl]
    · rfl

end SharedKey

/-- The environment when it counts and when it does not. -/
def environmentIf (withEnvironment : Bool) (environment : Environment) : Environment :=
  if withEnvironment then environment else fun _ => none

section Environment

variable {environment : Environment} {defaults file : Value} {s s' : Settings}

theorem obtained_applyVariables
    (hvalue : ∀ setting, s.value setting = documented defaults file setting)
    (h : applyVariables environment s Setting.all = (s', none)) (setting : Setting) :
    Obtained environment defaults file setting (s'.value setting) where
  variable_set _ _ hreading htext :=
    (value_applyVariables h).1 (Setting.mem_all setting) _ (override?_of_set hreading htext)
  variable_unset hunset :=
    ((value_applyVariables h).2 (.inl (override?_of_unset hunset))).trans (hvalue setting)

theorem layered_applySharedKey
    (hobtained : ∀ setting, Obtained environment defaults file setting (s.value setting)) :
    Layered environment defaults file (applySharedKey environment s) := by
  refine ⟨fun setting hne => ?_, s.value .internalKey, hobtained .internalKey, ?_, ?_⟩
  · rw [value_applySharedKey_of_ne hne]
    exact hobtained setting
  · intro key hkey hne hgiven
    rw [applySharedKey_of_shared hkey hne hgiven, value_set, if_pos rfl]
  · intro hleft
    rw [applySharedKey_of_unshared hleft]

theorem layered_applyEnvironment
    (hvalue : ∀ setting, s.value setting = documented defaults file setting)
    (h : applyEnvironment environment s = (s', none)) :
    Layered environment defaults file s' := by
  rw [applyEnvironment] at h
  split at h
  · next applied happlied =>
    obtain ⟨rfl, -⟩ := Prod.mk.inj h
    exact layered_applySharedKey (obtained_applyVariables hvalue happlied)
  · exact absurd (Prod.mk.inj h).2 nofun

/-- Without an environment the layers below are all there is. -/
theorem layered_none
    (hvalue : ∀ setting, s.value setting = documented defaults file setting) :
    Layered (fun _ => none) defaults file s := by
  have hshared : Layered (fun _ => none) defaults file (applySharedKey (fun _ => none) s) :=
    layered_applySharedKey fun setting =>
      ⟨fun _ _ _ htext => absurd htext nofun, fun _ => hvalue setting⟩
  exact hshared

end Environment

/-! ### Groups that are not known -/

theorem lookup?_filter_isKnown (group : Group) (entries : List (Value × Value)) :
    Value.lookup? group.name (entries.filter isKnown) = Value.lookup? group.name entries := by
  have hknown : ∀ e : Value × Value,
      (isKnown e && Value.sameKey e.1 (.string group.name))
        = Value.sameKey e.1 (.string group.name) := by
    intro e
    cases hsame : Value.sameKey e.1 (.string group.name) with
    | false => exact Bool.and_false _
    | true =>
      rw [Bool.and_true]
      exact List.any_eq_true.mpr ⟨group, mem_groups group, hsame⟩
  rw [Value.lookup?, Value.lookup?, List.find?_filter]
  simp only [Bool.decide_and, Bool.decide_eq_true, hknown]

theorem takeDocument_filter_isKnown (defaults : Settings) (entries : List (Value × Value)) :
    defaults.takeDocument (.mapping (entries.filter isKnown))
      = defaults.takeDocument (.mapping entries) := by
  simp only [takeDocument, lookup?_filter_isKnown]

/-! ### Loading -/

theorem takeDocument_empty (defaults : Settings) :
    defaults.takeDocument (.mapping []) = .ok defaults := rfl

theorem ofDocument_empty (yaml : Yaml.Library) (defaults : Option Text) :
    ofDocument yaml defaults (.mapping []) = readDefaults yaml defaults := by
  simp only [ofDocument, takeDocument_empty, andThen_pure_ok]

/-- What becomes of settings in an environment, if it counts. -/
def inEnvironment (environment : Environment) (withEnvironment : Bool) (s : Settings) :
    Except Fault Settings :=
  if withEnvironment then
    match applyEnvironment environment s with
    | (s, none) => .ok s
    | (_, some fault) => .error fault
  else .ok s

/-- Loading starts from the document of the file, or from an empty one. -/
theorem load_eq {surroundings : Surroundings} {path : Option String} {file : Value}
    (hfile : fileDocument surroundings.yaml surroundings.files path = .ok file)
    (withEnvironment : Bool) :
    load surroundings path withEnvironment =
      (ofDocument surroundings.yaml surroundings.defaults file).andThen fun s =>
        pure (inEnvironment surroundings.environment withEnvironment s) := by
  rw [fileDocument] at hfile
  unfold load
  cases hpath : givenPath? path with
  | some path =>
    rw [hpath] at hfile
    have hbase : ofFile surroundings.yaml surroundings.defaults surroundings.files path
        = ofDocument surroundings.yaml surroundings.defaults file := by
      simp only [ofFile, hfile]
    rw [← hbase]
    rfl
  | none =>
    rw [hpath] at hfile
    obtain rfl := Except.ok.inj hfile
    rw [ofDocument_empty]
    rfl

theorem layered_inEnvironment {environment : Environment} {withEnvironment : Bool}
    {defaults file : Value} {s s' : Settings}
    (hvalue : ∀ setting, s.value setting = documented defaults file setting)
    (h : inEnvironment environment withEnvironment s = .ok s') :
    Layered (environmentIf withEnvironment environment) defaults file s' := by
  cases withEnvironment with
  | false => exact Except.ok.inj h ▸ layered_none hvalue
  | true =>
    rw [inEnvironment, if_pos rfl] at h
    split at h
    · next applied happlied => exact Except.ok.inj h ▸ layered_applyEnvironment hvalue happlied
    · exact nomatch h

theorem exists_of_load {surroundings : Surroundings} {path : Option String} {withEnvironment : Bool}
    {s : Settings} (h : (load surroundings path withEnvironment).value = .ok s) :
    ∃ file, fileDocument surroundings.yaml surroundings.files path = .ok file := by
  rw [fileDocument]
  cases hpath : givenPath? path with
  | none => exact ⟨_, rfl⟩
  | some path =>
    cases hread : readDocument surroundings.yaml surroundings.files (Path.ofString path) with
    | ok file => exact ⟨file, hread⟩
    | error fault =>
      simp only [load, hpath, ofFile, hread] at h
      exact nomatch h

theorem keyedDocument_of_fileDocument {yaml : Yaml.Library} (hkeys : yaml.KeysDiffer)
    {files : Files} {path : Option String} {file : Value}
    (h : fileDocument yaml files path = .ok file) : KeyedDocument file := by
  rw [fileDocument] at h
  cases hpath : givenPath? path with
  | some path =>
    rw [hpath] at h
    exact keyedDocument_of_readDocument hkeys h
  | none =>
    rw [hpath] at h
    exact Except.ok.inj h ▸ keyedDocument_empty

/-- The settings before the environment counts. -/
theorem exists_of_ofDocument {yaml : Yaml.Library} {defaults : Option Text} {file : Value}
    {s : Settings}
    (htyped : ∀ document, (defaultsDocument yaml defaults).value = .ok document →
      TypedDocument document)
    (hkeyed : KeyedDocument file) (h : (ofDocument yaml defaults file).value = .ok s) :
    ∃ document, (defaultsDocument yaml defaults).value = .ok document ∧
      ∀ setting, s.value setting = documented document file setting := by
  obtain ⟨base, hbase, htake⟩ := exists_of_andThen h
  rw [readDefaults, Recorded.value_bind] at hbase
  cases hdocument : (defaultsDocument yaml defaults).value with
  | error fault =>
    rw [hdocument] at hbase
    exact nomatch hbase
  | ok document =>
    rw [hdocument] at hbase
    refine ⟨document, rfl, fun setting => ?_⟩
    rw [documented, value_takeDocument hkeyed htake,
      value_ofDefaults (htyped document hdocument) (eq_ok_of_mapError_eq_ok hbase)]

/-- What loading settings comes to, with and without a file and the environment. -/
structure Loads (surroundings : Surroundings) (path : Option String) : Prop where
  layered : ∀ withEnvironment s, (load surroundings path withEnvironment).value = .ok s →
    ∃ defaults file,
      (defaultsDocument surroundings.yaml surroundings.defaults).value = .ok defaults ∧
      fileDocument surroundings.yaml surroundings.files path = .ok file ∧
      Layered (environmentIf withEnvironment surroundings.environment) defaults file s
  unknown_groups : ∀ files other entries others withEnvironment,
    fileDocument surroundings.yaml surroundings.files path = .ok (.mapping entries) →
    fileDocument surroundings.yaml files other = .ok (.mapping others) →
    entries.filter isKnown = others.filter isKnown →
    load surroundings path withEnvironment
      = load { surroundings with files := files } other withEnvironment
  no_environment : ∀ environment, load surroundings path false
    = load { surroundings with environment := environment } path false
  has_variable : ∀ setting, reading? setting = none ↔ setting = .logFormat

theorem load_layered {surroundings : Surroundings} (hkeys : surroundings.yaml.KeysDiffer)
    (htyped : ∀ document,
      (defaultsDocument surroundings.yaml surroundings.defaults).value = .ok document →
        TypedDocument document) (path : Option String) : Loads surroundings path where
  layered withEnvironment s h := by
    obtain ⟨file, hfile⟩ := exists_of_load h
    rw [load_eq hfile] at h
    obtain ⟨base, hbase, h⟩ := exists_of_andThen h
    obtain ⟨defaults, hdefaults, hvalue⟩ :=
      exists_of_ofDocument htyped (keyedDocument_of_fileDocument hkeys hfile) hbase
    exact ⟨defaults, file, hdefaults, hfile, layered_inEnvironment hvalue h⟩
  unknown_groups files other entries others withEnvironment hentries hothers hsame := by
    have htake : ∀ s : Settings,
        s.takeDocument (.mapping entries) = s.takeDocument (.mapping others) := by
      intro s
      rw [← takeDocument_filter_isKnown s entries, hsame, takeDocument_filter_isKnown]
    rw [load_eq hentries, load_eq hothers]
    simp only [ofDocument, htake]
  no_environment environment := rfl
  has_variable setting := by cases setting <;> simp [reading?]

/-- A file that turns the secret of the gateway off, in surroundings where one is shared. -/
def switchedOff : Surroundings where
  defaults := some "server: \x7bport: 8080\x7d".toList
  files := .ofList [("c.json",
    Unicode.encodeUtf8 "\x7b\"auth\": \x7b\"internal_key\": false\x7d\x7d".toList)]
  environment name := if name = "INTERNAL_API_KEY" then some "shared" else none

theorem typed_switchedOff : ∀ document,
    (defaultsDocument switchedOff.yaml switchedOff.defaults).value = .ok document →
      TypedDocument document := by
  have htyped : (defaultsDocument switchedOff.yaml switchedOff.defaults).value.toOption.any
      (fun document => decide (TypedDocument document)) = true := by
    decide +kernel
  obtain ⟨document, hdocument, htyped⟩ := exists_of_any htyped
  intro other hother
  obtain rfl := Except.ok.inj (hdocument.symm.trans hother)
  exact of_decide_eq_true htyped

theorem load_layered_switchedOff :
    switchedOff.yaml.KeysDiffer ∧
      (∀ document, (defaultsDocument switchedOff.yaml switchedOff.defaults).value = .ok document →
        TypedDocument document) ∧ Loads switchedOff (some "c.json") :=
  ⟨Yaml.keysDiffer_standard, typed_switchedOff,
    load_layered Yaml.keysDiffer_standard typed_switchedOff (some "c.json")⟩

/-- Whether a document turns the secret of the gateway off. -/
def turnsOff (document : Value) : Bool :=
  match given? document .internalKey with
  | some (.bool false) => true
  | _ => false

/-- Whether the settings have the shared secret. -/
def hasShared (s : Settings) : Bool :=
  match s.value .internalKey with
  | .string key => key == "shared"
  | _ => false

/-- The shared secret takes the place of a value that is neither empty nor null. -/
theorem load_shares_over_false :
    (∀ document, (defaultsDocument switchedOff.yaml switchedOff.defaults).value = .ok document →
      TypedDocument document) ∧
    ∃ file s, fileDocument switchedOff.yaml switchedOff.files (some "c.json") = .ok file ∧
      given? file .internalKey = some (.bool false) ∧
      switchedOff.environment (variableName .internalKey) = none ∧
      (load switchedOff (some "c.json") true).value = .ok s ∧
      s.value .internalKey = .string "shared" := by
  have hfile : (fileDocument switchedOff.yaml switchedOff.files (some "c.json")).toOption.any
      turnsOff = true := by
    decide +kernel
  have hload : (load switchedOff (some "c.json") true).value.toOption.any hasShared = true := by
    decide +kernel
  obtain ⟨file, hfile, hoff⟩ := exists_of_any hfile
  obtain ⟨s, hload, hshared⟩ := exists_of_any hload
  refine ⟨typed_switchedOff, file, s, hfile, ?_, by decide +kernel, hload, ?_⟩
  · unfold turnsOff at hoff
    split at hoff
    · assumption
    · exact absurd hoff Bool.false_ne_true
  · unfold hasShared at hshared
    split at hshared
    · next key hkey => rw [hkey, eq_of_beq hshared]
    · exact absurd hshared Bool.false_ne_true

end SourceText.Settings
