import SourceText.Proofs.Json.Layouts
import SourceText.Proofs.Settings.Layers
import SourceText.Proofs.Unicode.Utf8
import SourceText.Proofs.Value.LineEnds
import SourceText.Value.Equality

/-!
# Settings that are saved and loaded

Settings whose values JSON knows are loaded from the file that they were saved to, whatever the
defaults are (`save_ofFile`): every setting stands in the document, so that no default is left. For
YAML files this rests on the library, which has to give back what it wrote.
-/

namespace SourceText

namespace Files

theorem entry?_head (path : Path) (bytes : List UInt8) (rest : List (Path × List UInt8)) :
    entry? ⟨(path, bytes) :: rest⟩ path = some (.file bytes) := by
  simp only [List.lookup_cons_self, entry?]

theorem readText_writeText {files files' : Files} {path : Path} {text : Text}
    (h : files.writeText path text = .ok files') :
    files'.readText path = .ok (Text.unifyLineEnds text) := by
  unfold writeText at h
  split at h
  · exact nomatch h
  · obtain rfl := Except.ok.inj h
    simp only [readText, entry?_head, Unicode.decodeUtf8_encodeUtf8]

end Files

/-! ### Values that JSON knows -/

namespace Value

/-- The values of JSON that are no objects. A number that is none is not among them, as it is not
equal to itself. -/
inductive Storable : Value → Prop
  | null : Storable .null
  | bool (b : Bool) : Storable (.bool b)
  | integer {n : Int} (h : n.natAbs < 10 ^ Number.maxDigits) : Storable (.integer n)
  | number {x : Binary64} (h : x.WellFormed) (hnan : x ≠ .nan) : Storable (.number x)
  | string (s : String) : Storable (.string s)
  | list {items : List Value} (h : ∀ item ∈ items, Storable item) : Storable (.list items)

/-- Whether a value has a JSON value that is read and stands for it. -/
def HasJson (value : Value) : Prop :=
  ∃ json : Json, value.toJson = .ok json ∧ ofJson json = value ∧ json.Admitted true

/-- A mapping with names for keys. -/
def ofNamed (named : List (String × Value)) : Value :=
  .mapping (named.map fun m => (.string m.1, m.2))

theorem hasJson_list {items : List Value} (h : ∀ item ∈ items, HasJson item) :
    HasJson (.list items) := by
  have helements : ∃ elements, toElements items = .ok elements ∧ ofElements elements = items ∧
      ∀ element ∈ elements, element.Admitted true := by
    induction items with
    | nil => exact ⟨[], rfl, rfl, fun _ h => absurd h List.not_mem_nil⟩
    | cons item items ih =>
      obtain ⟨json, hjson, hvalue, hadmitted⟩ := h item List.mem_cons_self
      obtain ⟨elements, hwritten, hread, hall⟩ := ih fun i hi => h i (List.mem_cons_of_mem _ hi)
      refine ⟨json :: elements, ?_, ?_, List.forall_mem_cons.mpr ⟨hadmitted, hall⟩⟩
      · rw [toElements, hjson, hwritten]
        rfl
      · rw [ofElements, hvalue, hread]
  obtain ⟨elements, hwritten, hread, hall⟩ := helements
  refine ⟨.array elements, ?_, ?_, .array hall⟩
  · rw [toJson, hwritten]
    rfl
  · rw [ofJson, hread]

theorem hasJson_ofNamed {named : List (String × Value)} (hnames : (named.map (·.1)).Nodup)
    (h : ∀ m ∈ named, HasJson m.2) : HasJson (ofNamed named) := by
  have hmembers : ∃ members, toMembers (named.map fun m => (.string m.1, m.2)) = .ok members ∧
      ofMembers members = named.map (fun m => (.string m.1, m.2)) ∧
      members.map (·.1) = (named.map (·.1)).map .ofString ∧
      ∀ m ∈ members, Json.Legible true m.1 ∧ m.2.Admitted true := by
    clear hnames
    induction named with
    | nil => exact ⟨[], rfl, rfl, rfl, fun _ h => absurd h List.not_mem_nil⟩
    | cons m named ih =>
      obtain ⟨json, hjson, hvalue, hadmitted⟩ := h m List.mem_cons_self
      obtain ⟨members, hwritten, hread, hkeys, hall⟩ :=
        ih fun i hi => h i (List.mem_cons_of_mem _ hi)
      have hlegible : Json.Legible true (.ofString m.1) := Json.legible_raw true m.1.toList
      refine ⟨(.ofString m.1, json) :: members, ?_, ?_, ?_,
        List.forall_mem_cons.mpr ⟨⟨hlegible, hadmitted⟩, hall⟩⟩
      · rw [List.map_cons, toMembers, hjson, hwritten]
        rfl
      · rw [ofMembers, hvalue, hread, ofRaw_eq_string_iff.mpr rfl, List.map_cons]
      · rw [List.map_cons, List.map_cons, List.map_cons, hkeys]
  obtain ⟨members, hwritten, hread, hkeys, hall⟩ := hmembers
  have hnodup : (members.map (·.1)).Nodup := by
    rw [hkeys]
    exact hnames.map fun a b h => String.toList_inj.mp (Text.raw_injective h)
  refine ⟨.object members, ?_, ?_,
    .object hnodup (fun m hm => (hall m hm).1) fun m hm => (hall m hm).2⟩
  · rw [ofNamed, toJson, hwritten]
    rfl
  · rw [ofJson, hread, ofNamed]

theorem Storable.hasJson {value : Value} (h : Storable value) : HasJson value := by
  induction h with
  | null => exact ⟨.null, rfl, rfl, .null⟩
  | bool b => exact ⟨.bool b, rfl, rfl, .bool b⟩
  | integer h => exact ⟨.integer _, rfl, rfl, .integer h⟩
  | number h hnan => exact ⟨.number _, rfl, rfl, .number h⟩
  | string s =>
    exact ⟨.ofString s, rfl, by rw [Json.ofString, ofJson, ofRaw_eq_string_iff.mpr rfl],
      .string (Json.legible_raw true s.toList)⟩
  | list h ih => exact hasJson_list ih

/-! ### Values that can be written -/

theorem areWritable_iff {items : List Value} :
    areWritable items = true ↔ ∀ item ∈ items, item.isWritable = true := by
  induction items with
  | nil => exact iff_of_true rfl (List.forall_mem_nil _)
  | cons item items ih => rw [areWritable, Bool.and_eq_true, ih, List.forall_mem_cons]

theorem isWritable_ofNamed {named : List (String × Value)}
    (h : ∀ m ∈ named, m.2.isWritable = true) : (ofNamed named).isWritable = true := by
  induction named with
  | nil => rfl
  | cons m named ih =>
    obtain ⟨hfirst, hrest⟩ := List.forall_mem_cons.mp h
    exact Bool.and_eq_true_iff.mpr ⟨hfirst, ih hrest⟩

/-! ### Values that are equal to themselves -/

theorem find?_ofNamed {named : List (String × Value)} (hnames : (named.map (·.1)).Nodup)
    {m : String × Value} (hm : m ∈ named) :
    (named.map fun m => (Value.string m.1, m.2)).find? (fun (k, _) => sameKey k (.string m.1))
      = some (.string m.1, m.2) := by
  induction named with
  | nil => exact absurd hm List.not_mem_nil
  | cons first named ih =>
    rw [List.map_cons, List.nodup_cons] at hnames
    rw [List.map_cons, List.find?_cons]
    rcases List.mem_cons.mp hm with rfl | hm
    · simp only [(sameKey_string_iff _ _).mpr rfl]
    · have hother : sameKey (.string first.1) (.string m.1) = false := by
        rw [Bool.eq_false_iff, Ne, sameKey_string_iff]
        intro heq
        exact hnames.1 (Value.string.inj heq ▸ List.mem_map_of_mem hm)
      simp only [hother]
      exact ih hnames.2 hm

theorem lookup?_ofNamed {named : List (String × Value)} (hnames : (named.map (·.1)).Nodup)
    {m : String × Value} (hm : m ∈ named) :
    lookup? m.1 (named.map fun m => (.string m.1, m.2)) = some m.2 := by
  rw [lookup?, find?_ofNamed hnames hm]
  rfl

theorem isEqual_ofNamed_self {named : List (String × Value)} (hnames : (named.map (·.1)).Nodup)
    (h : ∀ m ∈ named, m.2.isEqual m.2 = true) : (ofNamed named).isEqual (ofNamed named) = true := by
  have hentries : ∀ some, some ⊆ named →
      entriesEqual (some.map fun m => (.string m.1, m.2))
        (named.map fun m => (.string m.1, m.2)) = true := by
    intro some hsome
    induction some with
    | nil => rfl
    | cons m some ih =>
      have hm : m ∈ named := hsome List.mem_cons_self
      simp only [List.map_cons, entriesEqual, find?_ofNamed hnames hm, h m hm, Bool.true_and]
      exact ih fun i hi => hsome (List.mem_cons_of_mem _ hi)
  simp only [ofNamed, isEqual, beq_self_eq_true, Bool.true_and]
  exact hentries named (List.Subset.refl named)

theorem itemsEqual_self {items : List Value} (h : ∀ item ∈ items, item.isEqual item = true) :
    itemsEqual items items = true := by
  induction items with
  | nil => rfl
  | cons item items ih =>
    rw [itemsEqual, h item List.mem_cons_self, Bool.true_and]
    exact ih fun i hi => h i (List.mem_cons_of_mem _ hi)

theorem same_self {x : Binary64} (h : x ≠ .nan) : Binary64.same x x = true := by
  cases x with
  | nan => exact absurd rfl h
  | infinite negative => simp [Binary64.same, Binary64.compare?]
  | finite negative mantissa exponent =>
    have halign : (Binary64.align (Binary64.signed negative mantissa) exponent
          (Binary64.signed negative mantissa) exponent).1
        = (Binary64.align (Binary64.signed negative mantissa) exponent
          (Binary64.signed negative mantissa) exponent).2.1 := by
      simp [Binary64.align]
    simp [Binary64.same, Binary64.compare?, halign]

theorem Storable.isWritable {value : Value} (h : Storable value) : value.isWritable = true := by
  induction h with
  | integer h => exact decide_eq_true h
  | list h ih => exact areWritable_iff.mpr ih
  | _ => rfl

theorem Storable.isEqual_self {value : Value} (h : Storable value) :
    value.isEqual value = true := by
  induction h with
  | null => rfl
  | bool b => cases b <;> rfl
  | integer h => simp [isEqual, sameKey, toInt?]
  | number h hnan => exact same_self hnan
  | string s => simp [isEqual, sameKey]
  | list h ih =>
    rw [isEqual]
    exact itemsEqual_self ih

end Value

namespace Settings

open Value (Storable HasJson ofNamed)

variable {s : Settings}

/-! ### The document of the settings -/

theorem groupDocument_eq (s : Settings) (group : Group) :
    s.groupDocument group
      = ofNamed (group.settings.map fun setting => (setting.key, s.value setting)) := by
  rw [groupDocument, ofNamed, List.map_map]
  rfl

theorem document_eq (s : Settings) :
    s.document = ofNamed (Group.all.map fun group => (group.name, s.groupDocument group)) := by
  rw [document, ofNamed, List.map_map]
  rfl

theorem nodup_keys (s : Settings) (group : Group) :
    ((group.settings.map fun setting => (setting.key, s.value setting)).map (·.1)).Nodup := by
  have hkeys : (group.settings.map Setting.key).Nodup := by cases group <;> decide
  rw [List.map_map]
  exact hkeys

theorem nodup_names (s : Settings) :
    ((Group.all.map fun group => (group.name, s.groupDocument group)).map (·.1)).Nodup := by
  have hnames : (Group.all.map Group.name).Nodup := by decide
  rw [List.map_map]
  exact hnames

theorem hasJson_document (h : ∀ setting, HasJson (s.value setting)) : HasJson s.document := by
  rw [document_eq]
  refine Value.hasJson_ofNamed (nodup_names s) fun m hm => ?_
  obtain ⟨group, -, rfl⟩ := List.mem_map.mp hm
  rw [groupDocument_eq]
  refine Value.hasJson_ofNamed (nodup_keys s group) fun m hm => ?_
  obtain ⟨setting, -, rfl⟩ := List.mem_map.mp hm
  exact h setting

theorem isWritable_document (h : ∀ setting, (s.value setting).isWritable = true) :
    s.document.isWritable = true := by
  rw [document_eq]
  refine Value.isWritable_ofNamed fun m hm => ?_
  obtain ⟨group, -, rfl⟩ := List.mem_map.mp hm
  rw [groupDocument_eq]
  refine Value.isWritable_ofNamed fun m hm => ?_
  obtain ⟨setting, -, rfl⟩ := List.mem_map.mp hm
  exact h setting

theorem isEqual_document_self (h : ∀ setting, (s.value setting).isEqual (s.value setting) = true) :
    s.document.isEqual s.document = true := by
  rw [document_eq]
  refine Value.isEqual_ofNamed_self (nodup_names s) fun m hm => ?_
  obtain ⟨group, -, rfl⟩ := List.mem_map.mp hm
  rw [groupDocument_eq]
  refine Value.isEqual_ofNamed_self (nodup_keys s group) fun m hm => ?_
  obtain ⟨setting, -, rfl⟩ := List.mem_map.mp hm
  exact h setting

/-! ### Taking the document -/

/-- Settings with those of some groups from `s` and the others from `base`. -/
def withGroups (s base : Settings) (groups : List Group) : Settings :=
  ⟨fun setting => if setting.group ∈ groups then s.value setting else base.value setting⟩

theorem ofKey?_key (setting : Setting) : Setting.ofKey? setting.group setting.key = some setting := by
  cases setting <;> decide

theorem foldlM_takeEntry {group : Group} {settings : List Setting}
    (h : ∀ setting ∈ settings, setting.group = group) (base : Settings) :
    (settings.map fun setting => (Value.string setting.key, s.value setting)).foldlM
        (takeEntry group) base
      = .ok ⟨fun setting =>
          if setting ∈ settings then s.value setting else base.value setting⟩ := by
  induction settings generalizing base with
  | nil => rfl
  | cons setting settings ih =>
    have hgroup : setting.group = group := h setting List.mem_cons_self
    have htake : takeEntry group base (.string setting.key, s.value setting)
        = .ok (base.set setting (s.value setting)) := by
      simp only [takeEntry, ← hgroup, ofKey?_key]
    have hrest := ih (fun x hx => h x (List.mem_cons_of_mem _ hx)) (base.set setting (s.value setting))
    rw [List.map_cons, List.foldlM_cons, htake]
    refine hrest.trans (congrArg (fun value => Except.ok (mk value)) (funext fun other => ?_))
    by_cases hother : other = setting
    · subst hother
      simp
    · simp [hother]

theorem takeGroup_groupDocument (s base : Settings) (group : Group) :
    base.takeGroup group (s.groupDocument group) = .ok (s.withGroups base [group]) := by
  have hgroups : ∀ setting ∈ group.settings, setting.group = group := by
    intro setting hmem
    simpa [Group.settings, Setting.mem_all] using hmem
  have hkeys : (group.settings.map fun setting => (Value.string setting.key, s.value setting)).all
      (fun (key, _) => key.isText) = true := by
    rw [List.all_map]
    exact List.all_eq_true.mpr fun _ _ => rfl
  have hsettings : ∀ setting, setting ∈ group.settings ↔ setting.group ∈ [group] := by
    intro setting
    simp [Group.settings, Setting.mem_all]
  simp only [groupDocument, takeGroup, hkeys, if_true, foldlM_takeEntry hgroups, hsettings]
  rfl

theorem foldlM_takeGroup (s base : Settings) (groups : List Group) :
    groups.foldlM (fun base group =>
      match Value.lookup? group.name
          (Group.all.map fun group => (.string group.name, s.groupDocument group)) with
      | some given => base.takeGroup group given
      | none => .ok base) base = .ok (s.withGroups base groups) := by
  induction groups generalizing base with
  | nil => rfl
  | cons group groups ih =>
    have hlookup : Value.lookup? group.name
        (Group.all.map fun group => (.string group.name, s.groupDocument group))
          = some (s.groupDocument group) := by
      have hnamed := Value.lookup?_ofNamed (nodup_names s) (List.mem_map_of_mem (mem_groups group))
      rwa [List.map_map] at hnamed
    rw [List.foldlM_cons, hlookup]
    simp only [takeGroup_groupDocument]
    refine (ih _).trans (congrArg (fun value => Except.ok (mk value)) (funext fun setting => ?_))
    by_cases hgroup : setting.group = group
    · simp [withGroups, hgroup]
    · simp [withGroups, hgroup]

/-- No default is left when a document gives all settings. -/
theorem takeDocument_document (s base : Settings) :
    base.takeDocument s.document = .ok s := by
  have hall : s.withGroups base Group.all = s := by
    simp [withGroups, mem_groups]
  rw [document, takeDocument]
  exact (foldlM_takeGroup s base Group.all).trans (congrArg Except.ok hall)

/-! ### Files -/

/-- The JSON text of the settings is read as their document, also from a text file. -/
theorem readDocument_toJson (yaml : Yaml.Library) (h : ∀ setting, HasJson (s.value setting))
    (hwritable : s.document.isWritable = true) :
    ∃ text, s.toJson = .ok text ∧
      Format.json.readDocument yaml (Text.unifyLineEnds text) = .ok s.document := by
  obtain ⟨json, hjson, hvalue, hadmitted⟩ := hasJson_document h
  have hread : Json.read (Json.write fileStyle json) = .ok json :=
    Json.read_write (List.append_nil _).symm hadmitted (by decide)
  have hraw : (Json.write fileStyle json).chars.raw = Json.write fileStyle json :=
    Json.raw_chars_write rfl json
  have hblank : (Json.write fileStyle json).chars.isAllBlank = false := by
    rw [← Text.isAllBlank_raw, hraw]
    obtain ⟨members, rfl⟩ : ∃ members, json = .object members := by
      cases json with
      | object members => exact ⟨members, rfl⟩
      | string raw => exact absurd (hvalue.trans (document_eq s)) (Value.ofRaw_ne_mapping raw _)
      | _ => exact absurd (hvalue.trans (document_eq s)) nofun
    cases members <;> rfl
  have hreturn : '\r' ∉ (Json.write fileStyle json).chars := fun hmem =>
    Json.return_not_mem_write fileStyle json (hraw ▸ List.mem_map_of_mem hmem)
  refine ⟨(Json.write fileStyle json).chars, ?_, ?_⟩
  · rw [toJson, hjson]
    exact if_pos hwritable
  · rw [Text.unifyLineEnds_of_return_not_mem hreturn, Format.readDocument, hblank, hraw, hread,
      ← hvalue]
    rfl

theorem readDocument_toYaml {yaml : Yaml.Library} (h : yaml.Returns s.document) :
    ∃ text, s.toYaml yaml = .ok text ∧
      Format.yaml.readDocument yaml (Text.unifyLineEnds text) = .ok s.document := by
  obtain ⟨text, hwrite, hread⟩ := h
  have hgiven : s.document.isGiven = true := rfl
  refine ⟨text, ?_, ?_⟩
  · rw [toYaml, hwrite]
    rfl
  · rw [Format.readDocument, hread]
    simp only [Except.mapError, bind, Except.bind, hgiven, if_true]

/-- What is saved in a format can be loaded as soon as the text of the file is read as the document.
-/
theorem ofFile_of_toText {yaml : Yaml.Library} {format : Format} {text : Text}
    {defaults : Option Text} {base : Settings} {files : Files} {path : String}
    (hdefaults : (readDefaults yaml defaults).value = .ok base)
    (hfile : files.obstacle? (Path.ofString path) = none)
    (hformat : Format.ofSuffix (Path.ofString path).suffix = .ok format)
    (htext : s.toText yaml format = .ok text)
    (hread : format.readDocument yaml (Text.unifyLineEnds text) = .ok s.document) :
    ∃ files', s.save yaml files path = .ok (files', text) ∧
      (ofFile yaml defaults files' path).value = .ok s := by
  obtain ⟨files', hwrite⟩ : ∃ files', files.writeText (Path.ofString path) text = .ok files' := by
    rw [Files.writeText, hfile]
    exact ⟨_, rfl⟩
  refine ⟨files', ?_, ?_⟩
  · simp only [save, hformat, htext, hwrite, Except.mapError, bind, Except.bind]
  · have hdocument : readDocument yaml files' (Path.ofString path) = .ok s.document := by
      simp only [readDocument, Files.readText_writeText hwrite, hformat, hread, bind,
        Except.bind]
    simp only [ofFile, hdocument, ofDocument, value_andThen hdefaults]
    exact takeDocument_document s base

/-- Settings are loaded as they were saved. -/
theorem save_ofFile {yaml : Yaml.Library} {defaults : Option Text} {base : Settings}
    {files : Files} {path : String} (hstorable : ∀ setting, Storable (s.value setting))
    (hdefaults : (readDefaults yaml defaults).value = .ok base)
    (hfile : files.obstacle? (Path.ofString path) = none)
    (hsuffix : (Path.ofString path).suffix = ".json" ∨
      (Path.ofString path).suffix ∈ [".yaml", ".yml"] ∧ yaml.Returns s.document) :
    ∃ files' text loaded, s.save yaml files path = .ok (files', text) ∧
      (ofFile yaml defaults files' path).value = .ok loaded ∧
      loaded.document.isEqual s.document = true ∧ loaded = s := by
  have hequal : s.document.isEqual s.document = true :=
    isEqual_document_self fun setting => (hstorable setting).isEqual_self
  have hwritable : s.document.isWritable = true :=
    isWritable_document fun setting => (hstorable setting).isWritable
  obtain hjson | ⟨hyaml, hreturns⟩ := hsuffix
  · obtain ⟨text, htext, hread⟩ :=
      readDocument_toJson yaml (fun setting => (hstorable setting).hasJson) hwritable
    have hformat : Format.ofSuffix (Path.ofString path).suffix = .ok .json := by
      rw [hjson]
      rfl
    obtain ⟨files', hsave, hload⟩ :=
      ofFile_of_toText hdefaults hfile hformat htext hread
    exact ⟨files', text, s, hsave, hload, hequal, rfl⟩
  · have hformat : Format.ofSuffix (Path.ofString path).suffix = .ok .yaml := by
      rcases List.mem_cons.mp hyaml with hyaml | hyml
      · rw [hyaml]
        rfl
      · rw [List.mem_singleton.mp hyml]
        rfl
    obtain ⟨text, htext, hread⟩ := readDocument_toYaml hreturns
    obtain ⟨files', hsave, hload⟩ :=
      ofFile_of_toText hdefaults hfile hformat htext hread
    exact ⟨files', text, s, hsave, hload, hequal, rfl⟩

theorem storable_builtIn (setting : Setting) : Storable setting.builtIn := by
  have hstrings : ∀ item ∈ [Value.string "pygments", .string "heuristic"], Storable item := by
    simp only [List.forall_mem_cons]
    exact ⟨.string _, .string _, List.forall_mem_nil _⟩
  cases setting with
  | engines => exact .list hstrings
  | timeout => exact .number (Binary64.wellFormed_ofRatio _ _ Nat.one_pos) (by decide +kernel)
  | port | maxDetectChars | maxBodyBytes | minDetectChars | maxSkewMs =>
    exact .integer (by decide +kernel)
  | _ => exact .string _

theorem storable_set {s : Settings} (h : ∀ setting, Storable (s.value setting)) {changed : Setting}
    {value : Value} (hvalue : Storable value) (setting : Setting) :
    Storable ((s.set changed value).value setting) := by
  rw [value_set]
  split
  · exact hvalue
  · exact h setting

/-- Settings with characters that JSON escapes, an empty list and nothing at all. -/
def unusual : Settings :=
  ((builtIn.set .apiKey (.string "\"\\\r\n\x7f\u00e9😀")).set .engines (.list [])).set
    .timeout .null

theorem save_ofFile_unusual : ∃ files' text loaded,
    unusual.save Yaml.standard {} "conf/c.json" = .ok (files', text) ∧
      (ofFile Yaml.standard (some "auth: \x7bmax_skew_ms: 5\x7d".toList) files'
        "conf/c.json").value = .ok loaded ∧
      loaded.document.isEqual unusual.document = true ∧ loaded = unusual := by
  have hstorable : ∀ setting, Storable (unusual.value setting) :=
    storable_set (storable_set (storable_set storable_builtIn (.string _))
      (.list fun _ h => absurd h List.not_mem_nil)) .null
  have hdefaults : (readDefaults Yaml.standard
      (some "auth: \x7bmax_skew_ms: 5\x7d".toList)).value.toOption.any (fun _ => true) = true := by
    decide +kernel
  obtain ⟨base, hbase, -⟩ := exists_of_any hdefaults
  exact save_ofFile hstorable hbase (by decide +kernel) (.inl (by decide +kernel))

end Settings

end SourceText
