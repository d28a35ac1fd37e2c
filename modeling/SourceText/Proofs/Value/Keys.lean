import SourceText.Proofs.Json.Admitted
import SourceText.Proofs.Success
import SourceText.Settings.Document

/-!
# Keys of documents

In the mappings of a document that was read, no text is the key of two entries
(`Settings.keyedDocument_of_readDocument`). Such mappings can be taken entry by entry or looked up,
with the same result.
-/

namespace SourceText

namespace Value

theorem sameKey_string_iff (k : Value) (name : String) :
    sameKey k (.string name) = true ↔ k = .string name := by
  cases k <;> simp [sameKey, toInt?]

/-- No text is the key of two entries. -/
def TextKeysDiffer (entries : List (Value × Value)) : Prop :=
  (entries.map (·.1)).Pairwise fun a b => ∀ name, a = .string name → b ≠ .string name

theorem textKeysDiffer_nil : TextKeysDiffer [] := List.Pairwise.nil

/-- The mappings in which no text is the key of two entries; other values have no keys. -/
def Keyed (value : Value) : Prop := ∀ entries, value = .mapping entries → TextKeysDiffer entries

/-- The documents whose mapping is so, and the mappings in it are. -/
def KeyedDocument (document : Value) : Prop :=
  Keyed document ∧ ∀ entries, document = .mapping entries → ∀ e ∈ entries, Keyed e.2

/-! ### Looking up -/

theorem lookup?_cons_same (key : String) (value : Value) (rest : List (Value × Value)) :
    lookup? key ((.string key, value) :: rest) = some value := by
  simp only [lookup?, List.find?_cons, (sameKey_string_iff _ _).mpr rfl, Option.map_some]

theorem lookup?_cons_of_ne {key : String} {k : Value} (h : k ≠ .string key) (value : Value)
    (rest : List (Value × Value)) : lookup? key ((k, value) :: rest) = lookup? key rest := by
  have hother : sameKey k (.string key) = false :=
    Bool.eq_false_iff.mpr (mt (sameKey_string_iff k key).mp h)
  simp only [lookup?, List.find?_cons, hother]

theorem lookup?_eq_none {key : String} {entries : List (Value × Value)}
    (h : ∀ k ∈ entries.map (·.1), k ≠ .string key) : lookup? key entries = none := by
  rw [lookup?, Option.map_eq_none_iff, List.find?_eq_none]
  intro e he heq
  exact h e.1 (List.mem_map_of_mem he) ((sameKey_string_iff _ _).mp heq)

theorem mem_of_lookup? {key : String} {value : Value} {entries : List (Value × Value)}
    (h : lookup? key entries = some value) : (.string key, value) ∈ entries := by
  obtain ⟨⟨k, v⟩, hfind, rfl⟩ := Option.map_eq_some_iff.mp h
  have hkey := List.find?_some hfind
  obtain rfl := (sameKey_string_iff k key).mp hkey
  exact List.mem_of_find?_eq_some hfind

/-! ### Entries that are put in -/

theorem keys_insertEntry (key value : Value) (entries : List (Value × Value)) :
    (insertEntry key value entries).map (·.1) = if entries.any (sameKey ·.1 key)
      then entries.map (·.1) else entries.map (·.1) ++ [key] := by
  induction entries with
  | nil => rfl
  | cons first rest ih =>
    obtain ⟨k, v⟩ := first
    rw [insertEntry, List.any_cons]
    cases hsame : sameKey k key with
    | true => simp
    | false =>
      simp only [Bool.false_eq_true, if_false, List.map_cons, ih, Bool.false_or]
      split <;> rfl

theorem textKeysDiffer_insertEntry {entries : List (Value × Value)} (h : TextKeysDiffer entries)
    (key value : Value) : TextKeysDiffer (insertEntry key value entries) := by
  unfold TextKeysDiffer
  rw [keys_insertEntry]
  split
  · exact h
  · next hnew =>
    refine List.pairwise_append.mpr ⟨h, List.pairwise_singleton _ _, ?_⟩
    intro k hk last hlast name hname heq
    obtain rfl := List.mem_singleton.mp hlast
    obtain ⟨e, he, rfl⟩ := List.mem_map.mp hk
    exact hnew (List.any_eq_true.mpr ⟨e, he, heq ▸ (sameKey_string_iff _ _).mpr hname⟩)

theorem mem_insertEntry {key value : Value} {entries : List (Value × Value)} {e : Value × Value}
    (h : e ∈ insertEntry key value entries) : e ∈ entries ∨ e.2 = value := by
  induction entries with
  | nil => exact .inr (List.mem_singleton.mp h ▸ rfl)
  | cons first rest ih =>
    obtain ⟨k, v⟩ := first
    rw [insertEntry] at h
    split at h
    · rcases List.mem_cons.mp h with rfl | h
      · exact .inr rfl
      · exact .inl (List.mem_cons_of_mem _ h)
    · rcases List.mem_cons.mp h with rfl | h
      · exact .inl List.mem_cons_self
      · exact (ih h).imp_left (List.mem_cons_of_mem _)

/-! ### Documents in JSON -/

theorem ofRaw_eq_string_iff {raw : RawText} {name : String} :
    ofRaw raw = .string name ↔ raw = .ofString name := by
  rw [ofRaw, RawText.ofString, ← RawText.text?_eq_some_iff]
  cases raw.text? with
  | none => exact iff_of_false nofun nofun
  | some text =>
    rw [Value.string.injEq, Option.some.injEq, ← String.toList_inj, String.toList_ofList]

theorem ofRaw_ne_mapping (raw : RawText) (entries : List (Value × Value)) :
    ofRaw raw ≠ .mapping entries := by
  rw [ofRaw]
  cases raw.text? <;> exact nofun

theorem keys_ofMembers (members : List (RawText × Json)) :
    (ofMembers members).map (·.1) = members.map fun m => ofRaw m.1 := by
  induction members with
  | nil => rfl
  | cons m members ih => rw [ofMembers, List.map_cons, List.map_cons, ih]

theorem mem_ofMembers {members : List (RawText × Json)} {e : Value × Value}
    (h : e ∈ ofMembers members) : ∃ m ∈ members, e.2 = ofJson m.2 := by
  induction members with
  | nil => exact absurd h List.not_mem_nil
  | cons m members ih =>
    rw [ofMembers] at h
    rcases List.mem_cons.mp h with rfl | h
    · exact ⟨m, List.mem_cons_self, rfl⟩
    · obtain ⟨m', hm', he⟩ := ih h
      exact ⟨m', List.mem_cons_of_mem _ hm', he⟩

theorem keyed_ofJson {json : Json} (h : json.Admitted false) : Keyed (ofJson json) := by
  intro entries hentries
  cases h with
  | object hnames _ _ =>
    rename_i members
    obtain rfl := Value.mapping.inj hentries
    unfold TextKeysDiffer
    rw [keys_ofMembers, List.pairwise_map]
    refine (List.pairwise_map.mp hnames).imp ?_
    intro a b hne name ha hb
    exact hne ((ofRaw_eq_string_iff.mp ha).trans (ofRaw_eq_string_iff.mp hb).symm)
  | string _ => exact absurd hentries (ofRaw_ne_mapping _ entries)
  | _ => exact absurd hentries nofun

theorem keyedDocument_ofJson {json : Json} (h : json.Admitted false) :
    KeyedDocument (ofJson json) := by
  refine ⟨keyed_ofJson h, ?_⟩
  intro entries hentries e he
  cases h with
  | object _ _ hmembers =>
    obtain rfl := Value.mapping.inj hentries
    obtain ⟨m, hm, hvalue⟩ := mem_ofMembers he
    exact hvalue ▸ keyed_ofJson (hmembers m hm)
  | string _ => exact absurd hentries (ofRaw_ne_mapping _ entries)
  | _ => exact absurd hentries nofun

end Value

namespace Yaml

/-! ### Documents in YAML -/

open Value (Keyed KeyedDocument TextKeysDiffer)

theorem keyedDocument_of_ne_mapping {value : Value} (h : ∀ entries, value ≠ .mapping entries) :
    KeyedDocument value :=
  ⟨fun entries hentries => absurd hentries (h entries),
    fun entries hentries => absurd hentries (h entries)⟩

theorem keyedDocument_readScalar {tag : Tag} {raw : RawText} {value : Value}
    (h : readScalar tag raw = .ok value) : KeyedDocument value := by
  refine keyedDocument_of_ne_mapping ?_
  rintro entries rfl
  unfold readScalar at h
  split at h
  · exact nomatch h
  · dsimp only at h
    split at h
    · exact nomatch h
    · split at h <;> exact nomatch h
  · obtain ⟨n, -, heq⟩ := exists_of_map_eq_ok h
    exact nomatch heq
  · obtain ⟨x, -, heq⟩ := exists_of_map_eq_ok h
    exact nomatch heq
  · dsimp only at h
    split at h
    · split at h <;> exact nomatch h
    · exact nomatch h
  · obtain ⟨t, -, heq⟩ := exists_of_map_eq_ok h
    exact nomatch heq
  · exact absurd (Except.ok.inj h) (Value.ofRaw_ne_mapping raw entries)
  · exact nomatch h

theorem keyedDocument_pairList {fuel : Nat} {node : Node} {value : Value}
    (h : pairList fuel node = .ok value) : KeyedDocument value := by
  refine keyedDocument_of_ne_mapping ?_
  rintro entries rfl
  cases fuel with
  | zero => exact absurd h nofun
  | succ fuel =>
    rw [pairList.eq_def] at h
    dsimp only at h
    split at h
    · obtain ⟨pairs, -, heq⟩ := exists_of_bind_eq_ok h
      exact absurd heq nofun
    · exact absurd h nofun

section Fuel

variable {fuel : Nat} (hvalue : ∀ node value, nodeValue fuel node = .ok value → KeyedDocument value)
  (hentries : ∀ node entries, mappingEntries fuel node = .ok entries →
    TextKeysDiffer entries ∧ ∀ e ∈ entries, Keyed e.2)

include hentries in
theorem keyedDocument_nodeValue_succ {node : Node} {value : Value}
    (h : nodeValue (fuel + 1) node = .ok value) : KeyedDocument value := by
  rw [nodeValue.eq_def] at h
  dsimp only at h
  split at h
  · split at h
    · obtain ⟨items, -, heq⟩ := exists_of_bind_eq_ok h
      exact keyedDocument_of_ne_mapping (Except.ok.inj heq ▸ nofun)
    · exact nomatch h
  · obtain ⟨read, hread, heq⟩ := exists_of_bind_eq_ok h
    obtain ⟨hkeys, hmembers⟩ := hentries _ _ hread
    obtain rfl := Except.ok.inj heq
    refine ⟨fun entries h => ?_, fun entries h => ?_⟩
    · exact Value.mapping.inj h ▸ hkeys
    · exact Value.mapping.inj h ▸ hmembers
  · obtain ⟨members, -, heq⟩ := exists_of_bind_eq_ok h
    exact keyedDocument_of_ne_mapping (Except.ok.inj heq ▸ nofun)
  · exact keyedDocument_pairList h
  · exact keyedDocument_pairList h
  · obtain ⟨text, -, hread⟩ := exists_of_bind_eq_ok h
    exact keyedDocument_readScalar hread

include hvalue in
theorem keyed_mappingEntries_succ {node : Node} {entries : List (Value × Value)}
    (h : mappingEntries (fuel + 1) node = .ok entries) :
    TextKeysDiffer entries ∧ ∀ e ∈ entries, Keyed e.2 := by
  rw [mappingEntries.eq_def] at h
  dsimp only at h
  split at h
  · obtain ⟨all, -, hfold⟩ := exists_of_bind_eq_ok h
    refine foldlM_ok_induction
      (P := fun entries => TextKeysDiffer entries ∧ ∀ e ∈ entries, Keyed e.2)
      ?_ ⟨Value.textKeysDiffer_nil, fun e he => absurd he List.not_mem_nil⟩ hfold
    rintro read ⟨key, given⟩ next ⟨hkeys, hmembers⟩ hstep
    obtain ⟨key, -, hstep⟩ := exists_of_bind_eq_ok hstep
    split at hstep
    · obtain ⟨value, hgiven, hstep⟩ := exists_of_bind_eq_ok hstep
      obtain rfl := Except.ok.inj hstep
      refine ⟨Value.textKeysDiffer_insertEntry hkeys key value, ?_⟩
      intro e he
      rcases Value.mem_insertEntry he with he | rfl
      · exact hmembers e he
      · exact (hvalue _ _ hgiven).1
    · exact absurd hstep nofun
  · exact absurd h nofun

end Fuel

theorem keyed_of_fuel (fuel : Nat) :
    (∀ node value, nodeValue fuel node = .ok value → KeyedDocument value) ∧
      ∀ node entries, mappingEntries fuel node = .ok entries →
        TextKeysDiffer entries ∧ ∀ e ∈ entries, Keyed e.2 := by
  induction fuel with
  | zero =>
    refine ⟨fun node value h => ?_, fun node entries h => ?_⟩
    · rw [nodeValue] at h
      exact nomatch h
    · rw [mappingEntries] at h
      exact nomatch h
  | succ fuel ih =>
    exact ⟨fun _ _ => keyedDocument_nodeValue_succ ih.2, fun _ _ => keyed_mappingEntries_succ ih.1⟩

theorem keyedDocument_of_read {text : Text} {document : Value} (h : read text = .ok document) :
    KeyedDocument document := by
  obtain ⟨node?, -, hvalue⟩ := exists_of_bind_eq_ok h
  cases node? with
  | none => exact keyedDocument_of_ne_mapping (Except.ok.inj hvalue ▸ nofun)
  | some node => exact (keyed_of_fuel _).1 _ _ hvalue

/-- What is asked of a library: in the documents that it gives no text is the key of two entries. -/
def Library.KeysDiffer (library : Library) : Prop :=
  ∀ text document, library.read text = .ok document → KeyedDocument document

theorem keysDiffer_standard : standard.KeysDiffer :=
  fun _ _ h => keyedDocument_of_read (eq_ok_of_mapError_eq_ok h)

end Yaml

namespace Settings

/-! ### Documents in files -/

open Value (KeyedDocument)

theorem keyedDocument_empty : KeyedDocument (.mapping []) := by
  refine ⟨fun entries h => ?_, fun entries h => ?_⟩
  · exact Value.mapping.inj h ▸ Value.textKeysDiffer_nil
  · exact Value.mapping.inj h ▸ fun e he => absurd he List.not_mem_nil

section Library

variable {yaml : Yaml.Library} (hkeys : yaml.KeysDiffer)

include hkeys

theorem Format.keyedDocument_of_readDocument {format : Format} {text : Text} {document : Value}
    (h : format.readDocument yaml text = .ok document) : KeyedDocument document := by
  cases format with
  | yaml =>
    obtain ⟨read, hread, heq⟩ := exists_of_bind_eq_ok h
    obtain rfl := Except.ok.inj heq
    split
    · exact hkeys text read (eq_ok_of_mapError_eq_ok hread)
    · exact keyedDocument_empty
  | json =>
    rw [readDocument] at h
    split at h
    · exact Except.ok.inj h ▸ keyedDocument_empty
    · obtain ⟨json, hread, rfl⟩ := exists_of_map_eq_ok h
      exact Value.keyedDocument_ofJson (Json.admitted_of_read (eq_ok_of_mapError_eq_ok hread))

/-- In a document that a file holds no text is the key of two entries. -/
theorem keyedDocument_of_readDocument {files : Files} {path : Path} {document : Value}
    (h : readDocument yaml files path = .ok document) : KeyedDocument document := by
  unfold readDocument at h
  split at h
  · exact nomatch h
  · exact nomatch h
  · obtain ⟨format, -, hread⟩ := exists_of_bind_eq_ok h
    exact Format.keyedDocument_of_readDocument hkeys hread

end Library

end Settings

end SourceText
