import SourceText.Proofs.Language.Settled

/-!
# Registries loaded from files

Whatever the loader is and whatever objects it makes, something comes of every file
(`ofFile_loads`). Most of what makes no sense is left out or completed. The rest spoils the whole
file: aliases that are given but have no items, and objects that are to be written and cannot be.
-/

namespace SourceText.Registry

open Registration

section Loader

variable {ω ι : Type} [Identifier ι] (l : Loader ω ι)

/-! ### Entries -/

/-- The family that an entry gives. Without one, and under a name that is not known, a language
belongs to the others. -/
def givenFamily (members : List (ω × ω)) : Family :=
  ((l.member? "family" members).bind l.family?).getD .other

/-- What of an entry is written before its aliases are looked at can be written: its language, as
the given name, and what stands for its family, unless it is the name of one. -/
structure Presentable (language : ω) (members : List (ω × ω)) (name : ι) : Prop where
  language : l.text language = .ok name
  family : ∀ given, l.member? "family" members = some given → l.family? given = none →
    ∃ words, l.shown given = .ok words

/-- Entries of a document and the registrations that they make, in order. -/
inductive Registers : List (ω × ω) → List (Registration ι) → Prop where
  | nil : Registers [] []
  /-- What is no mapping is passed over. -/
  | skipped {language entry : ω} {name : ι} {rest : List (ω × ω)}
      {history : List (Registration ι)} :
    (∀ members, l.shape entry ≠ .mapping members) → l.text language = .ok name →
    Registers rest history → Registers ((language, entry) :: rest) history
  /-- A mapping is registered, whatever stands for its family, and with the items of whatever stands
  for its aliases. -/
  | registered {language entry : ω} {members : List (ω × ω)} {name : ι} {items : List ω}
      {aliases : List ι} {rest : List (ω × ω)} {history : List (Registration ι)} :
    l.shape entry = .mapping members → Presentable l language members name →
    aliasItems l members = .ok items → items.mapM l.text = .ok aliases → Registers rest history →
    Registers ((language, entry) :: rest) (⟨name, givenFamily l members, aliases⟩ :: history)

/-- What stands for the family of an entry is not the name of one, and cannot be written. -/
def Garbles (entry : ω) (fault : WriteFault) : Prop :=
  ∃ members given, l.shape entry = .mapping members ∧ l.member? "family" members = some given ∧
    l.family? given = none ∧ l.shown given = .error fault

/-- An entry that spoils its document, and the error that it leads to. -/
inductive Spoils : ω × ω → DocumentError → Prop where
  /-- An error of a way of its own comes up before anything of the entry is written. -/
  | crash {language entry : ω} {name reason : String} :
    Garbles l entry (.crash name reason) →
    Spoils (language, entry) (.unwritable (.crash name reason))
  | language {language entry : ω} {fault : WriteFault} :
    (∀ name reason, ¬ Garbles l entry (.crash name reason)) → l.text language = .error fault →
    Spoils (language, entry) (.unwritable fault)
  | family {language entry : ω} {name : ι} {reason : String} :
    l.text language = .ok name → Garbles l entry (.value reason) →
    Spoils (language, entry) (.unwritable (.value reason))
  /-- The aliases are given and have no items. -/
  | aliases {language entry given : ω} {members : List (ω × ω)} {name : ι} {reason : String} :
    l.shape entry = .mapping members → Presentable l language members name →
    l.member? "aliases" members = some given → l.isGiven given = true →
    l.items given = .error reason → Spoils (language, entry) (.noItems reason)
  | item {language entry item : ω} {members : List (ω × ω)} {name : ι} {before after : List ω}
      {fault : WriteFault} :
    l.shape entry = .mapping members → Presentable l language members name →
    aliasItems l members = .ok (before ++ item :: after) →
    (∀ b ∈ before, ∃ text, l.text b = .ok text) → l.text item = .error fault →
    Spoils (language, entry) (.unwritable fault)

section Entry

variable {l} {language entry : ω} {members : List (ω × ω)} {name : ι}

theorem value_familyEntry (h : Presentable l language members name) :
    (familyEntry l language members).value = .ok (givenFamily l members) := by
  rw [familyEntry, givenFamily]
  cases hgiven : l.member? "family" members with
  | none => rfl
  | some given =>
    rw [Option.bind_some]
    cases hfamily : l.family? given with
    | some family =>
      simp only [hfamily]
      rfl
    | none =>
      obtain ⟨words, hwords⟩ := h.family given hgiven hfamily
      simp only [hfamily, h.language, hwords]
      rfl

omit [Identifier ι] in
theorem aliasItems_eq_error {reason : String} (h : aliasItems l members = .error reason) :
    ∃ given, l.member? "aliases" members = some given ∧ l.isGiven given = true ∧
      l.items given = .error reason := by
  unfold aliasItems at h
  split at h
  · exact nomatch h
  · next given hgiven =>
    split at h
    · next htrue => exact ⟨given, hgiven, htrue, h⟩
    · exact nomatch h

omit [Identifier ι] in
theorem presentable_or_spoils (hshape : l.shape entry = .mapping members)
    (hname : l.text language = .ok name) :
    Presentable l language members name ∨ ∃ e, Spoils l (language, entry) e := by
  by_cases hgarbles : ∃ fault, Garbles l entry fault
  · obtain ⟨fault, hfault⟩ := hgarbles
    cases fault with
    | value reason => exact .inr ⟨_, .family hname hfault⟩
    | crash name reason => exact .inr ⟨_, .crash hfault⟩
  · refine .inl ⟨hname, fun given hgiven hunknown => ?_⟩
    cases hshown : l.shown given with
    | ok words => exact ⟨words, rfl⟩
    | error fault => exact absurd ⟨fault, members, given, hshape, hgiven, hunknown, hshown⟩ hgarbles

omit [Identifier ι] in
/-- A language that cannot be written spoils the document, unless its entry did so before. -/
theorem spoils_of_language {fault : WriteFault} (hname : l.text language = .error fault) :
    ∃ e, Spoils l (language, entry) e := by
  by_cases hcrash : ∃ name reason, Garbles l entry (.crash name reason)
  · obtain ⟨name, reason, hcrash⟩ := hcrash
    exact ⟨_, .crash hcrash⟩
  · exact ⟨_, .language (fun name reason h => hcrash ⟨name, reason, h⟩) hname⟩

theorem value_registerEntry_mapping (r : Registry ι) (hshape : l.shape entry = .mapping members)
    (h : Presentable l language members name) : (registerEntry l r language entry).value
      = (aliasEntry l members).map (r.register name (givenFamily l members)) := by
  simp only [registerEntry, hshape, Recorded.value_bind, Recorded.value_pure, value_familyEntry h,
    h.language]
  cases aliasEntry l members <;> rfl

theorem value_registerEntry_skipped (r : Registry ι)
    (hshape : ∀ members, l.shape entry ≠ .mapping members) (hname : l.text language = .ok name) :
    (registerEntry l r language entry).value = .ok r := by
  rw [registerEntry]
  split
  · next members hmapping => exact absurd hmapping (hshape members)
  · rw [hname]
    rfl

theorem value_registerEntry_unfamiliar (r : Registry ι) {e : DocumentError}
    (hshape : l.shape entry = .mapping members)
    (h : (familyEntry l language members).value = .error e) :
    (registerEntry l r language entry).value = .error e := by
  simp only [registerEntry, hshape, Recorded.value_bind, Recorded.value_pure, h]
  rfl

/-- Without an error of a way of its own, the family of an entry is found or the language cannot be
written. -/
theorem familyEntry_unwritable {fault : WriteFault} (hshape : l.shape entry = .mapping members)
    (hcalm : ∀ name reason, ¬ Garbles l entry (.crash name reason))
    (hname : l.text language = .error fault) :
    (familyEntry l language members).value = .error (.unwritable fault) ∨
      ∃ family, (familyEntry l language members).value = .ok family := by
  rw [familyEntry]
  cases hgiven : l.member? "family" members with
  | none => exact .inr ⟨_, rfl⟩
  | some given =>
    cases hfamily : l.family? given with
    | some family => exact .inr ⟨family, by simp only [hfamily]; rfl⟩
    | none =>
      refine .inl ?_
      simp only [hfamily, hname]
      cases hshown : l.shown given with
      | ok words => rfl
      | error shownFault =>
        cases shownFault with
        | value reason => rfl
        | crash name reason =>
          exact absurd ⟨members, given, hshape, hgiven, hfamily, hshown⟩ (hcalm name reason)

theorem value_registerEntry_spoiled (r : Registry ι) {e : DocumentError}
    (h : Spoils l (language, entry) e) : (registerEntry l r language entry).value = .error e := by
  cases h with
  | crash hgarbles =>
    obtain ⟨members, given, hshape, hgiven, hunknown, hshown⟩ := hgarbles
    refine value_registerEntry_unfamiliar r hshape ?_
    simp only [familyEntry, hgiven, hunknown, hshown]
    cases l.text language <;> rfl
  | @language _ _ fault hcalm hname =>
    cases hshape : l.shape entry with
    | mapping members =>
      rcases familyEntry_unwritable hshape hcalm hname with hfamily | ⟨family, hfamily⟩
      · exact value_registerEntry_unfamiliar r hshape hfamily
      · simp only [registerEntry, hshape, Recorded.value_bind, Recorded.value_pure, hfamily, hname]
        rfl
    | _ =>
      simp only [registerEntry, hshape, hname]
      rfl
  | family hname hgarbles =>
    obtain ⟨members, given, hshape, hgiven, hunknown, hshown⟩ := hgarbles
    refine value_registerEntry_unfamiliar r hshape ?_
    simp only [familyEntry, hgiven, hunknown, hshown, hname]
    rfl
  | aliases hshape hpresentable hgiven htrue hitems =>
    rw [value_registerEntry_mapping r hshape hpresentable, aliasEntry, aliasItems, hgiven]
    dsimp only
    rw [if_pos htrue, hitems]
    rfl
  | item hshape hpresentable hitems hbefore hitem =>
    rw [value_registerEntry_mapping r hshape hpresentable, aliasEntry, hitems]
    have hfails := mapM_eq_error hbefore hitem
    simp only [Except.mapError, bind, Except.bind, hfails]
    rfl

omit [Identifier ι] in
/-- An entry is registered or passed over, or else it spoils its document. -/
theorem registers_or_spoils (l : Loader ω ι) (pair : ω × ω) :
    (∀ {rest history}, Registers l rest history → ∃ more, Registers l (pair :: rest) more) ∨
      ∃ e, Spoils l pair e := by
  obtain ⟨language, entry⟩ := pair
  cases hname : l.text language with
  | error fault => exact .inr (spoils_of_language hname)
  | ok name =>
    by_cases hmapping : ∃ members, l.shape entry = .mapping members
    · obtain ⟨members, hshape⟩ := hmapping
      rcases presentable_or_spoils hshape hname with hpresentable | hspoils
      · cases hitems : aliasItems l members with
        | ok items =>
          rcases mapM_ok_or_first l.text items with
            ⟨aliases, haliases⟩ | ⟨before, item, after, reason, rfl, hbefore, hitem⟩
          · exact .inl fun hrest => ⟨_, .registered hshape hpresentable hitems haliases hrest⟩
          · exact .inr ⟨_, .item hshape hpresentable hitems hbefore hitem⟩
        | error reason =>
          obtain ⟨given, hgiven, htrue, herror⟩ := aliasItems_eq_error hitems
          exact .inr ⟨_, .aliases hshape hpresentable hgiven htrue herror⟩
      · exact .inr hspoils
    · exact .inl fun hrest => ⟨_, .skipped (not_exists.mp hmapping) hname hrest⟩

end Entry

/-! ### Documents -/

section Document

variable {l} {before entries : List (ω × ω)} {history : List (Registration ι)}

/-- Entries that make registrations are left behind with these made. -/
theorem value_registerEntries_append (h : Registers l before history) (r : Registry ι)
    (after : List (ω × ω)) : (registerEntries l r (before ++ after)).value
      = (registerEntries l (history.foldl take r) after).value := by
  induction h generalizing r with
  | nil => rfl
  | skipped hshape hname _ ih =>
    have hfirst := value_registerEntry_skipped r hshape hname
    exact (value_andThen hfirst _).trans (ih r)
  | registered hshape hpresentable hitems haliases _ ih =>
    have hfirst := value_registerEntry_mapping r hshape hpresentable
    rw [aliasEntry, hitems] at hfirst
    simp only [Except.mapError, bind, Except.bind, haliases] at hfirst
    exact (value_andThen hfirst _).trans (ih _)

theorem value_registerEntries (h : Registers l entries history) (r : Registry ι) :
    (registerEntries l r entries).value = .ok (history.foldl take r) := by
  have happend := value_registerEntries_append h r []
  rw [List.append_nil] at happend
  exact happend

/-- The first entry that spoils a document decides what its error is. -/
theorem value_registerEntries_spoiled (hbefore : Registers l before history) {pair : ω × ω}
    {e : DocumentError} (hpair : Spoils l pair e) (r : Registry ι) (after : List (ω × ω)) :
    (registerEntries l r (before ++ pair :: after)).value = .error e := by
  have hfirst := value_registerEntry_spoiled (history.foldl take r) hpair
  rw [value_registerEntries_append hbefore, registerEntries]
  exact value_andThen_error hfirst _

omit [Identifier ι] in
/-- The entries of a document are registered, or there is a first one that spoils it. -/
theorem registers_or_spoiled (l : Loader ω ι) (entries : List (ω × ω)) :
    (∃ history, Registers l entries history) ∨
      ∃ before pair after history e, entries = before ++ pair :: after ∧
        Registers l before history ∧ Spoils l pair e := by
  induction entries with
  | nil => exact .inl ⟨[], .nil⟩
  | cons pair entries ih =>
    rcases registers_or_spoils l pair with hpair | ⟨e, hpair⟩
    · rcases ih with ⟨history, hrest⟩ | ⟨before, spoiler, after, history, e, rfl, hbefore, hspoils⟩
      · exact .inl (hpair hrest)
      · obtain ⟨more, hmore⟩ := hpair hbefore
        exact .inr ⟨pair :: before, spoiler, after, more, e, rfl, hmore, hspoils⟩
    · exact .inr ⟨[], pair, entries, [], e, rfl, .nil, hpair⟩

end Document

/-! ### Files -/

/-- Whether an error is of the kind that callers are told about: something in the file has a value
that is not allowed there. -/
def DocumentError.isForeseen : DocumentError → Bool
  | file (.encoding _) => true
  | load .malformed => true
  | load (.value _) => true
  | noMapping _ => true
  | unwritable (.value _) => true
  | _ => false

/-- The document that the bytes of a file hold. -/
def Holds (bytes : List UInt8) (document : ω) : Prop :=
  ∃ text, Unicode.decodeUtf8 bytes = .ok text ∧ l.load (Text.unifyLineEnds text) = .ok document

/-- What comes of the bytes of a file. -/
inductive Loads [DecidableEq ι] (bytes : List UInt8) :
    Except DocumentError (Registry ι) → Prop where
  | noText {error : Unicode.DecodeError} :
    Unicode.decodeUtf8 bytes = .error error → Loads bytes (.error (.file (.encoding error)))
  | noDocument {text : Text} {fault : LoadFault} :
    Unicode.decodeUtf8 bytes = .ok text → l.load (Text.unifyLineEnds text) = .error fault →
    Loads bytes (.error (.load fault))
  | nothing {document : ω} :
    Holds l bytes document → l.shape document = .nothing → Loads bytes (.ok empty)
  | noMapping {document : ω} :
    Holds l bytes document → l.shape document = .other →
    Loads bytes (.error (.noMapping (l.kind document)))
  /-- The registry has the languages of the registrations, and its answers follow them. -/
  | registered {document : ω} {entries : List (ω × ω)} {history : List (Registration ι)}
      {r : Registry ι} :
    Holds l bytes document → l.shape document = .mapping entries → Registers l entries history →
    r.Follows history → (∀ tag, tag ∈ r.languages ↔ ∃ c ∈ history, c.tag = tag) →
    Loads bytes (.ok r)
  | spoiled {document : ω} {before after : List (ω × ω)} {pair : ω × ω}
      {history : List (Registration ι)} {error : DocumentError} :
    Holds l bytes document → l.shape document = .mapping (before ++ pair :: after) →
    Registers l before history → Spoils l pair error → Loads bytes (.error error)

/-- When a file leads to an error that callers are not told about: the loader goes wrong in a way of
its own, or the first entry that spoils the document gives aliases that have no items or an object
that goes wrong in a way of its own when it is written. -/
inductive Stumbles (bytes : List UInt8) : Prop where
  | crash {text : Text} {name reason : String} :
    Unicode.decodeUtf8 bytes = .ok text →
    l.load (Text.unifyLineEnds text) = .error (.crash name reason) → Stumbles bytes
  | aliases {document : ω} {before after : List (ω × ω)} {pair : ω × ω}
      {history : List (Registration ι)} {reason : String} :
    Holds l bytes document → l.shape document = .mapping (before ++ pair :: after) →
    Registers l before history → Spoils l pair (.noItems reason) → Stumbles bytes
  | unwritten {document : ω} {before after : List (ω × ω)} {pair : ω × ω}
      {history : List (Registration ι)} {name reason : String} :
    Holds l bytes document → l.shape document = .mapping (before ++ pair :: after) →
    Registers l before history → Spoils l pair (.unwritable (.crash name reason)) → Stumbles bytes

section File

variable {l} {files : Files} {path : String} {bytes : List UInt8} {document : ω}
  (hfile : files.entry? (Path.ofString path) = some (.file bytes))

include hfile

theorem ofFile_of_text {text : Text} (htext : Unicode.decodeUtf8 bytes = .ok text) :
    ofFile l files path = ofText l (Text.unifyLineEnds text) := by
  simp only [ofFile, Files.readText, hfile, htext]

theorem value_ofFile_fault {text : Text} {fault : LoadFault}
    (htext : Unicode.decodeUtf8 bytes = .ok text)
    (hload : l.load (Text.unifyLineEnds text) = .error fault) :
    (ofFile l files path).value = .error (.load fault) := by
  rw [ofFile_of_text hfile htext, ofText, hload]
  cases fault <;> rfl

theorem ofFile_of_holds (h : Holds l bytes document) :
    ofFile l files path = ofDocument l document := by
  obtain ⟨text, htext, hload⟩ := h
  rw [ofFile_of_text hfile htext, ofText, hload]

theorem value_ofFile_nothing (h : Holds l bytes document) (hshape : l.shape document = .nothing) :
    (ofFile l files path).value = .ok empty := by
  rw [ofFile_of_holds hfile h, ofDocument, hshape]
  rfl

theorem value_ofFile_mapping {entries : List (ω × ω)} {history : List (Registration ι)}
    (h : Holds l bytes document) (hshape : l.shape document = .mapping entries)
    (hentries : Registers l entries history) :
    (ofFile l files path).value = .ok (ofHistory history) := by
  rw [ofFile_of_holds hfile h, ofDocument, hshape]
  exact value_registerEntries hentries empty

theorem value_ofFile_spoiled {before after : List (ω × ω)} {pair : ω × ω}
    {history : List (Registration ι)} {e : DocumentError} (h : Holds l bytes document)
    (hshape : l.shape document = .mapping (before ++ pair :: after))
    (hbefore : Registers l before history) (hpair : Spoils l pair e) :
    (ofFile l files path).value = .error e := by
  rw [ofFile_of_holds hfile h, ofDocument, hshape]
  exact value_registerEntries_spoiled hbefore hpair empty after

theorem value_ofFile_other (h : Holds l bytes document) (hshape : l.shape document = .other) :
    (ofFile l files path).value = .error (.noMapping (l.kind document)) := by
  rw [ofFile_of_holds hfile h, ofDocument, hshape]
  rfl

theorem loads_ofFile [DecidableEq ι] : Loads l bytes (ofFile l files path).value := by
  cases htext : Unicode.decodeUtf8 bytes with
  | error e =>
    have hvalue : (ofFile l files path).value = .error (.file (.encoding e)) := by
      simp only [ofFile, Files.readText, hfile, htext]
      rfl
    rw [hvalue]
    exact .noText htext
  | ok text =>
    cases hload : l.load (Text.unifyLineEnds text) with
    | error fault =>
      rw [value_ofFile_fault hfile htext hload]
      exact .noDocument htext hload
    | ok document =>
      have hholds : Holds l bytes document := ⟨text, htext, hload⟩
      cases hshape : l.shape document with
      | nothing =>
        rw [value_ofFile_nothing hfile hholds hshape]
        exact .nothing hholds hshape
      | other =>
        rw [value_ofFile_other hfile hholds hshape]
        exact .noMapping hholds hshape
      | mapping entries =>
        rcases registers_or_spoiled l entries with ⟨history, hentries⟩ |
          ⟨before, pair, after, history, e, rfl, hbefore, hpair⟩
        · rw [value_ofFile_mapping hfile hholds hshape hentries]
          exact .registered hholds hshape hentries (ofHistory_follows history)
            mem_languages_ofHistory
        · rw [value_ofFile_spoiled hfile hholds hshape hbefore hpair]
          exact .spoiled hholds hshape hbefore hpair

/-- Something comes of every file, whatever loader reads it. There is a registry just when the
document is nothing, or a mapping of which all entries can be registered or passed over, and the
errors that callers are not told about come from the loader itself, from objects that go wrong when
they are written, and from aliases alone. -/
theorem ofFile_loads [DecidableEq ι] :
    Loads l bytes (ofFile l files path).value ∧
      ((∃ r, (ofFile l files path).value = .ok r) ↔ ∃ document, Holds l bytes document ∧
        (l.shape document = .nothing ∨ ∃ entries history,
          l.shape document = .mapping entries ∧ Registers l entries history)) ∧
      ((∃ e, (ofFile l files path).value = .error e ∧ e.isForeseen = false) ↔
        Stumbles l bytes) := by
  have hloads := loads_ofFile (l := l) hfile
  refine ⟨hloads, ⟨?_, ?_⟩, ⟨?_, ?_⟩⟩
  · rintro ⟨r, hr⟩
    rw [hr] at hloads
    cases hloads with
    | nothing hholds hshape => exact ⟨_, hholds, .inl hshape⟩
    | registered hholds hshape hentries _ _ => exact ⟨_, hholds, .inr ⟨_, _, hshape, hentries⟩⟩
  · rintro ⟨document, hholds, hshape | ⟨entries, history, hshape, hentries⟩⟩
    · exact ⟨_, value_ofFile_nothing hfile hholds hshape⟩
    · exact ⟨_, value_ofFile_mapping hfile hholds hshape hentries⟩
  · rintro ⟨e, he, hforeseen⟩
    rw [he] at hloads
    cases hloads with
    | noText _ => exact absurd hforeseen nofun
    | @noDocument text fault htext hload =>
      cases fault with
      | crash name reason => exact .crash htext hload
      | _ => exact absurd hforeseen nofun
    | noMapping _ _ => exact absurd hforeseen nofun
    | spoiled hholds hshape hbefore hpair =>
      cases e with
      | noItems reason => exact .aliases hholds hshape hbefore hpair
      | unwritable fault =>
        cases fault with
        | value reason => exact absurd hforeseen nofun
        | crash name reason => exact .unwritten hholds hshape hbefore hpair
      | _ => cases hpair
  · rintro (⟨htext, hload⟩ | ⟨hholds, hshape, hbefore, hpair⟩ | ⟨hholds, hshape, hbefore, hpair⟩)
    · exact ⟨_, value_ofFile_fault hfile htext hload, rfl⟩
    · exact ⟨_, value_ofFile_spoiled hfile hholds hshape hbefore hpair, rfl⟩
    · exact ⟨_, value_ofFile_spoiled hfile hholds hshape hbefore hpair, rfl⟩

end File

end Loader

/-- The bytes of a file in which an entry is no mapping, and another one has a number for its family
and a text for its aliases. -/
def oddBytes : List UInt8 := Unicode.encodeUtf8 "a: 5\nb: {family: 7, aliases: xy}\n".toList

theorem ofFile_loads_odd :
    Files.entry? (.ofList [("l.yaml", oddBytes)]) (Path.ofString "l.yaml")
        = some (.file oddBytes) ∧
      ∃ document entries history r, Holds Yaml.loader oddBytes document ∧
        Yaml.loader.shape document = .mapping entries ∧ Registers Yaml.loader entries history ∧
        (ofFile Yaml.loader (.ofList [("l.yaml", oddBytes)]) "l.yaml").value = .ok r ∧
        r.Follows history ∧ r.languages = ["b"] ∧ r.aliases (some "b") = ["y", "x"] ∧
        r.familyOf (some "b") = .other := by
  have hfile : Files.entry? (.ofList [("l.yaml", oddBytes)]) (Path.ofString "l.yaml")
      = some (.file oddBytes) := by
    decide +kernel
  obtain ⟨r, hr, hanswers⟩ : ∃ r,
      (ofFile Yaml.loader (.ofList [("l.yaml", oddBytes)]) "l.yaml").value = .ok r ∧
      decide (r.languages = ["b"] ∧ r.aliases (some "b") = ["y", "x"] ∧
        r.familyOf (some "b") = .other) = true :=
    exists_of_any (by decide +kernel)
  have hanswers := of_decide_eq_true hanswers
  have hloads := (ofFile_loads (l := Yaml.loader) hfile).1
  rw [hr] at hloads
  refine ⟨hfile, ?_⟩
  cases hloads with
  | nothing _ => exact absurd hanswers.1 (by decide)
  | registered hholds hshape hentries hfollows _ =>
    exact ⟨_, _, _, r, hholds, hshape, hentries, hr, hfollows, hanswers⟩

/-- The bytes of a file in which an entry has a number for its aliases, and another one has nothing
that could be said against it. -/
def countedBytes : List UInt8 := Unicode.encodeUtf8 "a: {aliases: 5}\nb: {}\n".toList

/-- A number for the aliases of one entry keeps the others from being loaded. -/
theorem ofFile_counted_aliases :
    (∃ document entries, Holds Yaml.loader countedBytes document ∧
        Yaml.loader.shape document = .mapping entries) ∧
      ∃ e, (ofFile Yaml.loader (.ofList [("l.yaml", countedBytes)]) "l.yaml").value = .error e ∧
        e = .noItems "'int' object is not iterable" ∧ e.isForeseen = false := by
  have hfile : Files.entry? (.ofList [("l.yaml", countedBytes)]) (Path.ofString "l.yaml")
      = some (.file countedBytes) := by
    decide +kernel
  have hvalue :
      (ofFile Yaml.loader (.ofList [("l.yaml", countedBytes)]) "l.yaml").value.map (fun _ => ())
        = .error (.noItems "'int' object is not iterable") := by
    decide +kernel
  have hloads := loads_ofFile (l := Yaml.loader) hfile
  cases hload : (ofFile Yaml.loader (.ofList [("l.yaml", countedBytes)]) "l.yaml").value with
  | ok r =>
    rw [hload] at hvalue
    cases hvalue
  | error e =>
    rw [hload] at hvalue hloads
    obtain rfl : e = .noItems "'int' object is not iterable" := Except.error.inj hvalue
    cases hloads with
    | spoiled hholds hshape _ _ => exact ⟨⟨_, _, hholds, hshape⟩, _, rfl, rfl, rfl⟩

end SourceText.Registry
