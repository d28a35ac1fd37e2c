import SourceText.Language.Document
import SourceText.Proofs.Compact.Outcome
import SourceText.Proofs.Language.History
import SourceText.Proofs.Success
import SourceText.Proofs.Unicode.Lowered

/-!
# Tags that are taken as identifiers

Compaction asks a registry for the family of a tag that it got from the same registry. This is the
family of the identifier only when the tag stands for itself. A registration always makes its own
tag stand for itself, but a later one can take the tag away, and then the identifiers of the first
language still lead to it (`normalize_normalize_iff_settled`).
-/

namespace SourceText

theorem languageKey_languageKey (raw : String) :
    languageKey (languageKey raw) = languageKey raw := by
  have hends : Unicode.lower (Text.trim raw.toList) = [] ∨
      Text.Solid (Unicode.lower (Text.trim raw.toList)) := by
    obtain hnil | hsolid := Text.trim_eq_nil_or_solid raw.toList
    · exact .inl ((Unicode.lower_eq_nil_iff _).mpr hnil)
    · exact .inr (Unicode.solid_lower hsolid)
  have htrim : Text.trim (Unicode.lower (Text.trim raw.toList) ++ [])
      = Unicode.lower (Text.trim raw.toList) := Text.trim_append_of_ends hends rfl
  rw [List.append_nil] at htrim
  have hkey : ∀ raw : String, languageKey raw
      = String.ofList (Unicode.lower (Text.trim raw.toList)) := fun _ => rfl
  rw [hkey (languageKey raw), hkey raw, String.toList_ofList, htrim, Unicode.lower_lower]

namespace Registration

section Document

variable {ω : Type} (l : Loader ω)

/-- What an entry of a document registers, if it is a mapping that does not make the document
useless. -/
def registered? (pair : ω × ω) : Option Registration :=
  match l.shape pair.2 with
  | .mapping members =>
    Except.toOption (ε := Registry.DocumentError) do
      let family ← (Registry.familyEntry l pair.1 members).value
      let name ← (l.text pair.1).mapError .unwritable
      .ok ⟨name, family, ← Registry.aliasEntry l members⟩
  | _ => none

/-- The registrations in a document. -/
def inDocument (document : ω) : List Registration :=
  match l.shape document with
  | .mapping entries => entries.filterMap (registered? l)
  | _ => []

/-- The registrations in a file. -/
def inFile (files : Files) (path : String) : List Registration :=
  match files.readText (Path.ofString path) with
  | .ok text => ((l.load text).toOption.map (inDocument l)).getD []
  | .error _ => []

end Document

/-- Whether a tag stands for itself after a history: it can be looked up, and the last registration
that mentions it has it as its own tag. -/
def Settled (history : List Registration) (tag : String) : Prop :=
  tag ≠ "" ∧ ∀ c, IsLast (tag ∈ ·.keys) history c → c.tag = tag

/-- A history in which every language has a name and nobody takes a tag away. -/
structure Orderly (history : List Registration) : Prop where
  named : ∀ c ∈ history, c.tag ≠ ""
  unknown : ∀ c ∈ history, unknownLanguage ∈ c.keys → c.tag = unknownLanguage
  kept : history.Pairwise fun c later => c.tag ∈ later.keys → later.tag = c.tag

end Registration

namespace Registry

open Registration

/-- The registries that can be made, and the registrations that went into them. -/
inductive Made : Registry → List Registration → Prop where
  | empty : Made empty []
  | standard : Made standard Registration.standard
  | ofFile {ω : Type} {l : Loader ω} {files : Files} {path : String} {r : Registry} :
    (Registry.ofFile l files path).value = .ok r → Made r (inFile l files path)
  | register {r : Registry} {history : List Registration} (c : Registration) :
    Made r history → Made (r.register c.language c.family c.aliases) (history ++ [c])

/-! ### Registries in files -/

section File

variable {ω : Type} {l : Loader ω}

theorem registerEntry_eq_ok {r r' : Registry} {language entry : ω}
    (h : (registerEntry l r language entry).value = .ok r') :
    r' = (registered? l (language, entry)).toList.foldl take r := by
  rw [registerEntry] at h
  rw [registered?]
  cases hshape : l.shape entry with
  | mapping members =>
    simp only [hshape, Recorded.value_bind, Recorded.value_pure] at h
    obtain ⟨family, hfamily, hrest⟩ := exists_of_bind_eq_ok h
    obtain ⟨name, hname, hrest⟩ := exists_of_bind_eq_ok hrest
    obtain ⟨aliases, haliases, hmade⟩ := exists_of_bind_eq_ok hrest
    simp only [hfamily, hname, haliases]
    exact (Except.ok.inj hmade).symm
  | _ =>
    simp only [hshape] at h
    split at h
    · exact nomatch h
    · exact (Except.ok.inj h).symm

theorem registerEntries_eq_ok {r r' : Registry} {entries : List (ω × ω)}
    (h : (registerEntries l r entries).value = .ok r') :
    r' = (entries.filterMap (registered? l)).foldl take r := by
  induction entries generalizing r with
  | nil => exact (Except.ok.inj h).symm
  | cons entry entries ih =>
    obtain ⟨next, hentry, hrest⟩ := exists_of_andThen h
    rw [ih hrest, registerEntry_eq_ok hentry, ← List.foldl_append]
    congr 1
    rw [List.filterMap_cons]
    cases registered? l (entry.1, entry.2) <;> rfl

theorem ofFile_eq_ok {files : Files} {path : String} {r : Registry}
    (h : (ofFile l files path).value = .ok r) : r = ofHistory (inFile l files path) := by
  rw [ofFile] at h
  rw [inFile]
  cases htext : files.readText (Path.ofString path) with
  | ok text =>
    simp only [htext, ofText] at h ⊢
    cases hload : l.load text with
    | ok document =>
      simp only [hload, ofDocument] at h
      simp only [Except.toOption, Option.map_some, Option.getD_some, inDocument]
      cases hshape : l.shape document with
      | nothing =>
        simp only [hshape] at h
        exact (Except.ok.inj h).symm
      | mapping entries =>
        simp only [hshape] at h
        exact registerEntries_eq_ok h
      | other =>
        simp only [hshape] at h
        exact nomatch h
    | error fault =>
      simp only [hload] at h
      cases fault <;> exact nomatch h
  | error e =>
    simp only [htext] at h ⊢
    cases e with
    | missing => exact (Except.ok.inj h).symm
    | _ => exact nomatch h

end File

theorem Made.eq_ofHistory {r : Registry} {history : List Registration} (h : Made r history) :
    r = ofHistory history := by
  induction h with
  | empty => rfl
  | standard =>
    have hstandard := foldl_take_standard []
    rwa [List.foldl_nil, List.append_nil] at hstandard
  | ofFile h => exact ofFile_eq_ok h
  | register c _ ih => rw [ih, ofHistory, ofHistory, List.foldl_append]; rfl

/-! ### Tags of tags -/

section Settled

variable {history : List Registration}

theorem languageKey_normalize (raw : Option String) :
    languageKey ((ofHistory history).normalize raw) = (ofHistory history).normalize raw := by
  have hfollows := ofHistory_follows history
  cases raw with
  | none =>
    rw [hfollows.normalize_missing]
    decide +kernel
  | some raw =>
    cases hblank : Identifier.isEmpty (languageKey raw) with
    | true =>
      rw [hfollows.normalize_empty raw hblank]
      decide +kernel
    | false =>
      by_cases hmentioned : ∃ c ∈ history, languageKey raw ∈ c.keys
      · obtain ⟨c, hc⟩ := exists_isLast hmentioned
        rw [hfollows.normalize_mentioned raw c hblank hc]
        exact languageKey_languageKey c.language
      · have hnew : ∀ c ∈ history, languageKey raw ∉ c.keys :=
          fun c hc hkey => hmentioned ⟨c, hc, hkey⟩
        rw [hfollows.normalize_new raw hblank hnew]
        exact languageKey_languageKey raw

/-- A key stands for itself just when it is settled. -/
theorem normalize_eq_self_iff_settled {tag : String} (hkey : languageKey tag = tag) :
    (ofHistory history).normalize (some tag) = tag ↔ Settled history tag := by
  have hfollows := ofHistory_follows history
  cases hblank : Identifier.isEmpty (languageKey tag) with
  | true =>
    have hempty : tag = "" := by
      rw [← hkey]
      exact String.isEmpty_iff.mp hblank
    rw [hfollows.normalize_empty tag hblank, hempty]
    exact ⟨fun h => absurd h (by decide), fun h => absurd rfl h.1⟩
  | false =>
    constructor
    · intro hself
      refine ⟨?_, fun c hc => ?_⟩
      · rintro rfl
        exact absurd hblank (by decide)
      · rw [← hkey] at hc
        rw [← hfollows.normalize_mentioned tag c hblank hc, hself]
    · rintro ⟨-, hlast⟩
      by_cases hmentioned : ∃ c ∈ history, tag ∈ c.keys
      · obtain ⟨c, hc⟩ := exists_isLast hmentioned
        rw [hfollows.normalize_mentioned tag c hblank (hkey.symm ▸ hc), hlast c hc]
      · have hnew : ∀ c ∈ history, languageKey tag ∉ c.keys :=
          fun c hc htag => hmentioned ⟨c, hc, hkey ▸ htag⟩
        rw [hfollows.normalize_new tag hblank hnew, hkey]

/-- When nobody takes a tag away, the tags of all identifiers are settled. -/
theorem settled_normalize_of_orderly (h : Orderly history) (raw : Option String) :
    Settled history ((ofHistory history).normalize raw) := by
  have hfollows := ofHistory_follows history
  have hunknown : Settled history unknownLanguage := by
    exact ⟨by decide, fun c hc => h.unknown c hc.mem hc.holds⟩
  have hregistered : ∀ c ∈ history, Settled history c.tag := by
    intro c hmem
    refine ⟨h.named c hmem, fun d hd => ?_⟩
    obtain ⟨earlier, later, rfl, hkeys, hlater⟩ := hd
    -- The registration itself mentions its tag, so the last mention is not before it.
    have hkept := (List.pairwise_append.mp h.kept).2.2
    obtain hbefore | rfl | hafter : c ∈ earlier ∨ c = d ∨ c ∈ later := by
      simpa using hmem
    · exact hkept c hbefore d List.mem_cons_self hkeys
    · rfl
    · exact absurd List.mem_cons_self (hlater c hafter)
  cases raw with
  | none => exact hunknown
  | some raw =>
    cases hblank : Identifier.isEmpty (languageKey raw) with
    | true =>
      rw [hfollows.normalize_empty raw hblank]
      exact hunknown
    | false =>
      by_cases hmentioned : ∃ c ∈ history, languageKey raw ∈ c.keys
      · obtain ⟨c, hc⟩ := exists_isLast hmentioned
        rw [hfollows.normalize_mentioned raw c hblank hc]
        exact hregistered c hc.mem
      · have hnew : ∀ c ∈ history, languageKey raw ∉ c.keys :=
          fun c hc hkey => hmentioned ⟨c, hc, hkey⟩
        rw [hfollows.normalize_new raw hblank hnew]
        refine ⟨fun hempty => ?_, fun c hc => ?_⟩
        · rw [hempty] at hblank
          exact absurd hblank (by decide)
        · exact absurd hc.holds (hnew c hc.mem)

end Settled

/-- Nobody takes a tag away among the standard languages. -/
theorem orderly_standard : Orderly Registration.standard := by
  constructor <;> decide +kernel

theorem settled_normalizeLanguage (raw : Option String) :
    Settled Registration.standard (normalizeLanguage raw) := by
  rw [normalizeLanguage, Made.standard.eq_ofHistory]
  exact settled_normalize_of_orderly orderly_standard raw

/-! ### Compaction -/

/-- A tag is its own tag just when it is settled. Then compaction goes the way of the family that
the registry reports for the identifier. -/
theorem normalize_normalize_iff_settled {r : Registry} {history : List Registration}
    (hmade : Made r history) (raw : Option String) :
    (r.normalize (some (r.normalize raw)) = r.normalize raw ↔
      Settled history (r.normalize raw)) ∧
    (Settled history (r.normalize raw) →
      r.familyOf (some (r.normalize raw)) = r.familyOf raw ∧
      ∀ (c : Compactor) (text : Text), c.registry = r → text ≠ [] →
        (c.compact text raw).value
          = (c.handle (r.familyOf raw) text (r.normalize raw)).value.toOption.getD text.raw) ∧
    (Orderly history → Settled history (r.normalize raw)) := by
  obtain rfl := hmade.eq_ofHistory
  have hkey : languageKey ((ofHistory history).normalize raw) = (ofHistory history).normalize raw :=
    languageKey_normalize raw
  have hiff : _ ↔ Settled history _ := normalize_eq_self_iff_settled hkey
  refine ⟨hiff, fun hsettled => ?_, fun horderly => settled_normalize_of_orderly horderly raw⟩
  have hfamily : (ofHistory history).familyOf (some ((ofHistory history).normalize raw))
      = (ofHistory history).familyOf raw := by
    rw [familyOf, familyOf, hiff.mpr hsettled]
  refine ⟨hfamily, fun c text hregistry htext => ?_⟩
  rw [Compactor.value_compact htext, Compactor.familyFor, hregistry, hfamily]

/-- Two languages; the second takes the tag of the first as its alias. -/
def takenTag : List Registration :=
  [⟨"a", .indentation, ["b"]⟩, ⟨"c", .other, ["a"]⟩]

theorem made_takenTag : Made (ofHistory takenTag) takenTag :=
  .register ⟨"c", .other, ["a"]⟩ (.register ⟨"a", .indentation, ["b"]⟩ .empty)

theorem normalize_normalize_standard :
    Orderly Registration.standard ∧
      Registry.standard.normalize (some (Registry.standard.normalize (some " JS ")))
        = Registry.standard.normalize (some " JS ") := by
  obtain ⟨hiff, -, hsettled⟩ := normalize_normalize_iff_settled .standard (some " JS ")
  exact ⟨orderly_standard, hiff.mpr (hsettled orderly_standard)⟩

theorem normalize_takenTag :
    Made (ofHistory takenTag) takenTag ∧
      (ofHistory takenTag).normalize (some "b") = "a" ∧
      (ofHistory takenTag).normalize (some "a") = "c" ∧
      (ofHistory takenTag).familyOf (some "b") = .indentation ∧
      (ofHistory takenTag).familyOf (some "a") = .other ∧
      ({ Compactor.standard with registry := ofHistory takenTag }.compact
        "x:\n  y\n".toList (some "b")).value = .ofString "x: y" ∧
      dropBlankLines "x:\n  y\n".toList = "x:\n  y".toList :=
  ⟨made_takenTag, by decide +kernel⟩

end Registry

end SourceText
