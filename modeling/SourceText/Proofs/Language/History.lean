import Mathlib.Data.List.Induction
import SourceText.Language.Standard
import SourceText.Proofs.Text.Blanks
import SourceText.Proofs.Unicode.Lower

/-!
# What a registry says after a history of registrations

A registry is asked for tags, families and aliases long after the registrations were made. Its
answers depend on their history alone, and there on the last registration that has to do with the
question (`register_follows_history`).
-/

namespace SourceText

/-- A registration: a language, its family, and other identifiers of it. -/
structure Registration (ι : Type := String) where
  language : ι
  family : Family
  aliases : List ι := []

section Generic

variable {ι : Type} [Identifier ι]

namespace Registration

/-- The tag under which the language is registered. -/
def tag (c : Registration ι) : ι := languageKey c.language

/-- The keys that are mentioned: that of the language and those of its aliases. -/
def keys (c : Registration ι) : List ι := c.tag :: c.aliases.map languageKey

/-- Whether a registration is the last of a history for which a condition holds. -/
def IsLast (condition : Registration ι → Prop) (history : List (Registration ι))
    (c : Registration ι) : Prop :=
  ∃ earlier later, history = earlier ++ c :: later ∧ condition c ∧ ∀ d ∈ later, ¬ condition d

section Last

omit [Identifier ι]

variable {condition : Registration ι → Prop} {history : List (Registration ι)} {c : Registration ι}

theorem find?_reverse_eq_some_iff [DecidablePred condition] :
    history.reverse.find? (condition ·) = some c ↔ IsLast condition history c := by
  rw [List.find?_eq_some_iff_append]
  constructor
  · rintro ⟨hc, before, after, hhistory, hbefore⟩
    refine ⟨after.reverse, before.reverse, ?_, of_decide_eq_true hc, fun d hd => ?_⟩
    · rw [← List.reverse_reverse history, hhistory]
      simp
    · simpa using hbefore d (List.mem_reverse.mp hd)
  · rintro ⟨earlier, later, rfl, hc, hlater⟩
    exact ⟨decide_eq_true hc, later.reverse, earlier.reverse, by simp,
      fun d hd => by simpa using hlater d (List.mem_reverse.mp hd)⟩

theorem exists_isLast (h : ∃ c ∈ history, condition c) : ∃ c, IsLast condition history c := by
  classical
  obtain ⟨c, hmem, hc⟩ := h
  have hfound : (history.reverse.find? (condition ·)).isSome = true :=
    List.find?_isSome.mpr ⟨c, List.mem_reverse.mpr hmem, decide_eq_true hc⟩
  obtain ⟨d, hd⟩ := Option.isSome_iff_exists.mp hfound
  exact ⟨d, find?_reverse_eq_some_iff.mp hd⟩

theorem IsLast.mem (h : IsLast condition history c) : c ∈ history := by
  obtain ⟨earlier, later, rfl, -, -⟩ := h
  exact List.mem_append_right _ List.mem_cons_self

theorem IsLast.holds (h : IsLast condition history c) : condition c := by
  obtain ⟨_, _, -, hc, -⟩ := h
  exact hc

end Last

end Registration

open Registration

namespace Registry

variable [DecidableEq ι]

/-- The registry after one more registration. -/
def take (r : Registry ι) (c : Registration ι) : Registry ι :=
  r.register c.language c.family c.aliases

/-- The registry after a history of registrations. -/
def ofHistory (history : List (Registration ι)) : Registry ι := history.foldl take empty

/-! ### Looking up -/

section LookUp

omit [Identifier ι]

theorem mem_keys_iff {α : Type} {key : ι} {pairs : List (ι × α)} :
    key ∈ pairs.map (·.1) ↔ (pairs.lookup key).isSome = true := by
  rw [List.lookup_isSome_iff]
  simp only [List.mem_map, beq_iff_eq, eq_comm (a := key)]

theorem lookup_map_const (keys : List ι) (tag key : ι) :
    (keys.map fun k => (k, tag)).lookup key = if key ∈ keys then some tag else none := by
  induction keys with
  | nil => rfl
  | cons k keys ih =>
    rw [List.map_cons, List.lookup_cons]
    by_cases hk : key = k
    · simp [hk]
    · simp [beq_eq_false_iff_ne.mpr hk, hk, ih]

end LookUp

omit [DecidableEq ι] in
theorem tags_take (r : Registry ι) (c : Registration ι) :
    (r.take c).tags = (c.keys.reverse.map fun key => (key, c.tag)) ++ r.tags := by
  simp [take, register, Registration.keys, Registration.tag, List.map_reverse]

theorem lookup_tags_take (r : Registry ι) (c : Registration ι) (key : ι) :
    (r.take c).tags.lookup key = if key ∈ c.keys then some c.tag else r.tags.lookup key := by
  rw [tags_take, List.lookup_append, lookup_map_const]
  by_cases hkey : key ∈ c.keys <;> simp [hkey]

theorem lookup_families_take (r : Registry ι) (c : Registration ι) (tag : ι) :
    (r.take c).families.lookup tag
      = if c.tag = tag then some c.family else r.families.lookup tag := by
  rw [take, register, List.lookup_cons, ← Registration.tag]
  by_cases htag : c.tag = tag
  · rw [htag, beq_self_eq_true, if_pos rfl]
  · rw [beq_eq_false_iff_ne.mpr (Ne.symm htag), if_neg htag]

omit [DecidableEq ι] in
/-- What the last registration of its kind decides: an answer that every registration of the kind
replaces and that all others leave alone. -/
theorem decided_ofHistory {α : Type} (answer : Registry ι → Option α)
    {condition : Registration ι → Prop} [DecidablePred condition] {given : Registration ι → α}
    (hempty : answer empty = none)
    (htake : ∀ r c, answer (r.take c) = if condition c then some (given c) else answer r)
    (history : List (Registration ι)) :
    answer (ofHistory history) = (history.reverse.find? (condition ·)).map given := by
  induction history using List.reverseRecOn with
  | nil => exact hempty
  | append_singleton history c ih =>
    rw [ofHistory, List.foldl_append, List.foldl_cons, List.foldl_nil, ← ofHistory, htake, ih,
      List.reverse_append, List.reverse_singleton, List.singleton_append, List.find?_cons]
    by_cases hc : condition c
    · rw [if_pos hc, decide_eq_true hc]
      rfl
    · rw [if_neg hc, decide_eq_false hc]

section History

variable {history : List (Registration ι)}

theorem lookup_tags_ofHistory (key : ι) :
    (ofHistory history).tags.lookup key
      = (history.reverse.find? (key ∈ ·.keys)).map Registration.tag :=
  decided_ofHistory (·.tags.lookup key) rfl (fun r c => lookup_tags_take r c key) history

theorem lookup_families_ofHistory (tag : ι) :
    (ofHistory history).families.lookup tag
      = (history.reverse.find? (·.tag = tag)).map Registration.family :=
  decided_ofHistory (·.families.lookup tag) rfl (fun r c => lookup_families_take r c tag) history

theorem lookup_tags_isLast {key : ι} {c : Registration ι}
    (h : IsLast (key ∈ ·.keys) history c) : (ofHistory history).tags.lookup key = some c.tag := by
  rw [lookup_tags_ofHistory, find?_reverse_eq_some_iff.mpr h]
  rfl

theorem lookup_tags_eq_none_iff {key : ι} :
    (ofHistory history).tags.lookup key = none ↔ ∀ c ∈ history, key ∉ c.keys := by
  rw [lookup_tags_ofHistory, Option.map_eq_none_iff, List.find?_eq_none]
  simp only [List.mem_reverse, decide_eq_true_eq]

theorem lookup_families_isLast {tag : ι} {c : Registration ι}
    (h : IsLast (·.tag = tag) history c) :
    (ofHistory history).families.lookup tag = some c.family := by
  rw [lookup_families_ofHistory, find?_reverse_eq_some_iff.mpr h]
  rfl

theorem lookup_families_eq_none_iff {tag : ι} :
    (ofHistory history).families.lookup tag = none ↔ ∀ c ∈ history, c.tag ≠ tag := by
  rw [lookup_families_ofHistory, Option.map_eq_none_iff, List.find?_eq_none]
  simp only [List.mem_reverse, decide_eq_true_eq]

theorem mem_languages_ofHistory (tag : ι) :
    tag ∈ (ofHistory history).languages ↔ ∃ c ∈ history, c.tag = tag := by
  rw [languages, List.mem_eraseDups, mem_keys_iff, Option.isSome_iff_ne_none, Ne,
    lookup_families_eq_none_iff]
  simp only [ne_eq, not_forall, not_not, exists_prop]

end History

/-! ### Answers -/

section Answers

variable (r : Registry ι)

theorem normalize_empty {raw : ι} (h : Identifier.isEmpty (languageKey raw) = true) :
    r.normalize (some raw) = Identifier.unknown := if_pos h

theorem normalize_some {raw : ι} (h : Identifier.isEmpty (languageKey raw) = false) :
    r.normalize (some raw) = (r.tags.lookup (languageKey raw)).getD (languageKey raw) := by
  rw [normalize]
  simp only [h, Bool.false_eq_true, if_false]
  rfl

theorem familyOfTag_of_ne {tag : ι} (h : tag ≠ Identifier.unknown) :
    r.familyOfTag tag = (r.families.lookup tag).getD .other := if_neg h

theorem mem_aliases_iff {language : Option ι} {key : ι} :
    key ∈ r.aliases language
      ↔ key ≠ r.normalize language ∧ r.tags.lookup key = some (r.normalize language) := by
  rw [aliases, List.mem_filter, List.mem_eraseDups, mem_keys_iff, tagOfKey]
  cases r.tags.lookup key with
  | none => simp
  | some tag => simp [and_comm]

end Answers

/-- How a registry answers after a history of registrations. -/
structure Follows (r : Registry ι) (history : List (Registration ι)) : Prop where
  /-- Nothing, and what has an empty key, names no language, whatever was registered. -/
  normalize_missing : r.normalize none = Identifier.unknown
  normalize_empty : ∀ raw, Identifier.isEmpty (languageKey raw) = true →
    r.normalize (some raw) = Identifier.unknown
  /-- An identifier has the tag of the last registration that mentions its key. -/
  normalize_mentioned : ∀ raw c, Identifier.isEmpty (languageKey raw) = false →
    IsLast (languageKey raw ∈ ·.keys) history c → r.normalize (some raw) = c.tag
  normalize_new : ∀ raw, Identifier.isEmpty (languageKey raw) = false →
    (∀ c ∈ history, languageKey raw ∉ c.keys) → r.normalize (some raw) = languageKey raw
  /-- A tag has the family of the last registration under it. -/
  familyOf_unknown : ∀ raw, r.normalize raw = Identifier.unknown → r.familyOf raw = .unknown
  familyOf_registered : ∀ raw c, r.normalize raw ≠ Identifier.unknown →
    IsLast (·.tag = r.normalize raw) history c → r.familyOf raw = c.family
  familyOf_other : ∀ raw, r.normalize raw ≠ Identifier.unknown →
    (∀ c ∈ history, c.tag ≠ r.normalize raw) → r.familyOf raw = .other
  isSupported_iff : ∀ raw, r.isSupported raw = true ↔ ∃ c ∈ history, c.tag = r.normalize raw
  /-- The aliases of a language are the other keys whose last mention has its tag. -/
  mem_aliases : ∀ language key, key ∈ r.aliases language ↔ key ≠ r.normalize language ∧
    ∃ c, IsLast (key ∈ ·.keys) history c ∧ c.tag = r.normalize language

theorem ofHistory_follows (history : List (Registration ι)) :
    (ofHistory history).Follows history := by
  refine ⟨rfl, fun raw h => normalize_empty _ h, ?_, ?_, ?_, ?_, ?_, ?_, ?_⟩
  · intro raw c hraw hc
    rw [normalize_some _ hraw, lookup_tags_isLast hc, Option.getD_some]
  · intro raw hraw hnew
    rw [normalize_some _ hraw, lookup_tags_eq_none_iff.mpr hnew, Option.getD_none]
  · intro raw h
    exact if_pos h
  · intro raw c hraw hc
    rw [familyOf, familyOfTag_of_ne _ hraw, lookup_families_isLast hc, Option.getD_some]
  · intro raw hraw hnew
    rw [familyOf, familyOfTag_of_ne _ hraw, lookup_families_eq_none_iff.mpr hnew,
      Option.getD_none]
  · intro raw
    rw [isSupported, Option.isSome_iff_ne_none, Ne, lookup_families_eq_none_iff]
    simp only [ne_eq, not_forall, not_not, exists_prop]
  · intro language key
    rw [mem_aliases_iff]
    refine and_congr_right fun _ => ⟨fun h => ?_, ?_⟩
    · obtain ⟨c, hc⟩ : ∃ c, IsLast (key ∈ ·.keys) history c := by
        refine exists_isLast (Classical.byContradiction fun hn => ?_)
        rw [lookup_tags_eq_none_iff.mpr fun c hc hkey => hn ⟨c, hc, hkey⟩] at h
        exact absurd h.symm (Option.some_ne_none _)
      exact ⟨c, hc, Option.some.inj ((lookup_tags_isLast hc).symm.trans h)⟩
    · rintro ⟨c, hc, htag⟩
      rw [lookup_tags_isLast hc, htag]

end Registry

end Generic

/-! ### Strings -/

/-- The registrations of the standard languages. -/
def Registration.standard : List Registration :=
  standardLanguages.map fun (language, family, aliases) => ⟨language, family, aliases⟩

theorem languageKey_eq_empty_iff (raw : String) :
    languageKey raw = "" ↔ Text.isAllBlank raw.toList = true := by
  have hkey : languageKey raw = String.ofList (Unicode.lower (Text.trim raw.toList)) := rfl
  rw [hkey, String.ofList_eq_empty_iff, Unicode.lower_eq_nil_iff]
  exact Text.trim_eq_nil_iff raw.toList

/-- A string of blanks alone has an empty key, and no other one has. -/
theorem isEmpty_languageKey_iff (raw : String) :
    Identifier.isEmpty (languageKey raw) = true ↔ Text.isAllBlank raw.toList = true :=
  String.isEmpty_iff.trans (languageKey_eq_empty_iff raw)

namespace Registry

theorem foldl_take_standard (history : List Registration) :
    history.foldl take standard = ofHistory (Registration.standard ++ history) := by
  rw [ofHistory, List.foldl_append, Registration.standard, List.foldl_map]
  rfl

/-- A registry answers from its history, whether this began with nothing or with the standard
languages. The strings that name no language are the blank ones. -/
theorem register_follows_history (history : List Registration) :
    (history.foldl take empty).Follows history ∧
      (history.foldl take standard).Follows (Registration.standard ++ history) ∧
      ∀ raw : String, Identifier.isEmpty (languageKey raw) = true
        ↔ Text.isAllBlank raw.toList = true := by
  refine ⟨ofHistory_follows history, ?_, isEmpty_languageKey_iff⟩
  rw [foldl_take_standard]
  exact ofHistory_follows _

/-- An alias can be taken from a standard language; the language stays. -/
example :
    (standard.take ⟨"Basic", .other, [" JS "]⟩).normalize (some "js") = "basic" ∧
      (standard.take ⟨"Basic", .other, [" JS "]⟩).normalize (some "JavaScript") = "javascript" := by
  decide +kernel

end Registry

end SourceText
