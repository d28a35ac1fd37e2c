import Mathlib.Data.List.Nodup
import SourceText.Proofs.Json.Number
import SourceText.Proofs.Json.Quoted
import SourceText.Proofs.Success

/-!
# The values that JSON texts have

Whatever is read has integers of no more digits than may be read, numbers that are kept as they
should be, and objects in which each name stands once (`admitted_of_readValue`).
-/

namespace SourceText.Json

/-- The values that are read, and are read again where characters outside ASCII are escaped, or are
not. -/
inductive Admitted (asciiOnly : Bool) : Json → Prop
  | null : Admitted asciiOnly .null
  | bool (b : Bool) : Admitted asciiOnly (.bool b)
  | integer {n : ℤ} (h : n.natAbs < 10 ^ Number.maxDigits) : Admitted asciiOnly (.integer n)
  | number {x : Binary64} (h : x.WellFormed) : Admitted asciiOnly (.number x)
  | string {s : RawText} (h : Legible asciiOnly s) : Admitted asciiOnly (.string s)
  | array {elements : List Json} (h : ∀ element ∈ elements, Admitted asciiOnly element) :
    Admitted asciiOnly (.array elements)
  | object {members : List (RawText × Json)} (hnames : (members.map (·.1)).Nodup)
    (hlegible : ∀ m ∈ members, Legible asciiOnly m.1)
    (h : ∀ m ∈ members, Admitted asciiOnly m.2) : Admitted asciiOnly (.object members)

/-! ### Merged members -/

theorem mem_insertMember {name : RawText} {value : Json} {merged : List (RawText × Json)}
    {m : RawText × Json} (h : m ∈ insertMember name value merged) :
    m ∈ merged ∨ m = (name, value) := by
  induction merged with
  | nil => exact .inr (List.mem_singleton.mp h)
  | cons first merged ih =>
    obtain ⟨n, v⟩ := first
    rw [insertMember] at h
    split at h
    · next hname =>
      rcases List.mem_cons.mp h with rfl | h
      · exact .inr (by rw [hname])
      · exact .inl (List.mem_cons_of_mem _ h)
    · rcases List.mem_cons.mp h with rfl | h
      · exact .inl List.mem_cons_self
      · exact (ih h).imp_left (List.mem_cons_of_mem _)

theorem names_insertMember (name : RawText) (value : Json) (merged : List (RawText × Json)) :
    (insertMember name value merged).map (·.1)
      = if name ∈ merged.map (·.1) then merged.map (·.1) else merged.map (·.1) ++ [name] := by
  induction merged with
  | nil => rfl
  | cons first merged ih =>
    obtain ⟨n, v⟩ := first
    rw [insertMember]
    by_cases hname : n = name
    · simp [hname]
    · simp only [if_neg hname, List.map_cons, ih, List.mem_cons, Ne.symm hname, false_or]
      split <;> rfl

theorem nodup_insertMember {name : RawText} {value : Json} {merged : List (RawText × Json)}
    (h : (merged.map (·.1)).Nodup) : ((insertMember name value merged).map (·.1)).Nodup := by
  rw [names_insertMember]
  split
  · exact h
  · next hnew => exact List.concat_eq_append ▸ h.concat hnew

theorem insertMember_new {name : RawText} {value : Json} {merged : List (RawText × Json)}
    (h : name ∉ merged.map (·.1)) :
    insertMember name value merged = merged ++ [(name, value)] := by
  induction merged with
  | nil => rfl
  | cons first merged ih =>
    obtain ⟨n, v⟩ := first
    rw [List.map_cons, List.mem_cons, not_or] at h
    rw [insertMember, if_neg (Ne.symm h.1), ih h.2]
    rfl

theorem mergeMembers_concat (members : List (RawText × Json)) (m : RawText × Json) :
    mergeMembers (members ++ [m]) = insertMember m.1 m.2 (mergeMembers members) := by
  rw [mergeMembers, List.foldl_append]
  rfl

theorem mem_mergeMembers {members : List (RawText × Json)} {m : RawText × Json}
    (h : m ∈ mergeMembers members) : m ∈ members := by
  induction members using List.reverseRecOn with
  | nil => exact h
  | append_singleton members last ih =>
    rw [mergeMembers_concat] at h
    rcases mem_insertMember h with h | rfl
    · exact List.mem_append_left _ (ih h)
    · exact List.mem_append_right _ List.mem_cons_self

theorem nodup_mergeMembers (members : List (RawText × Json)) :
    ((mergeMembers members).map (·.1)).Nodup := by
  induction members using List.reverseRecOn with
  | nil => exact List.nodup_nil
  | append_singleton members last ih =>
    rw [mergeMembers_concat]
    exact nodup_insertMember ih

theorem mergeMembers_of_nodup {members : List (RawText × Json)} (h : (members.map (·.1)).Nodup) :
    mergeMembers members = members := by
  induction members using List.reverseRecOn with
  | nil => rfl
  | append_singleton members last ih =>
    rw [List.map_append, List.map_singleton, List.nodup_append] at h
    have hnew : last.1 ∉ members.map (·.1) := fun hmem =>
      h.2.2 _ hmem _ List.mem_cons_self rfl
    rw [mergeMembers_concat, ih h.1, insertMember_new hnew]

/-! ### Scalars -/

theorem ofDigitChars_lt {ds : Text} (h : Digits ds) :
    Nat.ofDigitChars 10 ds 0 < 10 ^ ds.length := by
  induction ds with
  | nil => exact Nat.one_pos
  | cons c ds ih =>
    have hc : c.toNat - '0'.toNat ≤ 9 := by
      have hdigit := h c List.mem_cons_self
      simp only [Char.isDigit, Bool.and_eq_true, decide_eq_true_eq] at hdigit
      have := UInt32.le_iff_toNat_le.mp hdigit.2
      exact Nat.sub_le_of_le_add this
    have htail := ih fun d hd => h d (List.mem_cons_of_mem c hd)
    rw [Nat.ofDigitChars_cons, Nat.ofDigitChars_eq_ofDigitChars_zero, List.length_cons,
      Nat.pow_succ, Nat.mul_zero, Nat.zero_add]
    have hleading := Nat.mul_le_mul_left (10 ^ ds.length) hc
    omega

theorem digits_of_wholePart {text ds rest : Text} (h : wholePart text = (ds, rest)) :
    Digits ds := by
  rw [wholePart.eq_def] at h
  split at h
  · rw [← (Prod.mk.inj h).1]
    exact digits_zeros 1
  · rw [spanAsciiDigits, List.span_eq_takeWhile_dropWhile] at h
    rw [← (Prod.mk.inj h).1]
    exact fun c hc => List.all_eq_true.mp List.all_takeWhile c hc

theorem admitted_of_readNumber {text rest : Text} {value : Json}
    (h : readNumber text = .ok (value, rest)) : Admitted false value := by
  rw [readNumber.eq_def] at h
  dsimp only at h
  split at h
  · exact nomatch h
  next whole afterWhole _ hwhole =>
  have hbound : ¬ Number.maxDigits < whole.length →
      Number.ofDigits (Number.spanDigits whole).1 < 10 ^ Number.maxDigits := by
    intro hshort
    have hdigits := digits_of_wholePart hwhole
    rw [ofDigits_of_digits hdigits]
    exact (ofDigitChars_lt hdigits).trans_le (Nat.pow_le_pow_right (by decide) (not_lt.mp hshort))
  split_ifs at h with _ hlong <;> obtain ⟨rfl, -⟩ := Prod.mk.inj (Except.ok.inj h)
  · exact .integer (by rw [Int.natAbs_neg, Int.natAbs_natCast]; exact hbound hlong)
  · exact .integer (by rw [Int.natAbs_natCast]; exact hbound hlong)
  · exact .number (Binary64.wellFormed_ofDecimal _ _ _)

theorem admitted_of_readScalar {text rest : Text} {value : Json}
    (h : readScalar text = .ok (value, rest)) : Admitted false value := by
  rw [readScalar] at h
  split at h
  · next word found hfind =>
    obtain ⟨rfl, -⟩ := Prod.mk.inj (Except.ok.inj h)
    have hwords : ∀ w ∈ words, Admitted false w.2 := by
      simp only [words, List.forall_mem_cons]
      exact ⟨.null, .bool true, .bool false, .number trivial, .number trivial, .number trivial,
        List.forall_mem_nil _⟩
    exact hwords _ (List.mem_of_find?_eq_some hfind)
  · exact admitted_of_readNumber h

theorem admitted_of_readPlain {text rest : RawText} {value : Json}
    (h : readPlain text = .ok (value, rest)) : Admitted false value := by
  rw [readPlain] at h
  split at h
  · next found after hread =>
    rw [← (Prod.mk.inj (Except.ok.inj h)).1]
    exact admitted_of_readScalar hread
  · exact nomatch h
  · exact nomatch h

/-! ### Values -/

section Step

variable {fuel : ℕ}
  (hvalue : ∀ text value rest, readValue fuel text = .ok (value, rest) → Admitted false value)
  (helements : ∀ text elements rest, readElements fuel text = .ok (elements, rest) →
    ∀ element ∈ elements, Admitted false element)
  (hmembers : ∀ text members rest, readMembers fuel text = .ok (members, rest) →
    ∀ m ∈ members, Admitted false m.2)

include helements hmembers in
theorem admitted_of_readValue_succ {text rest : RawText} {value : Json}
    (h : readValue (fuel + 1) text = .ok (value, rest)) : Admitted false value := by
  rw [readValue.eq_def] at h
  dsimp only at h
  split at h
  · exact nomatch h
  · obtain ⟨⟨s, tail⟩, -, heq⟩ := exists_of_map_eq_ok h
    rw [← (Prod.mk.inj heq).1]
    exact .string (legible_false s)
  · split at h
    · rw [← (Prod.mk.inj (Except.ok.inj h)).1]
      exact .object List.nodup_nil (fun _ hm => nomatch hm) fun _ hm => nomatch hm
    · obtain ⟨⟨members, tail⟩, hread, heq⟩ := exists_of_map_eq_ok h
      rw [← (Prod.mk.inj heq).1]
      exact .object (nodup_mergeMembers members) (fun m _ => legible_false m.1) fun m hm =>
        hmembers _ _ _ hread m (mem_mergeMembers hm)
  · split at h
    · rw [← (Prod.mk.inj (Except.ok.inj h)).1]
      exact .array fun _ hm => nomatch hm
    · obtain ⟨⟨elements, tail⟩, hread, heq⟩ := exists_of_map_eq_ok h
      rw [← (Prod.mk.inj heq).1]
      exact .array (helements _ _ _ hread)
  · exact admitted_of_readPlain h

include hvalue helements in
theorem admitted_of_readElements_succ {text rest : RawText} {elements : List Json}
    (h : readElements (fuel + 1) text = .ok (elements, rest)) :
    ∀ element ∈ elements, Admitted false element := by
  rw [readElements] at h
  split at h
  · exact nomatch h
  next first afterFirst hfirst =>
  have hadmitted := hvalue _ _ _ hfirst
  split at h
  · rw [← (Prod.mk.inj (Except.ok.inj h)).1]
    exact List.forall_mem_cons.mpr ⟨hadmitted, fun _ hm => nomatch hm⟩
  · obtain ⟨⟨others, tail⟩, hread, heq⟩ := exists_of_map_eq_ok h
    rw [← (Prod.mk.inj heq).1]
    exact List.forall_mem_cons.mpr ⟨hadmitted, helements _ _ _ hread⟩
  · exact nomatch h

include hvalue hmembers in
theorem admitted_of_readMembers_succ {text rest : RawText} {members : List (RawText × Json)}
    (h : readMembers (fuel + 1) text = .ok (members, rest)) : ∀ m ∈ members, Admitted false m.2 := by
  rw [readMembers.eq_def] at h
  dsimp only at h
  split at h
  · split at h
    · exact nomatch h
    next name afterName hname =>
    split at h
    · split at h
      · exact nomatch h
      next value afterValue hread =>
      have hadmitted := hvalue _ _ _ hread
      split at h
      · rw [← (Prod.mk.inj (Except.ok.inj h)).1]
        exact List.forall_mem_cons.mpr ⟨hadmitted, fun _ hm => nomatch hm⟩
      · obtain ⟨⟨others, tail⟩, hread, heq⟩ := exists_of_map_eq_ok h
        rw [← (Prod.mk.inj heq).1]
        exact List.forall_mem_cons.mpr ⟨hadmitted, hmembers _ _ _ hread⟩
      · exact nomatch h
    · exact nomatch h
  · exact nomatch h

end Step

theorem admitted_of_fuel (fuel : ℕ) :
    (∀ text value rest, readValue fuel text = .ok (value, rest) → Admitted false value) ∧
    (∀ text elements rest, readElements fuel text = .ok (elements, rest) →
      ∀ element ∈ elements, Admitted false element) ∧
    (∀ text members rest, readMembers fuel text = .ok (members, rest) →
      ∀ m ∈ members, Admitted false m.2) := by
  induction fuel with
  | zero => exact ⟨fun _ _ _ h => (nomatch h), fun _ _ _ h => (nomatch h), fun _ _ _ h => nomatch h⟩
  | succ fuel ih =>
    obtain ⟨hvalue, helements, hmembers⟩ := ih
    exact ⟨fun _ _ _ => admitted_of_readValue_succ helements hmembers,
      fun _ _ _ => admitted_of_readElements_succ hvalue helements,
      fun _ _ _ => admitted_of_readMembers_succ hvalue hmembers⟩

/-- Whatever a text is read as is admitted. -/
theorem admitted_of_read {text : RawText} {value : Json} (h : read text = .ok value) :
    Admitted false value := by
  have hdocument : readDocument text = .ok value := by
    rw [read] at h
    split at h
    · next found hfound => rw [hfound, Except.ok.inj h]
    · exact nomatch h
    · exact nomatch h
  rw [readDocument.eq_def] at hdocument
  split at hdocument
  · exact nomatch hdocument
  · cases hread : readValue (2 * text.length + 2) (skipSpace text) with
    | error e =>
      rw [hread] at hdocument
      exact nomatch hdocument
    | ok found =>
      rw [hread] at hdocument
      obtain ⟨first, rest⟩ := found
      simp only [bind, Except.bind] at hdocument
      have hvalue : first = value := by
        split at hdocument
        · exact Except.ok.inj hdocument
        · exact nomatch hdocument
      exact hvalue ▸ (admitted_of_fuel _).1 _ _ _ hread

end SourceText.Json
