import Mathlib.Data.List.Basic
import Mathlib.Data.List.TakeWhile
import SourceText.Text

/-!
# Blanks at the ends of a text

Trimming takes blanks off the ends of a text and nothing else. What is left either is empty or is
solid: it starts and ends with characters that are not blank.
-/

namespace SourceText.Text

/-- A text that starts and ends with a character that is not blank. -/
structure Solid (t : Text) : Prop where
  head : ∃ c ∈ t.head?, isBlank c = false
  last : ∃ c ∈ t.getLast?, isBlank c = false

/-- The blanks that trimming takes off the end. -/
def endBlanks (t : Text) : Text := t.drop t.trimRight.length

/-! ### The end of a text -/

theorem isAllBlank_append {a b : Text} (ha : a.isAllBlank = true) (hb : b.isAllBlank = true) :
    (a ++ b).isAllBlank = true := by
  rw [isAllBlank, List.all_append, Bool.and_eq_true]
  exact ⟨ha, hb⟩

theorem trimRight_of_isAllBlank {t : Text} (h : t.isAllBlank = true) : t.trimRight = [] := by
  induction t with
  | nil => rfl
  | cons c rest ih =>
    simp only [isAllBlank, List.all_cons, Bool.and_eq_true] at h
    rw [trimRight, ih h.2]
    simp only [h.1, if_true]

theorem trimRight_cons_of_solid {c : Char} (hc : isBlank c = false) (rest : Text) :
    trimRight (c :: rest) = c :: trimRight rest := by
  rw [trimRight]
  cases trimRight rest with
  | nil => simp only [hc, Bool.false_eq_true, if_false]
  | cons d kept => rfl

theorem trimRight_append_of_isAllBlank (t : Text) {blanks : Text}
    (h : blanks.isAllBlank = true) : trimRight (t ++ blanks) = trimRight t := by
  induction t with
  | nil => rw [List.nil_append, trimRight_of_isAllBlank h, trimRight]
  | cons c rest ih => rw [List.cons_append, trimRight, trimRight, ih]

theorem trimRight_of_last {t : Text} (h : ∃ c ∈ t.getLast?, isBlank c = false) :
    t.trimRight = t := by
  induction t with
  | nil => rfl
  | cons c rest ih =>
    cases rest with
    | nil =>
      obtain ⟨d, hd, hblank⟩ := h
      obtain rfl : c = d := by simpa using hd
      rw [trimRight_cons_of_solid hblank, trimRight]
    | cons d more =>
      rw [List.getLast?_cons_cons] at h
      rw [trimRight, ih h]

theorem exists_trimRight_append (t : Text) :
    ∃ blanks : Text, blanks.isAllBlank = true ∧ t = t.trimRight ++ blanks := by
  induction t with
  | nil => exact ⟨[], rfl, rfl⟩
  | cons c rest ih =>
    obtain ⟨blanks, hblanks, hrest⟩ := ih
    rw [trimRight]
    cases htrim : trimRight rest with
    | nil =>
      rw [htrim, List.nil_append] at hrest
      subst hrest
      cases hc : isBlank c with
      | true => exact ⟨c :: rest, by simpa [isAllBlank, hc] using hblanks, by simp⟩
      | false => exact ⟨rest, hblanks, by simp⟩
    | cons d kept =>
      rw [htrim] at hrest
      exact ⟨blanks, hblanks, congrArg (c :: ·) hrest⟩

theorem trimRight_cons (c : Char) (rest : Text) :
    trimRight (c :: rest)
      = if isBlank c && rest.isAllBlank then [] else c :: trimRight rest := by
  cases hc : isBlank c with
  | false => rw [trimRight_cons_of_solid hc, Bool.false_and, if_neg Bool.false_ne_true]
  | true =>
    rw [Bool.true_and, trimRight]
    cases hrest : rest.isAllBlank with
    | true => rw [trimRight_of_isAllBlank hrest, if_pos rfl, if_pos hc]
    | false =>
      cases htrim : trimRight rest with
      | cons d kept => rfl
      | nil =>
        obtain ⟨blanks, hblanks, happend⟩ := exists_trimRight_append rest
        rw [htrim, List.nil_append] at happend
        rw [happend, hblanks] at hrest
        exact absurd hrest Bool.noConfusion

theorem trimRight_append_endBlanks (t : Text) : t.trimRight ++ t.endBlanks = t := by
  obtain ⟨blanks, -, ht⟩ := exists_trimRight_append t
  have hdrop : t.endBlanks = blanks :=
    calc t.endBlanks = (t.trimRight ++ blanks).drop t.trimRight.length := by rw [← ht, endBlanks]
      _ = blanks := List.drop_left
  rw [hdrop, ← ht]

theorem isAllBlank_endBlanks (t : Text) : t.endBlanks.isAllBlank = true := by
  obtain ⟨blanks, hblanks, ht⟩ := exists_trimRight_append t
  have hsame : t.trimRight ++ t.endBlanks = t.trimRight ++ blanks :=
    (trimRight_append_endBlanks t).trans ht
  rw [List.append_cancel_left hsame]
  exact hblanks

theorem endBlanks_of_last {t : Text} (h : ∃ c ∈ t.getLast?, isBlank c = false) :
    t.endBlanks = [] := by
  rw [endBlanks, trimRight_of_last h, List.drop_length]

theorem trimRight_trimRight (t : Text) : t.trimRight.trimRight = t.trimRight := by
  have h := trimRight_append_of_isAllBlank t.trimRight (isAllBlank_endBlanks t)
  rw [trimRight_append_endBlanks] at h
  exact h.symm

theorem last_trimRight {t : Text} (h : t.trimRight ≠ []) :
    ∃ c ∈ t.trimRight.getLast?, isBlank c = false := by
  induction t with
  | nil => exact absurd rfl h
  | cons c rest ih =>
    rw [trimRight] at h ⊢
    cases htrim : trimRight rest with
    | nil =>
      rw [htrim] at h
      cases hc : isBlank c with
      | true => simp [hc] at h
      | false => exact ⟨c, by simp, hc⟩
    | cons d kept =>
      rw [htrim] at ih
      obtain ⟨e, he, hblank⟩ := ih (List.cons_ne_nil d kept)
      exact ⟨e, by simpa [List.getLast?_cons_cons] using he, hblank⟩

/-! ### Solid texts -/

theorem Solid.ne_nil {t : Text} (h : Solid t) : t ≠ [] := by
  rintro rfl
  obtain ⟨c, hc, -⟩ := h.head
  exact absurd hc (by simp)

theorem solid_singleton {c : Char} (h : isBlank c = false) : Solid [c] :=
  ⟨⟨c, rfl, h⟩, ⟨c, rfl, h⟩⟩

theorem Solid.append {a b : Text} (ha : Solid a) (between : Text) (hb : Solid b) :
    Solid (a ++ between ++ b) := by
  obtain ⟨c, hc, hchead⟩ := ha.head
  obtain ⟨d, hd, hdlast⟩ := hb.last
  refine ⟨⟨c, ?_, hchead⟩, ⟨d, ?_, hdlast⟩⟩
  · rw [List.append_assoc, List.head?_append, Option.mem_def.mp hc]
    rfl
  · rw [List.getLast?_append, Option.mem_def.mp hd]
    rfl

theorem solid_trimRight {c : Char} (hc : isBlank c = false) (rest : Text) :
    Solid (trimRight (c :: rest)) := by
  have hcons := trimRight_cons_of_solid hc rest
  exact ⟨⟨c, by rw [hcons]; rfl, hc⟩, last_trimRight (by rw [hcons]; exact List.cons_ne_nil _ _)⟩

theorem trim_of_isAllBlank {t : Text} (h : t.isAllBlank = true) : t.trim = [] := by
  have hleft : t.trimLeft = [] := List.dropWhile_eq_nil_iff.mpr (List.all_eq_true.mp h)
  rw [trim, hleft, trimRight]

theorem isBlank_of_trimLeft_eq_cons {t rest : Text} {c : Char} (h : t.trimLeft = c :: rest) :
    isBlank c = false := by
  have hhead := List.head?_dropWhile_not isBlank t
  rwa [← trimLeft, h] at hhead

theorem exists_trim_append (t : Text) :
    ∃ before after : Text, before.isAllBlank = true ∧ after.isAllBlank = true ∧
      t = before ++ t.trim ++ after := by
  obtain ⟨after, hafter, hleft⟩ := exists_trimRight_append t.trimLeft
  refine ⟨t.takeWhile isBlank, after, List.all_eq_true.mpr fun c hc => ?_, hafter, ?_⟩
  · exact List.mem_takeWhile_imp hc
  · rw [List.append_assoc, trim, ← hleft, trimLeft, List.takeWhile_append_dropWhile]

theorem trim_eq_nil_iff (t : Text) : t.trim = [] ↔ t.isAllBlank = true := by
  refine ⟨fun h => ?_, trim_of_isAllBlank⟩
  cases hleft : t.trimLeft with
  | nil => exact List.all_eq_true.mpr (List.dropWhile_eq_nil_iff.mp hleft)
  | cons c rest =>
    rw [trim, hleft, trimRight_cons_of_solid (isBlank_of_trimLeft_eq_cons hleft)] at h
    exact absurd h (List.cons_ne_nil _ _)

theorem trim_of_solid {before content after : Text} (hbefore : before.isAllBlank = true)
    (hcontent : Solid content) (hafter : after.isAllBlank = true) :
    trim (before ++ content ++ after) = content := by
  have hleft : trimLeft (before ++ content ++ after) = content ++ after := by
    obtain ⟨c, hc, hblank⟩ := hcontent.head
    rw [trimLeft, List.append_assoc, List.dropWhile_append_of_pos (List.all_eq_true.mp hbefore)]
    rw [List.eq_cons_of_mem_head? hc]
    simp only [List.cons_append, List.dropWhile_cons, hblank, Bool.false_eq_true, if_false]
  rw [trim, hleft, trimRight_append_of_isAllBlank content hafter, trimRight_of_last hcontent.last]

theorem trim_append_of_ends {t : Text} (ht : t = [] ∨ Solid t) {blanks : Text}
    (hblanks : blanks.isAllBlank = true) : trim (t ++ blanks) = t := by
  rcases ht with rfl | ht
  · exact trim_of_isAllBlank hblanks
  · have hnone : isAllBlank [] = true := rfl
    have htrim := trim_of_solid hnone ht hblanks
    rwa [List.nil_append] at htrim

theorem trim_eq_nil_or_solid (t : Text) : t.trim = [] ∨ Solid t.trim := by
  cases hleft : t.trimLeft with
  | nil =>
    left
    rw [trim, hleft, trimRight]
  | cons c rest =>
    right
    rw [trim, hleft]
    exact solid_trimRight (isBlank_of_trimLeft_eq_cons hleft) rest

/-! ### Joined lines -/

theorem join_concat (separator line : Text) {lines : List Text} (h : lines ≠ []) :
    join separator (lines ++ [line]) = join separator lines ++ separator ++ line := by
  induction lines with
  | nil => exact absurd rfl h
  | cons first more ih =>
    cases more with
    | nil => rfl
    | cons second more =>
      show first ++ separator ++ join separator (second :: more ++ [line]) = _
      rw [ih (List.cons_ne_nil second more)]
      simp only [join, List.append_assoc]

theorem join_concat_append (separator line more : Text) (lines : List Text) :
    join separator (lines ++ [line ++ more]) = join separator (lines ++ [line]) ++ more := by
  by_cases h : lines = []
  · subst h
    rfl
  · rw [join_concat separator _ h, join_concat separator _ h]
    simp only [List.append_assoc]

theorem dropWhile_of_head {p : Char → Bool} {t : Text} (h : ∀ c ∈ t.head?, p c = false) :
    t.dropWhile p = t := by
  cases t with
  | nil => rfl
  | cons c rest => simp [h c rfl]

end SourceText.Text
