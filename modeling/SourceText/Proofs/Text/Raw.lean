import SourceText.RawText

/-!
# Texts with halves of pairs, and without

A text of characters is the same text with room for halves of pairs, and is got back from it
(`text?_eq_some_iff`). What stands before the first half can be taken as characters, and put in
front again.
-/

namespace SourceText

namespace Text

theorem raw_injective {a b : Text} (h : a.raw = b.raw) : a = b :=
  (List.map_inj_right fun _ _ => Point.char.inj).mp h

theorem raw_eq_nil_iff {text : Text} : text.raw = [] ↔ text = [] := List.map_eq_nil_iff

theorem isAllBlank_raw (text : Text) : text.raw.isAllBlank = text.isAllBlank := List.all_map

end Text

namespace RawText

theorem chars_raw (text : Text) : text.raw.chars = text := by
  induction text with
  | nil => rfl
  | cons c text ih => exact congrArg (c :: ·) ih

theorem all_isChar_raw (text : Text) : text.raw.all Point.isChar = true := by
  rw [Text.raw, List.all_map]
  exact List.all_eq_true.mpr fun _ _ => rfl

theorem text?_raw (text : Text) : text.raw.text? = some text := by
  rw [text?, if_pos (all_isChar_raw text), chars_raw]

theorem raw_chars {raw : RawText} (h : raw.all Point.isChar = true) : raw.chars.raw = raw := by
  induction raw with
  | nil => rfl
  | cons point raw ih =>
    rw [List.all_cons, Bool.and_eq_true] at h
    cases point with
    | char c => exact congrArg (Point.char c :: ·) (ih h.2)
    | half offset => exact absurd h.1 Bool.false_ne_true

/-- A text has no halves of pairs in it just when it is a text of characters. -/
theorem text?_eq_some_iff {raw : RawText} {text : Text} :
    raw.text? = some text ↔ raw = text.raw := by
  constructor
  · intro h
    rw [text?] at h
    split at h
    · next hall => rw [← Option.some.inj h, raw_chars hall]
    · exact nomatch h
  · rintro rfl
    exact text?_raw text

theorem shown_raw (text : Text) : text.raw.shown = text := by
  induction text with
  | nil => rfl
  | cons c text ih => exact congrArg (c :: ·) ih

theorem length_shown (raw : RawText) : raw.shown.length = raw.length := List.length_map _

/-! ### What stands before the first half -/

theorem leading_append (text : Text) (rest : RawText) :
    (text.raw ++ rest).leading = text ++ rest.leading := by
  induction text with
  | nil => rfl
  | cons c text ih => exact congrArg (c :: ·) ih

theorem afterLeading_append (text : Text) (rest : RawText) :
    (text.raw ++ rest).afterLeading = rest.afterLeading := by
  induction text with
  | nil => rfl
  | cons c text ih => exact ih

theorem leading_append_afterLeading (raw : RawText) :
    raw.leading.raw ++ raw.afterLeading = raw := by
  induction raw with
  | nil => rfl
  | cons point raw ih =>
    cases point with
    | char c => exact congrArg (Point.char c :: ·) ih
    | half offset => rfl

theorem exists_cons_of_leading {raw : RawText} {c : Char} {text : Text}
    (h : raw.leading = c :: text) :
    ∃ tail, raw = .char c :: tail := by
  rw [← leading_append_afterLeading raw, h]
  exact ⟨_, rfl⟩

end RawText

end SourceText
