import Mathlib.Tactic.SplitIfs
import SourceText.Json.Reader
import SourceText.Json.Writer
import SourceText.Proofs.Text.Hexadecimal
import SourceText.Proofs.Text.Raw

/-!
# Strings in JSON texts

A string is read back from its quoted text, code point by code point (`readString_written`). A
character above the first plane is escaped by two code units, which are read in one step. For that
reason two halves of pairs that are escaped one after the other would come back as a character, and
only the halves that are written as they are come back as themselves.
-/

namespace SourceText.Json

-- Powers are those of the core library whatever else is imported.
attribute [local instance (high)] instPowNat

/-- Whether a string can be read back where characters outside ASCII are escaped, or are not. -/
def Legible (asciiOnly : Bool) (s : RawText) : Prop :=
  asciiOnly = true → ∃ text : Text, s = text.raw

theorem legible_false (s : RawText) : Legible false s := fun h => (nomatch h)

theorem legible_raw (asciiOnly : Bool) (text : Text) : Legible asciiOnly text.raw :=
  fun _ => ⟨text, rfl⟩

theorem Legible.tail {asciiOnly : Bool} {point : Point} {s : RawText}
    (h : Legible asciiOnly (point :: s)) : Legible asciiOnly s := by
  intro hascii
  obtain ⟨text, htext⟩ := h hascii
  cases text with
  | nil => exact nomatch htext
  | cons c text => exact ⟨text, (List.cons.inj htext).2⟩

theorem Legible.eq_false {asciiOnly : Bool} {offset : Fin 0x800} {s : RawText}
    (h : Legible asciiOnly (.half offset :: s)) : asciiOnly = false := by
  refine Bool.eq_false_iff.mpr fun hascii => ?_
  obtain ⟨text, htext⟩ := h hascii
  cases text with
  | nil => exact nomatch htext
  | cons c text => exact nomatch (List.cons.inj htext).1

theorem hexUnit?_hexDigits {n : Nat} (hn : n < 0x10000) (next : Point) (rest : RawText) :
    hexUnit? (Text.raw (Text.hexDigits 4 n) ++ next :: rest) = some (n, next :: rest) := by
  have hlength : (Text.hexDigits 4 n).length = 4 := Text.length_hexDigits (by decide) hn
  have hvalue := Text.ofHexDigits?_hexDigits 4 n
  generalize Text.hexDigits 4 n = ds at *
  match ds, hlength with
  | [a, b, c, d], _ =>
    show (Text.ofHexDigits? [a, b, c, d]).map _ = _
    rw [hvalue]
    rfl

/-- The code of a character is not that of a half of a pair. -/
theorem toNat_not_surrogate (c : Char) : c.toNat < 0xD800 ∨ 0xDFFF < c.toNat ∧ c.toNat < 0x110000 :=
  c.valid

theorem ofCode_toNat (c : Char) : Point.ofCode c.toNat = .char c := by
  have hsurrogate := toNat_not_surrogate c
  rw [Point.ofCode, dif_neg (by omega), Char.ofNat_toNat]

section Escapes

variable (opening fuel : Nat) (before : RawText) (next : Point) (rest : RawText)

theorem readPoints_unitEscape {c : Char} (hc : c.toNat < 0x10000) :
    readPoints opening (fuel + 1) before (Text.raw (unitEscape c.toNat) ++ next :: rest)
      = readPoints opening fuel (.char c :: before) (next :: rest) := by
  have hsurrogate := toNat_not_surrogate c
  have hlow : ¬ (decide (0xD800 ≤ c.toNat) && decide (c.toNat ≤ 0xDBFF)) = true := by
    simp
    omega
  show readPoints opening (fuel + 1) before
    (.char '\\' :: .char 'u' :: (Text.raw (Text.hexDigits 4 c.toNat) ++ next :: rest)) = _
  rw [readPoints, if_neg (by decide), if_pos rfl]
  simp only [hexUnit?_hexDigits hc, if_neg hlow, ofCode_toNat]

theorem secondUnit?_unitEscape {unit : Nat} (hunit : unit < 0x10000) :
    secondUnit? (Text.raw (unitEscape unit) ++ next :: rest)
      = some (Text.raw (Text.hexDigits 4 unit) ++ next :: rest) := by
  have hlength : (Text.hexDigits 4 unit).length = 4 := Text.length_hexDigits (by decide) hunit
  have hlong : 5 ≤ (Text.raw (Text.hexDigits 4 unit) ++ next :: rest).length := by
    simp only [List.length_append, List.length_cons, Text.length_raw, hlength]
    omega
  exact if_pos hlong

theorem readPoints_pair {c : Char} (hc : ¬ c.toNat < 0x10000) :
    readPoints opening (fuel + 1) before
        (Text.raw (unitEscape (0xD800 + (c.toNat - 0x10000) / 0x400)
          ++ unitEscape (0xDC00 + (c.toNat - 0x10000) % 0x400)) ++ next :: rest)
      = readPoints opening fuel (.char c :: before) (next :: rest) := by
  have hsurrogate := toNat_not_surrogate c
  obtain ⟨high, hhigh⟩ : ∃ high, high = 0xD800 + (c.toNat - 0x10000) / 0x400 := ⟨_, rfl⟩
  obtain ⟨low, hlow⟩ : ∃ low, low = 0xDC00 + (c.toNat - 0x10000) % 0x400 := ⟨_, rfl⟩
  have hfirst : (decide (0xD800 ≤ high) && decide (high ≤ 0xDBFF)) = true := by
    simp
    omega
  have hsecond : (decide (0xDC00 ≤ low) && decide (low ≤ 0xDFFF)) = true := by
    simp
    omega
  have hcode : 0x10000 + (high - 0xD800) * 0x400 + (low - 0xDC00) = c.toNat := by omega
  rw [← hhigh, ← hlow]
  have htext : Text.raw (unitEscape high ++ unitEscape low) ++ next :: rest
      = .char '\\' :: .char 'u' :: (Text.raw (Text.hexDigits 4 high)
        ++ (Text.raw (unitEscape low) ++ next :: rest)) := by
    simp [unitEscape]
  have hunit : hexUnit? (Text.raw (Text.hexDigits 4 high)
      ++ (Text.raw (unitEscape low) ++ next :: rest))
      = some (high, Text.raw (unitEscape low) ++ next :: rest) := hexUnit?_hexDigits (by omega) _ _
  rw [htext, readPoints, if_neg (by decide), if_pos rfl]
  simp only [hunit, if_pos hfirst, secondUnit?_unitEscape next rest (show low < 0x10000 by omega),
    hexUnit?_hexDigits (show low < 0x10000 by omega), if_pos hsecond, hcode, Char.ofNat_toNat]

/-- One step of the reader reads one character back. An escape is read only when something
follows it. -/
theorem readPoints_charText (asciiOnly : Bool) (c : Char) :
    readPoints opening (fuel + 1) before (Text.raw (charText asciiOnly c) ++ next :: rest)
      = readPoints opening fuel (.char c :: before) (next :: rest) := by
  rw [charText.eq_def]
  split
  · rfl
  · rfl
  · rfl
  · rfl
  · rfl
  · rfl
  · rfl
  · next hquote hslash _ _ _ _ _ =>
    dsimp only
    split_ifs with hcontrol hescaped hbasic
    · exact readPoints_unitEscape opening fuel before next rest (by omega)
    · exact readPoints_unitEscape opening fuel before next rest hbasic
    · exact readPoints_pair opening fuel before next rest hbasic
    · show readPoints opening (fuel + 1) before (.char c :: next :: rest) = _
      rw [readPoints.eq_def]
      simp only [if_neg hquote, if_neg hslash, if_neg hcontrol]

end Escapes

theorem readPoints_written {asciiOnly : Bool} (opening : Nat) {s : RawText}
    (hs : Legible asciiOnly s) (rest : RawText) {fuel : Nat} (hfuel : s.length < fuel)
    (before : RawText) :
    readPoints opening fuel before (s.flatMap (pointText asciiOnly) ++ .char '"' :: rest)
      = .ok (before.reverse ++ s, rest) := by
  induction s generalizing fuel before with
  | nil =>
    obtain ⟨fuel, rfl⟩ := Nat.exists_eq_add_one_of_ne_zero (Nat.ne_zero_of_lt hfuel)
    show readPoints opening (fuel + 1) before (.char '"' :: rest) = _
    rw [readPoints.eq_def, List.append_nil]
    rfl
  | cons point s ih =>
    obtain ⟨fuel, rfl⟩ := Nat.exists_eq_add_one_of_ne_zero (Nat.ne_zero_of_lt hfuel)
    have hrest := ih hs.tail (Nat.lt_of_succ_lt_succ hfuel) (point :: before)
    have hresult : (point :: before).reverse ++ s = before.reverse ++ point :: s := by simp
    rw [hresult] at hrest
    obtain ⟨next, tail, hnext⟩ : ∃ next tail,
        s.flatMap (pointText asciiOnly) ++ .char '"' :: rest = next :: tail :=
      List.exists_cons_of_ne_nil (by simp)
    rw [List.flatMap_cons, List.append_assoc, hnext]
    rw [hnext] at hrest
    cases point with
    | char c => exact (readPoints_charText opening fuel before next tail asciiOnly c).trans hrest
    | half offset =>
      obtain rfl := hs.eq_false
      exact hrest

theorem charText_ne_nil (asciiOnly : Bool) (c : Char) : charText asciiOnly c ≠ [] := by
  rw [charText.eq_def]
  split <;> try exact List.cons_ne_nil _ _
  dsimp only
  split_ifs
  · exact List.cons_ne_nil _ _
  · exact List.cons_ne_nil _ _
  · exact List.append_ne_nil_of_left_ne_nil (List.cons_ne_nil _ _) _
  · exact List.cons_ne_nil _ _

theorem pointText_ne_nil (asciiOnly : Bool) (point : Point) : pointText asciiOnly point ≠ [] := by
  cases point with
  | char c => exact fun h => charText_ne_nil asciiOnly c (Text.raw_eq_nil_iff.mp h)
  | half offset => cases asciiOnly <;> exact List.cons_ne_nil _ _

theorem length_le_flatMap_pointText (asciiOnly : Bool) (s : RawText) :
    s.length ≤ (s.flatMap (pointText asciiOnly)).length := by
  induction s with
  | nil => exact Nat.le_refl 0
  | cons point s ih =>
    have hone := List.length_pos_iff.mpr (pointText_ne_nil asciiOnly point)
    rw [List.flatMap_cons, List.length_append, List.length_cons]
    omega

/-- What stands between the quotes of a string, and the closing quote, are read as the string. -/
theorem readString_written {asciiOnly : Bool} {s : RawText} (hs : Legible asciiOnly s)
    (rest : RawText) :
    readString (s.flatMap (pointText asciiOnly) ++ .char '"' :: rest) = .ok (s, rest) := by
  have hlength := length_le_flatMap_pointText asciiOnly s
  refine (readPoints_written _ hs rest ?_ []).trans rfl
  rw [List.length_append, List.length_cons]
  omega

end SourceText.Json
