import SourceText.Text.Hexadecimal

/-!
# Hexadecimal digits that are read back

A number is read back from its hexadecimal digits, however many zeros stand in front of them
(`ofHexDigits?_hexDigits`).
-/

namespace SourceText.Text

-- Powers are those of the core library whatever else is imported.
attribute [local instance (high)] instPowNat

theorem hexValue?_digitChar {n : Nat} (h : n < 16) : hexValue? n.digitChar = some n := by
  have hall : ∀ n < 16, hexValue? n.digitChar = some n := by decide
  exact hall n h

theorem ofHexDigits?_append (a b : List Char) :
    ofHexDigits? (a ++ b) = (ofHexDigits? a).bind fun n =>
      b.foldlM (fun n c => (hexValue? c).map (16 * n + ·)) n := by
  rw [ofHexDigits?, List.foldlM_append]
  rfl

theorem ofHexDigits?_toDigits (n : Nat) : ofHexDigits? (Nat.toDigits 16 n) = some n := by
  induction n using Nat.strongRecOn with
  | ind n ih =>
    rw [Nat.toDigits_eq_if (by decide)]
    split
    · next hsmall =>
      simp [ofHexDigits?, hexValue?_digitChar hsmall]
    · next hlarge =>
      have hquotient : n / 16 < n := by omega
      have hremainder : hexValue? (n % 16).digitChar = some (n % 16) :=
        hexValue?_digitChar (Nat.mod_lt n (by decide))
      have hsum : 16 * (n / 16) + n % 16 = n := Nat.div_add_mod n 16
      simp [ofHexDigits?_append, ih _ hquotient, hremainder, hsum]

/-- A number is read back from its digits. -/
theorem ofHexDigits?_hexDigits (width n : Nat) : ofHexDigits? (hexDigits width n) = some n := by
  have hzeros : ∀ count, ofHexDigits? (List.replicate count '0') = some 0 := by
    intro count
    induction count with
    | zero => rfl
    | succ count ih =>
      rw [List.replicate_succ', ofHexDigits?_append, ih]
      rfl
  rw [hexDigits, ofHexDigits?_append, hzeros]
  exact ofHexDigits?_toDigits n

theorem length_hexDigits {width n : Nat} (hwidth : 0 < width) (h : n < 16 ^ width) :
    (hexDigits width n).length = width := by
  have hle := (Nat.length_toDigits_le_iff (by decide) hwidth).mpr h
  simp only [hexDigits, List.length_append, List.length_replicate]
  omega

theorem exists_of_mem_toDigits {n : Nat} {c : Char} (h : c ∈ Nat.toDigits 16 n) :
    ∃ d < 16, c = d.digitChar := by
  induction n using Nat.strongRecOn with
  | ind n ih =>
    rw [Nat.toDigits_eq_if (by decide)] at h
    split at h
    · next hsmall => exact ⟨n, hsmall, List.mem_singleton.mp h⟩
    · next hlarge =>
      obtain hleading | hlast := List.mem_append.mp h
      · exact ih (n / 16) (by omega) hleading
      · exact ⟨n % 16, Nat.mod_lt n (by decide), List.mem_singleton.mp hlast⟩

theorem exists_of_mem_hexDigits {width n : Nat} {c : Char} (h : c ∈ hexDigits width n) :
    ∃ d < 16, c = d.digitChar := by
  obtain hzero | hdigit := List.mem_append.mp h
  · exact ⟨0, by decide, List.eq_of_mem_replicate hzero⟩
  · exact exists_of_mem_toDigits hdigit

end SourceText.Text
