import Mathlib.Tactic.SplitIfs
import SourceText.Unicode.Utf8

/-!
# Text that is read back from its bytes

The bytes of a character say where it ends, so a text is read back from its bytes
(`decodeUtf8_encodeUtf8`), and two texts whose bytes start in the same way start in the same way
themselves (`exists_of_encodeUtf8_append_eq`).
-/

namespace SourceText.Unicode

-- Powers are those of the core library whatever else is imported.
attribute [local instance (high)] instPowNat

/-! ### The bytes of a character -/

theorem isContinuation_iff (b : UInt8) :
    isContinuation b = true ↔ 0x80 ≤ b.toNat ∧ b.toNat < 0xC0 := by
  simp [isContinuation]

theorem fitsSecond_iff (first second : UInt8) :
    fitsSecond first second = true ↔ (0x80 ≤ second.toNat ∧ second.toNat < 0xC0) ∧
      (first.toNat = 0xE0 → 0xA0 ≤ second.toNat) ∧ (first.toNat = 0xED → second.toNat < 0xA0) ∧
      (first.toNat = 0xF0 → 0x90 ≤ second.toNat) ∧ (first.toNat = 0xF4 → second.toNat < 0x90) := by
  have hnat : ∀ n : UInt8, first = n ↔ first.toNat = n.toNat := fun n => UInt8.toNat_inj.symm
  simp only [fitsSecond, Bool.and_eq_true, isContinuation_iff, hnat]
  refine and_congr_right fun _ => ?_
  have h1 : (0xE0 : UInt8).toNat = 0xE0 := rfl
  have h2 : (0xED : UInt8).toNat = 0xED := rfl
  have h3 : (0xF0 : UInt8).toNat = 0xF0 := rfl
  have h4 : (0xF4 : UInt8).toNat = 0xF4 := rfl
  rw [h1, h2, h3, h4]
  split_ifs <;> simp <;> omega

/-- The byte that carries the six bits of a character above the lowest `shift` ones. -/
def continuation (code shift : Nat) : UInt8 := UInt8.ofNat (0x80 + code / 2 ^ shift % 64)

theorem toNat_continuation (code shift : Nat) :
    (continuation code shift).toNat = 0x80 + code / 2 ^ shift % 64 :=
  UInt8.toNat_ofNat_of_lt (show _ < 256 by omega)

theorem isContinuation_continuation (code shift : Nat) :
    isContinuation (continuation code shift) = true := by
  rw [isContinuation_iff, toNat_continuation]
  omega

theorem continuationBits_continuation (code shift : Nat) :
    continuationBits (continuation code shift) = code / 2 ^ shift % 64 := by
  rw [continuationBits, toNat_continuation]
  omega

/-- What a reader finds that starts at the bytes of a character, whatever follows them: how many
bytes come after the first one, and the character. -/
structure ReadsAs (bytes : List UInt8) (c : Char) (first : UInt8) (tail : List UInt8) (n : Nat) :
    Prop where
  bytes_eq : bytes = first :: tail
  continuations : continuations? first = some n
  read : ∀ rest, readContinuations first true n (leadBits first n) 1 (tail ++ rest)
    = .ok (c.toNat, rest)

theorem readsAs_of_lt_0x80 {c : Char} (h : c.toNat < 0x80) :
    ReadsAs (encodeChar c) c (UInt8.ofNat c.toNat) [] 0 := by
  have hfirst : (UInt8.ofNat c.toNat).toNat = c.toNat :=
    UInt8.toNat_ofNat_of_lt (Nat.lt_trans h (by decide))
  refine ⟨by simp only [encodeChar, if_pos h], ?_, fun rest => ?_⟩
  · simp only [continuations?, hfirst, if_pos h]
  · simp only [readContinuations, leadBits, hfirst, List.nil_append]

theorem readsAs_of_lt_0x800 {c : Char} (h : ¬ c.toNat < 0x80) (h' : c.toNat < 0x800) :
    ReadsAs (encodeChar c) c (UInt8.ofNat (0xC0 + c.toNat / 64)) [continuation c.toNat 0] 1 := by
  have hfirst : (UInt8.ofNat (0xC0 + c.toNat / 64)).toNat = 0xC0 + c.toNat / 64 :=
    UInt8.toNat_ofNat_of_lt (show _ < 256 by omega)
  refine ⟨by simp only [encodeChar, if_neg h, if_pos h', continuation], ?_, fun rest => ?_⟩
  · simp only [continuations?, hfirst]
    rw [if_neg (by omega), if_neg (by omega), if_pos (by omega)]
  · have hsecond : fitsSecond (UInt8.ofNat (0xC0 + c.toNat / 64)) (continuation c.toNat 0) = true := by
      rw [fitsSecond_iff, hfirst, toNat_continuation]
      omega
    have hcode : 64 * ((0xC0 + c.toNat / 64) % 32) + c.toNat % 64 = c.toNat := by omega
    simp only [List.cons_append, List.nil_append, readContinuations, hsecond, if_true, leadBits,
      hfirst, continuationBits_continuation, Nat.pow_zero, Nat.div_one, hcode]

theorem readsAs_of_lt_0x10000 {c : Char} (h : ¬ c.toNat < 0x800) (h' : c.toNat < 0x10000) :
    ReadsAs (encodeChar c) c (UInt8.ofNat (0xE0 + c.toNat / 4096))
      [continuation c.toNat 6, continuation c.toNat 0] 2 := by
  have hfirst : (UInt8.ofNat (0xE0 + c.toNat / 4096)).toNat = 0xE0 + c.toNat / 4096 :=
    UInt8.toNat_ofNat_of_lt (show _ < 256 by omega)
  have hsmall : ¬ c.toNat < 0x80 := by omega
  -- The code points between the two halves are those of surrogates.
  have hvalid : c.toNat < 0xD800 ∨ 0xDFFF < c.toNat := by
    rcases c.valid with hlow | hhigh
    · exact .inl hlow
    · exact .inr hhigh.1
  refine ⟨by simp only [encodeChar, if_neg hsmall, if_neg h, if_pos h', continuation], ?_,
    fun rest => ?_⟩
  · simp only [continuations?, hfirst]
    rw [if_neg (by omega), if_neg (by omega), if_neg (by omega), if_pos (by omega)]
  · have hsecond : fitsSecond (UInt8.ofNat (0xE0 + c.toNat / 4096)) (continuation c.toNat 6)
        = true := by
      rw [fitsSecond_iff, hfirst, toNat_continuation]
      omega
    have hcode : 64 * (64 * ((0xE0 + c.toNat / 4096) % 16) + c.toNat / 2 ^ 6 % 64) + c.toNat % 64
        = c.toNat := by omega
    simp only [List.cons_append, List.nil_append, readContinuations, hsecond, if_true,
      Bool.false_eq_true, if_false, leadBits, hfirst, continuationBits_continuation,
      isContinuation_continuation, Nat.pow_zero, Nat.div_one, hcode]

theorem readsAs_of_ge_0x10000 {c : Char} (h : ¬ c.toNat < 0x10000) :
    ReadsAs (encodeChar c) c (UInt8.ofNat (0xF0 + c.toNat / 262144))
      [continuation c.toNat 12, continuation c.toNat 6, continuation c.toNat 0] 3 := by
  have hvalid : c.toNat < 0x110000 := by
    rcases c.valid with hlow | hhigh
    · exact Nat.lt_trans hlow (by decide)
    · exact hhigh.2
  have hfirst : (UInt8.ofNat (0xF0 + c.toNat / 262144)).toNat = 0xF0 + c.toNat / 262144 :=
    UInt8.toNat_ofNat_of_lt (show _ < 256 by omega)
  have hone : ¬ c.toNat < 0x80 := by omega
  have htwo : ¬ c.toNat < 0x800 := by omega
  refine ⟨by simp only [encodeChar, if_neg hone, if_neg htwo, if_neg h, continuation], ?_,
    fun rest => ?_⟩
  · simp only [continuations?, hfirst]
    rw [if_neg (by omega), if_neg (by omega), if_neg (by omega), if_neg (by omega),
      if_pos (by omega)]
  · have hsecond : fitsSecond (UInt8.ofNat (0xF0 + c.toNat / 262144)) (continuation c.toNat 12)
        = true := by
      rw [fitsSecond_iff, hfirst, toNat_continuation]
      omega
    have hcode : 64 * (64 * (64 * ((0xF0 + c.toNat / 262144) % 8) + c.toNat / 2 ^ 12 % 64)
        + c.toNat / 2 ^ 6 % 64) + c.toNat % 64 = c.toNat := by omega
    simp only [List.cons_append, List.nil_append, readContinuations, hsecond, if_true,
      Bool.false_eq_true, if_false, leadBits, hfirst, continuationBits_continuation,
      isContinuation_continuation, Nat.pow_zero, Nat.div_one, hcode]

theorem exists_readsAs (c : Char) : ∃ first tail n, ReadsAs (encodeChar c) c first tail n := by
  by_cases h1 : c.toNat < 0x80
  · exact ⟨_, _, _, readsAs_of_lt_0x80 h1⟩
  by_cases h2 : c.toNat < 0x800
  · exact ⟨_, _, _, readsAs_of_lt_0x800 h1 h2⟩
  by_cases h3 : c.toNat < 0x10000
  · exact ⟨_, _, _, readsAs_of_lt_0x10000 h2 h3⟩
  · exact ⟨_, _, _, readsAs_of_ge_0x10000 h3⟩

/-! ### Texts -/

theorem encodeUtf8_cons (c : Char) (text : List Char) :
    encodeUtf8 (c :: text) = encodeChar c ++ encodeUtf8 text := rfl

/-- The bytes of a character are not the start of those of another one. -/
theorem encodeChar_append_inj {c d : Char} {x y : List UInt8}
    (h : encodeChar c ++ x = encodeChar d ++ y) : c = d ∧ x = y := by
  obtain ⟨first, tail, n, hc⟩ := exists_readsAs c
  obtain ⟨first', tail', n', hd⟩ := exists_readsAs d
  rw [hc.bytes_eq, hd.bytes_eq, List.cons_append, List.cons_append] at h
  obtain ⟨rfl, htail⟩ := List.cons.inj h
  obtain rfl : n = n' := Option.some.inj (hc.continuations.symm.trans hd.continuations)
  have hread := (hc.read x).symm.trans (htail ▸ hd.read y)
  obtain ⟨hcode, hrest⟩ := Prod.mk.inj (Except.ok.inj hread)
  exact ⟨Char.toNat_inj.mp hcode, hrest⟩

/-- Where two texts come before bytes and make the same bytes with them, one of the texts is the
start of the other one. -/
theorem exists_of_encodeUtf8_append_eq {a b : List Char} {x y : List UInt8}
    (h : encodeUtf8 a ++ x = encodeUtf8 b ++ y) :
    ∃ moved, b = a ++ moved ∧ x = encodeUtf8 moved ++ y ∨
      a = b ++ moved ∧ y = encodeUtf8 moved ++ x := by
  induction a generalizing b with
  | nil => exact ⟨b, .inl ⟨rfl, h⟩⟩
  | cons c a ih =>
    cases b with
    | nil => exact ⟨c :: a, .inr ⟨rfl, h.symm⟩⟩
    | cons d b =>
      rw [encodeUtf8_cons, encodeUtf8_cons, List.append_assoc, List.append_assoc] at h
      obtain ⟨rfl, hrest⟩ := encodeChar_append_inj h
      obtain ⟨moved, ⟨rfl, hx⟩ | ⟨rfl, hy⟩⟩ := ih hrest
      · exact ⟨moved, .inl ⟨rfl, hx⟩⟩
      · exact ⟨moved, .inr ⟨rfl, hy⟩⟩

theorem length_le_encodeUtf8 (text : List Char) : text.length ≤ (encodeUtf8 text).length := by
  induction text with
  | nil => exact Nat.le_refl 0
  | cons c text ih =>
    obtain ⟨first, tail, n, hc⟩ := exists_readsAs c
    rw [encodeUtf8_cons, hc.bytes_eq, List.length_cons, List.length_append, List.length_cons]
    omega

theorem encodeUtf8_eq_nil_iff (text : List Char) : encodeUtf8 text = [] ↔ text = [] := by
  constructor
  · intro h
    have hlength := length_le_encodeUtf8 text
    rw [h] at hlength
    exact List.length_eq_zero_iff.mp (Nat.le_zero.mp hlength)
  · rintro rfl
    rfl

theorem decodeUtf8From_encodeUtf8 (text : List Char) {fuel : Nat} (hfuel : text.length ≤ fuel)
    (position : Nat) (before : List Char) :
    decodeUtf8From fuel position before (encodeUtf8 text) = .ok (before.reverse ++ text) := by
  induction text generalizing fuel position before with
  | nil =>
    rw [List.append_nil]
    cases fuel <;> rfl
  | cons c text ih =>
    obtain ⟨fuel, rfl⟩ := Nat.exists_eq_add_one_of_ne_zero (Nat.ne_zero_of_lt hfuel)
    obtain ⟨first, tail, n, hc⟩ := exists_readsAs c
    rw [encodeUtf8_cons, hc.bytes_eq, List.cons_append, decodeUtf8From]
    simp only [decodeChar, hc.continuations, hc.read]
    rw [Char.ofNat_toNat, ih (Nat.le_of_succ_le_succ hfuel), List.reverse_cons, List.append_assoc]
    rfl

/-- A text is read back from its bytes. -/
theorem decodeUtf8_encodeUtf8 (text : List Char) : decodeUtf8 (encodeUtf8 text) = .ok text :=
  decodeUtf8From_encodeUtf8 text (length_le_encodeUtf8 text) 0 []

end SourceText.Unicode
