import SourceText.Proofs.Auth.Verification
import SourceText.Proofs.Text.Hexadecimal
import SourceText.Proofs.Unicode.Utf8

/-!
# The cut between the time and the body

What is signed are the bytes of the time and those of the body, and nothing marks where the body
begins. A signature therefore fixes the bytes of a request but not the cut between its two parts
(`verify_recut`): what the reader of the time lets pass can be moved from one part to the other.
These are the blanks after it; digits move as well, but only near the start of the epoch, where a
number that is ten times as large is still within the bounds.
-/

namespace SourceText.Auth

open Number (WritesInteger isPadding)

/-- The same bytes, cut in another place: `moved` starts the body or ends the time. -/
structure Recut (time time' : String) (body body' : List UInt8) (moved : Text) : Prop where
  time_eq : time'.toList = time.toList ++ moved
  body_eq : body = Unicode.encodeUtf8 moved ++ body'

/-! ### Signed messages -/

theorem hexDigits_byte_inj {b c : UInt8}
    (h : Text.hexDigits 2 b.toNat = Text.hexDigits 2 c.toNat) : b = c := by
  have hvalue := congrArg Text.ofHexDigits? h
  rw [Text.ofHexDigits?_hexDigits, Text.ofHexDigits?_hexDigits] at hvalue
  exact UInt8.toNat_inj.mp (Option.some.inj hvalue)

theorem hexText_inj {a b : List UInt8} (h : hexText a = hexText b) : a = b := by
  induction a generalizing b with
  | nil =>
    have hlength := congrArg List.length h
    rw [length_hexText, length_hexText, List.length_nil] at hlength
    exact (List.length_eq_zero_iff.mp (by omega)).symm
  | cons x a ih =>
    cases b with
    | nil =>
      have hlength := congrArg List.length h
      rw [length_hexText, length_hexText, List.length_cons, List.length_nil] at hlength
      omega
    | cons y b =>
      have hsplit : Text.hexDigits 2 x.toNat ++ hexText a = Text.hexDigits 2 y.toNat ++ hexText b :=
        h
      have hlengths := (hexDigits_byte x).1.trans (hexDigits_byte y).1.symm
      obtain ⟨hbyte, hrest⟩ := List.append_inj hsplit hlengths
      rw [hexDigits_byte_inj hbyte, ih hrest]

theorem Recut.signedMessage_eq {time time' : String} {body body' : List UInt8} {moved : Text}
    (h : Recut time time' body body' moved) :
    signedMessage time body = signedMessage time' body' :=
  calc signedMessage time body
      = Unicode.encodeUtf8 time.toList ++ (Unicode.encodeUtf8 moved ++ body') := by
        rw [signedMessage, h.body_eq]
    _ = Unicode.encodeUtf8 time'.toList ++ body' := by
        rw [h.time_eq, Unicode.encodeUtf8_append, List.append_assoc]

theorem signedMessage_eq_iff {time time' : String} {body body' : List UInt8} :
    signedMessage time body = signedMessage time' body' ↔
      ∃ moved, Recut time time' body body' moved ∨ Recut time' time body' body moved := by
  constructor
  · intro h
    obtain ⟨moved, ⟨htime, hbody⟩ | ⟨htime, hbody⟩⟩ := Unicode.exists_of_encodeUtf8_append_eq h
    · exact ⟨moved, .inl ⟨htime, hbody⟩⟩
    · exact ⟨moved, .inr ⟨htime, hbody⟩⟩
  · rintro ⟨moved, hmoved | hmoved⟩
    · exact hmoved.signedMessage_eq
    · exact hmoved.signedMessage_eq.symm

/-- Two cuts are in the same place when one of the parts is the same. -/
theorem Recut.time_eq_iff {time time' : String} {body body' : List UInt8} {moved : Text}
    (h : Recut time time' body body' moved) : time = time' ↔ body = body' := by
  have htime : time = time' ↔ moved = [] := by
    rw [← String.toList_inj, h.time_eq, List.self_eq_append_right]
  have hbody : body = body' ↔ moved = [] := by
    rw [h.body_eq, List.append_left_eq_self, Unicode.encodeUtf8_eq_nil_iff]
  rw [htime, hbody]

/-! ### Accepted requests -/

section Accepted

variable {secret time time' : String} {signature : Option String} {body body' : List UInt8}
  {maxSkewMs now : Int}

theorem verify_some_eq_ok_iff :
    verify secret signature (some time) body (some maxSkewMs) now = .ok () ↔
      (∃ sent, WritesInteger time.toList sent ∧ |now - sent| ≤ maxSkewMs) ∧
      ∃ given, HasText signature given ∧
        IsCaseVariant given.toList (digestText secret time body) := by
  rw [verify_eq_ok_iff]
  constructor
  · intro h
    cases h with
    | accepted hgiven htime hsent hskew hdigest =>
      obtain rfl := Option.some.inj htime.1
      exact ⟨⟨_, hsent, hskew⟩, ⟨_, hgiven, hdigest⟩⟩
  · rintro ⟨⟨sent, hsent, hskew⟩, ⟨given, hgiven, hdigest⟩⟩
    refine .accepted hgiven ⟨rfl, ?_⟩ hsent hskew hdigest
    rintro rfl
    exact absurd (Number.readInteger_of_writesInteger hsent) nofun

/-- One signature is that of two requests when their digests are the same. -/
theorem keyedDigest_eq_iff {given : String}
    (h : IsCaseVariant given.toList (digestText secret time body)) :
    IsCaseVariant given.toList (digestText secret time' body') ↔
      keyedDigest (Unicode.encodeUtf8 secret.toList) (signedMessage time body)
        = keyedDigest (Unicode.encodeUtf8 secret.toList) (signedMessage time' body') := by
  rw [IsCaseVariant, h, digestText, digestText, map_toLower_hexText, map_toLower_hexText]
  exact ⟨hexText_inj, congrArg hexText⟩

/-- Away from the start of the epoch only blanks can be moved. -/
theorem Recut.isPadding {moved : Text} {sent sent' : Int} (h : Recut time time' body body' moved)
    (hsent : WritesInteger time.toList sent) (hskew : |now - sent| ≤ maxSkewMs)
    (hsent' : WritesInteger time'.toList sent') (hskew' : |now - sent'| ≤ maxSkewMs)
    (hnow : 4 * maxSkewMs < |now|) : moved.all isPadding = true ∧ sent' = sent := by
  rw [h.time_eq] at hsent'
  obtain hblank | hten := Number.writesInteger_append hsent hsent'
  · exact hblank
  · rw [Int.abs_eq_natAbs] at hskew hskew' hnow
    omega

/-- A signature that is accepted for a request is accepted for those with the same bytes whose time
is an integer within the bounds, and for no others as long as the digests do not collide. -/
theorem verify_recut
    (haccepted : verify secret signature (some time) body (some maxSkewMs) now = .ok ())
    (hcollision : keyedDigest (Unicode.encodeUtf8 secret.toList) (signedMessage time body)
        = keyedDigest (Unicode.encodeUtf8 secret.toList) (signedMessage time' body') →
      signedMessage time body = signedMessage time' body') :
    (verify secret signature (some time') body' (some maxSkewMs) now = .ok () ↔
      (∃ sent, WritesInteger time'.toList sent ∧ |now - sent| ≤ maxSkewMs) ∧
      ∃ moved, Recut time time' body body' moved ∨ Recut time' time body' body moved) ∧
    (verify secret signature (some time') body' (some maxSkewMs) now = .ok () →
      (time = time' ↔ body = body') ∧
      (4 * maxSkewMs < |now| →
        (∃ sent, WritesInteger time.toList sent ∧ WritesInteger time'.toList sent) ∧
        ∃ moved, moved.all isPadding = true ∧
          (Recut time time' body body' moved ∨ Recut time' time body' body moved))) := by
  obtain ⟨⟨sent, hsent, hskew⟩, given, hgiven, hdigest⟩ := verify_some_eq_ok_iff.mp haccepted
  have hiff : verify secret signature (some time') body' (some maxSkewMs) now = .ok () ↔
      (∃ sent, WritesInteger time'.toList sent ∧ |now - sent| ≤ maxSkewMs) ∧
      ∃ moved, Recut time time' body body' moved ∨ Recut time' time body' body moved := by
    rw [verify_some_eq_ok_iff, ← signedMessage_eq_iff]
    refine and_congr_right fun _ => ⟨?_, fun hsame => ?_⟩
    · rintro ⟨given', hgiven', hdigest'⟩
      obtain rfl := Option.some.inj (hgiven.1.symm.trans hgiven'.1)
      exact hcollision ((keyedDigest_eq_iff hdigest).mp hdigest')
    · exact ⟨given, hgiven, (keyedDigest_eq_iff hdigest).mpr (congrArg _ hsame)⟩
  refine ⟨hiff, fun haccepted' => ?_⟩
  obtain ⟨⟨sent', hsent', hskew'⟩, moved, hmoved | hmoved⟩ := hiff.mp haccepted'
  · refine ⟨hmoved.time_eq_iff, fun hnow => ?_⟩
    obtain ⟨hblank, rfl⟩ := hmoved.isPadding hsent hskew hsent' hskew' hnow
    exact ⟨⟨sent', hsent, hsent'⟩, moved, hblank, .inl hmoved⟩
  · refine ⟨eq_comm.trans (hmoved.time_eq_iff.trans eq_comm), fun hnow => ?_⟩
    obtain ⟨hblank, rfl⟩ := hmoved.isPadding hsent' hskew' hsent hskew hnow
    exact ⟨⟨sent, hsent, hsent'⟩, moved, hblank, .inr hmoved⟩

end Accepted

/-- The signature of the body with a space in front of it. -/
def spacedSignature : String := "14addf02b3b1da2d8de57779939e02b8db4b91827c9817247f2ce6488ce51e35"

theorem verify_spacedSignature :
    verify "s" (some spacedSignature) (some "1700000000000") (Unicode.encodeUtf8 " {}".toList)
      (some 60000) 1700000000000 = .ok () := by
  decide +kernel

theorem signedMessage_space :
    signedMessage "1700000000000" (Unicode.encodeUtf8 " {}".toList)
      = signedMessage "1700000000000 " (Unicode.encodeUtf8 "{}".toList) := by
  decide +kernel

theorem verify_recut_space :
    verify "s" (some spacedSignature) (some "1700000000000 ") (Unicode.encodeUtf8 "{}".toList)
        (some 60000) 1700000000000 = .ok () ∧
      ∃ moved, moved.all isPadding = true ∧
        (Recut "1700000000000" "1700000000000 " (Unicode.encodeUtf8 " {}".toList)
            (Unicode.encodeUtf8 "{}".toList) moved ∨
          Recut "1700000000000 " "1700000000000" (Unicode.encodeUtf8 "{}".toList)
            (Unicode.encodeUtf8 " {}".toList) moved) := by
  obtain ⟨hiff, hsame⟩ := verify_recut verify_spacedSignature fun _ => signedMessage_space
  have hread : Number.readInteger "1700000000000 ".toList = .ok 1700000000000 := by decide +kernel
  have haccepted := hiff.mpr ⟨⟨1700000000000, (Number.readInteger_eq_ok_iff _ _).mp hread,
    by decide⟩, signedMessage_eq_iff.mp signedMessage_space⟩
  exact ⟨haccepted, ((hsame haccepted).2 (by decide)).2⟩

/-- A space can be moved from the body to the time. -/
theorem verify_cut_not_fixed :
    ¬ ∀ (secret signature time time' : String) (body body' : List UInt8) (maxSkewMs now : Int),
      (keyedDigest (Unicode.encodeUtf8 secret.toList) (signedMessage time body)
          = keyedDigest (Unicode.encodeUtf8 secret.toList) (signedMessage time' body') →
        signedMessage time body = signedMessage time' body') →
      verify secret (some signature) (some time) body (some maxSkewMs) now = .ok () →
      verify secret (some signature) (some time') body' (some maxSkewMs) now = .ok () →
      time = time' ∧ body = body' := by
  intro h
  have haccepted : verify "s" (some spacedSignature) (some "1700000000000 ")
      (Unicode.encodeUtf8 "{}".toList) (some 60000) 1700000000000 = .ok () := by
    decide +kernel
  have hsame := h "s" spacedSignature _ _ _ _ 60000 1700000000000 (fun _ => signedMessage_space)
    verify_spacedSignature haccepted
  exact absurd hsame.1 (by decide)

end SourceText.Auth
