import Mathlib.Algebra.Order.Group.Unbundled.Int
import SourceText.Auth.Signature
import SourceText.Proofs.Number.Integer
import SourceText.Proofs.Unicode.Lower

/-!
# How signed requests are judged

A signed request is judged by the first of four conditions that fails: both headers are there, the
time is an integer, it is not too far from now, and the signature is the keyed digest of the time
and the body, up to the case of its letters. A request that meets all four is accepted
(`verify_judges`).
-/

namespace SourceText.Auth

open Number (WritesInteger)

/-- A header that has a text in it. -/
def HasText (header : Option String) (text : String) : Prop := header = some text ∧ text ≠ ""

/-- Texts that are equal up to the case of the letters from A to Z. -/
def IsCaseVariant (s t : Text) : Prop := s.map Char.toLower = t.map Char.toLower

/-- The hexadecimal digest of a time, as it was sent, and a body under a secret. -/
def digestText (secret time : String) (body : List UInt8) : Text :=
  hexText (keyedDigest (Unicode.encodeUtf8 secret.toList)
    (Unicode.encodeUtf8 time.toList ++ body))

/-- The verdict on a request: the first condition that fails decides, and the words name it. -/
inductive Judged (secret : String) (signature timestamp : Option String) (body : List UInt8)
    (maxSkewMs now : Int) : Except String Unit → Prop where
  | missing : (¬ ∃ given time, HasText signature given ∧ HasText timestamp time) →
    Judged secret signature timestamp body maxSkewMs now (.error "Missing auth headers")
  | malformed {given time : String} : HasText signature given → HasText timestamp time →
    (¬ ∃ sent, WritesInteger time.toList sent) →
    Judged secret signature timestamp body maxSkewMs now (.error "Invalid timestamp")
  | expired {given time : String} {sent : Int} : HasText signature given → HasText timestamp time →
    WritesInteger time.toList sent → ¬ |now - sent| ≤ maxSkewMs →
    Judged secret signature timestamp body maxSkewMs now (.error "Request expired")
  | mismatch {given time : String} {sent : Int} : HasText signature given → HasText timestamp time →
    WritesInteger time.toList sent → |now - sent| ≤ maxSkewMs →
    ¬ IsCaseVariant given.toList (digestText secret time body) →
    Judged secret signature timestamp body maxSkewMs now (.error "Invalid Signature")
  | accepted {given time : String} {sent : Int} : HasText signature given → HasText timestamp time →
    WritesInteger time.toList sent → |now - sent| ≤ maxSkewMs →
    IsCaseVariant given.toList (digestText secret time body) →
    Judged secret signature timestamp body maxSkewMs now (.ok ())

/-! ### Digests in hexadecimal -/

/-- The digits of bytes. -/
def hexAlphabet : List Char :=
  ['0', '1', '2', '3', '4', '5', '6', '7', '8', '9', 'a', 'b', 'c', 'd', 'e', 'f']

theorem all_hexDigits : (List.range 256).all (fun n =>
    (Text.hexDigits 2 n).length == 2 && (Text.hexDigits 2 n).all hexAlphabet.contains) = true := by
  decide +kernel

theorem hexDigits_byte (b : UInt8) : (Text.hexDigits 2 b.toNat).length = 2 ∧
    ∀ c ∈ Text.hexDigits 2 b.toNat, c ∈ hexAlphabet := by
  have hb := List.all_eq_true.mp all_hexDigits b.toNat (List.mem_range.mpr b.toNat_lt)
  obtain ⟨hlength, hmem⟩ := Bool.and_eq_true_iff.mp hb
  exact ⟨eq_of_beq hlength, fun c hc => List.contains_iff_mem.mp (List.all_eq_true.mp hmem c hc)⟩

theorem all_hexAlphabet : hexAlphabet.all (fun c =>
    c.toNat < 128 && c != 'k' && c.toLower == c) = true := by
  decide

theorem hexAlphabet_plain {c : Char} (h : c ∈ hexAlphabet) :
    (c.toNat < 128 ∧ c ≠ 'k') ∧ c.toLower = c := by
  simpa using List.all_eq_true.mp all_hexAlphabet c h

theorem mem_hexText {bytes : List UInt8} {c : Char} (h : c ∈ hexText bytes) : c ∈ hexAlphabet := by
  obtain ⟨b, -, hc⟩ := List.mem_flatMap.mp h
  exact (hexDigits_byte b).2 c hc

theorem map_toLower_hexText (bytes : List UInt8) :
    (hexText bytes).map Char.toLower = hexText bytes :=
  (List.map_congr_left fun _ hc => (hexAlphabet_plain (mem_hexText hc)).2).trans (List.map_id _)

/-- No text but one with other letter cases falls on a digest when it is brought to lower case. -/
theorem lower_eq_hexText_iff (t : Text) (bytes : List UInt8) :
    Unicode.lower t = hexText bytes ↔ IsCaseVariant t (hexText bytes) := by
  rw [IsCaseVariant, map_toLower_hexText]
  exact Unicode.lower_eq_iff_map_toLower t fun _ hc => (hexAlphabet_plain (mem_hexText hc)).1

theorem length_hexText (bytes : List UInt8) : (hexText bytes).length = 2 * bytes.length := by
  induction bytes with
  | nil => rfl
  | cons b bytes ih =>
    have hcons : hexText (b :: bytes) = Text.hexDigits 2 b.toNat ++ hexText bytes := rfl
    rw [hcons, List.length_append, (hexDigits_byte b).1, ih, List.length_cons]
    omega

theorem length_digest (message : List UInt8) : (Sha256.digest message).length = 32 := by
  simp [Sha256.digest, Sha256.State.words, Sha256.bigEndian]

/-- A signature has sixty-four digits. -/
theorem length_sign (secret time : String) (body : List UInt8) :
    (sign secret time body).length = 64 := by
  rw [sign, length_hexText, keyedDigest, length_digest]

/-! ### The conditions in turn -/

section Conditions

variable {signature timestamp : Option String} {given time : String}

theorem filter_eq_some_iff (header : Option String) (text : String) :
    header.filter (!·.isEmpty) = some text ↔ HasText header text := by
  rw [Option.filter_eq_some_iff, HasText, Bool.not_eq_true', String.isEmpty_eq_false_iff]

theorem sentAt_missing (h : ¬ ∃ given time, HasText signature given ∧ HasText timestamp time) :
    sentAt signature timestamp = .error .missing := by
  unfold sentAt
  split
  · next given time hgiven htime =>
    exact absurd
      ⟨given, time, (filter_eq_some_iff _ _).mp hgiven, (filter_eq_some_iff _ _).mp htime⟩ h
  · rfl

variable (hgiven : HasText signature given) (htime : HasText timestamp time)

include hgiven htime

theorem sentAt_malformed (h : ¬ ∃ sent, WritesInteger time.toList sent) :
    sentAt signature timestamp = .error .timestamp := by
  unfold sentAt
  rw [(filter_eq_some_iff _ _).mpr hgiven, (filter_eq_some_iff _ _).mpr htime]
  simp only
  split
  · next sent hsent => exact absurd ⟨sent, (Number.readInteger_eq_ok_iff _ _).mp hsent⟩ h
  · rfl

theorem sentAt_ok {sent : Int} (hsent : WritesInteger time.toList sent) :
    sentAt signature timestamp = .ok (given, time, sent) := by
  unfold sentAt
  rw [(filter_eq_some_iff _ _).mpr hgiven, (filter_eq_some_iff _ _).mpr htime]
  simp only [(Number.readInteger_eq_ok_iff _ _).mpr hsent]

/-- What is left to check once the time of sending is known. -/
theorem verify_of_writesInteger (secret : String) (body : List UInt8) (maxSkewMs now : Int)
    {sent : Int} (hsent : WritesInteger time.toList sent) :
    verify secret signature timestamp body (some maxSkewMs) now =
      if isExpired (some maxSkewMs) now sent then .error .expired
      else if Unicode.lower given.toList = sign secret time body then .ok ()
      else .error .signature := by
  rw [verify, sentAt_ok hgiven htime hsent]
  rfl

end Conditions

theorem isExpired_iff (maxSkewMs now sent : Int) :
    isExpired (some maxSkewMs) now sent = true ↔ ¬ |now - sent| ≤ maxSkewMs := by
  rw [isExpired, Option.any_some, decide_eq_true_eq, Int.abs_eq_natAbs, Int.not_le]

theorem lower_eq_sign_iff (given secret time : String) (body : List UInt8) :
    Unicode.lower given.toList = sign secret time body ↔
      IsCaseVariant given.toList (digestText secret time body) :=
  lower_eq_hexText_iff _ _

/-! ### Verdicts -/

section Verdicts

variable {secret : String} {signature timestamp : Option String} {body : List UInt8}
  {maxSkewMs now : Int}

/-- A verdict that is due is the one that is given. -/
theorem verify_of_judged {verdict : Except String Unit}
    (h : Judged secret signature timestamp body maxSkewMs now verdict) :
    (verify secret signature timestamp body (some maxSkewMs) now).mapError Rejection.reason
      = verdict := by
  cases h with
  | missing hheaders =>
    rw [verify, sentAt_missing hheaders]
    rfl
  | malformed hgiven htime hsent =>
    rw [verify, sentAt_malformed hgiven htime hsent]
    rfl
  | expired hgiven htime hsent hskew =>
    rw [verify_of_writesInteger hgiven htime _ _ _ _ hsent,
      if_pos ((isExpired_iff _ _ _).mpr hskew)]
    rfl
  | mismatch hgiven htime hsent hskew hdigest =>
    rw [verify_of_writesInteger hgiven htime _ _ _ _ hsent,
      if_neg fun hexpired => (isExpired_iff _ _ _).mp hexpired hskew,
      if_neg fun heq => hdigest ((lower_eq_sign_iff _ _ _ _).mp heq)]
    rfl
  | accepted hgiven htime hsent hskew hdigest =>
    rw [verify_of_writesInteger hgiven htime _ _ _ _ hsent,
      if_neg fun hexpired => (isExpired_iff _ _ _).mp hexpired hskew,
      if_pos ((lower_eq_sign_iff _ _ _ _).mpr hdigest)]
    rfl

/-- Some verdict is always due: each condition holds or fails. -/
theorem exists_judged (secret : String) (signature timestamp : Option String) (body : List UInt8)
    (maxSkewMs now : Int) :
    ∃ verdict, Judged secret signature timestamp body maxSkewMs now verdict := by
  by_cases hheaders : ∃ given time, HasText signature given ∧ HasText timestamp time
  · obtain ⟨given, time, hgiven, htime⟩ := hheaders
    by_cases hsent : ∃ sent, WritesInteger time.toList sent
    · obtain ⟨sent, hsent⟩ := hsent
      by_cases hskew : |now - sent| ≤ maxSkewMs
      · by_cases hdigest : IsCaseVariant given.toList (digestText secret time body)
        · exact ⟨_, .accepted hgiven htime hsent hskew hdigest⟩
        · exact ⟨_, .mismatch hgiven htime hsent hskew hdigest⟩
      · exact ⟨_, .expired hgiven htime hsent hskew⟩
    · exact ⟨_, .malformed hgiven htime hsent⟩
  · exact ⟨_, .missing hheaders⟩

theorem judged_verify (secret : String) (signature timestamp : Option String) (body : List UInt8)
    (maxSkewMs now : Int) :
    Judged secret signature timestamp body maxSkewMs now <|
      (verify secret signature timestamp body (some maxSkewMs) now).mapError Rejection.reason := by
  obtain ⟨verdict, h⟩ := exists_judged secret signature timestamp body maxSkewMs now
  rwa [verify_of_judged h]

end Verdicts

/-- What the check of signed requests is for: it gives every request the verdict that is due,
accepts those that are signed under the secret at a time within the bounds, and no others, and
accepts what the signer itself makes for such a time. -/
structure Judges (secret : String) (maxSkewMs now : Int) : Prop where
  verdict_iff : ∀ signature timestamp body verdict,
    (verify secret signature timestamp body (some maxSkewMs) now).mapError Rejection.reason
        = verdict ↔
      Judged secret signature timestamp body maxSkewMs now verdict
  accepted_iff : ∀ signature timestamp body,
    verify secret signature timestamp body (some maxSkewMs) now = .ok () ↔
      ∃ given time sent, HasText signature given ∧ HasText timestamp time ∧
        WritesInteger time.toList sent ∧ |now - sent| ≤ maxSkewMs ∧
        IsCaseVariant given.toList (digestText secret time body)
  accepts_own : ∀ time sent body, WritesInteger time.toList sent → |now - sent| ≤ maxSkewMs →
    verify secret (some (String.ofList (sign secret time body))) (some time) body
      (some maxSkewMs) now = .ok ()

theorem verify_eq_ok_iff (secret : String) (signature timestamp : Option String)
    (body : List UInt8) (maxSkewMs now : Int) :
    verify secret signature timestamp body (some maxSkewMs) now = .ok () ↔
      Judged secret signature timestamp body maxSkewMs now (.ok ()) := by
  have hjudged := judged_verify secret signature timestamp body maxSkewMs now
  constructor
  · intro h
    rwa [h] at hjudged
  · intro h
    have hverdict := verify_of_judged h
    cases hverify : verify secret signature timestamp body (some maxSkewMs) now with
    | ok => rfl
    | error rejection => rw [hverify] at hverdict; exact absurd hverdict nofun

end SourceText.Auth
