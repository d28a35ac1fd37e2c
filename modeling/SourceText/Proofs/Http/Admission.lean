import SourceText.Http.Server
import SourceText.Proofs.Auth.Verification
import SourceText.Proofs.Settings.Kinds
import SourceText.Proofs.Text.Raw

/-!
# The checks of posted requests

With settings of the right kinds, a posted request is refused by the first of five checks that it
fails: the size of its body, its signature, whether there is a document in its body, whether there
is a text in that, and how long the text is. A request that passes them all is accepted with its
text (`acceptedText_ok`).
-/

namespace SourceText

namespace Value

theorem greatestCount_of_toInt? {limit : Value} {n : Int} (h : limit.toInt? = some n) :
    limit.greatestCount = .ok (some n) := by
  cases limit with
  | bool b => exact congrArg Except.ok h
  | integer m => exact congrArg Except.ok h
  | _ => exact absurd h (Option.some_ne_none n).symm

theorem leastCount_of_toInt? {limit : Value} {n : Int} (h : limit.toInt? = some n) :
    limit.leastCount = .ok (some n) := by
  cases limit with
  | bool b => exact congrArg Except.ok h
  | integer m => exact congrArg Except.ok h
  | _ => exact absurd h (Option.some_ne_none n).symm

end Value

namespace Http

/-! ### The checks -/

/-- Whether the body is longer than it may be. -/
def TooLarge (s : Settings) (r : Request) : Prop := s.count .maxBodyBytes < r.body.length

/-- Whether there is a secret and the signature is not accepted under it, for a reason. -/
def Unauthorized (s : Settings) (r : Request) (now : Int) (reason : Auth.Rejection) : Prop :=
  s.word .internalKey ≠ "" ∧
    Auth.verify (s.word .internalKey) (r.header? signatureHeader) (r.header? timestampHeader) r.body
      (some (s.count .maxSkewMs)) now = .error reason

/-- Whether there is a body and it is no JSON document. -/
def NotJson (r : Request) : Prop := r.body ≠ [] ∧ ∀ document, Json.readBytes r.body ≠ .ok document

/-- Whether the body is an object with a text, which is not empty. -/
def Gives (r : Request) (text : RawText) : Prop :=
  r.body ≠ [] ∧ text ≠ [] ∧ ∃ members, Json.readBytes r.body = .ok (.object members) ∧
    (Json.object members).member? "text" = some (.string text)

/-- Whether a text is longer than one that may be detected. -/
def TooLong (s : Settings) (operation : Operation) (text : RawText) : Prop :=
  operation = .detect ∧ s.count .maxDetectChars < text.length

section Checks

variable {s : Settings} (hs : s.WellTyped) {r : Request} {now : Int}

include hs in
theorem exceeds_eq {setting : Setting} (hsetting : Settings.reading? setting = some .integer)
    (n : Nat) : exceeds n (s.value setting) = .ok (decide (s.count setting < n)) := by
  rw [exceeds, Value.greatestCount_of_toInt? (hs.toInt?_eq hsetting)]
  rfl

include hs in
theorem checkSize_tooLarge (h : TooLarge s r) :
    checkSize s r = .error (.tooLarge (s.value .maxBodyBytes)) := by
  have hexceeds : decide (s.count .maxBodyBytes < r.body.length) = true := decide_eq_true h
  rw [checkSize, exceeds_eq hs rfl, hexceeds]
  rfl

include hs in
theorem checkSize_ok (h : ¬ TooLarge s r) : checkSize s r = .ok () := by
  have hexceeds : decide (s.count .maxBodyBytes < r.body.length) = false := decide_eq_false h
  rw [checkSize, exceeds_eq hs rfl, hexceeds]
  rfl

include hs in
theorem checkSignature_eq : checkSignature s r now
    = if s.word .internalKey = "" then .ok ()
      else (Auth.verify (s.word .internalKey) (r.header? signatureHeader)
        (r.header? timestampHeader) r.body (some (s.count .maxSkewMs)) now).mapError
          .unauthorized := by
  have hbound := Value.greatestCount_of_toInt? (hs.toInt?_eq rfl : (s.value .maxSkewMs).toInt? = _)
  rw [checkSignature, (hs.value_eq_string rfl : s.value .internalKey = _), hbound]
  simp only [Value.isGiven, Bool.not_not, secretOf]
  by_cases hword : s.word .internalKey = ""
  · rw [if_pos hword, if_pos (String.isEmpty_iff.mpr hword)]
  · rw [if_neg hword, if_neg (mt String.isEmpty_iff.mp hword)]

include hs in
theorem checkSignature_unauthorized {reason : Auth.Rejection}
    (h : Unauthorized s r now reason) : checkSignature s r now = .error (.unauthorized reason) := by
  rw [checkSignature_eq hs, if_neg h.1, h.2]
  rfl

include hs in
theorem checkSignature_ok (h : ∀ reason, ¬ Unauthorized s r now reason) :
    checkSignature s r now = .ok () := by
  rw [checkSignature_eq hs]
  split
  · rfl
  · next hword =>
    cases hverify : Auth.verify (s.word .internalKey) (r.header? signatureHeader)
        (r.header? timestampHeader) r.body (some (s.count .maxSkewMs)) now with
    | error reason => exact absurd ⟨hword, hverify⟩ (h reason)
    | ok _ => rfl

theorem readDocument_notJson (h : NotJson r) : readDocument r = .error .notJson := by
  obtain ⟨hbody, hdocument⟩ := h
  rw [readDocument, if_neg (mt List.isEmpty_iff.mp hbody)]
  cases hread : Json.readBytes r.body with
  | error e => rfl
  | ok document => exact absurd hread (hdocument document)

/-- The document of a body and the text in it, if it gives one. -/
theorem readDocument_ok (h : ¬ NotJson r) : ∃ document, readDocument r = .ok document ∧
    ((∃ text, Gives r text) ∨ textIn document = .error .noText) ∧
    ∀ text, Gives r text → textIn document = .ok text.shown := by
  by_cases hbody : r.body = []
  · refine ⟨.null, by rw [readDocument, hbody]; rfl, .inr rfl, ?_⟩
    intro text htext
    exact absurd hbody htext.1
  · obtain ⟨document, hread⟩ : ∃ document, Json.readBytes r.body = .ok document :=
      Classical.byContradiction fun hn =>
        h ⟨hbody, fun document hread => hn ⟨document, hread⟩⟩
    refine ⟨document, ?_, ?_, ?_⟩
    · rw [readDocument, if_neg (mt List.isEmpty_iff.mp hbody), hread]
      rfl
    · rw [textIn]
      split
      · next text htext =>
        by_cases hempty : text = []
        · rw [if_pos (List.isEmpty_iff.mpr hempty)]
          exact .inr rfl
        · cases document with
          | object members => exact .inl ⟨text, hbody, hempty, members, hread, htext⟩
          | _ => exact absurd htext (Option.some_ne_none _).symm
      · exact .inr rfl
    · rintro text ⟨-, hempty, members, hmembers, htext⟩
      obtain rfl := Except.ok.inj (hread.symm.trans hmembers)
      rw [textIn, htext]
      exact if_neg (mt List.isEmpty_iff.mp hempty)

include hs in
theorem checkLength_tooLong {operation : Operation} {text : RawText}
    (h : TooLong s operation text) :
    checkLength s operation text.shown = .error (.tooLong (s.value .maxDetectChars)) := by
  obtain ⟨rfl, hlong⟩ := h
  simp only [checkLength]
  rw [RawText.length_shown, exceeds_eq hs rfl, decide_eq_true hlong]
  rfl

include hs in
theorem checkLength_ok {operation : Operation} {text : RawText} (h : ¬ TooLong s operation text) :
    checkLength s operation text.shown = .ok () := by
  cases operation with
  | detect =>
    simp only [checkLength]
    rw [RawText.length_shown, exceeds_eq hs rfl, decide_eq_false fun hlong => h ⟨rfl, hlong⟩]
    rfl
  | _ => rfl

end Checks

/-! ### Accepted texts -/

/-- Whether a request passes the checks of its size and its signature. -/
def Admitted (s : Settings) (r : Request) (now : Int) : Prop :=
  ¬ TooLarge s r ∧ ∀ reason, ¬ Unauthorized s r now reason

/-- A request fails one of the first four checks, or gives a text. -/
theorem cases_request (s : Settings) (r : Request) (now : Int) :
    TooLarge s r ∨ (¬ TooLarge s r ∧ ∃ reason, Unauthorized s r now reason) ∨
      (Admitted s r now ∧ NotJson r) ∨
      (Admitted s r now ∧ ¬ NotJson r ∧ ∀ text, ¬ Gives r text) ∨
      ∃ text, Admitted s r now ∧ Gives r text := by
  by_cases hsize : TooLarge s r
  · exact .inl hsize
  by_cases hsignature : ∃ reason, Unauthorized s r now reason
  · exact .inr (.inl ⟨hsize, hsignature⟩)
  have hadmitted : Admitted s r now := ⟨hsize, not_exists.mp hsignature⟩
  by_cases hjson : NotJson r
  · exact .inr (.inr (.inl ⟨hadmitted, hjson⟩))
  by_cases hgives : ∃ text, Gives r text
  · obtain ⟨text, htext⟩ := hgives
    exact .inr (.inr (.inr (.inr ⟨text, hadmitted, htext⟩)))
  · exact .inr (.inr (.inr (.inl ⟨hadmitted, hjson, not_exists.mp hgives⟩)))

section Accepted

variable {s : Settings} (hs : s.WellTyped) {operation : Operation} {r : Request} {now : Int}

include hs

theorem acceptedText_tooLarge (h : TooLarge s r) :
    acceptedText s operation r now = .error (.tooLarge (s.value .maxBodyBytes)) := by
  rw [acceptedText, checkSize_tooLarge hs h]
  rfl

theorem acceptedText_unauthorized (hsize : ¬ TooLarge s r) {reason : Auth.Rejection}
    (h : Unauthorized s r now reason) :
    acceptedText s operation r now = .error (.unauthorized reason) := by
  rw [acceptedText, checkSize_ok hs hsize, checkSignature_unauthorized hs h]
  rfl

/-- What the checks of a request come to when the first two are passed. -/
theorem acceptedText_admitted (h : Admitted s r now) :
    acceptedText s operation r now = (do
      let text ← textIn (← readDocument r)
      checkLength s operation text
      .ok text) := by
  rw [acceptedText, checkSize_ok hs h.1, checkSignature_ok hs h.2]
  rfl

theorem acceptedText_notJson (hadmitted : Admitted s r now) (h : NotJson r) :
    acceptedText s operation r now = .error .notJson := by
  rw [acceptedText_admitted hs hadmitted, readDocument_notJson h]
  rfl

theorem acceptedText_noText (hadmitted : Admitted s r now) (hjson : ¬ NotJson r)
    (h : ∀ text, ¬ Gives r text) : acceptedText s operation r now = .error .noText := by
  obtain ⟨document, hread, htext, -⟩ := readDocument_ok hjson
  obtain ⟨text, hgives⟩ | hnone := htext
  · exact absurd hgives (h text)
  · rw [acceptedText_admitted hs hadmitted, hread]
    simp only [bind, Except.bind, hnone]

theorem acceptedText_gives (hadmitted : Admitted s r now) {text : RawText} (h : Gives r text) :
    acceptedText s operation r now
      = (checkLength s operation text.shown).map fun _ => text.shown := by
  obtain ⟨document, hread, -, hgives⟩ := readDocument_ok fun hnot => hnot.2 _ h.2.2.choose_spec.1
  rw [acceptedText_admitted hs hadmitted, hread]
  simp only [bind, Except.bind, hgives text h]
  cases checkLength s operation text.shown <;> rfl

theorem acceptedText_tooLong (hadmitted : Admitted s r now) {text : RawText} (hgives : Gives r text)
    (h : TooLong s operation text) :
    acceptedText s operation r now = .error (.tooLong (s.value .maxDetectChars)) := by
  rw [acceptedText_gives hs hadmitted hgives, checkLength_tooLong hs h]
  rfl

theorem acceptedText_ok (hadmitted : Admitted s r now) {text : RawText} (hgives : Gives r text)
    (h : ¬ TooLong s operation text) : acceptedText s operation r now = .ok text.shown := by
  rw [acceptedText_gives hs hadmitted hgives, checkLength_ok hs h]
  rfl

theorem exists_refusal (h : ∀ text, Admitted s r now → Gives r text → TooLong s operation text) :
    ∃ refusal, acceptedText s operation r now = .error refusal := by
  rcases cases_request s r now with
    hsize | ⟨hsize, reason, hreason⟩ | ⟨hadmitted, hjson⟩ | ⟨hadmitted, hjson, hnone⟩ |
      ⟨text, hadmitted, hgives⟩
  · exact ⟨_, acceptedText_tooLarge hs hsize⟩
  · exact ⟨_, acceptedText_unauthorized hs hsize hreason⟩
  · exact ⟨_, acceptedText_notJson hs hadmitted hjson⟩
  · exact ⟨_, acceptedText_noText hs hadmitted hjson hnone⟩
  · exact ⟨_, acceptedText_tooLong hs hadmitted hgives (h text hadmitted hgives)⟩

end Accepted

end Http

end SourceText
