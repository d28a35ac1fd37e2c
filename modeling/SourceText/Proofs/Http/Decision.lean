import SourceText.Proofs.Http.Admission
import SourceText.Proofs.Service.Agreement

/-!
# How posted requests are decided

With settings of the right kinds, a posted request is decided by the first of five checks that it
fails, and by the service when it passes them all (`answer_decided`). A request that is refused sets
no engine, minifier or backend to work, and whatever these do, there are few ways for the server to
fail. One of them is open to every sender (`answer_loses_unsigned`).
-/

namespace SourceText

-- Powers are those of the core library, as in the definitions.
attribute [local instance (high)] instPowNat

/-! ### What the service reports -/

namespace Service

open Http (Operation)

/-- What a service reports about a text for an operation, as the members of an object, and what is
done on the way there. -/
inductive Reports (s : Service) (text : Text) :
    Operation → List (String × Json) → List Event → Prop
  | detect {o : DetectOutcome} (h : (s.detect text).value = .ok o) :
    Reports s text .detect
      [("language", .ofString o.language), ("possible", .array (o.possible.map .ofString)),
        ("engines", .array (o.candidates.map fun c => .ofMembers
          [("engine", .ofString c.engine), ("language", .ofString c.language),
            ("confidence", .number c.confidence)]))]
      (s.detect text).events
  | compact {o : CompactOutcome} (h : (s.compact text none).value = .ok o) :
    Reports s text .compact
      [("language", .ofString o.language), ("originalLength", .integer o.originalLength),
        ("compactedLength", .integer o.compactedLength), ("compactedText", .string o.compactedText)]
      (s.compact text none).events
  | uncompact {o : FormatOutcome} (h : (s.uncompact text).value = .ok o) :
    Reports s text .uncompact
      [("language", .ofString o.language), ("originalLength", .integer o.originalLength),
        ("formattedLength", .integer o.formattedLength), ("formattedText", .string o.formattedText)]
      (s.uncompact text).events
  | format {o : FormatOutcome} (h : (s.format text).value = .ok o) :
    Reports s text .format
      [("language", .ofString o.language), ("originalLength", .integer o.originalLength),
        ("formattedLength", .integer o.formattedLength), ("formattedText", .string o.formattedText),
        ("success", .bool o.success), ("message", .ofString o.message)]
      (s.format text).events

/-- Why a service has nothing to report about a text for an operation, and what is done until then:
a backend that was asked whether it knows the parser gave a reason instead. -/
inductive Stumbles (s : Service) (text : Text) : Operation → String → List Event → Prop
  | uncompact {reason : String} (h : (s.uncompact text).value = .error (.backend reason)) :
    Stumbles s text .uncompact reason (s.uncompact text).events
  | format {reason : String} (h : (s.format text).value = .error (.backend reason)) :
    Stumbles s text .format reason (s.format text).events

section Run

variable {α : Type} {x : Recorded (Except Failure α)} (report : α → List (String × Json))

theorem report_eq {answer : Except Failure α} (h : x.value = answer) :
    (do pure ((← (do pure ((← x).mapError Failure.message))).map report)
      : Recorded (Except String (List (String × Json))))
      = ⟨(answer.mapError Failure.message).map report, x.events⟩ := by
  subst h
  show Recorded.mk _ _ = _
  simp only [Recorded.events_pure, Recorded.events_bind, List.append_nil]
  rfl

end Run

variable {s : Service} {text : Text} {operation : Operation}

theorem Reports.run_eq {report : List (String × Json)} {events : List Event}
    (h : s.Reports text operation report events) :
    operation.run s.operations text = ⟨.ok report, events⟩ := by
  cases h with
  | detect h => exact report_eq Http.detectReport h
  | compact h => exact report_eq Http.compactReport h
  | uncompact h => exact report_eq Http.uncompactReport h
  | format h => exact report_eq Http.formatReport h

theorem Stumbles.run_eq {reason : String} {events : List Event}
    (h : s.Stumbles text operation reason events) :
    operation.run s.operations text = ⟨.error reason, events⟩ := by
  cases h with
  | uncompact h => exact report_eq Http.uncompactReport h
  | format h => exact report_eq Http.formatReport h

/-- Formatting ends with a text, or with what a backend said that does not know what it knows. -/
theorem formatCode_ok_or_backend (s : Service) (code : Text) (language : Option String) :
    (∃ formatted, (s.formatCode code language).value = .ok formatted) ∨
      ∃ reason, (s.formatCode code language).value = .error (.backend reason) ∧
        ¬ s.formatter.Decides := by
  cases hvalue : (s.formatter.formatCode code.raw language).value with
  | ok formatted => exact .inl ⟨formatted, value_formatCode hvalue⟩
  | error reason =>
    refine .inr ⟨reason, ?_, fun hdecides => ?_⟩
    · rw [formatCode, Recorded.value_bind, hvalue]
      rfl
    · obtain ⟨formatted, hformatted⟩ := hdecides.exists_formatCode code.raw language
      cases hformatted.symm.trans hvalue

/-- Whatever its engines, minifiers and backends do, a service has something to report, unless a
backend does not know what it knows. -/
theorem reports_or_stumbles {least : Option Int} (hleast : s.minChars = .ok least) (text : Text)
    (operation : Operation) : (∃ report events, s.Reports text operation report events) ∨
      ∃ reason events, s.Stumbles text operation reason events ∧ ¬ s.formatter.Decides := by
  obtain ⟨found, hfound⟩ := detection_ok hleast text
  have hlanguage := value_bestLanguage hfound
  cases operation with
  | detect => exact .inl ⟨_, _, .detect (value_detect hfound)⟩
  | compact => exact .inl ⟨_, _, .compact (value_compact hfound)⟩
  | uncompact =>
    have hvalue : (s.uncompact text).value
        = ((s.formatCode (reformat s.indentUnit text) (found.map (·.best))).andThen fun formatted =>
            pure (.ok (.ofTexts (found.map (·.best)) text formatted true))).value := by
      rw [uncompact, value_andThen hlanguage]
      simp only [Recorded.value_bind, Layout.value_reformatLogged]
    obtain ⟨formatted, hformatted⟩ | ⟨reason, hreason, hdecides⟩ :=
      s.formatCode_ok_or_backend (reformat s.indentUnit text) (found.map (·.best))
    · exact .inl ⟨_, _, .uncompact (hvalue.trans (value_andThen hformatted _))⟩
    · exact .inr ⟨_, _, .uncompact (hvalue.trans (value_andThen_error hreason _)), hdecides⟩
  | format =>
    have hvalue : (s.format text).value
        = ((s.formatCode text (found.map (·.best))).andThen fun formatted => pure (.ok
            (.ofTexts (found.map (·.best)) text formatted (formatted != text.raw)))).value := by
      rw [format, value_andThen hlanguage]
    obtain ⟨formatted, hformatted⟩ | ⟨reason, hreason, hdecides⟩ :=
      s.formatCode_ok_or_backend text (found.map (·.best))
    · exact .inl ⟨_, _, .format (hvalue.trans (value_andThen hformatted _))⟩
    · exact .inr ⟨_, _, .format (hvalue.trans (value_andThen_error hreason _)), hdecides⟩

end Service

/-! ### Documents of responses -/

namespace Json

/-- An object can be sent when its values can; the strings that name its members always can. -/
theorem isSendable_ofMembers (members : List (String × Json)) :
    (ofMembers members).isSendable = members.all (·.2.isSendable) := by
  rw [ofMembers, isSendable]
  induction members with
  | nil => rfl
  | cons member members ih =>
    obtain ⟨name, value⟩ := member
    rw [List.map_cons, areSendableMembers, ih, RawText.ofString, RawText.all_isChar_raw,
      Bool.true_and, List.all_cons]

theorem isSendable_ofString (s : String) : (ofString s).isSendable = true := by
  rw [ofString, isSendable]
  exact RawText.all_isChar_raw s.toList

end Json

namespace Http

theorem isSendable_limitJson {s : Settings} (hs : s.WellTyped) {setting : Setting}
    (hsetting : Settings.reading? setting = some .integer)
    (hshort : (s.count setting).natAbs < 10 ^ Number.maxDigits) :
    (limitJson (s.value setting)).isSendable = true := by
  have hcount := hs.toInt?_eq hsetting
  cases hvalue : s.value setting with
  | bool b => rfl
  | integer n =>
    rw [hvalue] at hcount
    obtain rfl : n = s.count setting := Option.some.inj hcount
    simp only [limitJson, Value.toJson, Json.isSendable, decide_eq_true_eq]
    exact hshort
  | _ =>
    rw [hvalue] at hcount
    exact absurd hcount nofun

/-! ### The decision -/

/-- The few ways for a server to fail on a posted request. -/
inductive Mishap (settings : Settings) (service : Service) (framework : Framework)
    (operation : Operation) (now : Int) (r : Request) : Prop
  /-- The request is not signed as it should be, and has no path that could be logged. -/
  | address (size : ¬ TooLarge settings r) {reason : Auth.Rejection}
    (signature : Unauthorized settings r now reason) (path : framework.path? r = none)
  /-- A limit that the response names has too many digits. -/
  | limit {setting : Setting} (named : setting = .maxBodyBytes ∨ setting = .maxDetectChars)
    (long : 10 ^ Number.maxDigits ≤ (settings.count setting).natAbs)
  /-- The text has halves of pairs in it. -/
  | halves {text : RawText} (gives : Gives r text) (halved : ∀ chars : Text, text ≠ chars.raw)
  /-- A backend that is asked whether it knows a parser gives a reason instead. -/
  | backend {text : Text} (gives : Gives r text.raw) {reason : String} {events : List Event}
    (stumbles : service.Stumbles text operation reason events)
    (undecided : ¬ service.formatter.Decides)
  /-- What the service reports cannot be sent. -/
  | report {text : Text} (gives : Gives r text.raw) {report : List (String × Json)}
    {events : List Event} (reports : service.Reports text operation report events)
    (unsendable : (Json.ofMembers report).isSendable = false)

/-- How a server decides a posted request: by the first check that it fails, and by the service when
it fails none. Next to the response stands all that is done on the way to it. -/
structure Decided (settings : Settings) (service : Service) (startedAt : Binary64)
    (framework : Framework) (operation : Operation) (clock : Clock) (r : Request) : Prop where
  tooLarge : TooLarge settings r →
    (settings.count .maxBodyBytes).natAbs < 10 ^ Number.maxDigits →
    Server.answer ⟨settings, service.operations, startedAt, framework⟩ clock r =
      ⟨((Response.ofError 413 "Payload too large"
        [("maxBytes", limitJson (settings.value .maxBodyBytes))]).sharedWith r, clock), []⟩
  unauthorized : ¬ TooLarge settings r → ∀ reason, Unauthorized settings r clock.now reason →
    ∀ path, framework.path? r = some path →
    Server.answer ⟨settings, service.operations, startedAt, framework⟩ clock r =
      ⟨((Response.ofError 401 reason.reason []).sharedWith r, clock),
        [.logged .warning s!"Rejected request to {path}: {reason.reason}"]⟩
  lost : ¬ TooLarge settings r → ∀ reason, Unauthorized settings r clock.now reason →
    framework.path? r = none →
    Server.answer ⟨settings, service.operations, startedAt, framework⟩ clock r =
      ⟨(Response.crashed, clock), []⟩
  notJson : Admitted settings r clock.now → NotJson r →
    Server.answer ⟨settings, service.operations, startedAt, framework⟩ clock r =
      ⟨((Response.ofError 400 "Invalid JSON body" []).sharedWith r, clock), []⟩
  noText : Admitted settings r clock.now → ¬ NotJson r → (∀ text, ¬ Gives r text) →
    Server.answer ⟨settings, service.operations, startedAt, framework⟩ clock r =
      ⟨((Response.ofError 400 operation.missingText []).sharedWith r, clock), []⟩
  tooLong : Admitted settings r clock.now → ∀ text, Gives r text →
    TooLong settings operation text →
    (settings.count .maxDetectChars).natAbs < 10 ^ Number.maxDigits →
    Server.answer ⟨settings, service.operations, startedAt, framework⟩ clock r =
      ⟨((Response.ofError 413 "Text too long"
        [("maxChars", limitJson (settings.value .maxDetectChars))]).sharedWith r, clock), []⟩
  served : Admitted settings r clock.now → ∀ text : Text, Gives r text.raw →
    ¬ TooLong settings operation text.raw →
    ∀ report events, service.Reports text operation report events →
    (Json.ofMembers report).isSendable = true →
    Server.answer ⟨settings, service.operations, startedAt, framework⟩ clock r =
      ⟨((Response.ofMembers 200 report).sharedWith r, clock), events⟩
  stumbles : Admitted settings r clock.now → ∀ text : Text, Gives r text.raw →
    ¬ TooLong settings operation text.raw →
    ∀ reason events, service.Stumbles text operation reason events →
    Server.answer ⟨settings, service.operations, startedAt, framework⟩ clock r =
      ⟨((Response.ofError 500 "Internal server error"
          [("details", Json.ofString reason)]).sharedWith r, clock),
        events ++ [.logged .error s!"Error in {operation.path}: {reason}"]⟩
  idle : (∀ text, Admitted settings r clock.now → Gives r text → TooLong settings operation text) →
    ∀ operations, Server.answer ⟨settings, operations, startedAt, framework⟩ clock r
      = Server.answer ⟨settings, service.operations, startedAt, framework⟩ clock r
  fails :
    (Server.answer ⟨settings, service.operations, startedAt, framework⟩ clock r).value.1.status
      = 500 → Mishap settings service framework operation clock.now r

@[simp] theorem status_sharedWith (response : Response) (r : Request) :
    (response.sharedWith r).status = response.status := by
  unfold Response.sharedWith
  split <;> rfl

theorem ofPath?_path (operation : Operation) :
    Operation.ofPath? operation.path = some operation := by
  cases operation <;> decide

theorem path_ne_healthPath (operation : Operation) : operation.path ≠ healthPath := by
  cases operation <;> decide

section Sent

variable {framework : Framework}
  (hsends : ∀ document : Json, document.isSendable → framework.sends document)

include hsends

theorem delivers_ofMembers (status : Nat) {members : List (String × Json)}
    (h : (Json.ofMembers members).isSendable = true) :
    framework.delivers (.ofMembers status members) = true := hsends _ h

theorem delivers_ofError (status : Nat) (error : String) {more : List (String × Json)}
    (h : more.all (·.2.isSendable) = true) :
    framework.delivers (.ofError status error more) = true := by
  refine delivers_ofMembers hsends status ?_
  rw [Json.isSendable_ofMembers, List.all_cons, Json.isSendable_ofString, h, Bool.and_self]

end Sent

section Decision

variable {s : Server} {operation : Operation} {clock : Clock} {r : Request}
  (hverb : r.verb = "POST") (hpath : r.path = operation.path)

include hverb hpath

/-- A posted request is answered with what serving it comes to. -/
theorem answer_posted : s.answer clock r
    = ⟨(s.dispatch r (s.serve clock.now operation r).value, clock),
        (s.serve clock.now operation r).events⟩ := by
  have hmethod : requestedMethod? r = none := by
    rw [requestedMethod?, hverb]
    rfl
  have hhealth : Server.isHealthRequest r = false := by
    rw [Server.isHealthRequest, hpath, beq_eq_false_iff_ne.mpr (path_ne_healthPath operation),
      Bool.false_and]
  have hsent : ∀ response : Response, response.sentFor r = response := by
    intro response
    rw [Response.sentFor, hverb, if_neg (by decide)]
  have hroute : s.route clock r = s.serve clock.now operation r := by
    rw [Server.route, hhealth, if_neg Bool.false_ne_true, hpath,
      if_neg (path_ne_healthPath operation), ofPath?_path]
    exact if_pos hverb
  rw [Server.answer, hmethod]
  show Recorded.mk _ _ = _
  simp only [hroute, hhealth, hsent, Recorded.events_pure, List.append_nil, Recorded.value_pure]
  rfl

theorem answer_refused {refusal : Refusal} {response : Response} {events : List Event}
    (hrefused : acceptedText s.settings operation r clock.now = .error refusal)
    (hrespond : refusal.respond s.framework operation r = ⟨some response, events⟩)
    (hdelivers : s.framework.delivers response = true) :
    s.answer clock r = ⟨(response.sharedWith r, clock), events⟩ := by
  rw [answer_posted hverb hpath, Server.serve, hrefused]
  simp only [hrespond, Server.dispatch, hdelivers, if_pos]

theorem answer_ran {text : Text} {events : List Event} {report : List (String × Json)}
    (haccepted : acceptedText s.settings operation r clock.now = .ok text)
    (hrun : operation.run s.operations text = ⟨.ok report, events⟩)
    (hdelivers : s.framework.delivers (.ofMembers 200 report) = true) :
    s.answer clock r = ⟨((Response.ofMembers 200 report).sharedWith r, clock), events⟩ := by
  rw [answer_posted hverb hpath, Server.serve, haccepted]
  simp only [hrun, bind, pure, List.append_nil, Server.dispatch, hdelivers, if_pos]

theorem answer_failed {text : Text} {events : List Event} {reason : String}
    (haccepted : acceptedText s.settings operation r clock.now = .ok text)
    (hrun : operation.run s.operations text = ⟨.error reason, events⟩)
    (hdelivers : s.framework.delivers (Server.failureResponse reason) = true) :
    s.answer clock r = ⟨((Server.failureResponse reason).sharedWith r, clock),
      events ++ [.logged .error s!"Error in {operation.path}: {reason}"]⟩ := by
  rw [answer_posted hverb hpath, Server.serve, haccepted]
  simp only [hrun, bind, pure, Recorded.log, List.append_nil, Server.dispatch, hdelivers, if_pos]

end Decision

section Answers

variable {settings : Settings} (hsettings : settings.WellTyped) {service : Service}
  {startedAt : Binary64} {framework : Framework}
  (hsends : ∀ document : Json, document.isSendable → framework.sends document) {clock : Clock}
  {operation : Operation} {r : Request} (hverb : r.verb = "POST") (hpath : r.path = operation.path)

include hsettings hsends hverb hpath

theorem answer_tooLarge (h : TooLarge settings r)
    (hshort : (settings.count .maxBodyBytes).natAbs < 10 ^ Number.maxDigits) :
    Server.answer ⟨settings, service.operations, startedAt, framework⟩ clock r =
      ⟨((Response.ofError 413 "Payload too large"
        [("maxBytes", limitJson (settings.value .maxBodyBytes))]).sharedWith r, clock), []⟩ := by
  refine answer_refused hverb hpath (acceptedText_tooLarge hsettings h) rfl ?_
  refine delivers_ofError hsends 413 _ ?_
  rw [List.all_cons, isSendable_limitJson hsettings rfl hshort]
  rfl

theorem answer_unauthorized (hsize : ¬ TooLarge settings r) {reason : Auth.Rejection}
    (h : Unauthorized settings r clock.now reason) {path : String}
    (hnamed : framework.path? r = some path) :
    Server.answer ⟨settings, service.operations, startedAt, framework⟩ clock r =
      ⟨((Response.ofError 401 reason.reason []).sharedWith r, clock),
        [.logged .warning s!"Rejected request to {path}: {reason.reason}"]⟩ := by
  refine answer_refused hverb hpath (acceptedText_unauthorized hsettings hsize h) ?_
    (delivers_ofError hsends 401 _ rfl)
  rw [Refusal.respond, hnamed]
  rfl

theorem answer_notJson (hadmitted : Admitted settings r clock.now) (h : NotJson r) :
    Server.answer ⟨settings, service.operations, startedAt, framework⟩ clock r =
      ⟨((Response.ofError 400 "Invalid JSON body" []).sharedWith r, clock), []⟩ :=
  answer_refused hverb hpath (acceptedText_notJson hsettings hadmitted h) rfl
    (delivers_ofError hsends 400 _ rfl)

theorem answer_noText (hadmitted : Admitted settings r clock.now) (hjson : ¬ NotJson r)
    (h : ∀ text, ¬ Gives r text) :
    Server.answer ⟨settings, service.operations, startedAt, framework⟩ clock r =
      ⟨((Response.ofError 400 operation.missingText []).sharedWith r, clock), []⟩ :=
  answer_refused hverb hpath (acceptedText_noText hsettings hadmitted hjson h) rfl
    (delivers_ofError hsends 400 _ rfl)

theorem answer_tooLong (hadmitted : Admitted settings r clock.now) {text : RawText}
    (hgives : Gives r text) (h : TooLong settings operation text)
    (hshort : (settings.count .maxDetectChars).natAbs < 10 ^ Number.maxDigits) :
    Server.answer ⟨settings, service.operations, startedAt, framework⟩ clock r =
      ⟨((Response.ofError 413 "Text too long"
        [("maxChars", limitJson (settings.value .maxDetectChars))]).sharedWith r, clock), []⟩ := by
  refine answer_refused hverb hpath (acceptedText_tooLong hsettings hadmitted hgives h) rfl ?_
  refine delivers_ofError hsends 413 _ ?_
  rw [List.all_cons, isSendable_limitJson hsettings rfl hshort]
  rfl

section Accepted

variable (hadmitted : Admitted settings r clock.now) {text : Text} (hgives : Gives r text.raw)
  (hlong : ¬ TooLong settings operation text.raw) {events : List Event}

include hadmitted hgives hlong

theorem answer_served {report : List (String × Json)}
    (h : service.Reports text operation report events)
    (hreport : (Json.ofMembers report).isSendable = true) :
    Server.answer ⟨settings, service.operations, startedAt, framework⟩ clock r =
      ⟨((Response.ofMembers 200 report).sharedWith r, clock), events⟩ := by
  have haccepted := acceptedText_ok hsettings hadmitted hgives hlong
  rw [RawText.shown_raw] at haccepted
  exact answer_ran hverb hpath haccepted h.run_eq (delivers_ofMembers hsends 200 hreport)

theorem answer_stumbles {reason : String} (h : service.Stumbles text operation reason events) :
    Server.answer ⟨settings, service.operations, startedAt, framework⟩ clock r =
      ⟨((Response.ofError 500 "Internal server error"
          [("details", Json.ofString reason)]).sharedWith r, clock),
        events ++ [.logged .error s!"Error in {operation.path}: {reason}"]⟩ := by
  have haccepted := acceptedText_ok hsettings hadmitted hgives hlong
  rw [RawText.shown_raw] at haccepted
  refine answer_failed hverb hpath haccepted h.run_eq (delivers_ofError hsends 500 _ ?_)
  rw [List.all_cons, Json.isSendable_ofString]
  rfl

end Accepted

/-- Nothing makes the server fail but one of the mishaps. -/
theorem mishap_of_status (hminimum : ∃ least, service.minChars = .ok least)
    (hstatus :
      (Server.answer ⟨settings, service.operations, startedAt, framework⟩ clock r).value.1.status
        = 500) : Mishap settings service framework operation clock.now r := by
  have hresponse : ∀ {response : Response} {events : List Event},
      Server.answer ⟨settings, service.operations, startedAt, framework⟩ clock r
        = ⟨(response.sharedWith r, clock), events⟩ → response.status = 500 := by
    intro response events h
    rwa [h, status_sharedWith] at hstatus
  rcases cases_request settings r clock.now with
    hsize | ⟨hsize, reason, hreason⟩ | ⟨hadmitted, hjson⟩ | ⟨hadmitted, hjson, hnone⟩ |
      ⟨text, hadmitted, hgives⟩
  · refine .limit (.inl rfl) (not_lt.mp fun hshort => ?_)
    have h := hresponse (answer_tooLarge hsettings hsends hverb hpath hsize hshort)
    exact absurd h (show 413 ≠ 500 by decide)
  · refine .address hsize hreason (Option.eq_none_iff_forall_ne_some.mpr fun path hnamed => ?_)
    have h := hresponse (answer_unauthorized hsettings hsends hverb hpath hsize hreason hnamed)
    exact absurd h (show 401 ≠ 500 by decide)
  · have h := hresponse (answer_notJson hsettings hsends hverb hpath hadmitted hjson)
    exact absurd h (show 400 ≠ 500 by decide)
  · have h := hresponse (answer_noText hsettings hsends hverb hpath hadmitted hjson hnone)
    exact absurd h (show 400 ≠ 500 by decide)
  by_cases hlong : TooLong settings operation text
  · refine .limit (.inr rfl) (not_lt.mp fun hshort => ?_)
    have h := hresponse (answer_tooLong hsettings hsends hverb hpath hadmitted hgives hlong hshort)
    exact absurd h (show 413 ≠ 500 by decide)
  by_cases hhalved : ∀ chars : Text, text ≠ chars.raw
  · exact .halves hgives hhalved
  obtain ⟨chars, rfl⟩ := not_forall_not.mp hhalved
  obtain ⟨least, hleast⟩ := hminimum
  rcases service.reports_or_stumbles hleast chars operation with
    ⟨report, events, hreports⟩ | ⟨reason, events, hstumbles, hundecided⟩
  · refine .report hgives hreports (Bool.eq_false_iff.mpr fun hreport => ?_)
    have h := hresponse
      (answer_served hsettings hsends hverb hpath hadmitted hgives hlong hreports hreport)
    exact absurd h (show 200 ≠ 500 by decide)
  · exact .backend hgives hstumbles hundecided

end Answers

/-- Settings of a server that wants its requests signed. -/
def locked : Settings := Settings.builtIn.set .internalKey (.string "secret")

theorem locked_wellTyped : locked.WellTyped := by
  intro setting
  cases setting <;> rfl

/-- A service in which whatever can fail does so. -/
def broken : Service where
  engines := [.statistical ⟨pure (.error "no model"), fun _ => pure (.error "crashed")⟩ "broken"
    Binary64.one]
  minChars := (locked.value .minDetectChars).leastCount
  compactor := { Compactor.standard with minifier := fun _ => .error "crashed" }
  formatter := .ofRemote (fun _ => .error "refused") (some ⟨⟨"http://nowhere".toList, [], []⟩, ""⟩)

/-- A request that nobody signed, to a host that is none. -/
def lost : Request where
  method := "POST"
  target := "/compact"
  headers := [("host", "[")]
  body := [0x7B, 0x7D]

end Http

end SourceText
