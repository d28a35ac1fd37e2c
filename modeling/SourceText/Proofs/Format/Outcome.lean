import SourceText.Format.Formatter
import SourceText.Proofs.Success
import SourceText.Proofs.Text.Raw

/-!
# What comes of formatting

With the backends that are made here formatting always ends with a text. JSON is laid out here and
never sent anywhere; code with another parser goes to the remote service in one request, if there is
a service and the client does not refuse to send the request. Whatever does not lead to a formatted
text leaves the code as it is (`create_formats`).
-/

namespace SourceText.Format

/-- The formatted text in an answer of the service: the member of a JSON object. -/
def Gives (reply : Reply) (text : RawText) : Prop :=
  reply.status = 200 ∧ ∃ members, Json.readBytes reply.body = .ok (.object members) ∧
    (Json.object members).member? "formatted" = some (.string text)

theorem readReply_eq_ok_iff (reply : Reply) (text : RawText) :
    readReply reply = .ok text ↔ Gives reply text := by
  unfold readReply Gives
  by_cases hstatus : reply.status = 200
  · rw [if_neg (by simpa using hstatus)]
    cases Json.readBytes reply.body with
    | error e => simp
    | ok value =>
      cases value with
      | object members =>
        simp only [hstatus, true_and, Except.ok.injEq, Json.object.injEq, exists_eq_left']
        split
        · next found hfound => simp [hfound]
        · next hnone => exact ⟨nofun, fun h => absurd h (hnone text)⟩
      | _ => simp
  · rw [if_pos (by simpa using hstatus)]
    simp [hstatus]

/-! ### Requests that are refused -/

namespace Address

/-- No request goes to an address with a control character in it. -/
theorem isSome_fault?_of_isControlChar {a : Address} {c : Char} (hc : c ∈ a.endpoint)
    (hcontrol : isControlChar c = true) : a.fault?.isSome = true := by
  obtain ⟨first, hfirst⟩ := Option.isSome_iff_exists.mp (List.find?_isSome.mpr ⟨c, hc, hcontrol⟩)
  unfold fault?
  split
  · rfl
  · simp only [hfirst, Option.isSome_some]

/-- An address that is refused has a control character in it, or it is too long. -/
theorem control_or_long_of_fault? {a : Address} (h : a.fault?.isSome = true) :
    (∃ c ∈ a.endpoint, isControlChar c = true) ∨ maxAddressLength < a.endpoint.length ∨
      maxAddressLength < (a.path ++ escapeTarget a.endpoint).length := by
  unfold fault? at h
  split at h
  · next hlong => exact .inr (.inl hlong)
  · split at h
    · next c hc => exact .inl ⟨c, List.mem_of_find?_eq_some hc, List.find?_some hc⟩
    · simp only at h
      split at h
      · next hlong =>
        exact .inr (.inr (Nat.lt_of_lt_of_le hlong (List.takeWhile_sublist _).length_le))
      · split at h
        · next hlong => exact .inr (.inr (by omega))
        · exact absurd h Bool.false_ne_true

end Address

theorem all_isChar_pointText (point : Point) :
    (Json.pointText false point).all Point.isChar = point.isChar := by
  cases point with
  | char c => exact RawText.all_isChar_raw _
  | half offset => rfl

theorem all_isChar_stringText (s : RawText) :
    (Json.stringText false s).all Point.isChar = s.all Point.isChar := by
  have hpoints : (s.flatMap (Json.pointText false)).all Point.isChar = s.all Point.isChar := by
    simp only [List.all_flatMap, all_isChar_pointText]
  simp only [Json.stringText, List.cons_append, List.all_cons, List.all_append, hpoints,
    Point.isChar, List.all_nil, Bool.true_and, Bool.and_true]

/-- A payload has bytes just when the code in it has. -/
theorem all_isChar_payload (parser : String) (code : RawText) :
    (payload parser code).all Point.isChar = code.all Point.isChar := by
  have hnames : ∀ name, (RawText.ofString name).all Point.isChar = true := fun name =>
    RawText.all_isChar_raw _
  simp [payload, Json.write, Json.ofMembers, Json.writeAt, Json.writeMembers, Json.minified,
    Json.lineStart, Json.colon, Json.ofString, all_isChar_stringText, Point.isChar, hnames]

/-- The client sends a request just when nothing is wrong with the address and the code is a text of
characters. -/
theorem ClientRules.standard_eq_none_iff (address : Address) (parser : String) (code : RawText) :
    ClientRules.standard address (payload parser code) = none ↔
      address.fault? = none ∧ ∃ text : Text, code = text.raw := by
  have hcode : code.all Point.isChar = true ↔ ∃ text : Text, code = text.raw := by
    constructor
    · exact fun h => ⟨code.chars, (RawText.raw_chars h).symm⟩
    · rintro ⟨text, rfl⟩
      exact RawText.all_isChar_raw text
  rw [← hcode, ClientRules.standard, all_isChar_payload]
  cases address.fault? with
  | some reason => simp
  | none => simp

namespace Formatter

/-- The text that formatting ends with, if it does, and the requests that are sent for it. -/
def outcome (f : Formatter) (code : RawText) (language : Option String) :
    Except String RawText × List RemoteRequest :=
  ((f.formatCode code language).value, Event.requests (f.formatCode code language).events)

/-- The code goes to the service in one request, whose answer decides what comes of it. -/
def Asks (transport : Transport) (f : Formatter) (parser : String) (code : RawText)
    (language : Option String) : Prop :=
  ∃ request : RemoteRequest, request.parser = parser ∧ request.code = code ∧
    (∀ reply text, transport request = .ok reply → Gives reply text →
      f.outcome code language = (.ok text, [request])) ∧
    ((∀ reply text, transport request = .ok reply → ¬ Gives reply text) →
      f.outcome code language = (.ok code, [request]))

/-- What a formatter does that is made for a service at an address. -/
structure Formats (transport : Transport) (base key endpoint : String) (rules : ClientRules)
    (f : Formatter) (code : RawText) (language : Option String) : Prop where
  unknown : parserOf? language = none → f.outcome code language = (.ok code, [])
  json : ∀ value, parserOf? language = some "json" → Json.read code = .ok value →
    f.outcome code language = (.ok (Json.write { indent := some 2 } value ++ [.char '\n']), [])
  notJson : ∀ e, parserOf? language = some "json" → Json.read code = .error e →
    f.outcome code language = (.ok code, [])
  offline : ∀ parser, parserOf? language = some parser → parser ≠ "json" → base = "" →
    f.outcome code language = (.ok code, [])
  refused : ∀ parser reason, parserOf? language = some parser → parser ≠ "json" → base ≠ "" →
    rules (Address.ofSettings base endpoint) (payload parser code) = some reason →
    f.outcome code language = (.ok code, [])
  requested : ∀ parser, parserOf? language = some parser → parser ≠ "json" → base ≠ "" →
    rules (Address.ofSettings base endpoint) (payload parser code) = none →
    Asks transport f parser code language

/-! ### One call -/

section Outcome

variable {f : Formatter} {code : RawText} {language : Option String} {parser : String}

theorem outcome_of_unknown (h : parserOf? language = none) :
    f.outcome code language = (.ok code, []) := by
  rw [outcome, formatCode, h]
  rfl

theorem outcome_of_unsupported (hparser : parserOf? language = some parser)
    (hbackend : backendFor parser f.backends = .ok none) :
    f.outcome code language = (.ok code, []) := by
  rw [outcome, formatCode, hparser]
  simp only [hbackend]
  rfl

variable {backend : Backend} (hparser : parserOf? language = some parser)
  (hbackend : backendFor parser f.backends = .ok (some backend))

include hparser hbackend

theorem outcome_of_ok {formatted : RawText}
    (h : (backend.format parser code).value = .ok formatted) :
    f.outcome code language
      = (.ok formatted, Event.requests (backend.format parser code).events) := by
  rw [outcome, formatCode, hparser]
  simp only [hbackend, Recorded.value_bind, Recorded.events_bind, h, Recorded.value_pure,
    Recorded.events_pure, List.append_nil]

/-- A failure is logged, and the code stays as it is. -/
theorem outcome_of_error {failure : Failure}
    (h : (backend.format parser code).value = .error failure) :
    f.outcome code language
      = (.ok code, Event.requests (backend.format parser code).events) := by
  rw [outcome, formatCode, hparser]
  simp [hbackend, h, Recorded.log, Event.requests]

end Outcome

/-! ### Backends of a formatter that is made -/

theorem isParser_of_parserOf? {language : Option String} {parser : String}
    (h : parserOf? language = some parser) : isParser parser = true := by
  obtain ⟨before, after, hparsers, -⟩ := List.lookup_eq_some_iff.mp h
  rw [isParser, List.any_eq_true]
  exact ⟨_, hparsers ▸ List.mem_append_right before List.mem_cons_self, beq_self_eq_true parser⟩

theorem ofSettings?_eq_ok {base key endpoint : String} {remote : Option Remote}
    (h : Remote.ofSettings? base key endpoint = .ok remote) :
    remote = if base = "" then none else some ⟨Address.ofSettings base endpoint, key⟩ := by
  rw [Remote.ofSettings?] at h
  by_cases hbase : base = ""
  · rw [if_pos (String.isEmpty_iff.mpr hbase)] at h
    rw [if_pos hbase]
    exact (Except.ok.inj h).symm
  · rw [if_neg (mt String.isEmpty_iff.mp hbase)] at h
    rw [if_neg hbase]
    obtain ⟨-, -, hremote⟩ := exists_of_map_eq_ok h
    exact hremote.symm

section Backends

variable (transport : Transport) (rules : ClientRules) {parser : String}

theorem backendFor_json (remote : Option Remote) :
    backendFor "json" (ofRemote transport remote rules).backends
      = .ok (some (Backend.json jsonIndent)) := rfl

/-- The remote service is asked about all parsers but that of JSON. -/
theorem backendFor_of_ne (h : parser ≠ "json") (remote : Option Remote) :
    backendFor parser (ofRemote transport remote rules).backends
      = backendFor parser (remote.map (Backend.remote transport · rules)).toList := by
  have hother : (Backend.json jsonIndent).supports parser = .ok false :=
    congrArg Except.ok (beq_eq_false_iff_ne.mpr h)
  rw [ofRemote, backendFor, hother]

theorem backendFor_remote (h : parser ≠ "json") (hparser : isParser parser = true) (r : Remote) :
    backendFor parser (ofRemote transport (some r) rules).backends
      = .ok (some (Backend.remote transport r rules)) := by
  have hsupports : (Backend.remote transport r rules).supports parser = .ok true :=
    congrArg Except.ok hparser
  rw [backendFor_of_ne transport rules h, Option.map_some, Option.toList_some, backendFor,
    hsupports]

end Backends

section Remote

variable {transport : Transport} {rules : ClientRules} {r : Remote} {parser : String}
  {code : RawText} {language : Option String}

theorem format_remote_refused {reason : String}
    (h : rules r.address (payload parser code) = some reason) :
    (Backend.remote transport r rules).format parser code = pure (.error (.refused reason)) := by
  rw [Backend.remote]
  simp only [h]

theorem events_format_remote (h : rules r.address (payload parser code) = none) :
    ((Backend.remote transport r rules).format parser code).events
      = [.requested (r.request parser code)] := by
  rw [Backend.remote]
  simp only [h]

theorem value_format_remote_eq_ok_iff (h : rules r.address (payload parser code) = none)
    (text : RawText) :
    ((Backend.remote transport r rules).format parser code).value = .ok text ↔
      ∃ reply, transport (r.request parser code) = .ok reply ∧ Gives reply text := by
  rw [Backend.remote]
  simp only [h]
  cases transport (r.request parser code) with
  | error reason => simp
  | ok reply => simp [readReply_eq_ok_iff]

theorem outcome_of_refused (hparser : parserOf? language = some parser) (hjson : parser ≠ "json")
    {reason : String} (h : rules r.address (payload parser code) = some reason) :
    (ofRemote transport (some r) rules).outcome code language = (.ok code, []) := by
  have hformat : (Backend.remote transport r rules).format parser code
      = pure (.error (.refused reason)) := format_remote_refused h
  rw [outcome_of_error hparser
    (backendFor_remote transport rules hjson (isParser_of_parserOf? hparser) r)
    (congrArg Recorded.value hformat), hformat]
  rfl

theorem asks_of_accepted (hparser : parserOf? language = some parser) (hjson : parser ≠ "json")
    (h : rules r.address (payload parser code) = none) :
    Asks transport (ofRemote transport (some r) rules) parser code language := by
  have hbackend := backendFor_remote transport rules hjson (isParser_of_parserOf? hparser) r
  refine ⟨r.request parser code, rfl, rfl, ?_, ?_⟩
  · intro reply text hreply hgives
    rw [outcome_of_ok hparser hbackend
      ((value_format_remote_eq_ok_iff h text).mpr ⟨reply, hreply, hgives⟩), events_format_remote h]
    rfl
  · intro hnone
    cases hvalue : ((Backend.remote transport r rules).format parser code).value with
    | ok text =>
      obtain ⟨reply, hreply, hgives⟩ := (value_format_remote_eq_ok_iff h text).mp hvalue
      exact absurd hgives (hnone reply text hreply)
    | error failure =>
      rw [outcome_of_error hparser hbackend hvalue, events_format_remote h]
      rfl

end Remote

/-- What formatting comes to, for all code, all languages and whatever the service does. -/
theorem create_formats {transport : Transport} {base key endpoint : String} {rules : ClientRules}
    {f : Formatter} (h : create transport base key endpoint rules = .ok f) (code : RawText)
    (language : Option String) : Formats transport base key endpoint rules f code language := by
  obtain ⟨remote, hremote, rfl⟩ := exists_of_map_eq_ok h
  obtain rfl := ofSettings?_eq_ok hremote
  refine ⟨outcome_of_unknown, ?_, ?_, ?_, ?_, ?_⟩
  · intro value hparser hread
    have hvalue : ((Backend.json jsonIndent).format "json" code).value
        = .ok (Json.write { indent := some 2 } value ++ [.char '\n']) := by
      simp only [Backend.json, Recorded.value_pure, layOutJson, hread]
      rfl
    exact outcome_of_ok hparser (backendFor_json _ _ _) hvalue
  · intro e hparser hread
    have hvalue : ((Backend.json jsonIndent).format "json" code).value = .error (.json e) := by
      simp only [Backend.json, Recorded.value_pure, layOutJson, hread]
    exact outcome_of_error hparser (backendFor_json _ _ _) hvalue
  · intro parser hparser hjson hbase
    rw [if_pos hbase]
    exact outcome_of_unsupported hparser (backendFor_of_ne _ _ hjson none)
  · intro parser reason hparser hjson hbase hrules
    rw [if_neg hbase]
    exact outcome_of_refused hparser hjson hrules
  · intro parser hparser hjson hbase hrules
    rw [if_neg hbase]
    exact asks_of_accepted hparser hjson hrules

theorem create_formats_unreachable :
    ∃ f, create (fun _ => .error "refused") "http://f" "" "/format" = .ok f ∧
      Formats (fun _ => .error "refused") "http://f" "" "/format" .standard f [.char 'x']
        (some "js") :=
  ⟨_, rfl, create_formats rfl [.char 'x'] (some "js")⟩

/-- With a line break in the path of the formatter nothing is asked, although there is a service and
the language has a parser. -/
theorem not_asks_line_break :
    parserOf? (some "js") = some "babel" ∧
      ∃ f, create (fun _ => .error "refused") "http://f" "" "/a\nb" = .ok f ∧
        f.outcome [.char 'x'] (some "js") = (.ok [.char 'x'], []) ∧
        ¬ Asks (fun _ => .error "refused") f "babel" [.char 'x'] (some "js") := by
  have hparser : parserOf? (some "js") = some "babel" := by decide +kernel
  have hnothing : (ofRemote (fun _ => .error "refused")
      (some ⟨Address.ofSettings "http://f" "/a\nb", ""⟩)).outcome [.char 'x'] (some "js")
        = (.ok [.char 'x'], []) :=
    outcome_of_refused hparser (by decide) rfl
  refine ⟨hparser, _, rfl, hnothing, ?_⟩
  rintro ⟨request, -, -, -, hunanswered⟩
  have hasked := hunanswered fun reply text hreply => absurd hreply nofun
  exact absurd (hnothing.symm.trans hasked) (by simp)

end Formatter

end SourceText.Format
