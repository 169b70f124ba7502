import AuditReports.Api.Client
import AuditReports.Api.Redirect
import AuditReports.Proofs.Api.Targets
import AuditReports.Proofs.Json.Records
import AuditReports.Proofs.Text.Trimming

/-!
# Calls and their answers

The seven calls differ in the request that they send and in how they read a successful answer. All
else is the same for every call: one request goes out, and what becomes of it decides the result. So
a call is given here by its request and its reader, and what is said of results is said once.

A transport may do anything, so what has been sent cannot be read off its state. It is recorded
beside it: a recorded transport does what the transport does and keeps every request with what
became of it.
-/

namespace AuditReports

/-- The requests that have been sent, each with what became of it. -/
abbrev Traffic := List (HttpRequest × Delivery)

namespace Transport

variable {τ : Type}

/-- The transport with a record of its traffic. -/
def recorded (transport : Transport τ) : Transport (τ × Traffic) where
  send request state :=
    let (delivery, left) := transport.send request state.1
    (delivery, left, state.2 ++ [(request, delivery)])
  interrupts state := transport.interrupts state.1
  charsets := transport.charsets

end Transport

namespace Connection

variable {τ : Type} (connection : Connection τ)

/-- The connection with a record of its traffic, in which every redirect counts. -/
def recorded : Connection (τ × Traffic) where
  exchange request state :=
    let (delivery, left) := connection.exchange request state.1
    (delivery, left, state.2 ++ [(request, delivery)])
  route := connection.route
  interrupts state := connection.interrupts state.1
  charsets := connection.charsets

/-- What becomes of a request is not a redirect. -/
def Stays (request : HttpRequest) (delivery : Delivery) : Prop :=
  ∀ response, delivery = .answered response → connection.route request response = .final

/-- Without a redirect there is nothing to follow. -/
theorem follow_of_stays {request : HttpRequest} {state : τ}
    (stays : connection.Stays request (connection.exchange request state).1) (left : Nat) :
    connection.follow left request state = connection.exchange request state := by
  unfold follow
  rcases exchanged : connection.exchange request state with ⟨_ | response, after⟩
  · rfl
  · have final := stays response (congrArg Prod.fst exchanged)
    simp only [final]

end Connection

/-! ## Messages -/

namespace ErrorBody

open Json

/-- A body carries a message if it is an object with one member of that name, whose value is a
text, or an array of a single text. -/
theorem message?_eq_some_iff {body message : String} :
    message? body = some message ↔
      ∃ node, Node.parse? body = some node ∧
        (node = .array [.ofText message] ∨
          ∃ before after : List (String × Node),
            node = .ofMembers (before ++ ("message", .ofText message) :: after) ∧
              ∀ member ∈ before ++ after, member.1 ≠ "message") := by
  have opened : message? body = some message ↔ ∃ node, Node.parse? body = some node ∧
      ∃ fields, Record.fields? declared node = some fields ∧
        fields "message" = some (.ofText message) := by
    simp only [message?, bind, Option.bind_eq_some_iff, exists_eq_right,
      Fields.optional_text?_eq_some_iff]
  rw [opened]
  refine exists_congr fun node => and_congr_right fun _ => ?_
  cases node with
  | object members =>
      have fields : (∃ fields, Record.fields? declared (.object members) = some fields ∧
            fields "message" = some (.ofText message)) ↔
          ∃ named, Record.named? members = some named ∧
            Record.distinct ["message"] named = true ∧
            Record.lookup named "message" = some (.ofText message) := by
        simp only [Record.fields?, bind, Option.bind_eq_some_iff, Option.ite_none_right_eq_some,
          Option.some.injEq]
        constructor
        · rintro ⟨_, ⟨named, all, distinct, rfl⟩, found⟩
          exact ⟨named, all, distinct, found⟩
        · rintro ⟨named, all, distinct, found⟩
          exact ⟨_, ⟨named, all, distinct, rfl⟩, found⟩
      simp only [fields, Record.lookup_eq_some_iff, Record.named?_eq_some_iff]
      constructor
      · rintro ⟨named, rfl, before, after, rfl, others⟩
        exact Or.inr ⟨before, after, rfl, others⟩
      · rintro (array | ⟨before, after, written, others⟩)
        · cases array
        · exact ⟨_, Node.object.inj written, before, after, rfl, others⟩
  | array items =>
      rcases items with _ | ⟨item, _ | ⟨second, items⟩⟩
      · simp [Record.fields?, Record.lookup, declared, Node.ofMembers]
      · simp [Record.fields?, Record.lookup, declared, Node.ofMembers]
      · simp [Record.fields?, declared, Node.ofMembers]
  | _ => simp [Record.fields?, Node.ofMembers]

theorem message?_empty : message? "" = none := by
  rfl

end ErrorBody

theorem not_blank_statusLine (status : Nat) : Text.blank (statusLine status) = false := by
  have written : statusLine status = "Request failed with status " ++ toString status := by
    delta statusLine
    rfl
  have begins : "Request failed with status ".toList =
      'R' :: "equest failed with status ".toList := by decide
  have shown : Text.isBlank 'R' = false := by decide
  rw [written]
  exact Text.not_blank_of_head (by rw [String.toList_append, begins, List.cons_append]) shown

theorem not_blank_failureMessage (status : Nat) (body : String) :
    Text.blank (failureMessage status body) = false := by
  rw [failureMessage]
  split
  · split
    · exact not_blank_statusLine status
    · rename_i shown
      simpa using shown
  · exact not_blank_statusLine status

section FailureMessage

variable {status : Nat} {body : String}

theorem failureMessage_of_said {message : String} (said : ErrorBody.message? body = some message)
    (shown : Text.blank message = false) : failureMessage status body = message := by
  simp [failureMessage, said, shown]

theorem failureMessage_of_unsaid
    (unsaid : ∀ message, ErrorBody.message? body = some message → Text.blank message = true) :
    failureMessage status body = statusLine status := by
  rw [failureMessage]
  split
  · rename_i message said
    rw [if_pos (unsaid message said)]
  · rfl

end FailureMessage

/-! ## The seven calls -/

inductive Call where
  | createJob (payload : Payload)
  | job (jobId : String)
  | report (jobId : String)
  | locations (query : LocationQuery)
  | location (key : LocationKey)
  | audit (auditId : String)
  | changeDeficiency (auditId : String) (deficiencyId : Int) (resolved : Bool)

namespace Call

/-- What a call gives if it succeeds. -/
abbrev Result : Call → Type
  | createJob _ => JobCreated
  | job _ => Job
  | report _ => Download
  | locations _ => LocationPage
  | location _ => Location
  | audit _ => Audit
  | changeDeficiency _ _ _ => DeficiencyChange

section Perform

variable {τ : Type} (transport : Transport τ) (mount : Mount)

def perform : (call : Call) → τ → Except CallError call.Result × τ
  | createJob payload => Client.createJob transport mount payload
  | job jobId => Client.job transport mount jobId
  | report jobId => Client.report transport mount jobId
  | locations query => Client.locations transport mount query
  | location key => Client.location transport mount key
  | audit auditId => Client.audit transport mount auditId
  | changeDeficiency auditId deficiencyId resolved =>
      Client.changeDeficiency transport mount auditId deficiencyId resolved

/-- The path below the mount. -/
def path : Call → String
  | createJob _ => "/reports"
  | job jobId => Mount.pathOfReport jobId
  | report jobId => Mount.pathOfDownload jobId
  | locations _ => "/locations"
  | location _ => "/locations"
  | audit auditId => Mount.pathOfAudit auditId
  | changeDeficiency auditId deficiencyId _ => Mount.pathOfDeficiency auditId deficiencyId

/-- What is sent to a target. -/
def requestTo (target : Target) : Call → HttpRequest
  | createJob payload => Client.withBody .post target payload.node
  | job _ => Client.get target Client.acceptJson
  | report _ => Client.get target Client.acceptArtifact
  | locations query => Client.get (target.withPairs query.pairs) Client.acceptJson
  | location key => Client.get (target.withPairs key.pairs) Client.acceptJson
  | audit _ => Client.get target Client.acceptJson
  | changeDeficiency _ _ resolved =>
      Client.withBody .patch target (.ofMembers [("resolved", .boolean resolved)])

/-- The request of a call, if the client has a target for it. -/
def request? (call : Call) : Option HttpRequest :=
  (Client.target? mount call.path).map call.requestTo

/-- A job is not created for a blank address. -/
def IsSendable : Call → Prop
  | createJob payload => Text.blank payload.address = false
  | _ => True

/-- What a call reads in the body of a successful answer. -/
def decode? (charsets : Text.Charset.Library) : (call : Call) → HttpResponse → Option call.Result
  | createJob _, response => read? JobCreated.ofNode? response
  | job _, response => read? Job.ofNode? response
  | report _, response =>
      if response.complete then
        some {
          body := response.body
          filename := (response.header? "content-disposition").bind Disposition.filename?
          contentType := response.header? "content-type" }
      else none
  | locations _, response => read? LocationPage.ofNode? response
  | location _, response => read? Location.ofNode? response
  | audit _, response => read? Audit.ofNode? response
  | changeDeficiency _ _ _, response => read? DeficiencyChange.ofNode? response
where
  /-- The value that the text of a body is decoded to. -/
  read? {α : Type} (ofNode? : Json.Node → Option α) (response : HttpResponse) : Option α :=
    ((response.text? charsets).bind Json.Node.parse?).bind ofNode?

/-- What a call makes of an answer. -/
def read (charsets : Text.Charset.Library) :
    (call : Call) → HttpResponse → Except CallError call.Result
  | createJob _ => Client.readJson JobCreated.ofNode? charsets
  | job _ => Client.readJson Job.ofNode? charsets
  | report _ => Client.readArtifact charsets
  | locations _ => Client.readJson LocationPage.ofNode? charsets
  | location _ => Client.readJson Location.ofNode? charsets
  | audit _ => Client.readJson Audit.ofNode? charsets
  | changeDeficiency _ _ _ => Client.readJson DeficiencyChange.ofNode? charsets

/-- What a call makes of whatever becomes of its request. -/
def receive (charsets : Text.Charset.Library) (call : Call) :
    Delivery → Except CallError call.Result
  | .lost => .error Client.unanswered
  | .answered response => call.read charsets response

variable {mount}

theorem perform_eq_call {call : Call} (sendable : call.IsSendable) (state : τ) :
    call.perform transport mount state =
      Client.call transport (call.request? mount) (call.read ·) state := by
  cases call with
  | createJob payload =>
      have notBlank : ¬Text.blank payload.address = true := by simpa [IsSendable] using sendable
      exact if_neg notBlank
  | job => rfl
  | report => rfl
  | locations => rfl
  | location => rfl
  | audit => rfl
  | changeDeficiency => rfl

/-- A call sends its request and reads what becomes of it. -/
theorem perform_eq {call : Call} (sendable : call.IsSendable) {request : HttpRequest}
    (found : call.request? mount = some request) (state : τ) :
    call.perform transport mount state =
      (call.receive transport.charsets (transport.send request state).1,
        (transport.send request state).2) := by
  rw [perform_eq_call transport sendable, found, Client.call, Client.send]
  rcases transport.send request state with ⟨_ | response, left⟩ <;> rfl

end Perform

/-! ## Reading answers -/

variable {charsets : Text.Charset.Library} {call : Call} {response : HttpResponse}

theorem read_of_refused (refused : response.isSuccess = false) :
    call.read charsets response =
      .error (.api response.status
        (failureMessage response.status ((response.text? charsets).getD ""))) := by
  have turned : Client.expectSuccess charsets response =
      .error (.api response.status
        (failureMessage response.status ((response.text? charsets).getD ""))) := by
    rw [Client.expectSuccess, refused]
    rfl
  cases call <;> simp only [read, Client.readJson, Client.readArtifact, turned]

theorem read_of_success (success : response.isSuccess = true) :
    call.read charsets response =
      match call.decode? charsets response with
      | some value => .ok value
      | none => .error Client.unreadable := by
  have passed : Client.expectSuccess charsets response = .ok response := by
    rw [Client.expectSuccess, success]
    rfl
  cases call with
  | report jobId =>
      simp only [read, Client.readArtifact, passed, decode?]
      split <;> rfl
  | _ =>
      simp only [read, Client.readJson, passed, decode?, decode?.read?]
      split <;> rename_i decoded <;> rw [decoded]

/-- A body that breaks off is not read. -/
theorem decode?_of_incomplete (cut : response.complete = false) :
    call.decode? charsets response = none := by
  cases call <;> simp [decode?, decode?.read?, HttpResponse.text?, cut]

/-- What a body says is looked for in its text, and in an empty one if it breaks off. -/
theorem message?_getD :
    ErrorBody.message? ((response.text? charsets).getD "") =
      (response.text? charsets).bind ErrorBody.message? := by
  cases response.text? charsets with
  | none => exact ErrorBody.message?_empty
  | some text => rfl

theorem exists_request? {base : String} (absolute : (Mount.ofBase base).IsAbsolute)
    (mounted : String) (call : Call) :
    ∃ request, call.request? ((Mount.ofBase base).under mounted) = some request := by
  have slash : ∃ rest, call.path.toList = '/' :: rest := by
    cases call <;>
      exact ⟨_, by simp only [path, Mount.pathOfReport, Mount.pathOfDownload, Mount.pathOfAudit,
        Mount.pathOfDeficiency, String.toList_append]; rfl⟩
  rcases Option.isSome_iff_exists.mp (Mount.isSome_target? absolute mounted call.path slash) with
    ⟨target, reached⟩
  exact ⟨call.requestTo target, by rw [request?, reached, Option.map_some]⟩

/-- If a job can be asked for, then so can its state and its report. -/
theorem exists_request?_below {mount : Mount} {payload : Payload} {post : HttpRequest}
    (posts : (createJob payload).request? mount = some post) (jobId : String) :
    (∃ ask, (job jobId).request? mount = some ask) ∧
      ∃ get, (report jobId).request? mount = some get := by
  rcases Option.map_eq_some_iff.mp posts with ⟨target, reached, _⟩
  have below : ∀ (path : String) (rest : List Char),
      path.toList = "/reports".toList ++ '/' :: rest →
        ∃ target, Client.target? mount path = some target := by
    intro path rest deeper
    apply Option.isSome_iff_exists.mp
    exact Mount.isSome_target?_below (by decide) (by decide) rfl deeper
      (Option.isSome_iff_exists.mpr ⟨target, reached⟩)
  constructor
  · rcases below (Mount.pathOfReport jobId) (Text.Percent.encode jobId).toList (by
      simp [Mount.pathOfReport]) with ⟨found, asks⟩
    exact ⟨_, congrArg (Option.map _) asks⟩
  · rcases below (Mount.pathOfDownload jobId) ((Text.Percent.encode jobId).toList ++
      "/download".toList) (by simp [Mount.pathOfDownload, Mount.pathOfReport]) with ⟨found, gets⟩
    exact ⟨_, congrArg (Option.map _) gets⟩

/-- How the result of a call is told from what became of its request. If that is lost, the result
is a network error. If the status of the answer is not one of success, the result is an error with
that status and with a message that is never blank: the one in the text of the body, if there is one
that is not blank, and otherwise the line that shows the status. If it is one of success, the result
is what the body is decoded to, and a parse error if it cannot be decoded. -/
structure Classified (charsets : Text.Charset.Library) (call : Call) (delivery : Delivery)
    (result : Except CallError call.Result) : Prop where
  lost : delivery = .lost → ∃ detail, result = .error (.network detail)
  refused : ∀ response, delivery = .answered response →
    ¬(200 ≤ response.status ∧ response.status ≤ 299) →
      ∃ message, result = .error (.api response.status message) ∧ Text.blank message = false ∧
        (∀ said, (response.text? charsets).bind ErrorBody.message? = some said →
          Text.blank said = false → message = said) ∧
        ((∀ said, (response.text? charsets).bind ErrorBody.message? = some said →
          Text.blank said = true) → message = statusLine response.status)
  succeeded : ∀ response, delivery = .answered response →
    200 ≤ response.status → response.status ≤ 299 →
      (∀ value, result = .ok value ↔ call.decode? charsets response = some value) ∧
        (call.decode? charsets response = none → ∃ detail, result = .error (.parse detail))

theorem classified_receive (delivery : Delivery) :
    Classified charsets call delivery (call.receive charsets delivery) where
  lost := by
    rintro rfl
    exact ⟨_, rfl⟩
  refused := by
    rintro response rfl refused
    have refused : response.isSuccess = false := by
      simpa [HttpResponse.isSuccess] using refused
    refine ⟨_, read_of_refused refused, not_blank_failureMessage _ _, ?_, ?_⟩
    · intro said text shown
      exact failureMessage_of_said (message?_getD.trans text) shown
    · intro unsaid
      apply failureMessage_of_unsaid
      rw [message?_getD]
      exact unsaid
  succeeded := by
    rintro response rfl low high
    have success : response.isSuccess = true := by simp [HttpResponse.isSuccess, low, high]
    rw [receive, read_of_success success]
    constructor
    · intro value
      cases call.decode? charsets response <;> simp
    · intro none
      exact ⟨_, by rw [none]; rfl⟩

/-- How the answer to a call is classified. Over a base that is an absolute address of the web,
whatever the prefix, whatever the connection does and whatever is known of character sets, a call
sends exactly one request, unless the answer is a redirect, and its result is told from what becomes
of that request. Nothing is decoded from a body that breaks off, and a report is decoded to the
bytes of the body. -/
theorem answers_are_classified {base : String} (absolute : (Mount.ofBase base).IsAbsolute)
    (mounted : String) {call : Call} (sendable : call.IsSendable) {τ : Type}
    (connection : Connection τ) (state : τ) (traffic : Traffic) :
    let mount := (Mount.ofBase base).under mounted
    let outcome := call.perform connection.recorded.transport mount (state, traffic)
    (∃ request delivery left,
      call.request? mount = some request ∧ connection.exchange request state = (delivery, left) ∧
      (connection.Stays request delivery →
        outcome.2 = (left, traffic ++ [(request, delivery)]) ∧
          Classified connection.charsets call delivery outcome.1)) ∧
    ∀ response : HttpResponse,
      (response.complete = false → call.decode? connection.charsets response = none) ∧
      ∀ jobId, ((report jobId).decode? connection.charsets response).map (·.body) =
        if response.complete then some response.body else none := by
  intro mount outcome
  refine ⟨?_, fun response => ⟨decode?_of_incomplete, fun jobId => ?_⟩⟩
  · rcases exists_request? absolute mounted call with ⟨request, found⟩
    have performed : outcome = _ :=
      perform_eq connection.recorded.transport sendable found (state, traffic)
    refine ⟨request, (connection.exchange request state).1, (connection.exchange request state).2,
      found, rfl, fun stays => ?_⟩
    have staysRecorded : connection.recorded.Stays request
        (connection.recorded.exchange request (state, traffic)).1 := stays
    have sent : connection.recorded.transport.send request (state, traffic) =
        ((connection.exchange request state).1, (connection.exchange request state).2,
          traffic ++ [(request, (connection.exchange request state).1)]) :=
      connection.recorded.follow_of_stays staysRecorded _
    rw [performed, sent]
    exact ⟨rfl, classified_receive _⟩
  · rw [decode?]
    split <;> rfl

/-- A server that turns everything down, and says why. -/
def refusing : Connection Unit where
  exchange _ state :=
    let body := "\x7b\"message\":\"cover_zip is invalid\"\x7d"
    (.answered ⟨422, [], Text.Utf8.encode body.toList, true⟩, state)
  route := HttpRequest.route
  interrupts _ := false
  charsets := .basic

theorem refusal_is_told :
    (Mount.ofBase "http://localhost:8080").IsAbsolute ∧ (job "3f2a-91").IsSendable ∧
      ((job "3f2a-91").perform refusing.recorded.transport
          ((Mount.ofBase "http://localhost:8080").under "/webhook") ((), [])).1 =
        .error (.api 422 "cover_zip is invalid") := by
  have absolute : (Mount.ofBase "http://localhost:8080").IsAbsolute := by decide +kernel
  have sendable : (job "3f2a-91").IsSendable := trivial
  refine ⟨absolute, sendable, ?_⟩
  rcases (answers_are_classified absolute "/webhook" sendable refusing () []).1 with
    ⟨request, delivery, left, _, sent, classified⟩
  have answered := (Prod.mk.inj sent).1.symm
  have stays : refusing.Stays request delivery := by
    intro response is
    rcases Delivery.answered.inj (answered.symm.trans is) with rfl
    rfl
  rcases (classified stays).2.refused _ answered (by decide) with ⟨message, result, _, verbatim, _⟩
  have said := verbatim "cover_zip is invalid" (by decide +kernel) (by decide)
  rw [result, said]

end Call

end AuditReports
