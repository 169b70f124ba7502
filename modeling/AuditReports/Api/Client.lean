import AuditReports.Api.Address
import AuditReports.Api.Disposition
import AuditReports.Api.FailureMessage
import AuditReports.Api.Exchange
import AuditReports.Api.Wire
import AuditReports.Audit
import AuditReports.Controller.ReportService
import AuditReports.Json.Printer
import AuditReports.Location

/-!
# The client of the audit service

Seven calls: create a report job, ask for its status, download the report, list locations, show one,
show an audit, and change a deficiency. Each builds one request and sends it over a transport. An
address that has no target is not sent. An answer that does not report success is turned into an
error with the message that it carries; one that reports success has to be complete and of the form
that the call expects.
-/

namespace AuditReports

open Json

/-- A page of locations, and what to search for. -/
structure LocationQuery where
  page : Option Nat
  pageSize : Option Nat
  search : Option String
  deriving DecidableEq, Repr

namespace LocationQuery

/-- A number that is sent unless it is zero. -/
def positive (name : String) (number : Option Nat) : List (String × String) :=
  match number with
  | none => []
  | some value => if value == 0 then [] else [(name, toString value)]

/-- What is sent; a blank search is not. -/
def pairs (query : LocationQuery) : List (String × String) :=
  positive "page" query.page ++ positive "page_size" query.pageSize ++
    match query.search.bind Text.content? with
    | none => []
    | some search => [("search", search)]

end LocationQuery

structure LocationKey where
  address : String
  locationId : Option Int
  deriving DecidableEq, Repr

namespace LocationKey

/-- What is sent; an empty address is not. -/
def pairs (key : LocationKey) : List (String × String) :=
  (if key.address == "" then [] else [("address", key.address)]) ++
    match key.locationId with
    | none => []
    | some locationId => [("location_id", toString locationId)]

end LocationKey

namespace Client

def acceptJson : String := "application/json"

/-- Archives are wanted most, then documents, then anything. -/
def acceptArtifact : String := "application/zip, application/pdf;q=0.9, */*;q=0.5"

/-! ## Requests -/

def get (target : Target) (accept : String) : HttpRequest :=
  ⟨.get, target.text, accept, none, none⟩

def withBody (method : Method) (target : Target) (document : Node) : HttpRequest :=
  ⟨method, target.text, acceptJson, some "application/json", some document.text⟩

section Calls

variable {τ α : Type} (transport : Transport τ) (mount : Mount)

def unanswered : CallError := .network "error sending request"

/-- The error for an answer that is incomplete or not of the form expected. -/
def unreadable : CallError := .parse "error decoding response body"

def send (request : Option HttpRequest) (state : τ) : Except CallError HttpResponse × τ :=
  match request with
  | none => (.error unanswered, state)
  | some request =>
      match transport.send request state with
      | (.lost, state) => (.error unanswered, state)
      | (.answered response, state) => (.ok response, state)

/-- Turns an answer that does not report success into an error. A body that is incomplete counts as
an empty one. -/
def expectSuccess (charsets : Text.Charset.Library) (response : HttpResponse) :
    Except CallError HttpResponse :=
  if response.isSuccess then .ok response
  else
    .error (.api response.status
      (failureMessage response.status ((response.text? charsets).getD "")))

/-- Reads the body of a successful answer. -/
def readJson (read? : Node → Option α) (charsets : Text.Charset.Library)
    (response : HttpResponse) : Except CallError α :=
  match expectSuccess charsets response with
  | .error error => .error error
  | .ok response =>
      match ((response.text? charsets).bind Node.parse?).bind read? with
      | some value => .ok value
      | none => .error unreadable

/-- Reads a report and the headers that describe it. -/
def readArtifact (charsets : Text.Charset.Library) (response : HttpResponse) :
    Except CallError Download :=
  match expectSuccess charsets response with
  | .error error => .error error
  | .ok response =>
      if response.complete then
        .ok {
          body := response.body
          filename := (response.header? "content-disposition").bind Disposition.filename?
          contentType := response.header? "content-type" }
      else .error unreadable

def call (request : Option HttpRequest)
    (read : Text.Charset.Library → HttpResponse → Except CallError α) (state : τ) :
    Except CallError α × τ :=
  match send transport request state with
  | (.error error, state) => (.error error, state)
  | (.ok response, state) => (read transport.charsets response, state)

def target? (path : String) : Option Target :=
  Target.ofUrl? (mount.address path)

/-! ## Calls -/

def createJob (payload : Payload) (state : τ) : Except CallError JobCreated × τ :=
  if Text.blank payload.address then (.error (.invalidRequest "Address is required"), state)
  else
    call transport ((target? mount "/reports").map fun target =>
      withBody .post target payload.node) (readJson JobCreated.ofNode?) state

def job (jobId : String) (state : τ) : Except CallError Job × τ :=
  call transport ((target? mount (Mount.pathOfReport jobId)).map (get · acceptJson))
    (readJson Job.ofNode?) state

def report (jobId : String) (state : τ) : Except CallError Download × τ :=
  call transport ((target? mount (Mount.pathOfDownload jobId)).map (get · acceptArtifact))
    readArtifact state

def locations (query : LocationQuery) (state : τ) : Except CallError LocationPage × τ :=
  call transport ((target? mount "/locations").map fun target =>
    get (target.withPairs query.pairs) acceptJson) (readJson LocationPage.ofNode?) state

def location (key : LocationKey) (state : τ) : Except CallError Location × τ :=
  call transport ((target? mount "/locations").map fun target =>
    get (target.withPairs key.pairs) acceptJson) (readJson Location.ofNode?) state

def audit (auditId : String) (state : τ) : Except CallError Audit × τ :=
  call transport ((target? mount (Mount.pathOfAudit auditId)).map (get · acceptJson))
    (readJson Audit.ofNode?) state

def changeDeficiency (auditId : String) (deficiencyId : Int) (resolved : Bool) (state : τ) :
    Except CallError DeficiencyChange × τ :=
  call transport ((target? mount (Mount.pathOfDeficiency auditId deficiencyId)).map fun target =>
    withBody .patch target (.ofMembers [("resolved", .boolean resolved)]))
    (readJson DeficiencyChange.ofNode?) state

/-- The service that a controller talks to when it talks to the server. -/
def service : ReportService τ where
  create payload state :=
    let (answer, state) := createJob transport mount payload state
    (answer.map (·.jobId), state)
  status jobId state := job transport mount jobId state
  download jobId state := report transport mount jobId state

end Calls

end Client

end AuditReports
