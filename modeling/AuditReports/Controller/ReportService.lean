import AuditReports.Api.CallError
import AuditReports.Report.Artifact
import AuditReports.Report.Job
import AuditReports.Report.Request

/-!
# Report services

The controller needs three calls of a report service: create a job, ask for its status, and download
the finished report. A service is described by its answers, each a function of the service's own
state, which the answer may change. A scripted service answers from lists prepared in advance; the
last answer of a list is given again and again.
-/

namespace AuditReports

/-- The answers of a service whose state has type `σ`. -/
structure ReportService (σ : Type) where
  create : Payload → σ → Except CallError String × σ
  status : String → σ → Except CallError Job × σ
  download : String → σ → Except CallError Download × σ

/-- The answers that are left, one list for each call. -/
structure Script where
  creates : List (Except CallError String)
  statuses : List (Except CallError Job)
  downloads : List (Except CallError Download)

namespace Script

/-- Takes the next answer of a list; the last one stays. -/
def take {α : Type} (call : String) (answers : List (Except CallError α)) :
    Except CallError α × List (Except CallError α) :=
  match answers with
  | [] => (.error (.network s!"no scripted {call} response"), [])
  | [last] => (last, [last])
  | answer :: rest => (answer, rest)

/-- The service that follows a script. A status is told of the job that was asked for. -/
def service : ReportService Script where
  create _ script :=
    let (answer, rest) := take "create" script.creates
    (answer, { script with creates := rest })
  status jobId script :=
    let (answer, rest) := take "status" script.statuses
    (answer.map fun job => { job with id := jobId }, { script with statuses := rest })
  download _ script :=
    let (answer, rest) := take "download" script.downloads
    (answer, { script with downloads := rest })

end Script

end AuditReports
