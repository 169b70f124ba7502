import AuditReports.Api.CallError
import AuditReports.Report.Job
import AuditReports.Text.Blank

/-!
# Snapshots

Everything that a user interface needs to show the work on a report is in one snapshot. This module
has the snapshot and the ways it changes; each is a function of the snapshot and of what has
arrived, without time and without the service.

A new submission wipes out whatever the snapshot said of an earlier report. While the job runs, its
answers replace one another; a failed job, a job that is completed and ready, a failed request and
an elapsed limit end the polling. Downloads touch only the error and the last download.
-/

namespace AuditReports

/-- How far the work on a report has come. -/
inductive Phase where
  | idle
  | submitting
  | polling
  | completed
  | failed
  deriving DecidableEq, Repr

namespace Phase

def name : Phase → String
  | .idle => "idle"
  | .submitting => "submitting"
  | .polling => "polling"
  | .completed => "completed"
  | .failed => "failed"

/-- The work has ended. -/
def isFinal (phase : Phase) : Bool :=
  phase == .completed || phase == .failed

/-- A job is being created or worked on. -/
def isOngoing (phase : Phase) : Bool :=
  phase == .submitting || phase == .polling

end Phase

/-- The last successful download. -/
structure CompletedDownload where
  jobId : String
  filename : String
  deriving DecidableEq, Repr

structure Snapshot where
  phase : Phase
  jobId : Option String
  address : Option String
  job : Option Job
  progress : Option String
  notice : Option String
  error : Option String
  lastDownload : Option CompletedDownload
  deriving DecidableEq, Repr

inductive Verdict where
  | goOn
  | stop
  deriving DecidableEq, Repr

namespace Snapshot

def initial : Snapshot :=
  ⟨.idle, none, none, none, none, none, none, none⟩

/-- The latest answer says that the report can be downloaded. -/
def downloadReady (snapshot : Snapshot) : Bool :=
  snapshot.job.any (·.downloadReady)

/-- What is shown until the job exists. -/
def queuedProgress : String := "Report queued for generation…"

/-- What is shown once the report is there. -/
def completionNotice : String := "Report ready for download."

/-- What is shown when a job fails without saying why. -/
def failureFallback : String := "Report generation failed"

/-- A submission starts; nothing of an earlier one is left. -/
def submitting (address : String) : Snapshot :=
  { initial with phase := .submitting, address := some address, progress := some queuedProgress }

def withoutJob (snapshot : Snapshot) (message : String) : Snapshot :=
  { snapshot with
    phase := .idle, jobId := none, job := none, progress := none, error := some message }

/-- The job exists. -/
def tracking (snapshot : Snapshot) (jobId : String) : Snapshot :=
  { snapshot with phase := .polling, jobId := some jobId }

/-- The answer to the call that should create the job arrives. -/
def afterCreate (snapshot : Snapshot) : Except CallError String → Snapshot
  | .error error => snapshot.withoutJob error.message
  | .ok jobId => snapshot.tracking jobId

/-- Polling ends without a report. -/
def givenUp (snapshot : Snapshot) (message : String) : Snapshot :=
  { snapshot with phase := .failed, progress := none, error := some message }

/-- The reason that a failed job gives, if it gives one. -/
def failureReason (job : Job) : String :=
  (job.error.bind Text.content?).getD failureFallback

def jobFailed (snapshot : Snapshot) (job : Job) : Snapshot :=
  { snapshot.givenUp (failureReason job) with job := some job }

def jobReady (snapshot : Snapshot) (job : Job) : Snapshot :=
  { snapshot with
    phase := .completed, job := some job, progress := none, notice := some completionNotice,
    lastDownload := none }

def jobProgress (snapshot : Snapshot) (job : Job) : Snapshot :=
  { snapshot with job := some job, progress := some job.progress, notice := none }

/-- What an answer means for polling: a failed job and one that is completed and ready end it. -/
def outcome (job : Job) : Verdict :=
  match job.status with
  | .failed => .stop
  | .completed => if job.downloadReady then .stop else .goOn
  | _ => .goOn

def afterStatus (snapshot : Snapshot) (job : Job) : Snapshot :=
  match job.status with
  | .failed => snapshot.jobFailed job
  | .completed => if job.downloadReady then snapshot.jobReady job else snapshot.jobProgress job
  | _ => snapshot.jobProgress job

/-- The message after `limit` milliseconds without a result; only whole seconds are told. -/
def timeoutMessage (limit : Nat) : String :=
  s!"Report generation timed out after {limit / 1000} seconds"

def overdue (snapshot : Snapshot) (limit : Nat) : Snapshot :=
  snapshot.givenUp (timeoutMessage limit)

/-- A download has arrived; it clears the error, whatever the error was about. -/
def afterDownload (snapshot : Snapshot) (jobId filename : String) : Snapshot :=
  { snapshot with error := none, lastDownload := some ⟨jobId, filename⟩ }

def afterFailedDownload (snapshot : Snapshot) (message : String) : Snapshot :=
  { snapshot with error := some message }

end Snapshot

end AuditReports
