import AuditReports.Json.Record

/-!
# Report jobs

The server works on a report as a job. It tells the state of the job in a word, of which four are
known; any other word is kept as it is, so that a newer server may say more, and counts as work that
goes on. Reading a job from its JSON form and writing it again loses nothing but the spelling.
-/

namespace AuditReports

open Json

/-- The state of a job in the words of the server. -/
inductive JobStatus where
  | queued
  | processing
  | completed
  | failed
  | other (word : String)
  deriving DecidableEq, Repr

namespace JobStatus

def ofWord (word : String) : JobStatus :=
  if word == "queued" then .queued
  else if word == "processing" then .processing
  else if word == "completed" then .completed
  else if word == "failed" then .failed
  else .other word

def word : JobStatus → String
  | .queued => "queued"
  | .processing => "processing"
  | .completed => "completed"
  | .failed => "failed"
  | .other word => word

/-- A state that a job never leaves. -/
def isFinal : JobStatus → Bool
  | .completed => true
  | .failed => true
  | _ => false

end JobStatus

/-- A job as the server reports it. -/
structure Job where
  id : String
  status : JobStatus
  address : Option String
  createdAt : Option String
  startedAt : Option String
  completedAt : Option String
  error : Option String
  downloadReady : Bool
  deficiencyOnly : Bool
  includeAll : Bool
  locationId : Option String
  artifactFilename : Option String
  artifactSize : Option Nat
  version : Option Int
  downloadUrl : Option String
  selectedAuditCount : Option Nat
  deriving DecidableEq, Repr

namespace Job

/-- A job of which only the state is known. -/
def bare (id : String) (status : JobStatus) : Job where
  id := id
  status := status
  address := none
  createdAt := none
  startedAt := none
  completedAt := none
  error := none
  downloadReady := false
  deficiencyOnly := false
  includeAll := false
  locationId := none
  artifactFilename := none
  artifactSize := none
  version := none
  downloadUrl := none
  selectedAuditCount := none

def declared : List String :=
  ["job_id", "status", "address", "created_at", "started_at", "completed_at", "error",
    "download_ready", "deficiency_only", "include_all", "location_id", "artifact_filename",
    "artifact_size", "version", "download_url", "selected_audit_count"]

def ofNode? (node : Node) : Option Job := do
  let fields ← Record.fields? declared node
  return {
    id := ← fields.required "job_id" Node.text?
    status := ← fields.required "status" fun node => node.text?.map JobStatus.ofWord
    address := ← fields.optional "address" Node.text?
    createdAt := ← fields.optional "created_at" Node.text?
    startedAt := ← fields.optional "started_at" Node.text?
    completedAt := ← fields.optional "completed_at" Node.text?
    error := ← fields.optional "error" Node.text?
    downloadReady := ← fields.defaulted "download_ready" false Node.boolean?
    deficiencyOnly := ← fields.defaulted "deficiency_only" false Node.boolean?
    includeAll := ← fields.defaulted "include_all" false Node.boolean?
    locationId := ← fields.optional "location_id" Node.text?
    artifactFilename := ← fields.optional "artifact_filename" Node.text?
    artifactSize := ← fields.optional "artifact_size" Node.size?
    version := ← fields.optional "version" Node.integer?
    downloadUrl := ← fields.optional "download_url" Node.text?
    selectedAuditCount := ← fields.optional "selected_audit_count" Node.count? }

/-- Writes a job, with `null` for what is not known. -/
def node (job : Job) : Node :=
  Node.ofMembers [
    ("job_id", .ofText job.id),
    ("status", .ofText job.status.word),
    ("address", .ofOption .ofText job.address),
    ("created_at", .ofOption .ofText job.createdAt),
    ("started_at", .ofOption .ofText job.startedAt),
    ("completed_at", .ofOption .ofText job.completedAt),
    ("error", .ofOption .ofText job.error),
    ("download_ready", .boolean job.downloadReady),
    ("deficiency_only", .boolean job.deficiencyOnly),
    ("include_all", .boolean job.includeAll),
    ("location_id", .ofOption .ofText job.locationId),
    ("artifact_filename", .ofOption .ofText job.artifactFilename),
    ("artifact_size", .ofOption (fun size => .ofInt (size : Nat)) job.artifactSize),
    ("version", .ofOption .ofInt job.version),
    ("download_url", .ofOption .ofText job.downloadUrl),
    ("selected_audit_count",
      .ofOption (fun count => .ofInt (count : Nat)) job.selectedAuditCount)]

/-- What a job covers: the entire history, or a number of selected audits. -/
def scope (job : Job) : String :=
  if job.includeAll then "entire history"
  else
    match job.selectedAuditCount with
    | some 1 => "1 audit"
    | some count => s!"{count} audits"
    | none => "selected audits"

/-- The progress line of a job that is not finished. -/
def progress (job : Job) : String :=
  let kind := if job.deficiencyOnly then "Deficiency list" else "Report"
  match job.status with
  | .queued => s!"{kind} queued for generation ({job.scope})…"
  | .processing => s!"{kind} generation in progress ({job.scope})…"
  | status => s!"Status: {status.word} ({job.scope})"

end Job

/-- The answer to a new report: the job that was created for it. -/
structure JobCreated where
  status : String
  jobId : String
  address : Option String
  deriving DecidableEq, Repr

namespace JobCreated

def declared : List String :=
  ["status", "job_id", "address"]

def ofNode? (node : Node) : Option JobCreated := do
  let fields ← Record.fields? declared node
  return {
    status := ← fields.required "status" Node.text?
    jobId := ← fields.required "job_id" Node.text?
    address := ← fields.optional "address" Node.text? }

end JobCreated

end AuditReports
