import AuditReports.CommandLine.Context
import AuditReports.FileSize
import AuditReports.Report.Job
import AuditReports.Timestamp

/-!
# Display of jobs

What is printed on a report job. The version, the file and the error have a line only if the server
has told them.
-/

namespace AuditReports.CommandLine.Display

/-- The file of a job, with its size if that is known. -/
def artifactOf (job : Job) (filename : String) : String :=
  filename ++
    match job.artifactSize with
    | none => ""
    | some size => " (" ++ FileSize.text size ++ ")"

def job (context : Context) (job : Job) : List Line :=
  context.heading s!"Report job {job.id}" ++
    [.field "Status" job.status.word,
      .field "Address" (Text.contentOrDash job.address),
      .field "Type" (if job.deficiencyOnly then "Deficiency list" else "Full report"),
      .field "Scope" job.scope,
      .field "Created" (Timestamp.text job.createdAt),
      .field "Started" (Timestamp.text job.startedAt),
      .field "Completed" (Timestamp.text job.completedAt)] ++
    (job.version.map fun version => Line.field "Version" (toString version)).toList ++
    (job.artifactFilename.map fun filename =>
      Line.field "Artifact" (artifactOf job filename)).toList ++
    (job.error.map fun error => Line.field "Error" error).toList ++
    if job.downloadReady then context.remark s!"Ready: reportctl download {job.id}" else []

end AuditReports.CommandLine.Display
