import AuditReports.Api.CallError
import AuditReports.Report.Request

/-!
# Errors of the controller

What a submission or a download returns when it does not succeed. Failures that come to light while
a job is polled are not returned by any call; they are told by the snapshot.
-/

namespace AuditReports

inductive ReportError where
  | validation (error : Rejection)
  | alreadySubmitting
  | cancelled
  | submission (error : CallError)
  | download (error : CallError)
  deriving DecidableEq, Repr

namespace ReportError

def message : ReportError → String
  | .validation error => error.message
  | .alreadySubmitting => "A report submission is already in progress"
  | .cancelled => "Report submission was cancelled"
  | .submission error => error.message
  | .download error => error.message

end ReportError

end AuditReports
