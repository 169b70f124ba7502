import AuditReports.Settings
import AuditReports.Files.Save

/-!
# Failures of commands

A command that fails says why. The message goes from what the command was about to the cause, and an
error that does no more than pass on its cause says it once for itself and once for the cause.
-/

namespace AuditReports

namespace ReportError

/-- What the service answered, where that is the reason. -/
def cause? : ReportError → Option CallError
  | .submission error => some error
  | .download error => some error
  | _ => none

end ReportError

namespace CommandLine

inductive Failure where
  | settings (error : SettingsError)
  /-- A call of the service failed while the command was about something. -/
  | call (attempt : String) (error : CallError)
  | report (error : ReportError)
  /-- The job has failed. -/
  | job (reason : String)
  | saving (error : Files.SaveError)
  deriving DecidableEq, Repr

namespace Failure

/-- The messages from the outermost to the innermost. -/
def chain : Failure → List String
  | .settings error => [error.message]
  | .call attempt error => [attempt, error.message]
  | .report error => error.message :: (error.cause?.map CallError.message).toList
  | .job reason => [reason]
  | .saving error => [error.message]

def message (failure : Failure) : String :=
  ": ".intercalate failure.chain

end Failure

end CommandLine

end AuditReports
