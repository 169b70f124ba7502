import AuditReports.CommandLine.Program

/-!
# The command `reportctl`

Reads the command line and the environment, and prints. There is no connection to a server here; a
program that has one passes its transport in place of the one that loses every request.
-/

namespace AuditReports

/-- The settings of the process. -/
def Environment.ofProcess : IO Environment := do
  return {
    baseUrl := ← IO.getEnv "AUDIT_API_BASE_URL"
    apiPath := ← IO.getEnv "AUDIT_API_PATH"
    pollIntervalMs := ← IO.getEnv "REPORT_POLL_INTERVAL_MS"
    pollTimeoutSecs := ← IO.getEnv "REPORT_POLL_TIMEOUT_SECS" }

end AuditReports

def main (words : List String) : IO UInt32 := do
  let environment ← AuditReports.Environment.ofProcess
  let printout := AuditReports.CommandLine.run .offline environment (.prompt 1000000) words ()
  IO.print printout.output
  IO.eprint printout.errors
  return printout.exitCode
