/-!
# Errors of the audit service

A call of the audit service fails for one of five reasons. What an operator reads says which kind of
error it is, except where the message is meant for the operator as it stands: a request that is
rejected before it is sent, and an answer of the server that carries a message of its own.
-/

namespace AuditReports

inductive CallError where
  | config (detail : String)
  | invalidRequest (detail : String)
  | network (detail : String)
  | api (status : Nat) (detail : String)
  | parse (detail : String)
  deriving DecidableEq, Repr

namespace CallError

def message : CallError → String
  | .config detail => s!"Configuration error: {detail}"
  | .invalidRequest detail => detail
  | .network detail => s!"Network error: {detail}"
  | .api _ detail => detail
  | .parse detail => s!"Parse error: {detail}"

/-- The status with which the server answered, if the error is an answer. -/
def status? : CallError → Option Nat
  | .api status _ => some status
  | _ => none

end CallError

end AuditReports
