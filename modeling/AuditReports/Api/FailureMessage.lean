import AuditReports.Json.Reader
import AuditReports.Json.Record
import AuditReports.Text.Blank

/-!
# Messages of failed calls

When the server turns a call down it may say why, in a member of the body that it sends. What it
says is shown as it stands unless it is blank, and without it the status is shown.
-/

namespace AuditReports

open Json

namespace ErrorBody

def declared : List String :=
  ["message"]

/-- The message in a body, if the body is of the form that messages come in. -/
def message? (body : String) : Option String := do
  let node ← Node.parse? body
  let fields ← Record.fields? declared node
  let message ← fields.optional "message" Node.text?
  message

end ErrorBody

/-- The line that is shown when the server does not say why. -/
def statusLine (status : Nat) : String :=
  s!"Request failed with status {status}"

def failureMessage (status : Nat) (body : String) : String :=
  match ErrorBody.message? body with
  | some message => if Text.blank message then statusLine status else message
  | none => statusLine status

end AuditReports
