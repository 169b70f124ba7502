import AuditReports.Text.Blank
import AuditReports.Text.Fields

/-!
# Email addresses

The check on a contact address is a coarse one. There is exactly one at sign and no white space;
something stands before the at sign; and the part after it has a dot with something on either side.
Other dots may stand anywhere.
-/

namespace AuditReports.Text.Email

/-- A dot occurs that is not the last character. -/
def hasInnerDot : List Char → Bool
  | [] => false
  | [_] => false
  | '.' :: _ :: _ => true
  | _ :: next :: rest => hasInnerDot (next :: rest)

/-- The part after the at sign: a dot that is neither its first nor its last character. -/
def wellFormedHost : List Char → Bool
  | [] => false
  | _ :: rest => hasInnerDot rest

def wellFormed (characters : List Char) : Bool :=
  !characters.any isBlank &&
    match fields '@' characters with
    | [mailbox, host] => !mailbox.isEmpty && wellFormedHost host
    | _ => false

end AuditReports.Text.Email
