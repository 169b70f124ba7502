/-!
# Columns

Tables are printed in columns of a fixed width, counted in characters. A text that is too short is
filled up with spaces; one that is too long is either left as it is, so that the following columns
move to the right, or cut, with an ellipsis for what is missing.
-/

namespace AuditReports.Text

def spaces (count : Nat) : String :=
  String.ofList (List.replicate count ' ')

def padRight (width : Nat) (text : String) : String :=
  text ++ spaces (width - text.length)

def padLeft (width : Nat) (text : String) : String :=
  spaces (width - text.length) ++ text

/-- Cuts a text that is longer than `width`; what is left with its ellipsis has that width. -/
def abbreviate (width : Nat) (text : String) : String :=
  if text.length ≤ width then text
  else String.ofList (text.toList.take (width - 1)) ++ "…"

end AuditReports.Text
