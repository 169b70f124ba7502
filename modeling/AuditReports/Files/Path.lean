import AuditReports.Text.Fields

/-!
# Paths

A path is a text in which slashes separate components. Empty components and single dots say nothing;
two dots lead to the directory above. A file name is the last component, unless that is two dots.
-/

namespace AuditReports.Files.Path

/-- The components that say something. -/
def components (path : String) : List String :=
  ((Text.fields '/' path.toList).map String.ofList).filter fun component =>
    component != "" && component != "."

/-- Says at its end that it is a directory, by a single dot after the last component that counts. -/
def endsInDot (path : String) : Bool :=
  ((Text.fields '/' path.toList).filter (!·.isEmpty)).getLast? == some ['.']

/-- The last component, if it is a name. -/
def fileName? (path : String) : Option String :=
  match (components path).getLast? with
  | none => none
  | some component => if component == ".." then none else some component

def join (directory name : String) : String :=
  if directory == "" then name
  else if directory.toList.getLast? == some '/' then directory ++ name
  else directory ++ "/" ++ name

end AuditReports.Files.Path
