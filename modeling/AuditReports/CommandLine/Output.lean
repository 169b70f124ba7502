import AuditReports.Text.Columns

/-!
# Printed lines

A command prints lines. Some carry what was asked for and are always printed; the others tell how
the work goes, or structure what is printed, and are left out when the operator wants quiet.
-/

namespace AuditReports.CommandLine

structure Line where
  text : String
  /-- It is printed also when the operator wants quiet. -/
  isEssential : Bool
  deriving DecidableEq, Repr

namespace Line

/-- A line with something that was asked for. -/
def essential (text : String) : Line := ⟨text, true⟩

/-- A line that tells how the work goes. -/
def remark (text : String) : Line := ⟨text, false⟩

/-- A value after its label; the values are aligned. -/
def field (label value : String) : Line :=
  essential ("  " ++ Text.padRight 18 (label ++ ":") ++ " " ++ value)

def isShown (quiet : Bool) (line : Line) : Bool :=
  line.isEssential || !quiet

/-- What an operator is to see of some lines. -/
def shown (quiet : Bool) (lines : List Line) : List Line :=
  lines.filter (isShown quiet)

end Line

/-- The text of the lines that an operator is to see. -/
def printed (quiet : Bool) (lines : List Line) : String :=
  String.join ((Line.shown quiet lines).map fun line => line.text ++ "\n")

end AuditReports.CommandLine
