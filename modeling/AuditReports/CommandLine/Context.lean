import AuditReports.Api.Client
import AuditReports.CommandLine.Output
import AuditReports.Settings

/-!
# What commands are carried out with

Every command gets the same context: the settings, and whether the operator wants quiet. It is the
command itself that leaves out a line, by printing remarks and headings through the context.
-/

namespace AuditReports.CommandLine

structure Context where
  settings : Settings
  quiet : Bool
  deriving DecidableEq, Repr

namespace Context

variable (context : Context)

def mount : Mount :=
  context.settings.mount

def policy : Policy :=
  context.settings.policy

/-- The service that a controller of the command talks to. -/
def service {τ : Type} (transport : Transport τ) : ReportService τ :=
  Client.service transport context.mount

/-- Tells how the work goes. -/
def remark (text : String) : List Line :=
  if context.quiet then [] else [.remark text]

/-- The heading of a section, after an empty line. -/
def heading (text : String) : List Line :=
  if context.quiet then [] else [.remark "", .remark text]

end Context

end AuditReports.CommandLine
