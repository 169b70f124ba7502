import AuditReports.CommandLine.Run

/-!
# The program

From the words of the command line and the environment to the texts on the two streams and the exit
code: zero if the command succeeds, one if it fails, and two if the command line is not understood.
-/

namespace AuditReports.CommandLine

/-- What the caller of the program sees. -/
structure Printout where
  output : String
  errors : String
  exitCode : UInt32
  deriving DecidableEq, Repr

namespace Printout

def ofUsageError (error : UsageError) : Printout :=
  if error.isMistake then ⟨"", "error: " ++ error.message ++ "\n", 2⟩ else ⟨"", "", 0⟩

def ofOutcome {τ : Type} (outcome : Outcome τ) : Printout :=
  let output := printed false outcome.lines
  match outcome.ending with
  | .success => ⟨output, "", 0⟩
  | .failed failure => ⟨output, "Error: " ++ failure.message ++ "\n", 1⟩
  | .unfinished => ⟨output, "", 1⟩

end Printout

/-- Carries out an invocation in an empty directory. -/
def Invocation.run {τ : Type} (transport : Transport τ) (environment : Environment)
    (schedule : Schedule) (invocation : Invocation) (state : τ) : Outcome τ :=
  invocation.command.run transport environment invocation.switches.quiet schedule .empty state

def run {τ : Type} (transport : Transport τ) (environment : Environment) (schedule : Schedule)
    (words : List String) (state : τ) : Printout :=
  match Invocation.ofArguments words with
  | .error error => .ofUsageError error
  | .ok invocation => .ofOutcome (invocation.run transport environment schedule state)

end AuditReports.CommandLine
