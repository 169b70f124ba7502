/-!
# Usage errors

A command line that is not understood is not carried out, and neither is one that asks for help or
for the version.
-/

namespace AuditReports

inductive UsageError where
  | helpRequested
  | versionRequested
  /-- There is nothing on the command line. -/
  | nothingGiven
  /-- There are options but no command. -/
  | missingCommand
  | unknownCommand
  | unknownArgument
  | missingArgument
  /-- A value is missing, or it is empty where it may not be. -/
  | invalidValue
  /-- A value is not a number, or not one within its bounds. -/
  | malformedNumber
  /-- Two arguments exclude each other, or one is given too often. -/
  | conflict
  /-- A value is given to an option that has none. -/
  | unexpectedValue
  deriving DecidableEq, Repr

namespace UsageError

def message : UsageError → String
  | .helpRequested => "help requested"
  | .versionRequested => "version requested"
  | .nothingGiven => "a command is required"
  | .missingCommand => "a command is required"
  | .unknownCommand => "unrecognized command"
  | .unknownArgument => "unexpected argument"
  | .missingArgument => "a required argument was not provided"
  | .invalidValue => "a value is required"
  | .malformedNumber => "invalid number"
  | .conflict => "an argument cannot be used again or together with another"
  | .unexpectedValue => "unexpected value for an option"

/-- A request for help or for the version is not a mistake. -/
def isMistake : UsageError → Bool
  | .helpRequested => false
  | .versionRequested => false
  | _ => true

end UsageError

end AuditReports
