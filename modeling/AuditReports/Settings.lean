import AuditReports.Api.Address
import AuditReports.Api.CallError
import AuditReports.Controller.World
import AuditReports.Text.Integer

/-!
# Settings

The settings come from four variables of the environment. The command line needs all of them to be
in order, and looks at the interval first, then at the limit, and at the base last; a client on its
own needs only the base.
-/

namespace AuditReports

/-- The variables that are looked at; an unset one has no text. -/
structure Environment where
  baseUrl : Option String
  apiPath : Option String
  pollIntervalMs : Option String
  pollTimeoutSecs : Option String
  deriving DecidableEq, Repr

inductive SettingsError where
  | interval (error : Text.IntegerError)
  | zeroInterval
  | timeout (error : Text.IntegerError)
  | noBase
  deriving DecidableEq, Repr

namespace SettingsError

def message : SettingsError → String
  | .interval error =>
      s!"REPORT_POLL_INTERVAL_MS must be a number of milliseconds: {error.message}"
  | .zeroInterval => "REPORT_POLL_INTERVAL_MS must be greater than zero"
  | .timeout error => s!"REPORT_POLL_TIMEOUT_SECS must be a number of seconds: {error.message}"
  | .noBase => "AUDIT_API_BASE_URL must be set"

end SettingsError

structure Settings where
  baseUrl : String
  apiPath : String
  pollIntervalMs : Nat
  pollTimeoutSecs : Option Nat
  deriving DecidableEq, Repr

namespace Settings

/-- The largest number that a setting may have. -/
def largest : Nat := Nat.pow 2 64 - 1

/-- The interval in milliseconds, which may be left to the default but may not be zero. -/
def interval (environment : Environment) : Except SettingsError Nat :=
  match environment.pollIntervalMs with
  | none => .ok Policy.standard.interval
  | some text =>
      match Text.natural largest (Text.trimList text.toList) with
      | .error error => .error (.interval error)
      | .ok 0 => .error .zeroInterval
      | .ok milliseconds => .ok milliseconds

/-- The limit in seconds; a blank one is none. -/
def timeout (environment : Environment) : Except SettingsError (Option Nat) :=
  match environment.pollTimeoutSecs.bind Text.content? with
  | none => .ok none
  | some text =>
      match Text.natural largest text.toList with
      | .error error => .error (.timeout error)
      | .ok seconds => .ok (some seconds)

def ofEnvironment (environment : Environment) : Except SettingsError Settings :=
  match interval environment with
  | .error error => .error error
  | .ok milliseconds =>
      match timeout environment with
      | .error error => .error error
      | .ok seconds =>
          match environment.baseUrl with
          | none => .error .noBase
          | some base =>
              if Text.blank base then .error .noBase
              else
                .ok ⟨base, environment.apiPath.getD Mount.standardPath, milliseconds, seconds⟩

/-- How a controller polls under these settings. -/
def policy (settings : Settings) : Policy :=
  ⟨settings.pollIntervalMs, settings.pollTimeoutSecs.map (1000 * ·)⟩

/-- The service that these settings name. -/
def mount (settings : Settings) : Mount :=
  (Mount.ofBase settings.baseUrl).under settings.apiPath

end Settings

namespace Mount

def ofEnvironment (environment : Environment) : Except CallError Mount :=
  match environment.baseUrl with
  | none => .error (.config "AUDIT_API_BASE_URL not set")
  | some base =>
      if Text.blank base then .error (.config "AUDIT_API_BASE_URL is empty")
      else
        match environment.apiPath with
        | some path => .ok ((ofBase base).under path)
        | none => .ok (ofBase base)

end Mount

end AuditReports
