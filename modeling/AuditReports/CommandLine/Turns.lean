import AuditReports.Controller.Event

/-!
# Turns

While a command waits, things happen to its controller: answers arrive, sooner or later, ticks fall
due, and time passes. The command goes on only when it gets a turn, and any number of things may
have happened since its last one. What happens before each of its turns is up to the world around,
which may know how the controller polls.

On a prompt schedule every answer arrives at once and the command has a turn after each: first the
job is created and asked about, and from then on it is asked about after every interval.
-/

namespace AuditReports.CommandLine

/-- A thing that happens to a controller with a single submission. -/
inductive Incident where
  | act (action : World.Action)
  | pass (span : Nat)
  deriving DecidableEq, Repr

def Incident.event : Incident → World.Event
  | act action => .act 0 action
  | pass span => .pass span

/-- What happens before each turn of a command. -/
abbrev Turns : Type :=
  List (List Incident)

/-- What happens in the course of some turns. -/
def Turns.events (turns : Turns) : List World.Event :=
  turns.flatten.map Incident.event

structure Schedule where
  turns : Policy → Turns

namespace Schedule

/-- The prompt schedule on which a job is asked about so many times after the first. -/
def prompt (polls : Nat) : Schedule where
  turns policy :=
    [.act .receiveCreate, .act .askStatus, .act .receiveStatus] ::
      List.replicate polls [.pass policy.interval, .act .askStatus, .act .receiveStatus]

/-- A number stands for a prompt schedule. -/
instance : Coe Nat Schedule :=
  ⟨prompt⟩

end Schedule

end AuditReports.CommandLine
