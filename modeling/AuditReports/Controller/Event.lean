import AuditReports.Controller.World

/-!
# Events

Much goes on around a controller at the same time: calls are made and given up, answers arrive,
ticks fall due, and time passes. A session lets everything happen that can happen after each of its
steps, in a fixed order. Here the order is left open: an event is a single thing that happens, and a
run is any list of events at all.

Nothing is assumed of the service but that it answers what it was asked: it may take any time over a
create call and over a status request, and answer in any order. A tick never comes early but may
come late. When a loop has been cancelled and its tick or its answer is there as well, either may be
noticed first. An event that is not possible does nothing.
-/

namespace AuditReports

namespace Stage

def isCreating : Stage → Bool
  | .creating _ => true
  | _ => false

end Stage

namespace Submission

/-- The poll loop has been started and has not come to its end. -/
def isPolling (submission : Submission) : Bool :=
  submission.pollLoop.any fun pollLoop => !pollLoop.isFinished

/-- What the submission may do at the time `now`. -/
def may (now : Nat) (submission : Submission) : World.Action → Bool
  | .receiveCreate => submission.stage.isCreating
  | .askStatus =>
      submission.pollLoop.any fun pollLoop =>
        match pollLoop.state with
        | .waiting due => due ≤ now
        | _ => false
  | .receiveStatus =>
      submission.pollLoop.any fun pollLoop =>
        match pollLoop.state with
        | .asking _ => true
        | _ => false
  | .leave => submission.cancelled && submission.isPolling

end Submission

namespace World

/-- A single thing that happens. -/
inductive Event where
  /-- A submission does something of its own accord. -/
  | act (index : Nat) (action : Action)
  | pass (span : Nat)
  | submit (request : ReportRequest)
  | stopPolling
  | reset
  | download (jobId : String)
  | permit (count : Nat)
  | abandon (index : Nat)
  | close

variable {σ : Type} (service : ReportService σ)

def occur (world : World σ) : Event → World σ
  | .act index action =>
      match world.submissions[index]? with
      | none => world
      | some submission =>
          if submission.may world.now action then world.perform service index action else world
  | .pass span => { world with now := world.now + span }
  | .submit request =>
      match world.claim request with
      | .error _ => world
      | .ok next => next
  | .stopPolling => world.halt
  | .reset => world.clear
  | .download jobId => (world.download service jobId).1
  | .permit count => world.allow count
  | .abandon index => world.abandonCall index
  | .close => world.shut

def run (world : World σ) (events : List Event) : World σ :=
  events.foldl (occur service) world

end World

end AuditReports
