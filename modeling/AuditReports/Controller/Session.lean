import AuditReports.Controller.World

/-!
# Sessions

A session takes a controller through a list of steps and tells after each of them what can be seen
from outside: which submissions have ended, whether the watchers were notified, the snapshot, and
what the service was asked. Submissions are numbered in the order in which they were made, rejected
ones included. Once the controller has been given up, only the service and the clock go on.
-/

namespace AuditReports

inductive Step where
  | submit (request : ReportRequest)
  | advance (span : Nat)
  | stopPolling
  | reset
  | download (jobId : String)
  | permit (count : Nat)
  | abandon (number : Nat)
  | close

/-- What can be seen after a step. Of a controller that has been given up it cannot be seen whether
the watchers were notified or whether it polls. -/
structure Observation where
  finished : List (Nat × Except ReportError String)
  changed : Option Bool
  polling : Option Bool
  snapshot : Snapshot
  asked : List Exchange
  requests : Nat
  download : Option (Except ReportError Artifact)
  /-- The step was not taken, since it needs a controller that has been given up. -/
  refused : Bool

/-- A controller with the submissions made so far, by number; a rejected one has no place among the
submissions of the controller. -/
structure Session (σ : Type) where
  world : World σ
  submits : List (Option Nat)
  isOpen : Bool
  requests : Nat

namespace Exchange

def isRequest : Exchange → Bool
  | .createAsked _ => true
  | .statusAsked _ => true
  | .downloadAsked _ => true
  | _ => false

end Exchange

namespace Session

variable {σ : Type}

def start (world : World σ) : Session σ :=
  ⟨world, [], true, 0⟩

/-- The result with which a call has returned. -/
def result? (world : World σ) (index : Nat) : Option (Except ReportError String) :=
  match world.submissions[index]? with
  | some submission =>
      match submission.stage with
      | .returned result => some result
      | _ => none
  | none => none

/-- The submissions that returned between two states, with their numbers. -/
def finishedBetween (before after : World σ) :
    Nat → List (Option Nat) → List (Nat × Except ReportError String)
  | _, [] => []
  | number, none :: rest => finishedBetween before after (number + 1) rest
  | number, some index :: rest =>
      match result? before index, result? after index with
      | none, some result => (number, result) :: finishedBetween before after (number + 1) rest
      | _, _ => finishedBetween before after (number + 1) rest

/-- The requests that were made between two states. -/
def askedBetween (before after : World σ) : List Exchange :=
  ((after.chronicle.extract before.chronicle.size after.chronicle.size).toList.map
    (·.exchange)).filter (·.isRequest)

/-- Moves on to another state of the controller and tells what can be seen. -/
def observe (session : Session σ) (world : World σ) (submits : List (Option Nat)) (isOpen : Bool)
    (download : Option (Except ReportError Artifact)) : Session σ × Observation :=
  let asked := askedBetween session.world world
  let requests := session.requests + asked.length
  (⟨world, submits, isOpen, requests⟩,
    { finished := finishedBetween session.world world 0 submits
      changed :=
        if isOpen then some (session.world.notifications != world.notifications) else none
      polling := if isOpen then some world.polls else none
      snapshot := world.snapshot
      asked := asked
      requests := requests
      download := download
      refused := false })

variable (service : ReportService σ)

/-- The submission with a number, if it was accepted. -/
def submission? (session : Session σ) (number : Nat) : Option Nat :=
  session.submits[number]?.join

/-- Submits a request; a rejected one has ended at once. -/
def submit (session : Session σ) (request : ReportRequest) : Session σ × Observation :=
  match session.world.submit service request with
  | .ok world =>
      session.observe world (session.submits ++ [some session.world.submissions.length]) true none
  | .error error =>
      let (next, seen) := session.observe session.world (session.submits ++ [none]) true none
      (next, { seen with finished := seen.finished ++ [(session.submits.length, .error error)] })

/-- Takes a step that needs the controller. -/
def performOpen (session : Session σ) (step : Step) : Session σ × Observation :=
  match step with
  | .submit request => session.submit service request
  | .stopPolling =>
      session.observe (session.world.stopPolling service) session.submits true none
  | .reset => session.observe (session.world.reset service) session.submits true none
  | .download jobId =>
      let (world, result) := session.world.download service jobId
      session.observe world session.submits true (some result)
  | _ => session.observe session.world session.submits true none

def refuse (session : Session σ) : Session σ × Observation :=
  let (next, seen) := session.observe session.world session.submits session.isOpen none
  (next, { seen with refused := true })

/-- Takes a step. One that needs a controller that has been given up is refused. -/
def perform (session : Session σ) (step : Step) : Session σ × Observation :=
  match step with
  | .advance span =>
      session.observe (session.world.advance service span) session.submits session.isOpen none
  | .permit count =>
      session.observe (session.world.permit service count) session.submits session.isOpen none
  | .abandon number =>
      let world :=
        match session.submission? number with
        | some index => session.world.abandon service index
        | none => session.world
      session.observe world session.submits session.isOpen none
  | .close => session.observe (session.world.close service) session.submits false none
  | step => if session.isOpen then session.performOpen service step else session.refuse

/-- Takes all steps and tells what can be seen after each. -/
def run (session : Session σ) : List Step → List Observation
  | [] => []
  | step :: rest =>
      let (next, seen) := session.perform service step
      seen :: run next rest

end Session

end AuditReports
