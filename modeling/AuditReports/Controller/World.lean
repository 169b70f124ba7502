import AuditReports.Controller.ReportError
import AuditReports.Controller.ReportService
import AuditReports.Controller.Snapshot

/-!
# The controller

The controller takes submissions, and of those it has taken it follows the latest one: it has the
job created, polls its status and publishes what it learns as a snapshot. This module has the state
of the controller together with the service it talks to and the clock, and every single thing that
can happen next.

Several submissions may be under way at once, because one that was cancelled still waits for the
answer to its create call. Each carries a mark that it has been cancelled, and what arrives for a
cancelled submission changes nothing that anybody can see. The slot names the one submission that
the controller holds on to; whoever takes its place, or empties the slot, cancels it.

A poll loop asks for the status at once and then once every interval. It asks again only after the
last answer has arrived. A tick that is more than five milliseconds late moves the following ticks,
one that is less late does not. A limit on the time is looked at only when an answer has arrived
that would let the polling go on.
-/

namespace AuditReports

/-- How a controller polls, in milliseconds. -/
structure Policy where
  interval : Nat
  timeout : Option Nat
  deriving DecidableEq, Repr

namespace Policy

/-- A status request every five seconds, for as long as it takes. -/
def standard : Policy := ⟨5000, none⟩

/-- The clock counts seconds up to this number. -/
def lastSecond : Nat := Nat.pow 2 63 - 1

/-- A poll loop that starts now can work: it has an interval, and its deadline lies within what the
clock can tell. -/
def canPoll (policy : Policy) (now : Nat) : Bool :=
  policy.interval != 0 &&
    policy.timeout.all fun limit => (now + limit) / 1000 ≤ lastSecond

/-- A tick that is later than this many milliseconds moves the following ones. -/
def tolerance : Nat := 5

/-- When the tick after one that was due at `due` and fires now is due. -/
def following (policy : Policy) (now due : Nat) : Nat :=
  if due + tolerance < now then now + policy.interval else due + policy.interval

end Policy

/-- What a poll loop waits for. -/
inductive LoopState where
  /-- It waits for a tick. -/
  | waiting (due : Nat)
  /-- It waits for an answer; the following tick is due at `next`. -/
  | asking (next : Nat)
  | finished
  deriving DecidableEq, Repr

namespace LoopState

/-- What a loop does after an answer, when the tick after its call is due at `next`. -/
def afterVerdict (next : Nat) : Verdict → LoopState
  | .goOn => .waiting next
  | .stop => .finished

end LoopState

structure PollLoop where
  jobId : String
  deadline : Option Nat
  state : LoopState
  deriving DecidableEq, Repr

namespace PollLoop

def isFinished (pollLoop : PollLoop) : Bool :=
  pollLoop.state == .finished

end PollLoop

/-- How far the call that made a submission has come. -/
inductive Stage where
  /-- It waits for the job to be created; the answer comes at `answerAt`. -/
  | creating (answerAt : Nat)
  /-- The job exists, and it waits for the first answer about it. -/
  | firstPoll (jobId : String)
  | returned (result : Except ReportError String)
  | abandoned

namespace Stage

/-- The call has not ended. -/
def isPending : Stage → Bool
  | .creating _ => true
  | .firstPoll _ => true
  | _ => false

/-- A call that only waits for the first answer returns. -/
def released : Stage → Stage
  | .firstPoll jobId => .returned (.ok jobId)
  | stage => stage

end Stage

/-- A submission that was accepted. -/
structure Submission where
  payload : Payload
  cancelled : Bool
  stage : Stage
  pollLoop : Option PollLoop

/-- Something that passed between the controller and the service. -/
inductive Exchange where
  | createAsked (payload : Payload)
  | createAnswered (answer : Except CallError String)
  | statusAsked (jobId : String)
  | statusAnswered (jobId : String) (answer : Except CallError Job)
  | downloadAsked (jobId : String)
  | downloadAnswered (jobId : String) (answer : Except CallError Download)

/-- An exchange, when it took place, and for which submission. -/
structure Entry where
  time : Nat
  submission : Option Nat
  exchange : Exchange

/-- The controller, the service, and the clock. -/
structure World (σ : Type) where
  policy : Policy
  /-- How long the service takes to answer a create call. -/
  createDelay : Nat
  /-- How many status answers the service is free to give; without a gate it is always free. -/
  gate : Option Nat
  service : σ
  now : Nat
  snapshot : Snapshot
  /-- How often watchers have been notified. -/
  notifications : Nat
  slot : Option Nat
  submissions : List Submission
  chronicle : Array Entry

namespace World

variable {σ : Type}

def start (policy : Policy) (createDelay : Nat) (gate : Option Nat) (service : σ) : World σ :=
  ⟨policy, createDelay, gate, service, 0, .initial, 0, none, [], #[]⟩

/-! ## Parts of a step -/

def update (world : World σ) (index : Nat) (change : Submission → Submission) : World σ :=
  { world with submissions := world.submissions.modify index change }

def publish (world : World σ) (snapshot : Snapshot) : World σ :=
  { world with snapshot := snapshot, notifications := world.notifications + 1 }

def record (world : World σ) (submission : Option Nat) (exchange : Exchange) : World σ :=
  { world with chronicle := world.chronicle.push ⟨world.now, submission, exchange⟩ }

def cancel (world : World σ) (index : Nat) : World σ :=
  world.update index fun submission => { submission with cancelled := true }

/-- Empties the slot, which cancels the submission in it. -/
def emptySlot (world : World σ) : World σ :=
  match world.slot with
  | none => world
  | some index => { world.cancel index with slot := none }

/-- The loop of the submission in the slot is running. -/
def polls (world : World σ) : Bool :=
  match world.slot.bind fun index => world.submissions[index]? with
  | none => false
  | some submission =>
      !submission.cancelled && submission.pollLoop.any fun pollLoop => !pollLoop.isFinished

/-! ## What a submission can do now -/

inductive Action where
  /-- The answer to its create call arrives. -/
  | receiveCreate
  /-- Its poll loop asks for the status. -/
  | askStatus
  /-- Its poll loop receives an answer. -/
  | receiveStatus
  /-- Its poll loop notices that the submission has been cancelled. -/
  | leave
  deriving DecidableEq, Repr

end World

namespace Submission

/-- What the submission can do at the time `now`, if anything; `free` says whether the service is
free to answer. -/
def action? (now : Nat) (free : Bool) (submission : Submission) : Option World.Action :=
  match submission.stage with
  | .creating answerAt => if answerAt ≤ now then some .receiveCreate else none
  | _ =>
      match submission.pollLoop with
      | none => none
      | some pollLoop =>
          match pollLoop.state with
          | .finished => none
          | .waiting due =>
              if submission.cancelled then some .leave
              else if due ≤ now then some .askStatus
              else none
          | .asking _ =>
              if submission.cancelled then some .leave
              else if free then some .receiveStatus
              else none

/-- When the submission can do something without being woken. -/
def wake? (submission : Submission) : Option Nat :=
  match submission.stage with
  | .creating answerAt => some answerAt
  | _ =>
      match submission.pollLoop.map PollLoop.state with
      | some (.waiting due) => some due
      | _ => none

/-- A bound on how much the submission can do at the time `now`. -/
def work (now : Nat) (submission : Submission) : Nat :=
  match submission.stage with
  | .creating _ => 4
  | _ =>
      match submission.pollLoop.map PollLoop.state with
      | some (.waiting due) => 1 + 2 * (now + 1 - due)
      | some (.asking next) => 2 + 2 * (now + 1 - next)
      | _ => 0

def withLoopState (submission : Submission) (state : LoopState) : Submission :=
  { submission with
    pollLoop := submission.pollLoop.map fun pollLoop => { pollLoop with state := state } }

/-- The loop gets another state, and a call that only waited for its first answer returns. -/
def proceed (submission : Submission) (state : LoopState) : Submission :=
  { submission.withLoopState state with stage := submission.stage.released }

end Submission

namespace World

variable {σ : Type}

/-- The service may answer a status request. -/
def isFree (world : World σ) : Bool :=
  world.gate.all (0 < ·)

/-- The first submission of a list that can do something now, and what it can do. -/
def firstAction? (now : Nat) (free : Bool) : Nat → List Submission → Option (Nat × Action)
  | _, [] => none
  | index, submission :: rest =>
      match submission.action? now free with
      | some action => some (index, action)
      | none => firstAction? now free (index + 1) rest

/-- What happens next at this moment, if anything. -/
def nextAction? (world : World σ) : Option (Nat × Action) :=
  firstAction? world.now world.isFree 0 world.submissions

/-- The state of a submission once its job exists and its poll loop has been started. A loop that
cannot work ends at once, and nothing waits for its first answer. -/
def polled (policy : Policy) (now : Nat) (jobId : String) (submission : Submission) :
    Submission :=
  let deadline := policy.timeout.map (now + ·)
  if policy.canPoll now then
    { submission with
      stage := .firstPoll jobId, pollLoop := some ⟨jobId, deadline, .waiting now⟩ }
  else
    { submission with
      stage := .returned (.ok jobId), pollLoop := some ⟨jobId, deadline, .finished⟩ }

/-- The state of a submission after the answer to its create call. A job that was created for a
cancelled submission is not followed. -/
def answered (policy : Policy) (now : Nat) (answer : Except CallError String)
    (submission : Submission) : Submission :=
  match answer with
  | .error error => { submission with stage := .returned (.error (.submission error)) }
  | .ok jobId =>
      if submission.cancelled then { submission with stage := .returned (.error .cancelled) }
      else polled policy now jobId submission

/-- The snapshot after an answer to a status request, and whether polling goes on. -/
def afterAnswer (world : World σ) (deadline : Option Nat) (answer : Except CallError Job) :
    Snapshot × Verdict :=
  match answer with
  | .error error => (world.snapshot.givenUp error.message, .stop)
  | .ok job =>
      let applied := world.snapshot.afterStatus job
      match Snapshot.outcome job with
      | .stop => (applied, .stop)
      | .goOn =>
          if deadline.any (· ≤ world.now) then
            (applied.overdue (world.policy.timeout.getD 0), .stop)
          else (applied, .goOn)

variable (service : ReportService σ)

def receiveCreate (world : World σ) (index : Nat) (submission : Submission) : World σ :=
  let (answer, state) := service.create submission.payload world.service
  let world := { world with service := state }.record (some index) (.createAnswered answer)
  let world := world.update index (answered world.policy world.now answer)
  if submission.cancelled then world else world.publish (world.snapshot.afterCreate answer)

def askStatus (world : World σ) (index : Nat) (pollLoop : PollLoop) (due : Nat) : World σ :=
  (world.record (some index) (.statusAsked pollLoop.jobId)).update index
    (·.withLoopState (.asking (world.policy.following world.now due)))

/-- A poll loop ends because its submission has been cancelled. -/
def leave (world : World σ) (index : Nat) : World σ :=
  world.update index (·.proceed .finished)

/-- A poll loop receives an answer. If its submission has been cancelled in the meantime, the answer
is dropped and the loop ends. -/
def receiveStatus (world : World σ) (index : Nat) (submission : Submission) (pollLoop : PollLoop)
    (next : Nat) : World σ :=
  let (answer, state) := service.status pollLoop.jobId world.service
  let world := { world with service := state, gate := world.gate.map (· - 1) }.record
    (some index) (.statusAnswered pollLoop.jobId answer)
  if submission.cancelled then world.leave index
  else
    let (snapshot, verdict) := world.afterAnswer pollLoop.deadline answer
    (world.publish snapshot).update index (·.proceed (.afterVerdict next verdict))

def perform (world : World σ) (index : Nat) (action : Action) : World σ :=
  match world.submissions[index]? with
  | none => world
  | some submission =>
      match action, submission.pollLoop with
      | .receiveCreate, _ => world.receiveCreate service index submission
      | .leave, _ => world.leave index
      | .askStatus, some pollLoop =>
          match pollLoop.state with
          | .waiting due => world.askStatus index pollLoop due
          | _ => world
      | .receiveStatus, some pollLoop =>
          match pollLoop.state with
          | .asking next => world.receiveStatus service index submission pollLoop next
          | _ => world
      | _, none => world

/-! ## The passing of time -/

/-- A bound on how much can happen at this moment. -/
def pendingWork (world : World σ) : Nat :=
  world.submissions.foldr (fun submission rest => submission.work world.now + rest) 0

/-- Lets at most `budget` things happen. -/
def drain : Nat → World σ → World σ
  | 0, world => world
  | budget + 1, world =>
      match world.nextAction? with
      | none => world
      | some (index, action) => drain budget (world.perform service index action)

/-- Lets everything happen that can happen at this moment. -/
def settle (world : World σ) : World σ :=
  drain service world.pendingWork world

/-- When something happens next without anybody's doing. -/
def nextWake? (world : World σ) : Option Nat :=
  (world.submissions.filterMap Submission.wake?).min?

/-- Lets time pass up to `target`. Every step takes at least a millisecond. -/
def passTo (target : Nat) : Nat → World σ → World σ
  | 0, world => { world with now := target }
  | budget + 1, world =>
      match world.nextWake? with
      | none => { world with now := target }
      | some wake =>
          if wake ≤ target then
            passTo target budget (settle service { world with now := max world.now wake })
          else { world with now := target }

/-- Lets `span` milliseconds pass. Everything that falls due happens in order of time, what falls
due at the end included. -/
def advance (world : World σ) (span : Nat) : World σ :=
  passTo service (world.now + span) (span + 1) world

/-! ## What is done to the controller

Each operation has an immediate effect; whatever can happen at the same moment follows. -/

/-- Takes a submission, which replaces whatever is in the slot. -/
def accept (world : World σ) (payload : Payload) : World σ :=
  let world := world.emptySlot
  let index := world.submissions.length
  let submission : Submission :=
    ⟨payload, false, .creating (world.now + world.createDelay), none⟩
  let world := { world with
    slot := some index, submissions := world.submissions ++ [submission] }
  (world.publish (.submitting payload.address)).record (some index) (.createAsked payload)

/-- Takes a request as a submission. A request that is not valid, and one that is made while another
submission waits for its job, change nothing. -/
def claim (world : World σ) (request : ReportRequest) : Except ReportError (World σ) :=
  match request.check with
  | .error error => .error (.validation error)
  | .ok payload =>
      if world.snapshot.phase == .submitting then .error .alreadySubmitting
      else .ok (world.accept payload)

def submit (world : World σ) (request : ReportRequest) : Except ReportError (World σ) :=
  (world.claim request).map (settle service)

/-- Empties the slot and leaves the phase as it is, unless a submission still waits for its job. -/
def halt (world : World σ) : World σ :=
  let world := world.emptySlot
  if world.snapshot.phase == .submitting then world.publish .initial else world

/-- Stops polling and leaves the phase as it is. A submission that still waits for its job is given
up instead, and the controller is idle again. -/
def stopPolling (world : World σ) : World σ :=
  settle service world.halt

def clear (world : World σ) : World σ :=
  world.emptySlot.publish .initial

/-- Drops whatever the controller was doing. -/
def reset (world : World σ) : World σ :=
  settle service world.clear

/-- Downloads the report of a job. The phase stays as it is. -/
def download (world : World σ) (jobId : String) : World σ × Except ReportError Artifact :=
  let (answer, state) := service.download jobId world.service
  let world := ({ world with service := state }.record none (.downloadAsked jobId)).record none
    (.downloadAnswered jobId answer)
  match answer with
  | .error error =>
      (world.publish (world.snapshot.afterFailedDownload error.message), .error (.download error))
  | .ok download =>
      let artifact := Artifact.ofDownload jobId download (world.snapshot.address.getD "")
      (world.publish (world.snapshot.afterDownload jobId artifact.filename), .ok artifact)

/-- The service becomes free to give `count` more status answers. -/
def allow (world : World σ) (count : Nat) : World σ :=
  { world with gate := world.gate.map (· + count) }

def permit (world : World σ) (count : Nat) : World σ :=
  settle service (world.allow count)

/-- Gives up a call that has not ended. While its job is being created the submission is given up
with it, and unless it had been cancelled before, the controller is idle again. -/
def abandonCall (world : World σ) (index : Nat) : World σ :=
  match world.submissions[index]? with
  | none => world
  | some submission =>
      match submission.stage with
      | .creating _ =>
          let world := world.update index fun submission =>
            { submission with stage := .abandoned }
          if submission.cancelled || world.snapshot.phase != .submitting then world
          else (world.cancel index).publish .initial
      | .firstPoll _ =>
          world.update index fun submission => { submission with stage := .abandoned }
      | _ => world

def abandon (world : World σ) (index : Nat) : World σ :=
  settle service (world.abandonCall index)

/-- Gives up every call, in the order in which they were made, and empties the slot. -/
def shut (world : World σ) : World σ :=
  ((List.range world.submissions.length).foldl abandonCall world).emptySlot

/-- Gives up every call and then the controller. -/
def close (world : World σ) : World σ :=
  settle service world.shut

end World

end AuditReports
