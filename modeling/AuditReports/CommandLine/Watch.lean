import AuditReports.CommandLine.Context
import AuditReports.CommandLine.Turns
import AuditReports.Controller.Session
import AuditReports.Controller.Watcher

/-!
# Watching a job

While a job is worked on, the command that submitted it watches the controller and prints every new
progress message, until the job is completed or has failed. It looks at the snapshot once at first
and then again at every turn at which it finds that it has been notified; what nobody tells of it
does not see. The operator may interrupt the watching, which leaves the job alone: a status request
that is under way is given up, and none follows.
-/

namespace AuditReports.CommandLine

/-- How the watching of a job ends. -/
inductive WatchEnd where
  /-- The job is completed or has failed. -/
  | settled
  | interrupted
  /-- The command gets no further turn. -/
  | unfinished
  deriving DecidableEq, Repr

structure Watched (τ : Type) where
  lines : List Line
  ending : WatchEnd
  /-- What the command has looked at last. -/
  snapshot : Snapshot
  world : World τ

/-- What was printed before, and then what the rest of the watching comes to. -/
def Watched.after {τ : Type} (lines : List Line) (watched : Watched τ) : Watched τ :=
  { watched with lines := lines ++ watched.lines }

section Watch

variable {τ : Type} (transport : Transport τ) (context : Context)

/-- A status request that is under way is given up. -/
def interrupt (world : World τ) : World τ :=
  let jobId := world.snapshot.jobId.getD ""
  let (_, state) := (context.service transport).status jobId world.service
  { world with service := state }.halt

/-- The answer to a status request arrives next, and the operator interrupts before it does. -/
def isInterrupted (world : World τ) (incident : Incident) : Bool :=
  incident == .act .receiveStatus && transport.interrupts world.service &&
    world.submissions[0]?.any (·.may world.now .receiveStatus)

/-- Lets things happen, unless the operator interrupts; tells whether that is so. -/
def letHappen (world : World τ) : List Incident → World τ × Bool
  | [] => (world, false)
  | incident :: later =>
      if isInterrupted transport world incident then (interrupt transport context world, true)
      else letHappen (world.occur (context.service transport) incident.event) later

/-- The line for the progress, unless it is the last one that was printed. -/
def progressLine (last : Option String) (snapshot : Snapshot) : List Line :=
  match snapshot.progress with
  | none => []
  | some progress => if last == some progress then [] else context.remark progress

/-- A look at the snapshot that a watcher holds. Unless that is the end, the command waits. -/
def look (last : Option String) (watcher : Watcher) (world : World τ)
    (wait : Option String → Watched τ) : Watched τ :=
  let lines := progressLine context last watcher.shown
  if watcher.shown.phase.isFinal then ⟨lines, .settled, watcher.shown, world⟩
  else (wait (watcher.shown.progress.or last)).after lines

/-- Waits until the watcher has been notified, and looks again. -/
def await (watcher : Watcher) (world : World τ) : Turns → Option String → Watched τ
  | [], _ => ⟨[], .unfinished, watcher.shown, world⟩
  | incidents :: later, last =>
      match letHappen transport context world incidents with
      | (world, true) => ⟨[], .interrupted, watcher.shown, world⟩
      | (world, false) =>
          if world.notifications = watcher.seen then await watcher world later last
          else
            let watcher := watcher.look world
            look context last watcher world (await watcher world later)

def watch (world : World τ) (turns : Turns) : Watched τ :=
  look context none world.watch world (await transport context world.watch world turns)

/-- Waits until the call that made the submission has returned; what has happened by then does not
happen again. -/
def awaitResult (world : World τ) :
    Turns → Option (Except ReportError String) × World τ × Turns
  | [] => (Session.result? world 0, world, [])
  | incidents :: later =>
      match Session.result? world 0 with
      | some result => (some result, world, incidents :: later)
      | none =>
          awaitResult
            (world.run (context.service transport) (incidents.map Incident.event)) later

end Watch

end AuditReports.CommandLine
