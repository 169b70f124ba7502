import AuditReports.CommandLine.Display.Audit
import AuditReports.CommandLine.Display.Job
import AuditReports.CommandLine.Display.Location
import AuditReports.CommandLine.Failure
import AuditReports.CommandLine.Invocation
import AuditReports.CommandLine.Watch
import AuditReports.Controller.Session

/-!
# Carrying out commands

A command is carried out with the settings of the environment, over a transport, and in a working
directory. What comes of it is the lines that it prints, how it ends, and what it leaves behind in
the directory and at the other end of the transport. What happens while it waits is given, up to
each of its turns.

Most commands are a single call whose result is printed. A new report is submitted to a controller
and watched; when it is ready, it is downloaded and saved, unless that is not wanted.
-/

namespace AuditReports.CommandLine

inductive Ending where
  | success
  | failed (failure : Failure)
  /-- The command still waits, and gets no further turn. -/
  | unfinished
  deriving DecidableEq, Repr

structure Outcome (τ : Type) where
  lines : List Line
  ending : Ending
  tree : Files.Tree
  state : τ

namespace Outcome

variable {τ : Type}

def after (lines : List Line) (outcome : Outcome τ) : Outcome τ :=
  { outcome with lines := lines ++ outcome.lines }

end Outcome

section Run

variable {τ : Type} (transport : Transport τ) (context : Context)

/-- Prints the result of a call, if it succeeds. -/
def display {α : Type} (tree : Files.Tree) (attempt : String)
    (describe : Context → α → List Line) (answer : Except CallError α × τ) : Outcome τ :=
  match answer with
  | (.ok value, state) => ⟨describe context value, .success, tree, state⟩
  | (.error error, state) => ⟨[], .failed (.call attempt error), tree, state⟩

/-- Saves a report and says where. -/
def saveReport (directory : String) (artifact : Artifact) (tree : Files.Tree) (state : τ) :
    Outcome τ :=
  match Files.save tree directory artifact with
  | (tree, .ok path) =>
      ⟨context.remark s!"Saved {path} ({FileSize.text artifact.bytes.length})", .success, tree,
        state⟩
  | (tree, .error error) => ⟨[], .failed (.saving error), tree, state⟩

def download (arguments : DownloadArguments) (tree : Files.Tree) (state : τ) : Outcome τ :=
  match Client.report transport context.mount arguments.jobId state with
  | (.error error, state) =>
      ⟨[], .failed (.call s!"failed to download report {arguments.jobId}" error), tree, state⟩
  | (.ok download, state) =>
      saveReport context arguments.directory
        (Artifact.ofDownload arguments.jobId download (arguments.address.getD "")) tree state

/-! ## Submitting a report -/

/-- Puts a command in the quotes in which commands are named. -/
def quoted (command : String) : String :=
  "\x60" ++ command ++ "\x60"

/-- The job is ready: says so, and saves the report unless that is not wanted. -/
def complete (arguments : SubmitArguments) (jobId : String) (settled : Snapshot) (world : World τ)
    (tree : Files.Tree) : Outcome τ :=
  let notice := settled.notice.elim [] context.remark
  if arguments.noDownload then
    ⟨notice ++ context.remark ("Download it with " ++ quoted s!"reportctl download {jobId}"),
      .success, tree, world.service⟩
  else
    match world.download (context.service transport) jobId with
    | (world, .error error) => ⟨notice, .failed (.report error), tree, world.service⟩
    | (world, .ok artifact) =>
        (saveReport context arguments.directory artifact tree world.service).after notice

/-- Follows a job that has been created. -/
def follow (turns : Turns) (arguments : SubmitArguments) (jobId : String) (world : World τ)
    (tree : Files.Tree) : Outcome τ :=
  let watched := watch transport context world turns
  let outcome : Outcome τ :=
    match watched.ending with
    | .unfinished => ⟨[], .unfinished, tree, watched.world.service⟩
    | .interrupted =>
        ⟨context.remark ("Stopped watching. The job keeps running; check it with " ++
            quoted s!"reportctl status {jobId}"), .success, tree, watched.world.service⟩
    | .settled =>
        if watched.snapshot.phase == .failed then
          ⟨[], .failed (.job (watched.snapshot.error.getD Snapshot.failureFallback)), tree,
            watched.world.service⟩
        else complete transport context arguments jobId watched.snapshot watched.world tree
  outcome.after watched.lines

def submit (turns : Turns) (arguments : SubmitArguments) (tree : Files.Tree) (state : τ) :
    Outcome τ :=
  let request := arguments.request
  let outcome : Outcome τ :=
    match (World.start context.policy 0 none state).claim request with
    | .error error => ⟨[], .failed (.report error), tree, state⟩
    | .ok world =>
        match awaitResult transport context world turns with
        | (none, world, _) => ⟨[], .unfinished, tree, world.service⟩
        | (some (.error error), world, _) => ⟨[], .failed (.report error), tree, world.service⟩
        | (some (.ok jobId), world, turns) =>
            (follow transport context turns arguments jobId world tree).after
              (context.remark s!"Job {jobId} created")
  outcome.after (context.heading s!"Generating report for {Text.trim request.address}")

/-! ## All commands -/

def Command.perform (schedule : Schedule) (command : Command) (tree : Files.Tree) (state : τ) :
    Outcome τ :=
  match command with
  | .submit arguments =>
      CommandLine.submit transport context (schedule.turns context.policy) arguments tree state
  | .status jobId =>
      display context tree s!"failed to fetch report job {jobId}" Display.job
        (Client.job transport context.mount jobId state)
  | .download arguments => CommandLine.download transport context arguments tree state
  | .locations arguments =>
      display context tree "failed to list locations" Display.locationPage
        (Client.locations transport context.mount arguments.query state)
  | .location key =>
      display context tree s!"failed to load location {key.address}" Display.locationDetail
        (Client.location transport context.mount key state)
  | .audit auditId =>
      display context tree s!"failed to load audit {auditId}" Display.auditDetail
        (Client.audit transport context.mount auditId state)
  | .deficiency arguments =>
      display context tree s!"failed to update deficiency {arguments.deficiencyId}"
        (Display.deficiencyUpdate · arguments.deficiencyId)
        (Client.changeDeficiency transport context.mount arguments.auditId
          arguments.deficiencyId arguments.resolved state)

end Run

/-- Carries out a command with the settings of the environment. -/
def Command.run {τ : Type} (transport : Transport τ) (environment : Environment) (quiet : Bool)
    (schedule : Schedule) (command : Command) (tree : Files.Tree) (state : τ) : Outcome τ :=
  match Settings.ofEnvironment environment with
  | .error error => ⟨[], .failed (.settings error), tree, state⟩
  | .ok settings => command.perform transport ⟨settings, quiet⟩ schedule tree state

end AuditReports.CommandLine
