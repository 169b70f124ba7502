import AuditReports.Api.Server
import AuditReports.CommandLine.Program
import AuditReports.Proofs.Api.Redirects
import AuditReports.Proofs.CommandLine.Sending
import AuditReports.Proofs.CommandLine.Watching
import AuditReports.Proofs.Files.Saving
import AuditReports.Proofs.Report.Requests

/-!
# What submitting a report comes to

The command that submits a report goes through stages: the request is checked, the job is created,
it is watched until an answer stops the polling, the report is downloaded, and it is saved. A stage
is reached only if the one before has succeeded, so the calls that the command makes, its exit code
and what it leaves in the directory are all decided by how far it gets. `SubmitEnds` has the ends
that there are.

The controller of the command talks to the server through the client, so each of its calls is one
request. When an answer comes is up to the turns of the command; the controller has the times in its
chronicle, and it is by them that an answer is late.
-/

namespace AuditReports

namespace Client

variable {τ : Type} (transport : Transport τ) {mount : Mount} {request : HttpRequest} (state : τ)

end Client

namespace Files.Tree

/-- Of all files only the one at the end of the path is new or changed, and it has these bytes. -/
def Gains (tree : Tree) (path : String) (bytes : List UInt8) (after : Tree) : Prop :=
  ∀ place, after.file? place =
    if place = Place.here.follow (Path.components path) then some bytes else tree.file? place

/-- No file is new or changed. -/
def KeepsFiles (tree after : Tree) : Prop :=
  ∀ place, after.file? place = tree.file? place

end Files.Tree

namespace CommandLine

open World

section Ends

variable {σ : Type} (transport : Transport σ) (settings : Settings) (turns : Turns) (state : σ)

/-- The controller of a command that submits the payload, once so many turns have come. -/
def controllerAfter (payload : Payload) (count : Nat) : World σ :=
  (taken payload state settings.policy).run (Client.service transport settings.mount)
    (Turns.events (turns.take count))

/-- The job of the payload has been created, and asked about until an answer stopped the polling:
with which calls, and with which answer as the last. -/
inductive Follows (payload : Payload) : (jobId : String) → (last : Landing) → Traffic → Prop where
  | intro {post ask : HttpRequest} {created : Delivery} {job : JobCreated}
      {deliveries : List Delivery} {before : List Landing} {last : Landing} (count : Nat)
      (posts : (Call.createJob payload).request? settings.mount = some post)
      (accepted : (Call.createJob payload).receive transport.charsets created = .ok job)
      (asks : (Call.job job.jobId).request? settings.mount = some ask)
      (told : (before ++ [last]).map Landing.answer =
        deliveries.map ((Call.job job.jobId).receive transport.charsets))
      (stopped : (controllerAfter transport settings turns state payload count).StoppedBy before
        last) :
      Follows payload job.jobId last ((post, created) :: deliveries.map (ask, ·))

variable (arguments : SubmitArguments) (tree : Files.Tree)

/-- How the command may end: with which calls, which exit code, and which files. -/
inductive SubmitEnds : Traffic → UInt32 → Files.Tree → Prop where
  /-- The request is turned down. -/
  | invalid {rejection : Rejection} (rejected : arguments.request.check = .error rejection) :
      SubmitEnds [] 1 tree
  /-- The request has nowhere to go, since its address is none for the web. -/
  | nowhere {payload : Payload} (valid : arguments.request.check = .ok payload)
      (unaddressed : (Call.createJob payload).request? settings.mount = none) :
      SubmitEnds [] 1 tree
  /-- No job is created. -/
  | refused {payload : Payload} {post : HttpRequest} {created : Delivery} {error : CallError}
      (valid : arguments.request.check = .ok payload)
      (posts : (Call.createJob payload).request? settings.mount = some post)
      (refused : (Call.createJob payload).receive transport.charsets created = .error error) :
      SubmitEnds [(post, created)] 1 tree
  /-- The job fails or times out, or nothing more can be found out about it. -/
  | failed {payload : Payload} {jobId : String} {last : Landing} {calls : Traffic}
      (valid : arguments.request.check = .ok payload)
      (follows : Follows transport settings turns state payload jobId last calls)
      (unready : last.tellsReady = false) : SubmitEnds calls 1 tree
  /-- The report is ready, and not wanted. -/
  | unwanted {payload : Payload} {jobId : String} {last : Landing} {calls : Traffic}
      (valid : arguments.request.check = .ok payload)
      (follows : Follows transport settings turns state payload jobId last calls)
      (ready : last.tellsReady = true) (noDownload : arguments.noDownload = true) :
      SubmitEnds calls 0 tree
  /-- The report is ready, but the download fails. -/
  | lost {payload : Payload} {jobId : String} {last : Landing} {calls : Traffic}
      {get : HttpRequest} {fetched : Delivery} {error : CallError}
      (valid : arguments.request.check = .ok payload)
      (follows : Follows transport settings turns state payload jobId last calls)
      (ready : last.tellsReady = true) (wanted : arguments.noDownload = false)
      (gets : (Call.report jobId).request? settings.mount = some get)
      (broken : (Call.report jobId).receive transport.charsets fetched = .error error) :
      SubmitEnds (calls ++ [(get, fetched)]) 1 tree
  /-- The report has arrived, but it cannot be saved. -/
  | unsaved {payload : Payload} {jobId : String} {last : Landing} {calls : Traffic}
      {get : HttpRequest} {fetched : Delivery} {download : Download} {after : Files.Tree}
      (valid : arguments.request.check = .ok payload)
      (follows : Follows transport settings turns state payload jobId last calls)
      (ready : last.tellsReady = true) (wanted : arguments.noDownload = false)
      (gets : (Call.report jobId).request? settings.mount = some get)
      (arrived : (Call.report jobId).receive transport.charsets fetched = .ok download)
      (kept : tree.KeepsFiles after) :
      SubmitEnds (calls ++ [(get, fetched)]) 1 after
  | saved {payload : Payload} {jobId : String} {last : Landing} {calls : Traffic}
      {get : HttpRequest} {fetched : Delivery} {download : Download} {after : Files.Tree}
      (valid : arguments.request.check = .ok payload)
      (follows : Follows transport settings turns state payload jobId last calls)
      (ready : last.tellsReady = true) (wanted : arguments.noDownload = false)
      (gets : (Call.report jobId).request? settings.mount = some get)
      (arrived : (Call.report jobId).receive transport.charsets fetched = .ok download)
      (gains : tree.Gains
        (Files.savedPath arguments.directory (Artifact.ofDownload jobId download payload.address))
        download.body after) :
      SubmitEnds (calls ++ [(get, fetched)]) 0 after

end Ends

/-- A command that succeeds although the report was wanted has saved it. -/
theorem SubmitEnds.gains {σ : Type} {transport : Transport σ} {settings : Settings} {turns : Turns}
    {state : σ} {arguments : SubmitArguments} {tree after : Files.Tree} {calls : Traffic}
    {code : UInt32}
    (ended : SubmitEnds transport settings turns state arguments tree calls code after)
    (success : code = 0) (wanted : arguments.noDownload = false) :
    ∃ payload jobId get fetched download,
      arguments.request.check = .ok payload ∧
      (Call.report jobId).request? settings.mount = some get ∧
      calls.getLast? = some (get, fetched) ∧
      (Call.report jobId).receive transport.charsets fetched = .ok download ∧
      tree.Gains
        (Files.savedPath arguments.directory (Artifact.ofDownload jobId download payload.address))
        download.body after := by
  have failed : (1 : UInt32) ≠ 0 := by decide
  cases ended with
  | saved valid _ _ _ gets arrived gains =>
      exact ⟨_, _, _, _, _, valid, gets, List.getLast?_concat, arrived, gains⟩
  | unwanted _ _ _ noDownload => cases wanted.symm.trans noDownload
  | _ => exact absurd success failed

theorem Printout.output_ofOutcome {τ : Type} (outcome : Outcome τ) :
    (ofOutcome outcome).output = printed false outcome.lines := by
  rw [ofOutcome]
  cases outcome.ending <;> rfl

theorem Printout.exitCode_ofOutcome {τ : Type} (outcome : Outcome τ) :
    (ofOutcome outcome).exitCode = if outcome.ending = .success then 0 else 1 := by
  rw [ofOutcome]
  cases outcome.ending <;> rfl

/-- A job that has been created has an address for its report. -/
theorem Follows.gets {σ : Type} {transport : Transport σ} {settings : Settings} {turns : Turns}
    {state : σ} {payload : Payload} {jobId : String} {last : Landing} {calls : Traffic}
    (follows : Follows transport settings turns state payload jobId last calls) :
    ∃ get, (Call.report jobId).request? settings.mount = some get := by
  cases follows with
  | intro _ posts _ _ _ _ => exact (Call.exists_request?_below posts _).2

section Complete

variable {σ : Type} {transport : Transport σ} {context : Context} {arguments : SubmitArguments}
  {tree : Files.Tree} {jobId : String} {settled : Snapshot} {world : World σ}

variable (wanted : arguments.noDownload = false) {left : σ}

include wanted

end Complete

section Follow

variable {σ : Type} {transport : Transport σ} {context : Context} {turns : Turns}
  {arguments : SubmitArguments} {tree : Files.Tree} {jobId : String} {world after : World σ}
  {snapshot : Snapshot} {lines : List Line}

end Follow

section Submit

variable {σ : Type} {transport : Transport σ} {context : Context} {turns rest : Turns} {state : σ}
  {arguments : SubmitArguments} {tree : Files.Tree} {world : World σ}

variable {payload : Payload} (valid : arguments.request.check = .ok payload)

include valid

theorem submit_of_error {error : ReportError}
    (awaited : awaitResult transport context (taken payload state context.policy) turns =
      (some (.error error), world, rest)) :
    ∃ lines, submit transport context turns arguments tree state =
      ⟨lines, .failed (.report error), tree, world.service⟩ := by
  simp only [submit, claim_start valid, awaited]
  exact ⟨_, rfl⟩

theorem submit_of_ok {jobId : String}
    (awaited : awaitResult transport context (taken payload state context.policy) turns =
      (some (.ok jobId), world, rest)) :
    submit transport context turns arguments tree state =
      (follow transport context rest arguments jobId world tree).after
        (context.heading s!"Generating report for {Text.trim arguments.request.address}" ++
          context.remark s!"Job {jobId} created") := by
  simp only [submit, claim_start valid, awaited, Outcome.after, List.append_assoc]

end Submit

/-- The controller of the command is one that tracks a single job. -/
theorem tracks_controllerAfter {σ : Type} (transport : Transport σ) (settings : Settings)
    (turns : Turns) (state : σ) (payload : Payload) (count : Nat) :
    (controllerAfter transport settings turns state payload count).Tracks
      (Client.service transport settings.mount) settings.policy payload state :=
  (tracks_taken _ payload state settings.policy).run_incidents (turns.take count).flatten

theorem run_controllerAfter {σ : Type} (transport : Transport σ) (settings : Settings)
    (turns : Turns) (state : σ) (payload : Payload) (first second : Nat) :
    (controllerAfter transport settings turns state payload first).run
        (Client.service transport settings.mount) (Turns.events ((turns.drop first).take second)) =
      controllerAfter transport settings turns state payload (first + second) := by
  rw [controllerAfter, controllerAfter, ← run_append, ← Turns.events_append, ← List.take_add]

theorem run_drop_controllerAfter {σ : Type} (transport : Transport σ) (settings : Settings)
    (turns : Turns) (state : σ) (payload : Payload) (count : Nat) :
    (controllerAfter transport settings turns state payload count).run
        (Client.service transport settings.mount) (Turns.events (turns.drop count)) =
      controllerAfter transport settings turns state payload turns.length := by
  rw [controllerAfter, controllerAfter, ← run_append, ← Turns.events_append,
    List.take_append_drop, List.take_length]

/-- The call that makes the submission leaves the controller as it is after some of the turns. -/
theorem awaitResult_taken {σ : Type} (transport : Transport σ) (context : Context) (turns : Turns)
    (state : σ) (payload : Payload) :
    ∃ count,
      let begun := controllerAfter transport context.settings turns state payload count
      awaitResult transport context (taken payload state context.policy) turns =
          (Session.result? begun 0, begun, turns.drop count) ∧
        (Session.result? begun 0 = none → turns.take count = turns) :=
  awaitResult_spec transport context turns (taken payload state context.policy)

/-- The watching of a submission ends with a look at a final phase, or with the turns. -/
theorem watch_controllerAfter {σ : Type} (transport : Transport σ) (context : Context)
    (turns : Turns) (state : σ) (payload : Payload) (count : Nat)
    (uninterrupted : ∀ state, transport.interrupts state = false) :
    let after := controllerAfter transport context.settings turns state payload
    let watched := watch transport context (after count) (turns.drop count)
    (∃ lines reached, (after reached).snapshot.phase.isFinal = true ∧
        watched = ⟨lines, .settled, (after reached).snapshot, after reached⟩) ∨
      ∃ lines, (after turns.length).snapshot.phase.isFinal = false ∧
        watched = ⟨lines, .unfinished, (after turns.length).snapshot, after turns.length⟩ := by
  intro after watched
  have watches := watchesUntil_watch transport context uninterrupted (after count)
    (turns.drop count)
  change WatchesUntil (Client.service transport context.settings.mount) _ _ watched at watches
  generalize watched = result at watches ⊢
  cases watches with
  | settled more final =>
      rw [run_controllerAfter] at final ⊢
      exact .inl ⟨_, count + more, final, rfl⟩
  | unfinished ongoing =>
      rw [run_drop_controllerAfter] at ongoing ⊢
      exact .inr ⟨_, ongoing, rfl⟩

section Stages

variable {τ : Type} {transport : Transport τ} {context : Context} {turns : Turns} {state : τ}
  {arguments : SubmitArguments} {tree : Files.Tree} {payload : Payload}
  (valid : arguments.request.check = .ok payload)

include valid

end Stages

/-- A server that has a report ready by its second answer about the job. -/
def prompt : Connection Nat where
  exchange _ count :=
    let body := match count with
      | 0 => "\x7b\"status\":\"queued\",\"job_id\":\"3f2a-91\"\x7d"
      | 1 => "\x7b\"job_id\":\"3f2a-91\",\"status\":\"processing\"\x7d"
      | 2 => "\x7b\"job_id\":\"3f2a-91\",\"status\":\"completed\",\"download_ready\":true\x7d"
      | _ => "PK"
    (.answered ⟨200, [], Text.Utf8.encode body.toList, true⟩, count + 1)
  route _ _ := .final
  interrupts _ := false
  charsets := .basic

def localhost : Environment := ⟨some "http://localhost:8080", none, none, none⟩

def elmStreet : SubmitArguments where
  address := "12 Elm St"
  locationId := none
  owner := some "Acme Holdings"
  street := some "12 Elm St"
  city := some "Springfield"
  state := some "IL"
  zip := some "62701"
  contactName := some "Dana Wu"
  contactEmail := some "dana@acme.test"
  notes := none
  recommendations := none
  deficiencyOnly := false
  visits := []
  directory := "reports"
  noDownload := false

end CommandLine

end AuditReports
