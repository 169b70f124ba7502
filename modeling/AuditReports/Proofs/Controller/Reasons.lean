import Mathlib.Data.List.Induction
import AuditReports.Proofs.Controller.Stability

/-!
# What an error is about

A snapshot has one error for everything: the work on a report says there why it failed, and so does
a download. What is told last stands until something else is told, and a download that succeeds
takes away whatever stood there.

So the reason why a job failed is gone after the next download that succeeds, and of a download that
failed while the job was being worked on the message is still there when the job is ready. The main
results say that nothing but downloads does this, and which download it was: the latest one, if the
controller has not started over since.
-/

namespace AuditReports

namespace World

variable {σ : Type} (service : ReportService σ)

/-! ## The latest download -/

/-- The latest download of a run came in a phase of a certain kind and was answered in a certain
way, and the controller has not started over since. -/
def LatestDownload (initial : World σ) (events : List Event) (kind : Phase → Prop)
    (answer : Except CallError Download) : Prop :=
  ∃ (earlier later : List Event) (jobId : String), events = earlier ++ .download jobId :: later ∧
    let before := initial.run service earlier
    kind before.snapshot.phase ∧ (service.download jobId before.service).1 = answer ∧
      (before.occur service (.download jobId)).GoesOn service later ∧
      ∀ event ∈ later, event.isDownload = false

theorem latestDownload_last (initial : World σ) {events : List Event} {kind : Phase → Prop}
    (jobId : String) (fits : kind (initial.run service events).snapshot.phase) :
    initial.LatestDownload service (events ++ [.download jobId]) kind
      (service.download jobId (initial.run service events).service).1 :=
  ⟨events, [], jobId, rfl, fits, rfl, trivial, by simp⟩

/-- What is no download, and does not start over, leaves the latest download what it was. -/
theorem LatestDownload.append {initial : World σ} {events : List Event} {kind : Phase → Prop}
    {answer : Except CallError Download}
    (latest : initial.LatestDownload service events kind answer) {event : Event}
    (goesOn : ¬(initial.run service events).StartsOver event) (still : event.isDownload = false) :
    initial.LatestDownload service (events ++ [event]) kind answer := by
  rcases latest with ⟨earlier, later, jobId, rfl, fits, answered, undisturbed, quiet⟩
  rw [run_append, run_cons] at goesOn
  refine ⟨earlier, later ++ [event], jobId, by simp, fits, answered, ?_, ?_⟩
  · exact (goesOn_append service).mpr ⟨undisturbed, goesOn, trivial⟩
  · intro other listed
    rcases List.mem_append.mp listed with before | last
    · exact quiet other before
    · rcases List.mem_singleton.mp last with rfl
      exact still

theorem download_phase (world : World σ) (jobId : String) :
    (world.download service jobId).1.snapshot.phase = world.snapshot.phase := by
  rcases download_snapshot service world jobId with ⟨error, lastDownload, snapshot⟩
  rw [snapshot]

/-- What a download tells: why it failed, or nothing. -/
def told : Except CallError Download → Option String
  | .error error => some error.message
  | .ok _ => none

theorem download_error (world : World σ) (jobId : String) :
    (world.download service jobId).1.snapshot.error =
      told (service.download jobId world.service).1 := by
  rw [download]
  rcases service.download jobId world.service with ⟨answer, state⟩
  cases answer <;> rfl

/-- If only a download can bring about a certain error in a phase of a certain kind, then where both
are found it is the latest download that has told the error. -/
theorem exists_latestDownload {initial : World σ} (coherent : initial.Coherent)
    {kind : Phase → Prop} {error : Option String}
    (initially : kind initial.snapshot.phase → initial.snapshot.error ≠ error)
    (anew : ∀ (world : World σ) (event : Event), world.StartsOver event →
      kind (world.occur service event).snapshot.phase →
        (world.occur service event).snapshot.error ≠ error)
    (kept : ∀ (world : World σ) (event : Event), world.Coherent → ¬world.StartsOver event →
      event.isDownload = false → kind (world.occur service event).snapshot.phase →
        (world.occur service event).snapshot.error = error →
          kind world.snapshot.phase ∧ world.snapshot.error = error)
    {events : List Event} (fits : kind (initial.run service events).snapshot.phase)
    (shown : (initial.run service events).snapshot.error = error) :
    ∃ answer, initial.LatestDownload service events kind answer ∧ told answer = error := by
  induction events using List.reverseRecOn with
  | nil => exact absurd shown (initially fits)
  | append_singleton events event ih =>
      rw [run_append, run_cons, run_nil] at fits shown
      by_cases starts : (initial.run service events).StartsOver event
      · exact absurd shown (anew _ event starts fits)
      · cases downloads : event.isDownload with
        | true =>
            cases event with
            | download jobId =>
                simp only [occur, download_phase, download_error] at fits shown
                exact ⟨_, latestDownload_last service initial jobId fits, shown⟩
            | _ => cases downloads
        | false =>
            have before := kept _ event (coherent.run service events) starts downloads fits shown
            rcases ih before.1 before.2 with ⟨answer, latest, same⟩
            exact ⟨answer, latest.append service starts downloads, same⟩

/-! ## Errors while a job is worked on -/

/-- As long as the controller does not start over, a job that is worked on was worked on before. -/
theorem isOngoing_of_occur {world : World σ} (coherent : world.Coherent) {event : Event}
    (goesOn : ¬world.StartsOver event)
    (ongoing : (world.occur service event).snapshot.phase.isOngoing = true) :
    world.snapshot.phase.isOngoing = true := by
  have publication := publication service coherent event
  generalize (world.occur service event).snapshot = after at publication ongoing
  cases publication with
  | same => exact ongoing
  | emptied _ => cases ongoing
  | accepted _ claimed => exact absurd ⟨_, claimed⟩ goesOn
  | created _ _ _ waiting _ => simp [waiting, Phase.isOngoing]
  | polled _ _ _ polling _ _ => simp [polling, Phase.isOngoing]
  | downloaded jobId => rwa [download_phase] at ongoing

/-- While a job is worked on, and when it is ready, the error is what it was. -/
theorem error_occur_of_isOngoing {world : World σ} (coherent : world.Coherent) {event : Event}
    (goesOn : ¬world.StartsOver event) (still : event.isDownload = false)
    (unfailed : (world.occur service event).snapshot.phase.isOngoing = true ∨
      (world.occur service event).snapshot.phase = .completed) :
    (world.occur service event).snapshot.error = world.snapshot.error := by
  have publication := publication service coherent event
  generalize (world.occur service event).snapshot = after at publication unfailed ⊢
  cases publication with
  | same => rfl
  | emptied _ => simp [Snapshot.initial, Phase.isOngoing] at unfailed
  | accepted _ claimed => exact absurd ⟨_, claimed⟩ goesOn
  | @created _ _ answer _ _ _ _ _ =>
      cases answer with
      | error error =>
          simp [Snapshot.afterCreate, Snapshot.withoutJob, Phase.isOngoing] at unfailed
      | ok jobId => rfl
  | polled _ _ _ _ _ receipt =>
      cases receipt with
      | lost error => simp [Snapshot.givenUp, Phase.isOngoing] at unfailed
      | ended reading =>
          cases reading with
          | failed _ => simp [Snapshot.jobFailed, Snapshot.givenUp, Phase.isOngoing] at unfailed
          | ready _ _ => rfl
      | overdue _ _ => simp [Snapshot.overdue, Snapshot.givenUp, Phase.isOngoing] at unfailed
      | inTime reading _ => cases reading; rfl
  | downloaded jobId => cases still

theorem error_run_of_isOngoing {world : World σ} (coherent : world.Coherent)
    {error : Option String}
    (told : world.snapshot.phase.isOngoing = true → world.snapshot.error = error)
    {events : List Event} (goesOn : world.GoesOn service events)
    (quiet : ∀ event ∈ events, event.isDownload = false) :
    (world.run service events).snapshot.phase.isOngoing = true →
      (world.run service events).snapshot.error = error := by
  induction events generalizing world with
  | nil => exact told
  | cons event events ih =>
      refine ih (coherent.occur service event) ?_ goesOn.2
        fun other listed => quiet other (List.mem_cons_of_mem event listed)
      intro ongoing
      rw [error_occur_of_isOngoing service coherent goesOn.1 (quiet event List.mem_cons_self)
        (Or.inl ongoing)]
      exact told (isOngoing_of_occur service coherent goesOn.1 ongoing)

/-- A job becomes ready with an answer that its poll loop receives. -/
theorem event_of_completed {world : World σ} (coherent : world.Coherent) {event : Event}
    (before : world.snapshot.phase ≠ .completed)
    (completed : (world.occur service event).snapshot.phase = .completed) :
    ∃ index, event = .act index .receiveStatus ∧ world.snapshot.phase = .polling := by
  have publication := publication service coherent event
  generalize (world.occur service event).snapshot = after at publication completed
  cases publication with
  | same => exact absurd completed before
  | emptied _ => cases completed
  | accepted _ _ => cases completed
  | @created _ _ answer _ _ _ _ _ => cases answer <;> cases completed
  | polled _ _ _ polling _ _ => exact ⟨_, rfl, polling⟩
  | downloaded jobId =>
      rw [download_phase] at completed
      exact absurd completed before

/-- Starting over takes away whatever error there was. -/
theorem error_of_startsOver {world : World σ} {event : Event} (starts : world.StartsOver event) :
    (world.occur service event).snapshot.error = none ∧
      (world.occur service event).snapshot.phase.isFinal = false := by
  cases event with
  | submit request =>
      rcases starts with ⟨next, claimed⟩
      rcases claim_ok_iff.mp claimed with ⟨payload, _, _, rfl⟩
      simp only [occur, claimed]
      exact ⟨rfl, rfl⟩
  | reset => exact ⟨rfl, rfl⟩
  | _ => exact absurd starts id

/-- An error that is shown while a job is worked on is that of the latest download. -/
theorem latestDownload_of_isOngoing {initial : World σ} (coherent : initial.Coherent)
    (new : initial.snapshot = .initial) {events : List Event} {message : String}
    (ongoing : (initial.run service events).snapshot.phase.isOngoing = true)
    (shown : (initial.run service events).snapshot.error = some message) :
    ∃ error : CallError, error.message = message ∧
      initial.LatestDownload service events (fun phase => phase.isOngoing = true)
        (.error error) := by
  have latest : ∃ answer, initial.LatestDownload service events
      (fun phase => phase.isOngoing = true) answer ∧ told answer = some message := by
    refine exists_latestDownload service coherent ?_ ?_ ?_ ongoing shown
    · simp [new, Snapshot.initial]
    · intro world event starts
      simp [(error_of_startsOver service starts).1]
    · intro world event coherent goesOn still ongoing shown
      rw [error_occur_of_isOngoing service coherent goesOn still (Or.inl ongoing)] at shown
      exact ⟨isOngoing_of_occur service coherent goesOn ongoing, shown⟩
  rcases latest with ⟨answer, latest, shown⟩
  cases answer with
  | error error => exact ⟨error, Option.some.inj shown, latest⟩
  | ok download => cases shown

/-- If the latest download failed while the job was worked on, and the job still is, then the error
is the one of that download. -/
theorem LatestDownload.error_of_isOngoing {initial : World σ} (coherent : initial.Coherent)
    {events : List Event} {error : CallError}
    (latest : initial.LatestDownload service events (fun phase => phase.isOngoing = true)
      (.error error))
    (ongoing : (initial.run service events).snapshot.phase.isOngoing = true) :
    (initial.run service events).snapshot.error = some error.message := by
  rcases latest with ⟨earlier, later, jobId, rfl, _, answered, goesOn, quiet⟩
  rw [run_append, run_cons] at ongoing ⊢
  refine error_run_of_isOngoing service ((coherent.run service earlier).occur service _) ?_ goesOn
    quiet ongoing
  intro _
  simp only [occur, download_error, answered, told]

/-! ## Errors of a job that has failed -/

/-- Why a job is given up after an answer. -/
def reason (world : World σ) : Except CallError Job → String
  | .error error => error.message
  | .ok job =>
      if job.status = .failed then Snapshot.failureReason job
      else Snapshot.timeoutMessage (world.policy.timeout.getD 0)

theorem Receipt.error_of_failed {world : World σ} {deadline : Option Nat}
    {answer : Except CallError Job} {snapshot : Snapshot} {verdict : Verdict}
    (receipt : world.Receipt deadline answer snapshot verdict)
    (polling : world.snapshot.phase = .polling) (failed : snapshot.phase = .failed) :
    snapshot.error = some (world.reason answer) := by
  cases receipt with
  | lost error => rfl
  | ended reading =>
      cases reading with
      | failed status => simp [reason, status, Snapshot.jobFailed, Snapshot.givenUp]
      | ready _ _ => cases failed
  | overdue reading _ =>
      cases reading with
      | progress status _ => simp [reason, status, Snapshot.overdue, Snapshot.givenUp]
  | inTime reading _ =>
      cases reading
      exact absurd (failed.symm.trans polling) Phase.noConfusion

/-- A job fails with the answer that its poll loop receives, and the snapshot says why. -/
theorem told_of_failed {world : World σ} (coherent : world.Coherent) {event : Event}
    (before : world.snapshot.phase ≠ .failed)
    (failed : (world.occur service event).snapshot.phase = .failed) :
    ∃ (index : Nat) (submission : Submission) (pollLoop : PollLoop),
      event = .act index .receiveStatus ∧ world.submissions[index]? = some submission ∧
        submission.pollLoop = some pollLoop ∧
        (world.occur service event).snapshot.error =
          some (world.reason (service.status pollLoop.jobId world.service).1) := by
  have publication := publication service coherent event
  generalize (world.occur service event).snapshot = after at publication failed ⊢
  cases publication with
  | same => exact absurd failed before
  | emptied _ => cases failed
  | accepted _ _ => cases failed
  | @created _ _ answer _ _ _ _ _ => cases answer <;> cases failed
  | polled found _ started polling answered receipt =>
      refine ⟨_, _, _, rfl, found, started, ?_⟩
      rw [answered]
      exact receipt.error_of_failed polling failed
  | downloaded jobId =>
      rw [download_phase] at failed
      exact absurd failed before

theorem snapshot_run_of_isFinal {world : World σ} (coherent : world.Coherent)
    (final : world.snapshot.phase.isFinal = true) {events : List Event}
    (goesOn : world.GoesOn service events) (quiet : ∀ event ∈ events, event.isDownload = false) :
    (world.run service events).snapshot = world.snapshot := by
  induction events generalizing world with
  | nil => rfl
  | cons event events ih =>
      have same := snapshot_occur_of_isFinal service coherent final goesOn.1
        (quiet event List.mem_cons_self)
      rw [run_cons, ih (coherent.occur service event) (by rwa [same]) goesOn.2
        fun other listed => quiet other (List.mem_cons_of_mem event listed)]
      exact same

/-- A job that has failed shows no error only after a download that succeeded since. -/
theorem latestDownload_of_failed {initial : World σ} (coherent : initial.Coherent)
    (new : initial.snapshot = .initial) {events : List Event}
    (failed : (initial.run service events).snapshot.phase = .failed)
    (hidden : (initial.run service events).snapshot.error = none) :
    ∃ download, initial.LatestDownload service events (· = .failed) (.ok download) := by
  have latest : ∃ answer, initial.LatestDownload service events (· = .failed) answer ∧
      told answer = none := by
    refine exists_latestDownload service coherent ?_ ?_ ?_ failed hidden
    · simp [new, Snapshot.initial]
    · intro world event starts failed
      have unfinished := (error_of_startsOver service starts).2
      simp [failed, Phase.isFinal] at unfinished
    · intro world event coherent goesOn still failed hidden
      by_cases before : world.snapshot.phase = .failed
      · have final : world.snapshot.phase.isFinal = true := by
          rw [before]
          rfl
        rw [snapshot_occur_of_isFinal service coherent final goesOn still] at hidden
        exact ⟨before, hidden⟩
      · rcases told_of_failed service coherent before failed with ⟨_, _, _, _, _, _, shown⟩
        simp [hidden] at shown
  rcases latest with ⟨answer, latest, shown⟩
  cases answer with
  | error error => cases shown
  | ok download => exact ⟨download, latest⟩

theorem LatestDownload.error_of_failed {initial : World σ} (coherent : initial.Coherent)
    {events : List Event} {download : Download}
    (latest : initial.LatestDownload service events (· = .failed) (.ok download)) :
    (initial.run service events).snapshot.error = none := by
  rcases latest with ⟨earlier, later, jobId, rfl, failed, answered, goesOn, quiet⟩
  have final : ((initial.run service earlier).occur service
      (.download jobId)).snapshot.phase.isFinal = true := by
    simp only [occur, download_phase, failed]
    rfl
  rw [run_append, run_cons, snapshot_run_of_isFinal service
    ((coherent.run service earlier).occur service _) final goesOn quiet]
  simp only [occur, download_error, answered, told]

/-! ## Main results -/

variable (policy : Policy) (createDelay : Nat) (gate : Option Nat) (state : σ)

/-- A job fails only when its poll loop receives an answer, and then the snapshot has the reason:
what went wrong with the call, what the job itself says, or that it has taken too long. As long as
the controller does not start over, nothing but a download touches the reason. A job that has failed
shows no error exactly if the latest download, whatever it was a download of, came after the failure
and succeeded. -/
theorem reason_stands_until_downloaded :
    let initial := start policy createDelay gate state
    ∀ history : List Event,
      let world := initial.run service history
      (∀ event, world.snapshot.phase ≠ .failed →
        (world.occur service event).snapshot.phase = .failed →
          ∃ (index : Nat) (submission : Submission) (pollLoop : PollLoop),
            event = .act index .receiveStatus ∧ world.submissions[index]? = some submission ∧
              submission.pollLoop = some pollLoop ∧
              (world.occur service event).snapshot.error =
                some (world.reason (service.status pollLoop.jobId world.service).1)) ∧
      (world.snapshot.phase = .failed →
        (∀ events, world.GoesOn service events → (∀ event ∈ events, event.isDownload = false) →
          (world.run service events).snapshot = world.snapshot) ∧
        (world.snapshot.error = none ↔
          ∃ download, initial.LatestDownload service history (· = .failed) (.ok download))) := by
  intro initial history world
  have fresh : initial.Coherent := coherent_start policy createDelay gate state
  have coherent : world.Coherent := fresh.run service history
  refine ⟨fun event => told_of_failed service coherent, ?_⟩
  intro failed
  have final : world.snapshot.phase.isFinal = true := by
    rw [failed]
    rfl
  refine ⟨fun events => snapshot_run_of_isFinal service coherent final, ?_, ?_⟩
  · exact latestDownload_of_failed service fresh rfl failed
  · rintro ⟨download, latest⟩
    exact latest.error_of_failed service fresh

/-- A job that has failed when it is first asked for, and a report of an earlier job that can be
downloaded. -/
def failedScript : Script where
  creates := [.ok "first"]
  statuses := [.ok { Job.bare "" .failed with error := some "template rendering error" }]
  downloads := [.ok ⟨[], none, none⟩]

/-- A job whose poll loop waits for the first answer. -/
def firstRequest : List Event :=
  [.submit sampleRequest, .act 0 .receiveCreate, .act 0 .askStatus]

def firstAnswer : List Event := firstRequest ++ [.act 0 .receiveStatus]

/-- The reason outlasts everything but the download. -/
theorem reason_stands_until_first_download :
    let initial := start ⟨5000, none⟩ 0 none failedScript
    let world := initial.run Script.service firstAnswer
    (initial.run Script.service firstRequest).snapshot.phase ≠ .failed ∧
      (∃ reason, world.snapshot.error = some reason) ∧
      (world.run Script.service [.pass 5000, .stopPolling]).snapshot.error =
        some "template rendering error" ∧
      (world.occur Script.service (.download "earlier")).snapshot.error = none := by
  have main := reason_stands_until_downloaded Script.service ⟨5000, none⟩ 0 none failedScript
  have polling : ((start ⟨5000, none⟩ 0 none failedScript).run Script.service
      firstRequest).snapshot.phase ≠ .failed := by decide +kernel
  rcases (main firstRequest).1 (.act 0 .receiveStatus) polling rfl with ⟨_, _, _, _, _, _, told⟩
  have kept := ((main firstAnswer).2 rfl).1 [.pass 5000, .stopPolling] ⟨id, id, trivial⟩
    (by simp [Event.isDownload])
  have cleared := ((main (firstAnswer ++ [.download "earlier"])).2 rfl).2.mpr
    ⟨_, firstAnswer, [], "earlier", rfl, rfl, rfl, trivial, by simp⟩
  exact ⟨polling, ⟨_, told⟩, congrArg Snapshot.error kept, cleared⟩

/-- After a download that succeeds, a job that has failed shows no reason. -/
theorem reason_lost_to_download :
    let world := (start ⟨5000, none⟩ 0 none failedScript).run Script.service
      (firstAnswer ++ [.download "earlier"])
    world.snapshot.phase = .failed ∧ ¬∃ reason, world.snapshot.error = some reason := by
  refine ⟨rfl, ?_⟩
  rintro ⟨reason, shown⟩
  exact Option.some_ne_none reason shown.symm

/-- A job that becomes ready leaves the error as it is. So there is an error with it exactly if the
latest download since the controller started over came while the job was being created or worked on,
and failed; and the error is the message of that download. -/
theorem completion_keeps_download_error :
    let initial := start policy createDelay gate state
    ∀ (history : List Event) (event : Event),
      let world := initial.run service history
      let next := world.occur service event
      world.snapshot.phase ≠ .completed → next.snapshot.phase = .completed →
        next.snapshot.error = world.snapshot.error ∧
        ∀ message, next.snapshot.error = some message ↔
          ∃ failure : CallError, failure.message = message ∧
            initial.LatestDownload service history (fun phase => phase.isOngoing = true)
              (.error failure) := by
  intro initial history event world next unfinished completed
  have fresh : initial.Coherent := coherent_start policy createDelay gate state
  have coherent : world.Coherent := fresh.run service history
  rcases event_of_completed service coherent unfinished completed with ⟨index, rfl, polling⟩
  have ongoing : world.snapshot.phase.isOngoing = true := by
    rw [polling]
    rfl
  have kept : next.snapshot.error = world.snapshot.error :=
    error_occur_of_isOngoing service coherent id rfl (Or.inr completed)
  refine ⟨kept, fun message => ?_⟩
  rw [kept]
  constructor
  · exact latestDownload_of_isOngoing service fresh rfl ongoing
  · rintro ⟨failure, rfl, latest⟩
    exact latest.error_of_isOngoing service fresh ongoing

/-- A job that is queued at first and then ready, and no report of an earlier job. -/
def queuedScript : Script where
  creates := [.ok "first"]
  statuses := [.ok (Job.bare "" .queued),
    .ok { Job.bare "" .completed with downloadReady := true }]
  downloads := [.error (.api 404 "Report artifact not found")]

/-- A download fails while the job is queued, and then the next answer about the job is due. -/
def earlyDownload : List Event :=
  firstAnswer ++ [.download "earlier", .pass 5000, .act 0 .askStatus]

/-- The job becomes ready, and the message of the download stays. -/
theorem completion_keeps_error_of_earlyDownload :
    let world := (start ⟨5000, none⟩ 0 none queuedScript).run Script.service earlyDownload
    let next := world.occur Script.service (.act 0 .receiveStatus)
    world.snapshot.phase ≠ .completed ∧ next.snapshot.phase = .completed ∧
      next.snapshot.error = some "Report artifact not found" := by
  have main := completion_keeps_download_error Script.service ⟨5000, none⟩ 0 none queuedScript
    earlyDownload (.act 0 .receiveStatus)
  have polling : ((start ⟨5000, none⟩ 0 none queuedScript).run Script.service
      earlyDownload).snapshot.phase ≠ .completed := by decide +kernel
  refine ⟨polling, rfl, ((main polling rfl).2 _).mpr ⟨.api 404 "Report artifact not found", rfl,
    firstAnswer, [.pass 5000, .act 0 .askStatus], "earlier", rfl, rfl, rfl, ⟨id, id, trivial⟩, ?_⟩⟩
  simp [Event.isDownload]

/-- A job can be announced as ready together with the message of an earlier download. -/
theorem ready_with_error_of_earlyDownload :
    let world := (start ⟨5000, none⟩ 0 none queuedScript).run Script.service earlyDownload
    let next := world.occur Script.service (.act 0 .receiveStatus)
    world.snapshot.phase ≠ .completed ∧ next.snapshot.phase = .completed ∧
      next.snapshot.error ≠ none := by
  decide +kernel

end World

end AuditReports
