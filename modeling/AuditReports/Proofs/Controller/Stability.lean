import AuditReports.Proofs.Controller.Downloads
import AuditReports.Proofs.Controller.Phases

/-!
# The end of a job

A job that has completed or failed is left as it is until the controller starts over, with a request
that is accepted or with a reset. Whatever is still under way by then belongs to submissions that
have been cancelled: the phases `completed` and `failed` are not those of a submission that waits
for its job or polls it. So nothing but a download finds anything to write, and of the snapshot a
download writes only the error and the last download.

Calls could still come from a loop that has been cancelled and has not noticed it. Between the steps
of a session there is no such loop, and without one there is nobody left to make a call.
-/

namespace AuditReports

namespace World

variable {σ : Type} (service : ReportService σ)

/-! ## Starting over -/

/-- The event drops whatever the controller was doing: a request is accepted, or the controller is
reset. -/
def StartsOver (world : World σ) : Event → Prop
  | .submit request => ∃ next, world.claim request = .ok next
  | .reset => True
  | _ => False

/-- The controller does not start over. -/
def GoesOn (world : World σ) : List Event → Prop
  | [] => True
  | event :: events => ¬world.StartsOver event ∧ GoesOn (world.occur service event) events

theorem goesOn_append {world : World σ} {first second : List Event} :
    world.GoesOn service (first ++ second) ↔
      world.GoesOn service first ∧ (world.run service first).GoesOn service second := by
  induction first generalizing world with
  | nil => simp [GoesOn]
  | cons event first ih => simp [GoesOn, ih, and_assoc]

theorem not_startsOver_of_isSpontaneous (world : World σ) {event : Event}
    (spontaneous : event.isSpontaneous = true) : ¬world.StartsOver event := by
  cases event with
  | act index action => exact id
  | pass span => exact id
  | _ => cases spontaneous

theorem goesOn_of_isSpontaneous (world : World σ) {events : List Event}
    (spontaneous : ∀ event ∈ events, event.isSpontaneous = true) :
    world.GoesOn service events := by
  induction events generalizing world with
  | nil => trivial
  | cons event events ih =>
      exact ⟨not_startsOver_of_isSpontaneous world (spontaneous event List.mem_cons_self),
        ih _ fun later listed => spontaneous later (List.mem_cons_of_mem event listed)⟩

/-! ## Who may still write -/

namespace Coherent

/-- In a phase that is final, everything that is still under way has been cancelled. -/
theorem cancelled_of_isFinal {world : World σ} (coherent : world.Coherent)
    (final : world.snapshot.phase.isFinal = true) {index : Nat} {submission : Submission}
    (found : world.submissions[index]? = some submission) (live : submission.isLive = true) :
    submission.cancelled = true := by
  by_contra uncancelled
  have tells := coherent.told index submission found (by simpa using uncancelled)
  rcases (Bool.or_eq_true _ _).mp live with creating | polling
  · have submitting := (tells.creating creating).1
    simp [submitting, Phase.isFinal] at final
  · rcases (Option.any_eq_true _ _).mp polling with ⟨pollLoop, started, running⟩
    have polls := (tells.polling pollLoop started (by simpa using running)).1
    simp [polls, Phase.isFinal] at final

end Coherent

theorem isLive_of_creating {submission : Submission}
    (creating : submission.stage.isCreating = true) : submission.isLive = true := by
  simp [Submission.isLive, creating]

/-- What an event makes of the snapshot. -/
inductive Publication (world : World σ) : Event → Snapshot → Prop where
  | same (event : Event) : Publication world event world.snapshot
  | emptied {event : Event} (drops : event = .reset ∨ world.snapshot.phase = .submitting) :
      Publication world event .initial
  | accepted {request : ReportRequest} {payload : Payload}
      (free : world.snapshot.phase ≠ .submitting)
      (claimed : world.claim request = .ok (world.accept payload)) :
      Publication world (.submit request) (.submitting payload.address)
  /-- The answer to a create call arrives while the controller waits for it. -/
  | created {index : Nat} {submission : Submission} {answer : Except CallError String}
      (found : world.submissions[index]? = some submission)
      (held : submission.cancelled = false) (creating : submission.stage.isCreating = true)
      (waiting : world.snapshot.phase = .submitting)
      (answered : (service.create submission.payload world.service).1 = answer) :
      Publication world (.act index .receiveCreate) (world.snapshot.afterCreate answer)
  /-- An answer about a job arrives while the controller polls. -/
  | polled {index : Nat} {submission : Submission} {pollLoop : PollLoop}
      {answer : Except CallError Job} {snapshot : Snapshot} {verdict : Verdict}
      (found : world.submissions[index]? = some submission) (held : submission.cancelled = false)
      (started : submission.pollLoop = some pollLoop) (polling : world.snapshot.phase = .polling)
      (answered : (service.status pollLoop.jobId world.service).1 = answer)
      (receipt : world.Receipt pollLoop.deadline answer snapshot verdict) :
      Publication world (.act index .receiveStatus) snapshot
  | downloaded (jobId : String) :
      Publication world (.download jobId) (world.download service jobId).1.snapshot

theorem publication_of_emptied {world : World σ} {event : Event} {after : Snapshot}
    (emptied : after = world.snapshot ∨ after = .initial)
    (kept : world.snapshot.phase ≠ .submitting → after = world.snapshot) :
    world.Publication service event after := by
  by_cases submitting : world.snapshot.phase = .submitting
  · rcases emptied with rfl | rfl
    · exact .same event
    · exact .emptied (Or.inr submitting)
  · rw [kept submitting]
    exact .same event

/-- Whatever an event makes of the snapshot, it comes in the phase that it is meant for. -/
theorem publication {world : World σ} (coherent : world.Coherent) (event : Event) :
    world.Publication service event (world.occur service event).snapshot := by
  have transition := transition_occur service world event
  generalize world.occur service event = next at transition ⊢
  cases transition with
  | @receiveCreate index submission found creating =>
      rw [receiveCreate_snapshot]
      split
      · exact .same _
      · rename_i uncancelled
        have held : submission.cancelled = false := by simpa using uncancelled
        have told := (coherent.told index submission found held).creating creating
        exact .created found held creating told.1 rfl
  | @receiveStatus index submission pollLoop _ found started asking =>
      rw [receiveStatus_snapshot]
      split
      · exact .same _
      · rename_i uncancelled
        have held : submission.cancelled = false := by simpa using uncancelled
        have running : pollLoop.isFinished = false := by simp [PollLoop.isFinished, asking]
        have told := (coherent.told index submission found held).polling pollLoop started running
        exact .polled found held started told.1 rfl (world.receipt pollLoop.deadline _)
  | @accept request payload valid free =>
      exact .accepted free (claim_ok_iff.mpr ⟨payload, valid, free, rfl⟩)
  | halt =>
      apply publication_of_emptied
      · rw [halt_snapshot]
        split
        · exact Or.inr rfl
        · exact Or.inl rfl
      · intro free
        rw [halt_snapshot, if_neg free]
  | clear => exact .emptied (Or.inl rfl)
  | download jobId => exact .downloaded jobId
  | abandonCall index =>
      exact publication_of_emptied service (world.abandonCall_snapshot index) fun free =>
        abandonCall_snapshot_of_ne free index
  | shut => exact publication_of_emptied service world.shut_snapshot shut_snapshot_of_ne
  | _ => exact .same _

/-- In a phase that is final, only a download and starting over change the snapshot. -/
theorem snapshot_occur_of_isFinal {world : World σ} (coherent : world.Coherent)
    (final : world.snapshot.phase.isFinal = true) {event : Event}
    (goesOn : ¬world.StartsOver event) (still : event.isDownload = false) :
    (world.occur service event).snapshot = world.snapshot := by
  have free := Snapshot.phase_ne_submitting_of_isFinal final
  have publication := publication service coherent event
  generalize (world.occur service event).snapshot = after at publication ⊢
  cases publication with
  | same => rfl
  | emptied drops =>
      rcases drops with rfl | submitting
      · exact absurd trivial goesOn
      · exact absurd submitting free
  | accepted _ claimed => exact absurd ⟨_, claimed⟩ goesOn
  | created _ _ _ waiting _ => exact absurd waiting free
  | polled _ _ _ polling _ _ => simp [polling, Phase.isFinal] at final
  | downloaded jobId => cases still

theorem occur_eq_of_isFinal {world : World σ} (coherent : world.Coherent)
    (final : world.snapshot.phase.isFinal = true) {event : Event}
    (goesOn : ¬world.StartsOver event) :
    ∃ error lastDownload, (world.occur service event).snapshot =
      { world.snapshot with error := error, lastDownload := lastDownload } := by
  cases downloads : event.isDownload with
  | true =>
      cases event with
      | download jobId => exact download_snapshot service world jobId
      | _ => cases downloads
  | false => exact ⟨_, _, snapshot_occur_of_isFinal service coherent final goesOn downloads⟩

/-- What a final phase shows of the job lasts until the controller starts over. -/
theorem run_eq_of_isFinal {world : World σ} (coherent : world.Coherent)
    (final : world.snapshot.phase.isFinal = true) {events : List Event}
    (goesOn : world.GoesOn service events) :
    ∃ error lastDownload, (world.run service events).snapshot =
      { world.snapshot with error := error, lastDownload := lastDownload } := by
  induction events generalizing world with
  | nil => exact ⟨_, _, rfl⟩
  | cons event events ih =>
      rcases occur_eq_of_isFinal service coherent final goesOn.1 with ⟨_, _, first⟩
      rcases ih (coherent.occur service event) (by rw [first]; exact final) goesOn.2 with
        ⟨error, lastDownload, last⟩
      refine ⟨error, lastDownload, ?_⟩
      rw [run_cons, last, first]

/-! ## Who may still call -/

/-- The create calls and the status calls so far, with their times. -/
def jobCalls (world : World σ) : List (Nat × Exchange) :=
  world.calls.filter (!·.2.isDownload)

theorem jobCalls_push {world next : World σ} {entry : Entry}
    (chronicle : next.chronicle = world.chronicle.push entry)
    (silent : entry.exchange.isRequest = false ∨ entry.exchange.isDownload = true) :
    next.jobCalls = world.jobCalls := by
  rcases silent with answer | download
  · simp [jobCalls, calls, chronicle, List.filter_append, answer]
  · cases request : entry.exchange.isRequest <;>
      simp [jobCalls, calls, chronicle, List.filter_append, request, download]

theorem jobCalls_of_surroundings {before after : World σ} (same : before.SameSurroundings after) :
    after.jobCalls = before.jobCalls := by
  rw [jobCalls, jobCalls, calls, calls, same.chronicle]

/-- The job has come to its end, and no loop is running any more. -/
structure HasEnded (world : World σ) : Prop where
  final : world.snapshot.phase.isFinal = true
  stopped : ∀ (index : Nat) (submission : Submission),
    world.submissions[index]? = some submission → submission.isPolling = false

/-- A loop that has not been cancelled polls, and then the phase is not final. -/
theorem hasEnded_of_noticed {world : World σ} (coherent : world.Coherent)
    (final : world.snapshot.phase.isFinal = true) (noticed : world.Noticed) : world.HasEnded where
  final := final
  stopped := by
    intro index submission found
    by_contra polling
    have live : submission.isLive = true := by simpa [Submission.isLive] using Or.inr polling
    have cancelled := coherent.cancelled_of_isFinal final found live
    exact polling (noticed submission (List.mem_of_getElem? found) cancelled)

theorem HasEnded.not_started {world : World σ} (ended : world.HasEnded) {index : Nat}
    {submission : Submission} {pollLoop : PollLoop}
    (found : world.submissions[index]? = some submission)
    (started : submission.pollLoop = some pollLoop) : pollLoop.state = .finished := by
  have stopped := ended.stopped index submission found
  simpa [Submission.isPolling, started, PollLoop.isFinished] using stopped

theorem HasEnded.jobCalls_occur {world : World σ} (ended : world.HasEnded) {event : Event}
    (goesOn : ¬world.StartsOver event) :
    (world.occur service event).jobCalls = world.jobCalls := by
  have free := Snapshot.phase_ne_submitting_of_isFinal ended.final
  have transition := transition_occur service world event
  generalize world.occur service event = next at transition ⊢
  cases transition with
  | receiveCreate _ _ =>
      exact jobCalls_push (receiveCreate_chronicle service world _ _) (Or.inl rfl)
  | askStatus found started waiting _ =>
      simp [ended.not_started found started] at waiting
  | receiveStatus _ _ _ =>
      exact jobCalls_push (receiveStatus_chronicle service world _ _ _ _) (Or.inl rfl)
  | @accept request payload valid _ =>
      exact absurd ⟨_, claim_ok_iff.mpr ⟨payload, valid, free, rfl⟩⟩ goesOn
  | halt => exact jobCalls_of_surroundings (halt_surroundings world)
  | clear => exact absurd trivial goesOn
  | download jobId =>
      simp [jobCalls, calls, download_chronicle, Exchange.isRequest, Exchange.isDownload]
  | abandonCall index => exact jobCalls_of_surroundings (abandonCall_surroundings world index)
  | shut => exact jobCalls_of_surroundings (shut_surroundings world)
  | _ => rfl

/-- The only submissions that could still start a loop wait for their job, and they have been
cancelled. -/
theorem HasEnded.occur {world : World σ} (ended : world.HasEnded) (coherent : world.Coherent)
    {event : Event} (goesOn : ¬world.StartsOver event) :
    (world.occur service event).HasEnded where
  final := by
    rcases occur_eq_of_isFinal service coherent ended.final goesOn with ⟨_, _, snapshot⟩
    rw [snapshot]
    exact ended.final
  stopped := by
    intro index after foundAfter
    by_cases own : ∃ action, event = .act index action
    · rcases own with ⟨action, rfl⟩
      have transition := transition_act service world index action
      generalize world.occur service (.act index action) = next at transition foundAfter
      cases transition with
      | idle _ => exact ended.stopped index after foundAfter
      | @receiveCreate _ submission found creating =>
          have cancelled := coherent.cancelled_of_isFinal ended.final found
            (isLive_of_creating creating)
          rw [receiveCreate_submissions, List.getElem?_modify_eq, found] at foundAfter
          rcases Option.some.inj foundAfter with rfl
          have creation := creation world.policy world.now
            (service.create submission.payload world.service).1 submission
          rw [Submission.isPolling, creation.pollLoop cancelled]
          exact ended.stopped index submission found
      | askStatus found started waiting _ => simp [ended.not_started found started] at waiting
      | receiveStatus found started asking => simp [ended.not_started found started] at asking
      | leave found _ polling => simp [ended.stopped index _ found] at polling
    · have foreign : ∀ action, event ≠ .act index action := fun action same => own ⟨action, same⟩
      cases found : world.submissions[index]? with
      | none => simp [Submission.isPolling, (occur_newcomer service found foundAfter).1]
      | some before =>
          rcases occur_withdrawn service foreign found with ⟨other, foundOther, withdrawn⟩
          rcases Option.some.inj (foundAfter.symm.trans foundOther) with rfl
          rw [Submission.isPolling, withdrawn.pollLoop]
          exact ended.stopped index before found

theorem HasEnded.jobCalls_run {world : World σ} (ended : world.HasEnded)
    (coherent : world.Coherent) {events : List Event} (goesOn : world.GoesOn service events) :
    (world.run service events).jobCalls = world.jobCalls := by
  induction events generalizing world with
  | nil => rfl
  | cons event events ih =>
      rw [run_cons, ih (ended.occur service coherent goesOn.1) (coherent.occur service event)
        goesOn.2]
      exact ended.jobCalls_occur service goesOn.1

/-! ## How the phase moves -/

/-- The ways in which an event can move the phase. -/
inductive Moves (world : World σ) (event : Event) : Phase → Phase → Prop where
  /-- A submission has its job. -/
  | created : Moves world event .submitting .polling
  /-- A submission is left without a job. -/
  | dropped : Moves world event .submitting .idle
  | completed : Moves world event .polling .completed
  | failed : Moves world event .polling .failed
  | accepted {before : Phase} {request : ReportRequest} {next : World σ}
      (free : before ≠ .submitting) (submits : event = .submit request)
      (claimed : world.claim request = .ok next) : Moves world event before .submitting
  | reset {before : Phase} (resets : event = .reset) : Moves world event before .idle

/-- An event leaves the phase as it is, or it moves the phase in one of the ways in which it can. -/
theorem moves_occur {world : World σ} (coherent : world.Coherent) (event : Event) :
    (world.occur service event).snapshot.phase = world.snapshot.phase ∨
      world.Moves event world.snapshot.phase (world.occur service event).snapshot.phase := by
  have publication := publication service coherent event
  generalize (world.occur service event).snapshot = after at publication ⊢
  cases publication with
  | same => exact Or.inl rfl
  | emptied drops =>
      rcases drops with rfl | submitting
      · exact Or.inr (.reset rfl)
      · rw [submitting]
        exact Or.inr .dropped
  | accepted free claimed => exact Or.inr (.accepted free rfl claimed)
  | @created _ _ answer _ _ _ waiting _ =>
      rw [waiting]
      cases answer with
      | error error => exact Or.inr .dropped
      | ok jobId => exact Or.inr .created
  | @polled _ _ _ _ _ verdict _ _ _ polling _ receipt =>
      cases verdict with
      | goOn => exact Or.inl receipt.phase_of_goOn
      | stop =>
          have final := receipt.isFinal_of_stop
          rw [polling]
          cases phase : after.phase with
          | completed => exact Or.inr .completed
          | failed => exact Or.inr .failed
          | _ => simp [phase, Phase.isFinal] at final
  | downloaded jobId =>
      rcases download_snapshot service world jobId with ⟨error, lastDownload, snapshot⟩
      rw [snapshot]
      exact Or.inl rfl

end World

namespace Session

variable {σ : Type} (service : ReportService σ)

/-! ## Steps of a session -/

/-- What is done to the controller in a step, if anything. -/
def caused (session : Session σ) (step : Step) : Option World.Event :=
  match step with
  | .advance _ => none
  | .permit count => some (.permit count)
  | .abandon number => (session.submission? number).map .abandon
  | .close => some .close
  | .submit request => if session.isOpen then some (.submit request) else none
  | .stopPolling => if session.isOpen then some .stopPolling else none
  | .reset => if session.isOpen then some .reset else none
  | .download jobId => if session.isOpen then some (.download jobId) else none

/-- Any step but the passing of time does something to the controller, or nothing, and lets
everything happen that can happen then. -/
theorem perform_world {session : Session σ} (rest : session.world.AtRest) {step : Step}
    (still : ∀ span, step ≠ .advance span) :
    (session.perform service step).1.world =
      World.settle service (session.world.run service (session.caused step).toList) := by
  have unchanged := (World.settle_of_settled service rest.settled).symm
  cases step with
  | advance span => exact absurd rfl (still span)
  | permit count => rfl
  | close => rfl
  | abandon number =>
      simp only [perform, observe, caused]
      cases session.submission? number with
      | none => exact unchanged
      | some index => rfl
  | submit request =>
      simp only [perform, caused]
      cases session.isOpen with
      | false => exact unchanged
      | true =>
          simp only [if_true, performOpen, submit, World.submit, Option.toList_some,
            World.run_cons, World.run_nil, World.occur]
          cases session.world.claim request with
          | error error => exact unchanged
          | ok next => rfl
  | stopPolling =>
      simp only [perform, caused]
      cases session.isOpen with
      | false => exact unchanged
      | true => rfl
  | reset =>
      simp only [perform, caused]
      cases session.isOpen with
      | false => exact unchanged
      | true => rfl
  | download jobId =>
      simp only [perform, caused]
      cases session.isOpen with
      | false => exact unchanged
      | true => exact (World.settle_of_settled service (rest.download service jobId).settled).symm

/-- After what is done in a step, the world is left to itself. -/
theorem drifts_perform {session : Session σ} (rest : session.world.AtRest) (step : Step) :
    (session.world.run service (session.caused step).toList).Drifts service
      (session.perform service step).1.world := by
  by_cases advances : ∃ span, step = .advance span
  · rcases advances with ⟨span, rfl⟩
    exact (World.advance_spec service rest span).2.2
  · rw [perform_world service rest fun span same => advances ⟨span, same⟩]
    exact World.drifts_settle service _

/-- In the step a request is accepted, or the controller is reset. Neither can be done to a
controller that has been given up. -/
def StartsOver (session : Session σ) : Step → Prop
  | .submit request => session.isOpen = true ∧ ∃ next, session.world.claim request = .ok next
  | .reset => session.isOpen = true
  | _ => False

/-- In none of the steps does the controller start over. -/
def GoesOn (session : Session σ) : List Step → Prop
  | [] => True
  | step :: steps => ¬session.StartsOver step ∧ GoesOn (session.perform service step).1 steps

theorem startsOver_of_caused {session : Session σ} {step : Step} {event : World.Event}
    (causes : session.caused step = some event) (starts : session.world.StartsOver event) :
    session.StartsOver step := by
  cases step with
  | submit request =>
      cases isOpen : session.isOpen with
      | false => simp [caused, isOpen] at causes
      | true =>
          simp only [caused, isOpen, if_true, Option.some.injEq] at causes
          rcases causes with rfl
          exact ⟨isOpen, starts⟩
  | reset =>
      cases isOpen : session.isOpen with
      | false => simp [caused, isOpen] at causes
      | true => exact isOpen
  | abandon number =>
      rcases Option.map_eq_some_iff.mp causes with ⟨index, _, rfl⟩
      exact absurd starts id
  | advance span => cases causes
  | permit count =>
      rcases Option.some.inj causes with rfl
      exact absurd starts id
  | close =>
      rcases Option.some.inj causes with rfl
      exact absurd starts id
  | stopPolling =>
      rcases Option.ite_none_right_eq_some.mp causes with ⟨_, same⟩
      rcases Option.some.inj same with rfl
      exact absurd starts id
  | download jobId =>
      rcases Option.ite_none_right_eq_some.mp causes with ⟨_, same⟩
      rcases Option.some.inj same with rfl
      exact absurd starts id

/-- A session in which the controller does not start over is a run in which it does not. -/
theorem goesOn_run {session : Session σ} (rest : session.world.AtRest) {steps : List Step}
    (goesOn : session.GoesOn service steps) :
    ∃ events, (session.after service steps).world = session.world.run service events ∧
      session.world.GoesOn service events := by
  induction steps generalizing session with
  | nil => exact ⟨[], rfl, trivial⟩
  | cons step steps ih =>
      rcases drifts_perform service rest step with ⟨drift, next, _, spontaneous⟩
      rcases ih (perform_spec service rest step).1 goesOn.2 with ⟨later, last, goesOnLater⟩
      rw [next] at goesOnLater last
      refine ⟨(session.caused step).toList ++ (drift ++ later), ?_, ?_⟩
      · rw [World.run_append, World.run_append]
        exact last
      · refine (World.goesOn_append service).mpr ⟨?_, (World.goesOn_append service).mpr
          ⟨World.goesOn_of_isSpontaneous service _ spontaneous, goesOnLater⟩⟩
        cases causes : session.caused step with
        | none => trivial
        | some event => exact ⟨fun starts => goesOn.1 (startsOver_of_caused causes starts), trivial⟩

end Session

namespace World

variable {σ : Type} (service : ReportService σ)

/-! ## Main result -/

variable (policy : Policy) (createDelay : Nat) (gate : Option Nat) (state : σ)

/-- Final phases are stable. Once a job has completed or failed, and as long as no request is
accepted and the controller is not reset, in whatever order things happen, the snapshot changes only
in the error and the last download: the phase, the job with its id and address, the progress and the
notice are what they were. If every loop has noticed by then whether its submission has been
cancelled, no create call and no status call is made any more; in a session every loop always has.
And whatever happens in any phase, the phase moves only from `submitting` to `polling` or `idle`,
from `polling` to `completed` or `failed`, from any phase but `submitting` to `submitting` with a
request that is accepted, and from any phase to `idle` with a reset. -/
theorem final_phases_are_stable :
    let initial := start policy createDelay gate state
    (∀ history events : List Event,
      let world := initial.run service history
      let last := world.run service events
      world.snapshot.phase = .completed ∨ world.snapshot.phase = .failed →
        world.GoesOn service events →
          (∃ error lastDownload, last.snapshot =
            { world.snapshot with error := error, lastDownload := lastDownload }) ∧
          (world.Noticed → last.jobCalls = world.jobCalls)) ∧
    (∀ history steps : List Step,
      let session := (Session.start initial).after service history
      let last := session.after service steps
      session.world.snapshot.phase = .completed ∨ session.world.snapshot.phase = .failed →
        session.GoesOn service steps →
          (∃ error lastDownload, last.world.snapshot =
            { session.world.snapshot with error := error, lastDownload := lastDownload }) ∧
          last.world.jobCalls = session.world.jobCalls) ∧
    (∀ (history : List Event) (event : Event),
      let world := initial.run service history
      let next := world.occur service event
      next.snapshot.phase = world.snapshot.phase ∨
        world.Moves event world.snapshot.phase next.snapshot.phase) := by
  intro initial
  have isFinal : ∀ phase : Phase, phase = .completed ∨ phase = .failed → phase.isFinal = true := by
    rintro phase (rfl | rfl) <;> rfl
  refine ⟨?_, ?_, ?_⟩
  · intro history events world last ended goesOn
    have coherent : world.Coherent := coherent_run service policy createDelay gate state history
    have final := isFinal _ ended
    refine ⟨run_eq_of_isFinal service coherent final goesOn, ?_⟩
    intro noticed
    exact (hasEnded_of_noticed coherent final noticed).jobCalls_run service coherent goesOn
  · intro history steps session last ended goesOn
    have rest : session.world.AtRest :=
      (Session.after_spec service (Session.atRest_start policy createDelay gate state) history).1
    have final := isFinal _ ended
    have hasEnded := hasEnded_of_noticed rest.coherent final rest.noticed
    rcases Session.goesOn_run service rest goesOn with ⟨events, same, goesOnEvents⟩
    rw [show last.world = session.world.run service events from same]
    exact ⟨run_eq_of_isFinal service rest.coherent final goesOnEvents,
      hasEnded.jobCalls_run service rest.coherent goesOnEvents⟩
  · intro history event world next
    exact moves_occur service (coherent_run service policy createDelay gate state history) event

/-- The second submission gets its job, and the job is ready, while the first one, which was
cancelled, still waits for the answer to its create call. -/
def overtaken : List Event :=
  [.submit sampleRequest, .stopPolling, .submit sampleRequest, .pass 100, .act 1 .receiveCreate,
    .act 1 .askStatus, .act 1 .receiveStatus]

/-- What may happen after that: the first submission gets its job too, time passes, a request that
is not valid is turned away, a download fails, and the controller is given up. -/
def aftermath : List Event :=
  [.act 0 .receiveCreate, .pass 5000, .act 1 .askStatus,
    .submit { sampleRequest with address := "" }, .download "first", .stopPolling, .close]

def overtakenSession : Session Script :=
  (Session.start (start ⟨5000, none⟩ 100 none readyScript)).after Script.service
    [.submit sampleRequest, .advance 50, .stopPolling, .submit sampleRequest, .advance 100]

def laterSteps : List Step :=
  [.download "first", .advance 5000, .stopPolling, .close, .reset]

/-- Of all that comes after the end of the job, only the download that fails is seen. -/
theorem final_phases_are_stable_when_overtaken :
    let world := (start ⟨5000, none⟩ 100 none readyScript).run Script.service overtaken
    let last := world.run Script.service aftermath
    let lastSession := overtakenSession.after Script.service laterSteps
    (world.snapshot.phase = .completed ∧ world.GoesOn Script.service aftermath ∧ world.Noticed) ∧
      last.snapshot.phase = .completed ∧ last.jobCalls = world.jobCalls ∧
      (overtakenSession.world.snapshot.phase = .completed ∧
        overtakenSession.GoesOn Script.service laterSteps) ∧
      lastSession.world.snapshot.phase = .completed ∧
      lastSession.world.snapshot.error = some "Network error: no scripted download response" ∧
      lastSession.world.jobCalls = overtakenSession.world.jobCalls := by
  have main := final_phases_are_stable Script.service ⟨5000, none⟩ 100 none readyScript
  have invalid : ∀ world : World Script,
      ¬∃ next, world.claim { sampleRequest with address := "" } = .ok next := by
    rintro world ⟨next, claimed⟩
    cases claimed
  have goesOn : ((start ⟨5000, none⟩ 100 none readyScript).run Script.service overtaken).GoesOn
      Script.service aftermath :=
    ⟨id, id, id, invalid _, id, id, id, trivial⟩
  have noticed :
      ((start ⟨5000, none⟩ 100 none readyScript).run Script.service overtaken).Noticed := by
    intro submission listed cancelled
    have checked : ((start ⟨5000, none⟩ 100 none readyScript).run Script.service
        overtaken).submissions.all
          (fun submission => !submission.cancelled || !submission.isPolling) = true := rfl
    simpa [cancelled] using List.all_eq_true.mp checked submission listed
  have goesOnSession : overtakenSession.GoesOn Script.service laterSteps :=
    ⟨id, id, id, id, Bool.false_ne_true, trivial⟩
  have stable := main.1 overtaken aftermath (Or.inl rfl) goesOn
  have stableSession := main.2.1 _ laterSteps (Or.inl rfl) goesOnSession
  rcases stable.1 with ⟨_, _, shown⟩
  rcases stableSession.1 with ⟨_, _, shownSession⟩
  exact ⟨⟨rfl, goesOn, noticed⟩, congrArg Snapshot.phase shown, stable.2 noticed,
    ⟨rfl, goesOnSession⟩, congrArg Snapshot.phase shownSession, rfl, stableSession.2⟩

end World

end AuditReports
