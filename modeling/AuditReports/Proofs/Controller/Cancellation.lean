import AuditReports.Proofs.Controller.Ownership
import AuditReports.Proofs.Controller.Sessions

/-!
# After a cancellation

A submission that has been cancelled stays cancelled, and nothing that arrives for it can be seen in
the snapshot: neither the answer to its create call nor an answer about its job. Its loop asks for
nothing more either, if it was waiting when it was cancelled and takes notice before time passes.
The invariant for that is that the loop never has a tick to react to.

Once polling has been stopped or the controller has been reset, every submission has been cancelled,
so until the next one is accepted the snapshot is left to the downloads.
-/

namespace AuditReports

namespace Submission

/-- Its loop, if there is one, has no tick to react to: it waits for an answer or for a tick that is
still to come, or it has ended. -/
def Rests (now : Nat) (submission : Submission) : Prop :=
  ∀ pollLoop due, submission.pollLoop = some pollLoop → pollLoop.state = .waiting due → now < due

theorem Rests.of_withdrawn {now : Nat} {before after : Submission} (rests : before.Rests now)
    (withdrawn : before.Withdrawn after) : after.Rests now := by
  intro pollLoop due started waiting
  exact rests pollLoop due (withdrawn.pollLoop ▸ started) waiting

theorem rests_of_not_polling {submission : Submission} (stopped : submission.isPolling = false)
    (now : Nat) : submission.Rests now := by
  intro pollLoop due started waiting
  simp [isPolling, started, PollLoop.isFinished, waiting] at stopped

theorem rests_of_finished {submission : Submission} (now : Nat) :
    (submission.proceed .finished).Rests now := by
  apply rests_of_not_polling
  cases started : submission.pollLoop with
  | none => simp [isPolling, proceed, withLoopState, started]
  | some pollLoop =>
      simp [isPolling, World.proceed_pollLoop .finished started, PollLoop.isFinished]

theorem rests_of_action? {now : Nat} {free : Bool} {submission : Submission}
    (loopless : submission.stage.isCreating = true → submission.pollLoop = none)
    (quiet : submission.action? now free = none) : submission.Rests now := by
  intro pollLoop due started waiting
  have created : submission.stage.isCreating = false := by
    by_contra creating
    simp [loopless (by simpa using creating)] at started
  rw [action?_of_started now free created started, waiting] at quiet
  cases token : submission.cancelled <;> simp [token] at quiet
  exact quiet

end Submission

namespace World

variable {σ : Type} (service : ReportService σ)

def IsCancelled (world : World σ) (index : Nat) : Prop :=
  ∃ submission, world.submissions[index]? = some submission ∧ submission.cancelled = true

/-- The event takes the controller away from a submission: it empties the slot or puts another
submission there, or it gives up the call of the submission before its job exists. -/
def Revokes (world : World σ) (index : Nat) : Event → Prop
  | .stopPolling => True
  | .reset => True
  | .close => True
  | .submit request => ∃ next, world.claim request = .ok next
  | .abandon other => other = index ∧ ∀ submission, world.submissions[index]? = some submission →
      submission.stage.isCreating = true
  | _ => False

/-- The status calls that were made for a submission, in their order. -/
def statusCalls (world : World σ) (index : Nat) : List Entry :=
  world.chronicle.toList.filter fun entry =>
    entry.submission == some index && entry.exchange.asksStatus

/-- The event hands the controller over: a request is accepted, or what there is is dropped. -/
def HandsOver (world : World σ) : Event → Prop
  | .submit request => ∃ next, world.claim request = .ok next
  | .stopPolling => True
  | .reset => True
  | _ => False

def Undisturbed (world : World σ) : List Event → Prop
  | [] => True
  | event :: events => ¬world.HandsOver event ∧ Undisturbed (world.occur service event) events

/-! ## Cancelled submissions stay cancelled -/

theorem isCancelled_occur {world : World σ} {index : Nat} (cancelled : world.IsCancelled index)
    (event : Event) : (world.occur service event).IsCancelled index := by
  rcases cancelled with ⟨submission, found, cancelled⟩
  by_cases own : ∃ action, event = .act index action
  · rcases own with ⟨action, rfl⟩
    rcases exists_modify_of_act service world index action with ⟨change, submissions, kept⟩
    refine ⟨change submission, ?_, (kept submission).2.trans cancelled⟩
    rw [submissions, List.getElem?_modify_eq, found]
    rfl
  · rcases occur_withdrawn service (fun action same => own ⟨action, same⟩) found with
      ⟨after, foundAfter, withdrawn⟩
    exact ⟨after, foundAfter, withdrawn.cancelled_of cancelled⟩

theorem isCancelled_run {world : World σ} {index : Nat} (cancelled : world.IsCancelled index)
    (events : List Event) : (world.run service events).IsCancelled index :=
  run_invariant service (fun world => world.IsCancelled index)
    (fun _ event cancelled => isCancelled_occur service cancelled event) world events cancelled

theorem snapshot_occur_act_of_isCancelled {world : World σ} {index : Nat}
    (cancelled : world.IsCancelled index) (action : Action) :
    (world.occur service (.act index action)).snapshot = world.snapshot := by
  rcases cancelled with ⟨submission, found, cancelled⟩
  have transition := transition_act service world index action
  generalize world.occur service (.act index action) = next at transition ⊢
  cases transition with
  | idle => rfl
  | receiveCreate found' _ =>
      rcases Option.some.inj (found.symm.trans found') with rfl
      rw [receiveCreate_snapshot, if_pos cancelled]
  | askStatus _ _ _ _ => rfl
  | receiveStatus found' _ _ =>
      rcases Option.some.inj (found.symm.trans found') with rfl
      rw [receiveStatus_snapshot, if_pos cancelled]
  | leave _ _ _ => rfl

/-! ## Status calls -/

theorem statusCalls_push {world next : World σ} {index : Nat} {entry : Entry}
    (chronicle : next.chronicle = world.chronicle.push entry)
    (unrelated : entry.submission = some index → entry.exchange.asksStatus = false) :
    next.statusCalls index = world.statusCalls index := by
  have dropped : (entry.submission == some index && entry.exchange.asksStatus) = false := by
    simpa using unrelated
  simp [statusCalls, chronicle, List.filter_append, dropped]

theorem statusCalls_of_surroundings {before after : World σ} (same : before.SameSurroundings after)
    (index : Nat) : after.statusCalls index = before.statusCalls index := by
  rw [statusCalls, statusCalls, same.chronicle]

theorem statusCalls_occur {world : World σ} {index : Nat} {event : Event}
    (quiet : event ≠ .act index .askStatus) :
    (world.occur service event).statusCalls index = world.statusCalls index := by
  have transition := transition_occur service world event
  generalize world.occur service event = next at transition ⊢
  cases transition with
  | idle => rfl
  | receiveCreate _ _ =>
      exact statusCalls_push (receiveCreate_chronicle service world _ _) fun _ => rfl
  | @askStatus other _ _ _ _ _ _ _ =>
      apply statusCalls_push rfl
      intro same
      rcases Option.some.inj same with rfl
      exact absurd rfl quiet
  | receiveStatus _ _ _ =>
      exact statusCalls_push (receiveStatus_chronicle service world _ _ _ _) fun _ => rfl
  | leave _ _ _ => rfl
  | pass span => rfl
  | reject _ => rfl
  | accept _ _ => exact statusCalls_push (accept_chronicle world _) fun _ => rfl
  | halt => exact statusCalls_of_surroundings (halt_surroundings world) index
  | clear => exact statusCalls_of_surroundings (emptySlot_surroundings world) index
  | download jobId =>
      simp [statusCalls, download_chronicle, Exchange.asksStatus]
  | allow count => rfl
  | abandonCall other =>
      exact statusCalls_of_surroundings (abandonCall_surroundings world other) index
  | shut => exact statusCalls_of_surroundings (shut_surroundings world) index

/-- The submission has been cancelled, and its loop has no tick to react to. -/
def IsMuted (world : World σ) (index : Nat) : Prop :=
  ∃ submission, world.submissions[index]? = some submission ∧ submission.cancelled = true ∧
    submission.Rests world.now

theorem IsMuted.isCancelled {world : World σ} {index : Nat} (muted : world.IsMuted index) :
    world.IsCancelled index := by
  rcases muted with ⟨submission, found, cancelled, _⟩
  exact ⟨submission, found, cancelled⟩

theorem IsMuted.occur_askStatus {world : World σ} {index : Nat} (muted : world.IsMuted index) :
    world.occur service (.act index .askStatus) = world := by
  rcases muted with ⟨submission, found, _, rests⟩
  have transition := transition_act service world index .askStatus
  generalize world.occur service (.act index .askStatus) = next at transition ⊢
  cases transition with
  | idle _ => rfl
  | @askStatus _ _ pollLoop due found' started waiting reached =>
      rcases Option.some.inj (found.symm.trans found') with rfl
      exact absurd reached (Nat.not_le.mpr (rests pollLoop due started waiting))

theorem IsMuted.statusCalls_occur {world : World σ} {index : Nat} (muted : world.IsMuted index)
    (event : Event) : (world.occur service event).statusCalls index = world.statusCalls index := by
  by_cases asks : event = .act index .askStatus
  · rw [asks, muted.occur_askStatus service]
  · exact World.statusCalls_occur service asks

theorem IsMuted.occur {world : World σ} {index : Nat} (muted : world.IsMuted index) (event : Event)
    (prompt : (∃ span, event = .pass span) → world.Noticed) :
    (world.occur service event).IsMuted index := by
  rcases isCancelled_occur service muted.isCancelled event with ⟨after, foundAfter, cancelledAfter⟩
  refine ⟨after, foundAfter, cancelledAfter, ?_⟩
  rcases muted with ⟨submission, found, cancelled, rests⟩
  by_cases passes : ∃ span, event = .pass span
  · have noticed := prompt passes
    rcases passes with ⟨span, rfl⟩
    rcases Option.some.inj (found.symm.trans foundAfter) with rfl
    exact Submission.rests_of_not_polling
      (noticed submission (List.mem_of_getElem? found) cancelled) _
  · rw [occur_now service fun span same => passes ⟨span, same⟩]
    by_cases own : ∃ action, event = .act index action
    · rcases own with ⟨action, rfl⟩
      have transition := transition_act service world index action
      generalize world.occur service (.act index action) = next at transition foundAfter
      cases transition with
      | idle _ =>
          rcases Option.some.inj (found.symm.trans foundAfter) with rfl
          exact rests
      | receiveCreate _ _ =>
          rw [receiveCreate_submissions, List.getElem?_modify_eq, found] at foundAfter
          rcases Option.some.inj foundAfter with rfl
          intro pollLoop due started
          rw [(creation world.policy world.now _ submission).pollLoop cancelled] at started
          exact rests pollLoop due started
      | @askStatus _ _ pollLoop due found' started waiting reached =>
          rcases Option.some.inj (found.symm.trans found') with rfl
          exact absurd reached (Nat.not_le.mpr (rests pollLoop due started waiting))
      | receiveStatus found' _ _ =>
          rcases Option.some.inj (found.symm.trans found') with rfl
          rw [receiveStatus_submissions, List.getElem?_modify_eq, found, if_pos cancelled]
            at foundAfter
          rcases Option.some.inj foundAfter with rfl
          exact Submission.rests_of_finished world.now
      | leave _ _ _ =>
          have place := getElem?_update world index index (·.proceed .finished)
          rw [found] at place
          rcases Option.some.inj (foundAfter.symm.trans place) with rfl
          simpa using Submission.rests_of_finished world.now
    · rcases occur_withdrawn service (fun action same => own ⟨action, same⟩) found with
        ⟨other, foundOther, withdrawn⟩
      rcases Option.some.inj (foundAfter.symm.trans foundOther) with rfl
      exact rests.of_withdrawn withdrawn

/-- A muted submission stays so as long as nobody is late, and no status call is made for it. -/
theorem IsMuted.run {world : World σ} {index : Nat} (muted : world.IsMuted index)
    {events : List Event} (prompt : world.Prompt service events) :
    (world.run service events).IsMuted index ∧
      (world.run service events).statusCalls index = world.statusCalls index := by
  induction events generalizing world with
  | nil => exact ⟨muted, rfl⟩
  | cons event events ih =>
      rcases ih (muted.occur service event prompt.1) prompt.2 with ⟨mutedLast, calls⟩
      exact ⟨mutedLast, calls.trans (muted.statusCalls_occur service event)⟩

/-! ## How a submission is cancelled -/

theorem isCancelled_of_abandoned {world : World σ} (coherent : world.Coherent) {index : Nat}
    {submission : Submission} (found : world.submissions[index]? = some submission)
    (creating : submission.stage.isCreating = true) :
    (world.abandonCall index).IsCancelled index := by
  cases held : submission.cancelled with
  | true =>
      rcases abandonCall_withdrawn index found with ⟨after, foundAfter, withdrawn, _⟩
      exact ⟨after, foundAfter, withdrawn.cancelled_of held⟩
  | false =>
      have told := (coherent.told index submission found held).creating creating
      have given := world.abandonment index
      generalize world.abandonCall index = next at given ⊢
      cases given with
      | settled ended =>
          have pending := ended submission found
          cases stage : submission.stage <;>
            simp [stage, Stage.isCreating, Stage.isPending] at creating pending
      | late found' _ taken =>
          rcases Option.some.inj (found.symm.trans found') with rfl
          simp [held, told.1] at taken
      | inCharge _ _ _ _ =>
          refine ⟨{ submission with stage := .abandoned, cancelled := true }, ?_, rfl⟩
          simp [publish, cancel, getElem?_update, found]
      | firstPoll found' _ created =>
          rcases Option.some.inj (found.symm.trans found') with rfl
          simp [created] at creating

theorem isCancelled_of_revokes {world : World σ} (coherent : world.Coherent) {index : Nat}
    {submission : Submission} (found : world.submissions[index]? = some submission)
    {event : Event} (revokes : world.Revokes index event) :
    (world.occur service event).IsCancelled index := by
  have foreign : ∀ action, event ≠ .act index action := by
    rintro action rfl
    exact revokes
  rcases occur_withdrawn service foreign found with ⟨after, foundAfter, _⟩
  cases event with
  | stopPolling =>
      exact ⟨after, foundAfter, coherent.cancelled_emptySlot (by simpa [occur] using foundAfter)⟩
  | reset => exact ⟨after, foundAfter, coherent.cancelled_emptySlot foundAfter⟩
  | close =>
      exact ⟨after, foundAfter, (coherent.foldl_abandonCall _).cancelled_emptySlot foundAfter⟩
  | submit request =>
      rcases revokes with ⟨next, claimed⟩
      rcases claim_ok_iff.mp claimed with ⟨payload, _, _, rfl⟩
      have accepted : world.occur service (.submit request) = world.accept payload := by
        simp [occur, claimed]
      simp only [accepted] at foundAfter ⊢
      rcases getElem?_accept foundAfter with earlier | ⟨beyond, _⟩
      · exact ⟨after, foundAfter, coherent.cancelled_emptySlot earlier⟩
      · have bound := (List.getElem?_eq_some_iff.mp found).1
        omega
  | abandon other =>
      rcases revokes with ⟨rfl, creating⟩
      exact isCancelled_of_abandoned coherent found (creating submission found)
  | act other action => exact absurd revokes id
  | pass span => exact absurd revokes id
  | download jobId => exact absurd revokes id
  | permit count => exact absurd revokes id

theorem deliberate_of_revokes {world : World σ} {index : Nat} {event : Event}
    (revokes : world.Revokes index event) : event.isSpontaneous = false := by
  cases event with
  | act other action => exact absurd revokes id
  | pass span => exact absurd revokes id
  | _ => rfl

/-- A submission that rests while it is cancelled is muted from then on. -/
theorem isMuted_of_isCancelled {world : World σ} {index : Nat} {submission : Submission}
    (found : world.submissions[index]? = some submission) (rests : submission.Rests world.now)
    {event : Event} (deliberate : event.isSpontaneous = false)
    (cancelled : (world.occur service event).IsCancelled index) :
    (world.occur service event).IsMuted index ∧
      (world.occur service event).statusCalls index = world.statusCalls index := by
  rcases cancelled with ⟨after, foundAfter, cancelled⟩
  have foreign : ∀ action, event ≠ .act index action := by
    rintro action rfl
    cases deliberate
  have still : ∀ span, event ≠ .pass span := by
    rintro span rfl
    cases deliberate
  rcases occur_withdrawn service foreign found with ⟨other, foundOther, withdrawn⟩
  rcases Option.some.inj (foundAfter.symm.trans foundOther) with rfl
  refine ⟨⟨after, foundAfter, cancelled, ?_⟩, statusCalls_occur service (foreign .askStatus)⟩
  rw [occur_now service still]
  exact rests.of_withdrawn withdrawn

/-! ## A controller that has let go -/

/-- Everything has been cancelled, and the controller does not claim to wait for a job. -/
structure LetGo (world : World σ) : Prop where
  cancelled : ∀ index < world.submissions.length, world.IsCancelled index
  free : world.snapshot.phase ≠ .submitting

theorem letGo_emptySlot {world next : World σ} (coherent : world.Coherent)
    (submissions : next.submissions = world.emptySlot.submissions)
    (free : next.snapshot.phase ≠ .submitting) : next.LetGo where
  cancelled := by
    intro index bound
    rw [submissions] at bound
    have found := List.getElem?_eq_getElem bound
    refine ⟨_, ?_, coherent.cancelled_emptySlot found⟩
    rw [submissions, found]
  free := free

theorem letGo_of_stopped {world : World σ} (coherent : world.Coherent) {event : Event}
    (stops : event = .stopPolling ∨ event = .reset) : (world.occur service event).LetGo := by
  rcases stops with rfl | rfl
  · apply letGo_emptySlot coherent (halt_submissions world)
    simp only [halt_snapshot]
    split
    · simp [Snapshot.initial]
    · assumption
  · exact letGo_emptySlot coherent rfl (by simp [occur, clear, publish, Snapshot.initial])

/-- As long as nobody takes the controller again, only a download changes the snapshot. -/
theorem LetGo.snapshot_occur {world : World σ} (letGo : world.LetGo) {event : Event}
    (undisturbed : ¬world.HandsOver event) (still : ∀ jobId, event ≠ .download jobId) :
    (world.occur service event).snapshot = world.snapshot := by
  cases event with
  | act index action =>
      cases found : world.submissions[index]? with
      | none => simp [occur, found]
      | some submission =>
          have bound := (List.getElem?_eq_some_iff.mp found).1
          exact snapshot_occur_act_of_isCancelled service (letGo.cancelled index bound) action
  | pass span => rfl
  | submit request =>
      cases claimed : world.claim request with
      | error error => simp [occur, claimed]
      | ok next => exact absurd ⟨next, claimed⟩ undisturbed
  | stopPolling => exact absurd trivial undisturbed
  | reset => exact absurd trivial undisturbed
  | download jobId => exact absurd rfl (still jobId)
  | permit count => rfl
  | abandon index => exact abandonCall_snapshot_of_ne letGo.free index
  | close => exact shut_snapshot_of_ne letGo.free

theorem LetGo.occur_eq {world : World σ} (letGo : world.LetGo) {event : Event}
    (undisturbed : ¬world.HandsOver event) :
    ∃ error lastDownload, (world.occur service event).snapshot =
      { world.snapshot with error := error, lastDownload := lastDownload } := by
  by_cases downloads : ∃ jobId, event = .download jobId
  · rcases downloads with ⟨jobId, rfl⟩
    exact download_snapshot service world jobId
  · exact ⟨_, _, letGo.snapshot_occur service undisturbed fun jobId same => downloads ⟨jobId, same⟩⟩

theorem LetGo.occur {world : World σ} (letGo : world.LetGo) {event : Event}
    (undisturbed : ¬world.HandsOver event) : (world.occur service event).LetGo where
  cancelled := by
    intro index bound
    apply isCancelled_occur
    apply letGo.cancelled
    rcases length_occur_or_accepted service world event with
      length | ⟨payload, _, request, rfl, claimed⟩
    · omega
    · exact absurd ⟨_, claimed⟩ undisturbed
  free := by
    rcases letGo.occur_eq service undisturbed with ⟨error, lastDownload, snapshot⟩
    rw [snapshot]
    exact letGo.free

theorem LetGo.run {world : World σ} (letGo : world.LetGo) {events : List Event}
    (undisturbed : world.Undisturbed service events) :
    (world.run service events).LetGo ∧
      ∃ error lastDownload, (world.run service events).snapshot =
        { world.snapshot with error := error, lastDownload := lastDownload } := by
  induction events generalizing world with
  | nil => exact ⟨letGo, _, _, rfl⟩
  | cons event events ih =>
      rcases letGo.occur_eq service undisturbed.1 with ⟨_, _, snapshot⟩
      rcases ih (letGo.occur service undisturbed.1) undisturbed.2 with
        ⟨letGoLast, error, lastDownload, last⟩
      refine ⟨letGoLast, error, lastDownload, ?_⟩
      rw [run_cons, last, snapshot]

/-! ## Cancellations in a session -/

/-- What happens of its own accord cancels nothing. -/
theorem isCancelled_of_occur {world : World σ} {index : Nat} {event : Event}
    (spontaneous : event.isSpontaneous = true)
    (cancelled : (world.occur service event).IsCancelled index) : world.IsCancelled index := by
  cases event with
  | act other action =>
      rcases cancelled with ⟨after, found, cancelled⟩
      rcases exists_modify_of_act service world other action with ⟨change, submissions, kept⟩
      rw [submissions, List.getElem?_modify] at found
      rcases Option.map_eq_some_iff.mp found with ⟨before, foundBefore, rfl⟩
      refine ⟨before, foundBefore, ?_⟩
      split at cancelled
      · exact (kept before).2.symm.trans cancelled
      · exact cancelled
  | pass span => exact cancelled
  | _ => cases spontaneous

theorem Drifts.isCancelled {world next : World σ} (drifts : world.Drifts service next)
    {index : Nat} (cancelled : next.IsCancelled index) : world.IsCancelled index := by
  rcases drifts with ⟨events, rfl, prompt, spontaneous⟩
  induction events generalizing world with
  | nil => exact cancelled
  | cons event events ih =>
      have first := spontaneous event List.mem_cons_self
      have rest : ∀ event ∈ events, event.isSpontaneous = true :=
        fun event listed => spontaneous event (List.mem_cons_of_mem _ listed)
      exact isCancelled_of_occur service first (ih cancelled prompt.2 rest)

/-- A submission that a step of a session cancels is muted after it, and no status call was made for
it in the meantime. -/
theorem Evolves.isMuted {world next : World σ} (evolves : world.Evolves service next)
    (rest : world.AtRest) {index : Nat} {submission : Submission}
    (found : world.submissions[index]? = some submission) (held : submission.cancelled = false)
    (cancelled : next.IsCancelled index) :
    next.IsMuted index ∧ next.statusCalls index = world.statusCalls index := by
  rcases evolves with ⟨caused, deliberate, drifts⟩
  have cancelledFirst := drifts.isCancelled service cancelled
  cases caused with
  | none =>
      rcases cancelledFirst with ⟨other, foundOther, cancelled⟩
      rcases Option.some.inj (found.symm.trans foundOther) with rfl
      simp [held] at cancelled
  | some event =>
      have rests := Submission.rests_of_action? (rest.coherent.loopless index submission found)
        (rest.settled submission (List.mem_of_getElem? found))
      have first := isMuted_of_isCancelled service found rests (deliberate event rfl) cancelledFirst
      rcases drifts with ⟨events, rfl, prompt, _⟩
      have last := first.1.run service prompt
      exact ⟨last.1, last.2.trans first.2⟩

/-! ## Main result -/

variable (policy : Policy) (createDelay : Nat) (gate : Option Nat) (state : σ)

/-- Nothing lands after a cancellation. An event that takes the controller away from a submission
cancels it, and however the run goes on, nothing that this submission does of its own accord changes
the snapshot: not the answer to its create call, and no answer about its job. If its loop was
resting at that moment, and nobody is late to notice, then no status call is made for it any more;
in a session nobody ever is. And once polling has been stopped or the controller has been reset,
until the next request is accepted, polling is stopped or the controller is reset again, the
snapshot changes only in the error and the last download, and only by downloads. -/
theorem nothing_lands_after_cancellation :
    let initial := start policy createDelay gate state
    (∀ (history : List Event) (index : Nat) (submission : Submission) (event : Event),
      let world := initial.run service history
      world.submissions[index]? = some submission → world.Revokes index event →
        let revoked := world.occur service event
        revoked.IsCancelled index ∧ ∀ events : List Event,
          (∀ action, (revoked.run service (events ++ [.act index action])).snapshot =
            (revoked.run service events).snapshot) ∧
          (submission.Rests world.now → revoked.Prompt service events →
            (revoked.run service events).statusCalls index = world.statusCalls index)) ∧
    (∀ (steps rest : List Step) (step : Step) (index : Nat) (submission : Submission),
      let session := (Session.start initial).after service steps
      session.world.submissions[index]? = some submission → submission.cancelled = false →
        (session.after service [step]).world.IsCancelled index →
          (session.after service (step :: rest)).world.statusCalls index =
            session.world.statusCalls index) ∧
    (∀ (history events : List Event) (event : Event), event = .stopPolling ∨ event = .reset →
      let stopped := (initial.run service history).occur service event
      stopped.Undisturbed service events →
        (∃ error lastDownload, (stopped.run service events).snapshot =
          { stopped.snapshot with error := error, lastDownload := lastDownload }) ∧
        ∀ next, ¬(stopped.run service events).HandsOver next →
          (∀ jobId, next ≠ .download jobId) →
            (stopped.run service (events ++ [next])).snapshot =
              (stopped.run service events).snapshot) := by
  intro initial
  refine ⟨?_, ?_, ?_⟩
  · intro history index submission event world found revokes revoked
    have coherent : world.Coherent := coherent_run service policy createDelay gate state history
    have cancelled : revoked.IsCancelled index :=
      isCancelled_of_revokes service coherent found revokes
    refine ⟨cancelled, ?_⟩
    intro events
    constructor
    · intro action
      have still := isCancelled_run service cancelled events
      rw [run_append]
      exact snapshot_occur_act_of_isCancelled service still action
    · intro rests prompt
      have deliberate := deliberate_of_revokes revokes
      have muted := isMuted_of_isCancelled service found rests deliberate cancelled
      exact (muted.1.run service prompt).2.trans muted.2
  · intro steps rest step index submission session found held cancelled
    have atRest : session.world.AtRest :=
      (Session.after_spec service (Session.atRest_start policy createDelay gate state) steps).1
    have taken := Session.perform_spec service atRest step
    have muted := taken.2.isMuted service atRest found held cancelled
    rcases (Session.after_spec service taken.1 rest).2 with ⟨events, last, prompt⟩
    have calls := (muted.1.run service prompt).2
    rw [← last] at calls
    exact calls.trans muted.2
  · intro history events event stops stopped undisturbed
    have coherent := coherent_run service policy createDelay gate state history
    have letGo : stopped.LetGo := letGo_of_stopped service coherent stops
    have reached := letGo.run service undisturbed
    refine ⟨reached.2, ?_⟩
    intro next undisturbed still
    rw [run_append]
    exact reached.1.snapshot_occur service undisturbed still

/-- Polling is stopped while the service still owes an answer about the first job, and in a session
while the loop waits for its second tick. -/
theorem nothing_lands_after_stopping :
    let initial := start ⟨5000, none⟩ 0 none sampleScript
    let asked := initial.run Script.service
      [.submit sampleRequest, .act 0 .receiveCreate, .act 0 .askStatus]
    let stopped := asked.occur Script.service .stopPolling
    let finished :=
      stopped.run Script.service [.act 0 .receiveStatus, .pass 5000, .act 0 .askStatus]
    let session := (Session.start initial).after Script.service [.submit sampleRequest]
    (stopped.run Script.service [.act 0 .receiveStatus]).snapshot = stopped.snapshot ∧
      finished.statusCalls 0 = asked.statusCalls 0 ∧ (asked.statusCalls 0).length = 1 ∧
      (session.after Script.service [.stopPolling, .advance 5000]).world.statusCalls 0 =
        session.world.statusCalls 0 ∧
      (stopped.run Script.service [.download "first", .act 0 .receiveStatus]).snapshot =
        (stopped.run Script.service [.download "first"]).snapshot := by
  intro initial asked stopped finished session
  have main := nothing_lands_after_cancellation Script.service ⟨5000, none⟩ 0 none sampleScript
  have revoked := main.1 [.submit sampleRequest, .act 0 .receiveCreate, .act 0 .askStatus] 0 _
    .stopPolling rfl trivial
  have rests : ∀ pollLoop due, asked.submissions[0]?.bind Submission.pollLoop = some pollLoop →
      pollLoop.state = .waiting due → asked.now < due := by
    intro pollLoop due started waiting
    rcases Option.some.inj started with rfl
    cases waiting
  have noticed : (stopped.occur Script.service (.act 0 .receiveStatus)).Noticed := by
    intro submission listed _
    rcases List.mem_singleton.mp listed with rfl
    rfl
  have prompt : stopped.Prompt Script.service
      [.act 0 .receiveStatus, .pass 5000, .act 0 .askStatus] :=
    ⟨by simp, fun _ => noticed, by simp, trivial⟩
  have quiet := main.2.1 [.submit sampleRequest] [.advance 5000] .stopPolling 0 _ rfl rfl
    ⟨_, rfl, rfl⟩
  have letGo := main.2.2 [.submit sampleRequest, .act 0 .receiveCreate, .act 0 .askStatus]
    [.download "first"] .stopPolling (Or.inl rfl) ⟨id, trivial⟩
  exact ⟨(revoked.2 []).1 .receiveStatus, (revoked.2 _).2 rests prompt, rfl, quiet,
    letGo.2 (.act 0 .receiveStatus) id (fun _ same => World.Event.noConfusion same)⟩

end World

end AuditReports
