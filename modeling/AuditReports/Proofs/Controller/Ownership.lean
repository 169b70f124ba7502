import AuditReports.Proofs.Controller.Coherence

/-!
# Who is in charge

The main results on the ownership of a controller, for every state that any run reaches. There is a
single owner: at most one live submission has not been cancelled, its loop is the one that `polls`
reports, and the snapshot names its job and the address of its request. And the controller is never
stuck: the phase is `submitting` exactly while a submission in charge waits for its job, so a valid
request is turned away only then.
-/

namespace AuditReports

namespace ReportService

variable {σ : Type}

/-- Every status answer is about the job that was asked for. -/
def AnswersAsAsked (service : ReportService σ) : Prop :=
  ∀ jobId state job, (service.status jobId state).1 = .ok job → job.id = jobId

end ReportService

theorem Script.service_answersAsAsked : Script.service.AnswersAsAsked := by
  intro jobId script job answered
  simp only [Script.service] at answered
  cases answer : (Script.take "status" script.statuses).1 with
  | error error => simp [answer, Except.map] at answered
  | ok told =>
      simp only [answer, Except.map, Except.ok.injEq] at answered
      rw [← answered]

theorem ReportRequest.address_of_check {request : ReportRequest} {payload : Payload}
    (valid : request.check = .ok payload) : payload.address = Text.trim request.address := by
  simp only [check] at valid
  split at valid
  · cases valid
  split at valid
  · cases valid
  split at valid
  · cases valid
  cases visits : request.visitIds with
  | error rejection => simp [visits, Except.map] at valid
  | ok visitIds =>
      simp only [visits, Except.map, Except.ok.injEq] at valid
      rw [← valid]
      rfl

/-- The job that a snapshot shows is the one that it names. -/
def Snapshot.ShowsNamedJob (snapshot : Snapshot) : Prop :=
  ∀ job, snapshot.job = some job → snapshot.jobId = some job.id

theorem Snapshot.showsNamedJob_of_none {snapshot : Snapshot} (nothing : snapshot.job = none) :
    snapshot.ShowsNamedJob := by
  intro job shown
  simp [nothing] at shown

namespace World

variable {σ : Type} (service : ReportService σ)

/-! ## The job that is shown -/

theorem showsNamedJob_receiveCreate {world : World σ} (coherent : world.Coherent)
    (named : world.snapshot.ShowsNamedJob) {index : Nat} {submission : Submission}
    (found : world.submissions[index]? = some submission)
    (creating : submission.stage.isCreating = true) :
    (world.receiveCreate service index submission).snapshot.ShowsNamedJob := by
  rw [receiveCreate_snapshot]
  split
  · exact named
  · rename_i held
    have told := (coherent.told index submission found (by simpa using held)).creating creating
    apply Snapshot.showsNamedJob_of_none
    cases (service.create submission.payload world.service).1 with
    | error error => rfl
    | ok jobId => exact told.2.2

theorem showsNamedJob_receiveStatus (faithful : service.AnswersAsAsked) {world : World σ}
    (coherent : world.Coherent) (named : world.snapshot.ShowsNamedJob) {index next : Nat}
    {submission : Submission} {pollLoop : PollLoop}
    (found : world.submissions[index]? = some submission)
    (started : submission.pollLoop = some pollLoop) (asking : pollLoop.state = .asking next) :
    (world.receiveStatus service index submission pollLoop next).snapshot.ShowsNamedJob := by
  rw [receiveStatus_snapshot]
  split
  · exact named
  · rename_i held
    have running : pollLoop.isFinished = false := by simp [PollLoop.isFinished, asking]
    have told := (coherent.told index submission found (by simpa using held)).polling pollLoop
      started running
    have receipt := world.receipt pollLoop.deadline (service.status pollLoop.jobId world.service).1
    intro job shown
    rw [receipt.jobId]
    cases answer : (service.status pollLoop.jobId world.service).1 with
    | error error =>
        rw [answer] at shown
        exact named job shown
    | ok answered =>
        rw [answer] at receipt shown
        rcases Option.some.inj (receipt.job.symm.trans shown) with rfl
        rw [told.2.1, faithful pollLoop.jobId world.service _ answer]

theorem showsNamedJob_occur (faithful : service.AnswersAsAsked) {world : World σ}
    (coherent : world.Coherent) (named : world.snapshot.ShowsNamedJob) (event : Event) :
    (world.occur service event).snapshot.ShowsNamedJob := by
  have transition := transition_occur service world event
  generalize world.occur service event = next at transition ⊢
  cases transition with
  | idle => exact named
  | receiveCreate found creating =>
      exact showsNamedJob_receiveCreate service coherent named found creating
  | askStatus _ _ _ _ => exact named
  | receiveStatus found started asking =>
      exact showsNamedJob_receiveStatus service faithful coherent named found started asking
  | leave _ _ _ => exact named
  | pass span => exact named
  | reject _ => exact named
  | accept _ _ => exact Snapshot.showsNamedJob_of_none rfl
  | halt =>
      rw [halt_snapshot]
      split
      · exact Snapshot.showsNamedJob_of_none rfl
      · exact named
  | clear => exact Snapshot.showsNamedJob_of_none rfl
  | download jobId =>
      rcases download_snapshot service world jobId with ⟨error, lastDownload, snapshot⟩
      rw [snapshot]
      exact named
  | allow count => exact named
  | abandonCall index =>
      rcases world.abandonCall_snapshot index with same | emptied
      · rw [same]
        exact named
      · exact Snapshot.showsNamedJob_of_none (by rw [emptied]; rfl)
  | shut =>
      rcases world.shut_snapshot with same | emptied
      · rw [same]
        exact named
      · exact Snapshot.showsNamedJob_of_none (by rw [emptied]; rfl)

/-! ## The requests behind the submissions -/

/-- The request that an event gets accepted, if it does. -/
def accepts (world : World σ) : Event → List ReportRequest
  | .submit request =>
      match world.claim request with
      | .error _ => []
      | .ok _ => [request]
  | _ => []

/-- The requests that were accepted during a run, in their order. -/
def accepted (world : World σ) : List Event → List ReportRequest
  | [] => []
  | event :: events => world.accepts event ++ accepted (world.occur service event) events

/-- The payloads of the submissions, as the results of checks. -/
def checks (world : World σ) : List (Except Rejection Payload) :=
  world.submissions.map fun submission => .ok submission.payload

theorem checks_update (world : World σ) (index : Nat) {change : Submission → Submission}
    (kept : ∀ submission, (change submission).payload = submission.payload) :
    (world.update index change).checks = world.checks := by
  apply List.ext_getElem?
  intro other
  simp only [checks, List.getElem?_map, getElem?_update, Option.map_map]
  congr 1
  funext submission
  simp only [Function.comp]
  split
  · rw [kept]
  · rfl

theorem checks_emptySlot (world : World σ) : world.emptySlot.checks = world.checks := by
  simp only [emptySlot]
  split
  · rfl
  · exact checks_update world _ fun _ => rfl

theorem checks_abandonCall (world : World σ) (index : Nat) :
    (world.abandonCall index).checks = world.checks := by
  have given := world.abandonment index
  generalize world.abandonCall index = next at given ⊢
  cases given with
  | settled _ => rfl
  | late _ _ _ => exact checks_update world index fun _ => rfl
  | inCharge _ _ _ _ =>
      change ((world.update index _).update index _).checks = world.checks
      rw [checks_update, checks_update]
      · exact fun _ => rfl
      · exact fun _ => rfl
  | firstPoll _ _ _ => exact checks_update world index fun _ => rfl

theorem checks_accept (world : World σ) (payload : Payload) :
    (world.accept payload).checks = world.checks ++ [.ok payload] := by
  rw [← checks_emptySlot world]
  change (world.emptySlot.submissions ++ [_]).map _ = _
  rw [List.map_append]
  rfl

theorem checks_occur_act (world : World σ) (index : Nat) (action : Action) :
    (world.occur service (.act index action)).checks = world.checks := by
  rcases exists_modify_of_act service world index action with ⟨change, submissions, kept⟩
  rw [checks, submissions]
  exact checks_update world index fun submission => (kept submission).1

/-- A submission is made for a request that is accepted, and for nothing else. -/
theorem checks_occur (world : World σ) (event : Event) :
    (world.occur service event).checks =
      world.checks ++ (world.accepts event).map ReportRequest.check := by
  cases event with
  | act index action => simpa [accepts] using checks_occur_act service world index action
  | pass span => simp [accepts, occur, checks]
  | submit request =>
      simp only [occur, accepts]
      cases claimed : world.claim request with
      | error error => simp
      | ok next =>
          rcases claim_ok_iff.mp claimed with ⟨payload, valid, _, rfl⟩
          simp [checks_accept, valid]
  | stopPolling => simpa [accepts, occur, checks] using checks_emptySlot world
  | reset =>
      simp only [accepts, occur, List.map_nil, List.append_nil]
      exact checks_emptySlot world
  | download jobId => simp [accepts, occur, checks]
  | permit count => simp [accepts, occur, checks, allow]
  | abandon index => simpa [accepts, occur] using checks_abandonCall world index
  | close =>
      simp only [accepts, occur, shut, checks_emptySlot, List.map_nil, List.append_nil]
      exact foldl_abandonCall_eq checks checks_abandonCall world _

theorem checks_run (world : World σ) (events : List Event) :
    (world.run service events).checks =
      world.checks ++ (world.accepted service events).map ReportRequest.check := by
  induction events generalizing world with
  | nil => simp [accepted]
  | cons event events ih =>
      rw [run_cons, ih, checks_occur, accepted, List.map_append, List.append_assoc]

/-! ## Main results -/

section Main

variable (policy : Policy) (createDelay : Nat) (gate : Option Nat) (state : σ)

theorem coherent_run (events : List Event) :
    ((start policy createDelay gate state).run service events).Coherent :=
  (coherent_start policy createDelay gate state).run service events

theorem showsNamedJob_run (faithful : service.AnswersAsAsked) (events : List Event) :
    ((start policy createDelay gate state).run service events).snapshot.ShowsNamedJob := by
  refine (run_invariant service (fun world => world.Coherent ∧ world.snapshot.ShowsNamedJob) ?_ _
    events ?_).2
  · rintro world event ⟨coherent, named⟩
    exact ⟨coherent.occur service event,
      showsNamedJob_occur service faithful coherent named event⟩
  · exact ⟨coherent_start policy createDelay gate state, Snapshot.showsNamedJob_of_none rfl⟩

/-- Every submission was made for a request that was accepted during the run. -/
theorem exists_request_of_submission {events : List Event} {index : Nat} {submission : Submission}
    (found : ((start policy createDelay gate state).run service events).submissions[index]? =
      some submission) :
    ∃ request, ((start policy createDelay gate state).accepted service events)[index]? =
        some request ∧ request.check = .ok submission.payload := by
  have checks := checks_run service (start policy createDelay gate state) events
  rw [show (start policy createDelay gate state).checks = [] from rfl, List.nil_append] at checks
  have place := congrArg (·[index]?) checks
  simp only [World.checks, List.getElem?_map, found, Option.map_some] at place
  rcases Option.map_eq_some_iff.mp place.symm with ⟨request, accepted, valid⟩
  exact ⟨request, accepted, valid⟩

/-- A controller has a single owner, in whatever order things happen. Of all submissions that wait
for their job or have a loop that has not ended, at most one has not been cancelled. If its loop is
running, then it is in the slot, and the snapshot is in the phase `polling` with the job that the
loop polls and with the trimmed address of the request that the submission was made for. The
controller polls exactly when there is such a loop. And a job that is shown is the one that is
named, provided that the service answers as it is asked. -/
theorem single_owner (events : List Event) :
    let initial := start policy createDelay gate state
    let world := initial.run service events
    (∀ (first second : Nat) (left right : Submission),
      world.submissions[first]? = some left → world.submissions[second]? = some right →
        left.isLive = true → right.isLive = true →
          left.cancelled = false → right.cancelled = false → first = second) ∧
    (∀ (index : Nat) (submission : Submission) (pollLoop : PollLoop),
      world.submissions[index]? = some submission → submission.pollLoop = some pollLoop →
        pollLoop.isFinished = false → submission.cancelled = false →
          world.slot = some index ∧ world.snapshot.phase = .polling ∧
            world.snapshot.jobId = some pollLoop.jobId ∧
            ∃ request, (initial.accepted service events)[index]? = some request ∧
              world.snapshot.address = some (Text.trim request.address)) ∧
    (world.polls = true ↔
      ∃ (index : Nat) (submission : Submission) (pollLoop : PollLoop),
        world.submissions[index]? = some submission ∧ submission.pollLoop = some pollLoop ∧
          pollLoop.isFinished = false ∧ submission.cancelled = false) ∧
    (service.AnswersAsAsked →
      ∀ job, world.snapshot.job = some job → world.snapshot.jobId = some job.id) := by
  intro initial world
  have coherent : world.Coherent := coherent_run service policy createDelay gate state events
  refine ⟨?_, ?_, ?_, ?_⟩
  · intro first second left right foundLeft foundRight _ _ heldLeft heldRight
    exact coherent.eq_of_uncancelled foundLeft foundRight heldLeft heldRight
  · intro index submission pollLoop found started running held
    have told := (coherent.told index submission found held).polling pollLoop started running
    rcases exists_request_of_submission service policy createDelay gate state found with
      ⟨request, accepted, valid⟩
    refine ⟨coherent.owner index submission found held, told.1, told.2.1, request, accepted, ?_⟩
    rw [told.2.2, ReportRequest.address_of_check valid]
  · rw [coherent.polls_iff]
    constructor
    · rintro ⟨index, submission, found, polling, held⟩
      rcases (Option.any_eq_true _ _).mp polling with ⟨pollLoop, started, running⟩
      exact ⟨index, submission, pollLoop, found, started, by simpa using running, held⟩
    · rintro ⟨index, submission, pollLoop, found, started, running, held⟩
      exact ⟨index, submission, found, by simp [Submission.isPolling, started, running], held⟩
  · intro faithful
    exact showsNamedJob_run service policy createDelay gate state faithful events

def sampleScript : Script where
  creates := [.ok "first", .ok "second"]
  statuses := [.ok (Job.bare "" .queued)]
  downloads := []

def sampleRequest : ReportRequest where
  address := " 1 Main St "
  locationId := none
  cover := ⟨"Acme", "1 Main St", "Springfield", "IL", "62701", "Dana", "dana@acme.example"⟩
  notes := none
  recommendations := none
  deficiencyOnly := false
  visits := .all

/-- The create call of a submission that was cancelled is answered while the next one waits. -/
def lateAnswer : List Event :=
  [.submit sampleRequest, .stopPolling, .submit sampleRequest, .act 0 .receiveCreate,
    .act 1 .receiveCreate, .act 1 .askStatus, .act 1 .receiveStatus]

/-- The job of the second submission is shown, whatever became of the first one. -/
theorem single_owner_of_lateAnswer :
    let world := (start ⟨5000, none⟩ 0 none sampleScript).run Script.service lateAnswer
    Script.service.AnswersAsAsked ∧ world.polls = true ∧
      world.snapshot.jobId = some "second" ∧
      ∃ job, world.snapshot.job = some job ∧ world.snapshot.jobId = some job.id :=
  ⟨Script.service_answersAsAsked, rfl, rfl, _, rfl,
    (single_owner Script.service ⟨5000, none⟩ 0 none sampleScript lateAnswer).2.2.2
      Script.service_answersAsAsked _ rfl⟩

/-- A controller is never stuck in the phase `submitting`. The phase is that one exactly while a
single submission waits for its job without having been cancelled; a valid request is turned away
exactly when there is such a submission, and once every create call has been answered, cancelled or
given up, the next valid request is accepted. -/
theorem never_stuck_submitting (events : List Event) :
    let world := (start policy createDelay gate state).run service events
    let waits := fun index : Nat => ∃ submission, world.submissions[index]? = some submission ∧
      submission.stage.isCreating = true ∧ submission.cancelled = false
    (world.snapshot.phase = .submitting ↔ ∃! index, waits index) ∧
    (∀ (request : ReportRequest) (payload : Payload), request.check = .ok payload →
      (world.submit service request = .error .alreadySubmitting ↔ ∃ index, waits index) ∧
      ((∀ (index : Nat) (submission : Submission), world.submissions[index]? = some submission →
          submission.stage.isCreating = false ∨ submission.cancelled = true) →
        world.submit service request = .ok (settle service (world.accept payload)))) := by
  intro world waits
  have coherent : world.Coherent := coherent_run service policy createDelay gate state events
  have submitting_iff : world.snapshot.phase = .submitting ↔ ∃! index, waits index :=
    coherent.submitting_iff
  refine ⟨submitting_iff, ?_⟩
  intro request payload valid
  have submit : world.submit service request =
      if world.snapshot.phase = .submitting then .error .alreadySubmitting
      else .ok (settle service (world.accept payload)) := by
    simp only [World.submit, claim, valid, beq_iff_eq]
    split <;> rfl
  constructor
  · simp only [submit]
    constructor
    · intro refused
      split at refused
      · rename_i submitting
        exact (submitting_iff.mp submitting).exists
      · cases refused
    · rintro ⟨index, submission, found, creating, held⟩
      have told := (coherent.told index submission found held).creating creating
      rw [if_pos told.1]
  · intro allDone
    rw [submit, if_neg]
    intro submitting
    rcases coherent.pending submitting with ⟨index, submission, found, creating, held⟩
    rcases allDone index submission found with created | cancelled
    · simp [created] at creating
    · simp [cancelled] at held

end Main

/-- While the second submission waits for its job a third one is turned away; once it has its job,
the next one is accepted. -/
theorem never_stuck_of_lateAnswer :
    (∃ payload, sampleRequest.check = .ok payload) ∧
    (((start ⟨5000, none⟩ 0 none sampleScript).run Script.service (lateAnswer.take 4)).submit
      Script.service sampleRequest = .error .alreadySubmitting) ∧
    ∃ next, ((start ⟨5000, none⟩ 0 none sampleScript).run Script.service lateAnswer).submit
      Script.service sampleRequest = .ok next := by
  have valid : sampleRequest.check = .ok (sampleRequest.payload none) := rfl
  have during := never_stuck_submitting Script.service ⟨5000, none⟩ 0 none sampleScript
    (lateAnswer.take 4)
  have after := never_stuck_submitting Script.service ⟨5000, none⟩ 0 none sampleScript lateAnswer
  refine ⟨⟨_, valid⟩, (during.2 _ _ valid).1.mpr ⟨1, _, rfl, rfl, rfl⟩, _,
    (after.2 _ _ valid).2 ?_⟩
  intro index submission found
  match index with
  | 0 => exact Or.inr (Option.some.inj found ▸ rfl)
  | 1 => exact Or.inl (Option.some.inj found ▸ rfl)
  | later + 2 =>
      have bound := (List.getElem?_eq_some_iff.mp found).1
      exact absurd bound (Nat.not_lt.mpr (Nat.le_add_left 2 later))

end World

end AuditReports
