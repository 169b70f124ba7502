import AuditReports.Proofs.Controller.Event

/-!
# What the parts of a step do

Every step is put together from a few parts: a submission is changed, the slot is emptied, a
snapshot is published, an answer is folded into the snapshot, a call is given up. For each part this
module says what it changes and what it leaves alone, so that later proofs need not open it again.
-/

namespace AuditReports

namespace Snapshot

/-- What an answer about a job makes of a snapshot, and whether polling goes on. -/
inductive Reading (snapshot : Snapshot) (job : Job) : Snapshot → Verdict → Prop where
  | failed (status : job.status = .failed) :
      Reading snapshot job (snapshot.jobFailed job) .stop
  | ready (status : job.status = .completed) (downloadReady : job.downloadReady = true) :
      Reading snapshot job (snapshot.jobReady job) .stop
  | progress (status : job.status ≠ .failed)
      (notReady : job.status = .completed → job.downloadReady = false) :
      Reading snapshot job (snapshot.jobProgress job) .goOn

theorem reading (snapshot : Snapshot) (job : Job) :
    snapshot.Reading job (snapshot.afterStatus job) (outcome job) := by
  cases status : job.status with
  | failed =>
      simp only [afterStatus, outcome, status]
      exact .failed status
  | completed =>
      simp only [afterStatus, outcome, status]
      cases downloadReady : job.downloadReady with
      | true => exact .ready status downloadReady
      | false => exact .progress (by simp [status]) (fun _ => downloadReady)
  | _ =>
      simp only [afterStatus, outcome, status]
      exact .progress (by simp [status]) (by simp [status])

theorem phase_ne_submitting_of_isFinal {snapshot : Snapshot}
    (final : snapshot.phase.isFinal = true) : snapshot.phase ≠ .submitting := by
  intro submitting
  simp [submitting, Phase.isFinal] at final

end Snapshot

theorem Stage.isPending_of_isCreating {stage : Stage} (creating : stage.isCreating = true) :
    stage.isPending = true := by
  cases stage <;> first | rfl | cases creating

namespace Submission

/-- What others can do to a submission: they cancel it, or give up the call that made it if that has
not ended. Its loop is left to itself. -/
structure Withdrawn (before after : Submission) : Prop where
  payload : after.payload = before.payload
  pollLoop : after.pollLoop = before.pollLoop
  cancelled_of : before.cancelled = true → after.cancelled = true
  stage : after.stage = before.stage ∨ before.stage.isPending = true ∧ after.stage = .abandoned

namespace Withdrawn

theorem refl (submission : Submission) : submission.Withdrawn submission :=
  ⟨rfl, rfl, id, Or.inl rfl⟩

theorem cancelled (submission : Submission) :
    submission.Withdrawn { submission with cancelled := true } :=
  ⟨rfl, rfl, fun _ => rfl, Or.inl rfl⟩

theorem abandoned {submission : Submission} (pending : submission.stage.isPending = true) :
    submission.Withdrawn { submission with stage := .abandoned } :=
  ⟨rfl, rfl, id, Or.inr ⟨pending, rfl⟩⟩

theorem isPending_eq_false {before after : Submission} (withdrawn : before.Withdrawn after)
    (ended : before.stage.isPending = false) : after.stage.isPending = false := by
  rcases withdrawn.stage with same | ⟨_, abandoned⟩
  · rw [same]
    exact ended
  · simp [abandoned, Stage.isPending]

theorem isCreating_eq_false {before after : Submission} (withdrawn : before.Withdrawn after)
    (created : before.stage.isCreating = false) : after.stage.isCreating = false := by
  rcases withdrawn.stage with same | ⟨_, abandoned⟩
  · rw [same]
    exact created
  · simp [abandoned, Stage.isCreating]

/-- Whoever has not been cancelled had not been before. -/
theorem held {before after : Submission} (withdrawn : before.Withdrawn after)
    (held : after.cancelled = false) : before.cancelled = false := by
  cases token : before.cancelled with
  | false => rfl
  | true => exact (withdrawn.cancelled_of token).symm.trans held

theorem trans {first second third : Submission} (left : first.Withdrawn second)
    (right : second.Withdrawn third) : first.Withdrawn third where
  payload := right.payload.trans left.payload
  pollLoop := right.pollLoop.trans left.pollLoop
  cancelled_of := right.cancelled_of ∘ left.cancelled_of
  stage := by
    rcases right.stage with same | ⟨pending, abandoned⟩
    · rw [same]
      exact left.stage
    · rcases left.stage with same | ⟨pendingBefore, _⟩
      · exact Or.inr ⟨same ▸ pending, abandoned⟩
      · exact Or.inr ⟨pendingBefore, abandoned⟩

end Withdrawn

end Submission

namespace World

variable {σ : Type}

/-! ## Answers to status requests -/

/-- What an answer to a status request makes of the snapshot, and whether polling goes on. -/
inductive Receipt (world : World σ) (deadline : Option Nat) :
    Except CallError Job → Snapshot → Verdict → Prop where
  | lost (error : CallError) :
      Receipt world deadline (.error error) (world.snapshot.givenUp error.message) .stop
  | ended {job : Job} {snapshot : Snapshot} (reading : world.snapshot.Reading job snapshot .stop) :
      Receipt world deadline (.ok job) snapshot .stop
  | overdue {job : Job} {snapshot : Snapshot} (reading : world.snapshot.Reading job snapshot .goOn)
      (late : deadline.any (· ≤ world.now) = true) :
      Receipt world deadline (.ok job) (snapshot.overdue (world.policy.timeout.getD 0)) .stop
  | inTime {job : Job} {snapshot : Snapshot} (reading : world.snapshot.Reading job snapshot .goOn)
      (early : deadline.any (· ≤ world.now) = false) :
      Receipt world deadline (.ok job) snapshot .goOn

theorem receipt (world : World σ) (deadline : Option Nat) (answer : Except CallError Job) :
    world.Receipt deadline answer (world.afterAnswer deadline answer).1
      (world.afterAnswer deadline answer).2 := by
  cases answer with
  | error error => exact .lost error
  | ok job =>
      have reading := world.snapshot.reading job
      simp only [afterAnswer]
      cases verdict : Snapshot.outcome job with
      | stop =>
          rw [verdict] at reading
          exact .ended reading
      | goOn =>
          rw [verdict] at reading
          cases late : deadline.any (· ≤ world.now) with
          | true => exact .overdue reading late
          | false => exact .inTime reading late

section Receipts

variable {world : World σ} {deadline : Option Nat} {answer : Except CallError Job}
  {snapshot : Snapshot} {verdict : Verdict}

theorem Receipt.jobId (receipt : world.Receipt deadline answer snapshot verdict) :
    snapshot.jobId = world.snapshot.jobId := by
  cases receipt with
  | lost error => rfl
  | ended reading => cases reading <;> rfl
  | overdue reading _ => cases reading; rfl
  | inTime reading _ => cases reading; rfl

theorem Receipt.address (receipt : world.Receipt deadline answer snapshot verdict) :
    snapshot.address = world.snapshot.address := by
  cases receipt with
  | lost error => rfl
  | ended reading => cases reading <;> rfl
  | overdue reading _ => cases reading; rfl
  | inTime reading _ => cases reading; rfl

theorem Receipt.job {job : Job} (receipt : world.Receipt deadline (.ok job) snapshot verdict) :
    snapshot.job = some job := by
  cases receipt with
  | ended reading => cases reading <;> rfl
  | overdue reading _ => cases reading; rfl
  | inTime reading _ => cases reading; rfl

theorem Receipt.phase_of_goOn (receipt : world.Receipt deadline answer snapshot .goOn) :
    snapshot.phase = world.snapshot.phase := by
  cases receipt with
  | inTime reading _ => cases reading; rfl

theorem Receipt.isFinal_of_stop (receipt : world.Receipt deadline answer snapshot .stop) :
    snapshot.phase.isFinal = true := by
  cases receipt with
  | lost error => rfl
  | ended reading => cases reading <;> rfl
  | overdue reading _ => rfl

end Receipts

/-! ## Changes to a submission -/

theorem getElem?_update (world : World σ) (index other : Nat) (change : Submission → Submission) :
    (world.update index change).submissions[other]? =
      (world.submissions[other]?).map fun submission =>
        if index = other then change submission else submission := by
  simp [update, List.getElem?_modify]

theorem getElem?_update_eq_some {world : World σ} {index other : Nat}
    {change : Submission → Submission} {after : Submission}
    (found : (world.update index change).submissions[other]? = some after) :
    ∃ before, world.submissions[other]? = some before ∧
      after = if index = other then change before else before := by
  rw [getElem?_update, Option.map_eq_some_iff] at found
  rcases found with ⟨before, found, rfl⟩
  exact ⟨before, found, rfl⟩

/-- What the answer to its create call makes of a submission. -/
inductive Creation (policy : Policy) (now : Nat) (submission : Submission) :
    Except CallError String → Submission → Prop where
  | refused (error : CallError) :
      Creation policy now submission (.error error)
        { submission with stage := .returned (.error (.submission error)) }
  | unfollowed (jobId : String) (cancelled : submission.cancelled = true) :
      Creation policy now submission (.ok jobId)
        { submission with stage := .returned (.error .cancelled) }
  | followed (jobId : String) (held : submission.cancelled = false)
      (canPoll : policy.canPoll now = true) :
      Creation policy now submission (.ok jobId)
        { submission with
          stage := .firstPoll jobId
          pollLoop := some ⟨jobId, policy.timeout.map (now + ·), .waiting now⟩ }
  | stillborn (jobId : String) (held : submission.cancelled = false)
      (cannotPoll : policy.canPoll now = false) :
      Creation policy now submission (.ok jobId)
        { submission with
          stage := .returned (.ok jobId)
          pollLoop := some ⟨jobId, policy.timeout.map (now + ·), .finished⟩ }

theorem creation (policy : Policy) (now : Nat) (answer : Except CallError String)
    (submission : Submission) :
    Creation policy now submission answer (answered policy now answer submission) := by
  cases answer with
  | error error => exact .refused error
  | ok jobId =>
      simp only [answered, polled]
      by_cases token : submission.cancelled = true
      · rw [if_pos token]
        exact .unfollowed jobId token
      · rw [if_neg token]
        by_cases canPoll : policy.canPoll now = true
        · rw [if_pos canPoll]
          exact .followed jobId (by simpa using token) canPoll
        · rw [if_neg canPoll]
          exact .stillborn jobId (by simpa using token) (by simpa using canPoll)

section Creations

variable {policy : Policy} {now : Nat} {submission after : Submission}
  {answer : Except CallError String}

theorem Creation.cancelled (creation : Creation policy now submission answer after) :
    after.cancelled = submission.cancelled := by
  cases creation <;> rfl

theorem Creation.payload (creation : Creation policy now submission answer after) :
    after.payload = submission.payload := by
  cases creation <;> rfl

theorem Creation.isCreating (creation : Creation policy now submission answer after) :
    after.stage.isCreating = false := by
  cases creation <;> rfl

theorem Creation.answer_eq {pollLoop : PollLoop}
    (creation : Creation policy now submission answer after) (loopless : submission.pollLoop = none)
    (started : after.pollLoop = some pollLoop) : answer = .ok pollLoop.jobId := by
  cases creation with
  | refused error => simp [loopless] at started
  | unfollowed jobId _ => simp [loopless] at started
  | followed jobId _ _ => rcases Option.some.inj started with rfl; rfl
  | stillborn jobId _ _ => rcases Option.some.inj started with rfl; rfl

/-- A cancelled submission gets no loop. -/
theorem Creation.pollLoop (creation : Creation policy now submission answer after)
    (cancelled : submission.cancelled = true) : after.pollLoop = submission.pollLoop := by
  cases creation with
  | refused error => rfl
  | unfollowed jobId _ => rfl
  | followed jobId held _ => simp [held] at cancelled
  | stillborn jobId held _ => simp [held] at cancelled

theorem Creation.interval_ne_zero (creation : Creation policy now submission answer after)
    (loopless : submission.pollLoop = none) (polling : after.isPolling = true) :
    policy.interval ≠ 0 := by
  cases creation with
  | refused error => simp [Submission.isPolling, loopless] at polling
  | unfollowed jobId _ => simp [Submission.isPolling, loopless] at polling
  | followed jobId _ canPoll =>
      simp only [Policy.canPoll, Bool.and_eq_true, bne_iff_ne] at canPoll
      exact canPoll.1
  | stillborn jobId _ _ => simp [Submission.isPolling, PollLoop.isFinished] at polling

end Creations

@[simp]
theorem proceed_cancelled (submission : Submission) (state : LoopState) :
    (submission.proceed state).cancelled = submission.cancelled := rfl

@[simp]
theorem proceed_payload (submission : Submission) (state : LoopState) :
    (submission.proceed state).payload = submission.payload := rfl

@[simp]
theorem proceed_isCreating (submission : Submission) (state : LoopState) :
    (submission.proceed state).stage.isCreating = submission.stage.isCreating := by
  unfold Submission.proceed Stage.released
  simp only
  split
  · rename_i stage
    simp [stage, Stage.isCreating]
  · rfl

theorem proceed_pollLoop {submission : Submission} {pollLoop : PollLoop} (state : LoopState)
    (started : submission.pollLoop = some pollLoop) :
    (submission.proceed state).pollLoop = some { pollLoop with state := state } := by
  simp [Submission.proceed, Submission.withLoopState, started]

/-! ## What a submission does of its own accord -/

section Actions

variable (service : ReportService σ) (world : World σ) (index : Nat) (submission : Submission)
  (pollLoop : PollLoop) (next : Nat)

theorem receiveCreate_submissions :
    (world.receiveCreate service index submission).submissions =
      world.submissions.modify index (answered world.policy world.now
        (service.create submission.payload world.service).1) := by
  simp only [receiveCreate]
  cases submission.cancelled <;> rfl

theorem receiveCreate_snapshot :
    (world.receiveCreate service index submission).snapshot =
      if submission.cancelled then world.snapshot
      else world.snapshot.afterCreate (service.create submission.payload world.service).1 := by
  simp only [receiveCreate]
  cases submission.cancelled <;> rfl

@[simp]
theorem receiveCreate_slot :
    (world.receiveCreate service index submission).slot = world.slot := by
  simp only [receiveCreate]
  cases submission.cancelled <;> rfl

@[simp]
theorem receiveCreate_now :
    (world.receiveCreate service index submission).now = world.now := by
  simp only [receiveCreate]
  cases submission.cancelled <;> rfl

theorem receiveCreate_service :
    (world.receiveCreate service index submission).service =
      (service.create submission.payload world.service).2 := by
  simp only [receiveCreate]
  cases submission.cancelled <;> rfl

@[simp]
theorem receiveCreate_gate :
    (world.receiveCreate service index submission).gate = world.gate := by
  simp only [receiveCreate]
  cases submission.cancelled <;> rfl

theorem receiveCreate_chronicle :
    (world.receiveCreate service index submission).chronicle =
      world.chronicle.push ⟨world.now, some index, .createAnswered
        (service.create submission.payload world.service).1⟩ := by
  simp only [receiveCreate]
  cases submission.cancelled <;> rfl

theorem receiveStatus_submissions :
    (world.receiveStatus service index submission pollLoop next).submissions =
      world.submissions.modify index (·.proceed
        (if submission.cancelled then .finished
        else .afterVerdict next (world.afterAnswer pollLoop.deadline
          (service.status pollLoop.jobId world.service).1).2)) := by
  simp only [receiveStatus]
  cases submission.cancelled <;> rfl

theorem receiveStatus_snapshot :
    (world.receiveStatus service index submission pollLoop next).snapshot =
      if submission.cancelled then world.snapshot
      else (world.afterAnswer pollLoop.deadline
        (service.status pollLoop.jobId world.service).1).1 := by
  simp only [receiveStatus]
  cases submission.cancelled <;> rfl

@[simp]
theorem receiveStatus_slot :
    (world.receiveStatus service index submission pollLoop next).slot = world.slot := by
  simp only [receiveStatus]
  cases submission.cancelled <;> rfl

@[simp]
theorem receiveStatus_now :
    (world.receiveStatus service index submission pollLoop next).now = world.now := by
  simp only [receiveStatus]
  cases submission.cancelled <;> rfl

theorem receiveStatus_service :
    (world.receiveStatus service index submission pollLoop next).service =
      (service.status pollLoop.jobId world.service).2 := by
  simp only [receiveStatus]
  cases submission.cancelled <;> rfl

theorem receiveStatus_gate :
    (world.receiveStatus service index submission pollLoop next).gate =
      world.gate.map (· - 1) := by
  simp only [receiveStatus]
  cases submission.cancelled <;> rfl

theorem receiveStatus_chronicle :
    (world.receiveStatus service index submission pollLoop next).chronicle =
      world.chronicle.push ⟨world.now, some index, .statusAnswered pollLoop.jobId
        (service.status pollLoop.jobId world.service).1⟩ := by
  simp only [receiveStatus]
  cases submission.cancelled <;> rfl

end Actions

@[simp]
theorem download_now (service : ReportService σ) (world : World σ) (jobId : String) :
    (world.download service jobId).1.now = world.now := by
  rw [download]
  rcases service.download jobId world.service with ⟨answer, state⟩
  cases answer <;> rfl

@[simp]
theorem download_gate (service : ReportService σ) (world : World σ) (jobId : String) :
    (world.download service jobId).1.gate = world.gate := by
  rw [download]
  rcases service.download jobId world.service with ⟨answer, state⟩
  cases answer <;> rfl

theorem download_service (service : ReportService σ) (world : World σ) (jobId : String) :
    (world.download service jobId).1.service = (service.download jobId world.service).2 := by
  rw [download]
  rcases service.download jobId world.service with ⟨answer, state⟩
  cases answer <;> rfl

theorem download_chronicle (service : ReportService σ) (world : World σ) (jobId : String) :
    (world.download service jobId).1.chronicle =
      (world.chronicle.push ⟨world.now, none, .downloadAsked jobId⟩).push
        ⟨world.now, none, .downloadAnswered jobId (service.download jobId world.service).1⟩ := by
  rw [download]
  rcases service.download jobId world.service with ⟨answer, state⟩
  cases answer <;> rfl

/-- A download changes nothing of the snapshot but the error and the last download. -/
theorem download_snapshot (service : ReportService σ) (world : World σ) (jobId : String) :
    ∃ error lastDownload, (world.download service jobId).1.snapshot =
      { world.snapshot with error := error, lastDownload := lastDownload } := by
  rw [download]
  rcases service.download jobId world.service with ⟨answer, state⟩
  cases answer with
  | error error => exact ⟨_, _, rfl⟩
  | ok download => exact ⟨_, _, rfl⟩

@[simp]
theorem download_submissions (service : ReportService σ) (world : World σ) (jobId : String) :
    (world.download service jobId).1.submissions = world.submissions := by
  rw [download]
  rcases service.download jobId world.service with ⟨answer, state⟩
  cases answer <;> rfl

@[simp]
theorem download_slot (service : ReportService σ) (world : World σ) (jobId : String) :
    (world.download service jobId).1.slot = world.slot := by
  rw [download]
  rcases service.download jobId world.service with ⟨answer, state⟩
  cases answer <;> rfl

/-! ## The slot -/

/-- Nothing is different around the controller: neither the clock nor the service, nor what has
passed between them. -/
structure SameSurroundings (before after : World σ) : Prop where
  policy : after.policy = before.policy
  createDelay : after.createDelay = before.createDelay
  gate : after.gate = before.gate
  service : after.service = before.service
  now : after.now = before.now
  chronicle : after.chronicle = before.chronicle

theorem SameSurroundings.refl (world : World σ) : world.SameSurroundings world :=
  ⟨rfl, rfl, rfl, rfl, rfl, rfl⟩

theorem SameSurroundings.trans {first second third : World σ}
    (left : first.SameSurroundings second) (right : second.SameSurroundings third) :
    first.SameSurroundings third where
  policy := right.policy.trans left.policy
  createDelay := right.createDelay.trans left.createDelay
  gate := right.gate.trans left.gate
  service := right.service.trans left.service
  now := right.now.trans left.now
  chronicle := right.chronicle.trans left.chronicle

theorem emptySlot_surroundings (world : World σ) : world.SameSurroundings world.emptySlot := by
  simp only [emptySlot]
  split
  · exact .refl world
  · exact ⟨rfl, rfl, rfl, rfl, rfl, rfl⟩

@[simp]
theorem emptySlot_snapshot (world : World σ) : world.emptySlot.snapshot = world.snapshot := by
  simp only [emptySlot]
  split <;> rfl

@[simp]
theorem emptySlot_length (world : World σ) :
    world.emptySlot.submissions.length = world.submissions.length := by
  simp only [emptySlot]
  split <;> simp [cancel, update]

/-- Emptying the slot cancels the submission in it and changes no other. -/
theorem getElem?_emptySlot (world : World σ) (index : Nat) :
    world.emptySlot.submissions[index]? =
      (world.submissions[index]?).map fun submission =>
        if world.slot = some index then { submission with cancelled := true } else submission := by
  simp only [emptySlot]
  cases slot : world.slot with
  | none => simp
  | some held => simp [cancel, getElem?_update]

@[simp]
theorem halt_submissions (world : World σ) :
    world.halt.submissions = world.emptySlot.submissions := by
  unfold halt
  simp only
  split <;> rfl

theorem halt_surroundings (world : World σ) : world.SameSurroundings world.halt := by
  have emptied := emptySlot_surroundings world
  unfold halt
  simp only
  split
  · exact emptied.trans ⟨rfl, rfl, rfl, rfl, rfl, rfl⟩
  · exact emptied

theorem halt_snapshot (world : World σ) :
    world.halt.snapshot =
      if world.snapshot.phase = .submitting then .initial else world.snapshot := by
  simp only [halt]
  simp only [emptySlot_snapshot, beq_iff_eq]
  split
  · rfl
  · simp

/-- A world that has taken a submission holds the earlier ones, all without the slot, and the new
one. -/
theorem getElem?_accept {world : World σ} {payload : Payload} {index : Nat}
    {submission : Submission}
    (found : (world.accept payload).submissions[index]? = some submission) :
    world.emptySlot.submissions[index]? = some submission ∨
      index = world.submissions.length ∧
        submission = ⟨payload, false, .creating (world.now + world.createDelay), none⟩ := by
  have around := emptySlot_surroundings world
  change (world.emptySlot.submissions ++ [_])[index]? = some submission at found
  rcases Nat.lt_or_ge index world.emptySlot.submissions.length with earlier | later
  · rw [List.getElem?_append_left earlier] at found
    exact Or.inl found
  · rw [List.getElem?_append_right later, List.getElem?_singleton] at found
    split at found
    · rename_i first
      rcases Option.some.inj found with rfl
      rw [emptySlot_length] at later first
      exact Or.inr ⟨by omega, by rw [around.now, around.createDelay]⟩
    · contradiction

@[simp]
theorem length_accept (world : World σ) (payload : Payload) :
    (world.accept payload).submissions.length = world.submissions.length + 1 := by
  simp [accept, publish, record]

theorem accept_chronicle (world : World σ) (payload : Payload) :
    (world.accept payload).chronicle =
      world.chronicle.push ⟨world.now, some world.submissions.length, .createAsked payload⟩ := by
  have around := emptySlot_surroundings world
  change world.emptySlot.chronicle.push ⟨world.emptySlot.now,
    some world.emptySlot.submissions.length, .createAsked payload⟩ = _
  rw [around.chronicle, around.now, emptySlot_length]

theorem emptySlot_withdrawn {world : World σ} {index : Nat} {before : Submission}
    (found : world.submissions[index]? = some before) :
    ∃ after, world.emptySlot.submissions[index]? = some after ∧ before.Withdrawn after := by
  rw [getElem?_emptySlot, found]
  refine ⟨_, rfl, ?_⟩
  split
  · exact .cancelled before
  · exact .refl before

/-! ## Calls that are given up -/

/-- What giving up a call does. -/
inductive Abandonment (world : World σ) (index : Nat) : World σ → Prop where
  /-- There is no such call, or it has ended. -/
  | settled (ended : ∀ submission, world.submissions[index]? = some submission →
      submission.stage.isPending = false) : Abandonment world index world
  /-- The job is being created for a submission that has been cancelled. -/
  | late {submission : Submission} (found : world.submissions[index]? = some submission)
      (creating : submission.stage.isCreating = true)
      (taken : submission.cancelled = true ∨ world.snapshot.phase ≠ .submitting) :
      Abandonment world index
        (world.update index fun submission => { submission with stage := .abandoned })
  /-- The job is being created. -/
  | inCharge {submission : Submission} (found : world.submissions[index]? = some submission)
      (creating : submission.stage.isCreating = true) (held : submission.cancelled = false)
      (submitting : world.snapshot.phase = .submitting) :
      Abandonment world index
        (((world.update index fun submission =>
          { submission with stage := .abandoned }).cancel index).publish .initial)
  /-- The job exists. -/
  | firstPoll {submission : Submission} (found : world.submissions[index]? = some submission)
      (pending : submission.stage.isPending = true)
      (created : submission.stage.isCreating = false) :
      Abandonment world index
        (world.update index fun submission => { submission with stage := .abandoned })

theorem abandonment (world : World σ) (index : Nat) :
    world.Abandonment index (world.abandonCall index) := by
  simp only [abandonCall]
  split
  · rename_i missing
    exact .settled (by simp [missing])
  · rename_i submission found
    split
    · rename_i answerAt stage
      have creating : submission.stage.isCreating = true := by simp [stage, Stage.isCreating]
      simp only [update, Bool.or_eq_true, bne_iff_ne]
      split
      · rename_i taken
        exact .late found creating taken
      · rename_i free
        rw [not_or, Decidable.not_not, Bool.not_eq_true] at free
        exact .inCharge found creating free.1 free.2
    · rename_i jobId stage
      exact .firstPoll found (by simp [stage, Stage.isPending])
        (by simp [stage, Stage.isCreating])
    · rename_i notCreating notFirstPoll
      apply Abandonment.settled
      intro other foundOther
      rcases Option.some.inj (found.symm.trans foundOther) with rfl
      cases stage : submission.stage with
      | creating answerAt => exact absurd stage (notCreating answerAt)
      | firstPoll jobId => exact absurd stage (notFirstPoll jobId)
      | returned result => rfl
      | abandoned => rfl

@[simp]
theorem length_abandonCall (world : World σ) (index : Nat) :
    (world.abandonCall index).submissions.length = world.submissions.length := by
  have given := world.abandonment index
  generalize world.abandonCall index = next at given ⊢
  cases given <;> simp [update, cancel, publish]

theorem abandonCall_surroundings (world : World σ) (index : Nat) :
    world.SameSurroundings (world.abandonCall index) := by
  have given := world.abandonment index
  generalize world.abandonCall index = next at given ⊢
  cases given <;> exact ⟨rfl, rfl, rfl, rfl, rfl, rfl⟩

theorem foldl_abandonCall_surroundings (world : World σ) (indices : List Nat) :
    world.SameSurroundings (indices.foldl abandonCall world) := by
  induction indices generalizing world with
  | nil => exact .refl world
  | cons index indices ih =>
      exact (abandonCall_surroundings world index).trans (ih (world.abandonCall index))

theorem shut_surroundings (world : World σ) : world.SameSurroundings world.shut :=
  (foldl_abandonCall_surroundings world _).trans (emptySlot_surroundings _)

theorem foldl_abandonCall_eq {α : Type} (part : World σ → α)
    (kept : ∀ world index, part (world.abandonCall index) = part world) (world : World σ)
    (indices : List Nat) : part (indices.foldl abandonCall world) = part world := by
  induction indices generalizing world with
  | nil => rfl
  | cons index indices ih => rw [List.foldl_cons, ih, kept]

@[simp]
theorem length_foldl_abandonCall (world : World σ) (indices : List Nat) :
    (indices.foldl abandonCall world).submissions.length = world.submissions.length :=
  foldl_abandonCall_eq (fun world => world.submissions.length) length_abandonCall world indices

/-- Giving up a call withdraws that submission at most, and its call has ended then. -/
theorem abandonCall_withdrawn {world : World σ} (index : Nat) {other : Nat} {before : Submission}
    (found : world.submissions[other]? = some before) :
    ∃ after, (world.abandonCall index).submissions[other]? = some after ∧
      before.Withdrawn after ∧ (index = other → after.stage.isPending = false) := by
  have pending : ∀ {submission : Submission}, index = other →
      world.submissions[index]? = some submission → submission.stage.isPending = true →
        before.stage.isPending = true := by
    rintro submission rfl foundIndex waits
    rcases Option.some.inj (found.symm.trans foundIndex) with rfl
    exact waits
  have given := world.abandonment index
  generalize world.abandonCall index = next at given ⊢
  cases given with
  | settled ended => exact ⟨before, found, .refl before, fun same => ended before (same ▸ found)⟩
  | late foundIndex creating _ =>
      rw [getElem?_update, found]
      refine ⟨_, rfl, ?_, fun same => by simp [same, Stage.isPending]⟩
      split
      · rename_i same
        exact .abandoned (pending same foundIndex (Stage.isPending_of_isCreating creating))
      · exact .refl before
  | inCharge foundIndex creating _ _ =>
      change ∃ after, ((world.update index _).cancel index).submissions[other]? = some after ∧ _
      rw [cancel, getElem?_update, getElem?_update, found]
      refine ⟨_, rfl, ?_, fun same => by simp [same, Stage.isPending]⟩
      simp only
      split
      · rename_i same
        exact (Submission.Withdrawn.abandoned (pending same foundIndex
          (Stage.isPending_of_isCreating creating))).trans (.cancelled _)
      · exact .refl before
  | firstPoll foundIndex waits _ =>
      rw [getElem?_update, found]
      refine ⟨_, rfl, ?_, fun same => by simp [same, Stage.isPending]⟩
      split
      · rename_i same
        exact .abandoned (pending same foundIndex waits)
      · exact .refl before

theorem foldl_abandonCall_withdrawn {world : World σ} (indices : List Nat) {other : Nat}
    {before : Submission} (found : world.submissions[other]? = some before) :
    ∃ after, (indices.foldl abandonCall world).submissions[other]? = some after ∧
      before.Withdrawn after ∧ (other ∈ indices → after.stage.isPending = false) := by
  induction indices generalizing world before with
  | nil => exact ⟨before, found, .refl before, by simp⟩
  | cons index indices ih =>
      rcases abandonCall_withdrawn index found with ⟨between, foundBetween, first, ended⟩
      rcases ih foundBetween with ⟨after, foundAfter, second, rest⟩
      refine ⟨after, foundAfter, first.trans second, ?_⟩
      intro listed
      rcases List.mem_cons.mp listed with same | listed
      · exact second.isPending_eq_false (ended same.symm)
      · exact rest listed

theorem abandonCall_snapshot (world : World σ) (index : Nat) :
    (world.abandonCall index).snapshot = world.snapshot ∨
      (world.abandonCall index).snapshot = .initial := by
  have given := world.abandonment index
  generalize world.abandonCall index = next at given ⊢
  cases given with
  | settled _ => exact Or.inl rfl
  | late _ _ _ => exact Or.inl rfl
  | inCharge _ _ _ _ => exact Or.inr rfl
  | firstPoll _ _ _ => exact Or.inl rfl

/-- Giving up a call leaves the snapshot alone unless the controller waits for a job. -/
theorem abandonCall_snapshot_of_ne {world : World σ} (free : world.snapshot.phase ≠ .submitting)
    (index : Nat) : (world.abandonCall index).snapshot = world.snapshot := by
  have given := world.abandonment index
  generalize world.abandonCall index = next at given ⊢
  cases given with
  | inCharge _ _ _ submitting => exact absurd submitting free
  | _ => rfl

theorem shut_snapshot_of_ne {world : World σ} (free : world.snapshot.phase ≠ .submitting) :
    world.shut.snapshot = world.snapshot := by
  rw [shut, emptySlot_snapshot]
  generalize List.range world.submissions.length = indices
  induction indices generalizing world with
  | nil => rfl
  | cons index indices ih =>
      have same := abandonCall_snapshot_of_ne free index
      rw [List.foldl_cons, ih (by rwa [same]), same]

theorem foldl_abandonCall_snapshot (world : World σ) (indices : List Nat) :
    (indices.foldl abandonCall world).snapshot = world.snapshot ∨
      (indices.foldl abandonCall world).snapshot = .initial := by
  induction indices generalizing world with
  | nil => exact Or.inl rfl
  | cons index indices ih =>
      rcases ih (world.abandonCall index) with same | emptied
      · rcases world.abandonCall_snapshot index with untouched | emptied
        · exact Or.inl (same.trans untouched)
        · exact Or.inr (same.trans emptied)
      · exact Or.inr emptied

theorem shut_snapshot (world : World σ) :
    world.shut.snapshot = world.snapshot ∨ world.shut.snapshot = .initial := by
  rw [shut, emptySlot_snapshot]
  exact world.foldl_abandonCall_snapshot _

/-- After every call has been given up, none is left to wait for its job. -/
theorem not_pending_of_foldl_abandonCall {world : World σ} {index : Nat} {submission : Submission}
    (found : ((List.range world.submissions.length).foldl abandonCall world).submissions[index]? =
      some submission) : submission.stage.isPending = false := by
  have bound : index < world.submissions.length := by
    rw [← length_foldl_abandonCall world (List.range world.submissions.length)]
    exact (List.getElem?_eq_some_iff.mp found).1
  rcases foldl_abandonCall_withdrawn (List.range world.submissions.length)
    (List.getElem?_eq_getElem bound) with ⟨after, foundAfter, _, ended⟩
  rcases Option.some.inj (found.symm.trans foundAfter) with rfl
  exact ended (List.mem_range.mpr bound)

/-! ## What an event leaves as it is -/

variable (service : ReportService σ)

/-- What a submission does of its own accord changes that submission alone, and neither its payload
nor its token. -/
theorem exists_modify_of_act (world : World σ) (index : Nat) (action : Action) :
    ∃ change : Submission → Submission,
      (world.occur service (.act index action)).submissions =
        world.submissions.modify index change ∧
      ∀ submission, (change submission).payload = submission.payload ∧
        (change submission).cancelled = submission.cancelled := by
  have transition := transition_act service world index action
  generalize world.occur service (.act index action) = next at transition ⊢
  cases transition with
  | idle _ => exact ⟨id, (List.modify_id index world.submissions).symm, fun _ => ⟨rfl, rfl⟩⟩
  | receiveCreate _ _ =>
      exact ⟨_, receiveCreate_submissions service world _ _, fun submission =>
        ⟨(creation _ _ _ submission).payload, (creation _ _ _ submission).cancelled⟩⟩
  | askStatus _ _ _ _ => exact ⟨_, rfl, fun _ => ⟨rfl, rfl⟩⟩
  | receiveStatus _ _ _ =>
      exact ⟨_, receiveStatus_submissions service world _ _ _ _, fun _ => ⟨rfl, rfl⟩⟩
  | leave _ _ _ => exact ⟨_, rfl, fun _ => ⟨rfl, rfl⟩⟩

theorem getElem?_occur_act_of_ne (world : World σ) {index other : Nat} (action : Action)
    (different : index ≠ other) :
    (world.occur service (.act index action)).submissions[other]? = world.submissions[other]? := by
  rcases exists_modify_of_act service world index action with ⟨change, submissions, _⟩
  rw [submissions, List.getElem?_modify_ne change world.submissions different]

/-- Whatever happens apart from what a submission does of its own accord can at most withdraw it. -/
theorem occur_withdrawn {world : World σ} {event : Event} {index : Nat} {before : Submission}
    (foreign : ∀ action, event ≠ .act index action)
    (found : world.submissions[index]? = some before) :
    ∃ after, (world.occur service event).submissions[index]? = some after ∧
      before.Withdrawn after := by
  cases event with
  | act other action =>
      have different : other ≠ index := by
        rintro rfl
        exact foreign action rfl
      exact ⟨before, (getElem?_occur_act_of_ne service world action different).trans found,
        .refl before⟩
  | pass span => exact ⟨before, found, .refl before⟩
  | submit request =>
      simp only [occur]
      split
      · exact ⟨before, found, .refl before⟩
      · rename_i next claimed
        rcases claim_ok_iff.mp claimed with ⟨payload, _, _, rfl⟩
        rcases emptySlot_withdrawn found with ⟨after, foundAfter, withdrawn⟩
        have bound := (List.getElem?_eq_some_iff.mp foundAfter).1
        exact ⟨after, (List.getElem?_append_left bound).trans foundAfter, withdrawn⟩
  | stopPolling =>
      rcases emptySlot_withdrawn found with ⟨after, foundAfter, withdrawn⟩
      exact ⟨after, by simpa [occur] using foundAfter, withdrawn⟩
  | reset => exact emptySlot_withdrawn found
  | download jobId => exact ⟨before, by simpa [occur] using found, .refl before⟩
  | permit count => exact ⟨before, found, .refl before⟩
  | abandon other =>
      rcases abandonCall_withdrawn other found with ⟨after, foundAfter, withdrawn, _⟩
      exact ⟨after, foundAfter, withdrawn⟩
  | close =>
      rcases foldl_abandonCall_withdrawn (List.range world.submissions.length) found with
        ⟨between, foundBetween, first, _⟩
      rcases emptySlot_withdrawn foundBetween with ⟨after, foundAfter, second⟩
      exact ⟨after, foundAfter, first.trans second⟩

theorem length_occur_or_accepted (world : World σ) (event : Event) :
    (world.occur service event).submissions.length = world.submissions.length ∨
      ∃ payload, world.occur service event = world.accept payload ∧
        ∃ request, event = .submit request ∧ world.claim request = .ok (world.accept payload) := by
  cases event with
  | act index action =>
      rcases exists_modify_of_act service world index action with ⟨change, submissions, _⟩
      simp [submissions]
  | submit request =>
      cases claimed : world.claim request with
      | error error => simp [occur, claimed]
      | ok next =>
          rcases claim_ok_iff.mp claimed with ⟨payload, _, _, rfl⟩
          exact Or.inr ⟨payload, by simp [occur, claimed], request, rfl, claimed⟩
  | close => simp [occur, shut]
  | reset => exact Or.inl (emptySlot_length world)
  | _ => simp [occur, allow]

theorem occur_newcomer {world : World σ} {event : Event} {index : Nat} {submission : Submission}
    (missing : world.submissions[index]? = none)
    (found : (world.occur service event).submissions[index]? = some submission) :
    submission.pollLoop = none ∧ submission.cancelled = false ∧
      submission.stage.isCreating = true := by
  have beyond : world.submissions.length ≤ index := List.getElem?_eq_none_iff.mp missing
  rcases length_occur_or_accepted service world event with length | ⟨payload, accepted, _⟩
  · have absent := List.getElem?_eq_none (Nat.le_trans (Nat.le_of_eq length) beyond)
    simp [absent] at found
  · simp only [accepted] at found
    rcases getElem?_accept found with earlier | ⟨_, rfl⟩
    · have absent :=
        List.getElem?_eq_none (Nat.le_trans (Nat.le_of_eq (emptySlot_length world)) beyond)
      simp [absent] at earlier
    · exact ⟨rfl, rfl, rfl⟩

/-- Only the passing of time moves the clock. -/
theorem occur_now {world : World σ} {event : Event} (still : ∀ span, event ≠ .pass span) :
    (world.occur service event).now = world.now := by
  have transition := transition_occur service world event
  generalize world.occur service event = next at transition ⊢
  cases transition with
  | idle => rfl
  | receiveCreate _ _ => exact receiveCreate_now service world _ _
  | askStatus _ _ _ _ => rfl
  | receiveStatus _ _ _ => exact receiveStatus_now service world _ _ _ _
  | leave _ _ _ => rfl
  | pass span => exact absurd rfl (still span)
  | reject _ => rfl
  | accept _ _ => exact (emptySlot_surroundings world).now
  | halt => exact (halt_surroundings world).now
  | clear => exact (emptySlot_surroundings world).now
  | download jobId => exact download_now service world jobId
  | allow count => rfl
  | abandonCall index => exact (abandonCall_surroundings world index).now
  | shut => exact (shut_surroundings world).now

theorem le_occur_now (world : World σ) (event : Event) :
    world.now ≤ (world.occur service event).now := by
  by_cases passes : ∃ span, event = .pass span
  · rcases passes with ⟨span, rfl⟩
    exact Nat.le_add_right world.now span
  · exact Nat.le_of_eq (occur_now service fun span same => passes ⟨span, same⟩).symm

end World

end AuditReports
