import Mathlib.Logic.ExistsUnique
import Mathlib.Tactic.ByContra
import AuditReports.Proofs.Controller.Effects

/-!
# How submissions, slot and snapshot fit together

Several submissions may be under way at once, but only one of them may write the snapshot. The
invariant behind that has four parts. A submission that has not been cancelled is in the slot, so
there is at most one of them. The snapshot tells how far this one has come. The phase is
`submitting` only while it waits for its job. And nothing polls before its job exists.

The invariant holds of a new controller, and every event keeps it. The reason is the same in all
cases but one: what a submission does changes that submission alone, and it touches the snapshot
only if it has not been cancelled. The exception is a call that is given up while its job is
created, which cancels the submission and empties the snapshot at once. -/

namespace AuditReports

/-- The snapshot tells how far a submission has come, as long as the submission is live. -/
structure Snapshot.TellsOf (snapshot : Snapshot) (submission : Submission) : Prop where
  creating : submission.stage.isCreating = true →
    snapshot.phase = .submitting ∧ snapshot.address = some submission.payload.address ∧
      snapshot.job = none
  polling : ∀ pollLoop, submission.pollLoop = some pollLoop → pollLoop.isFinished = false →
    snapshot.phase = .polling ∧ snapshot.jobId = some pollLoop.jobId ∧
      snapshot.address = some submission.payload.address

theorem Snapshot.TellsOf.congr {before after : Snapshot} {submission : Submission}
    (tells : before.TellsOf submission) (phase : after.phase = before.phase)
    (jobId : after.jobId = before.jobId) (address : after.address = before.address)
    (job : after.job = before.job) : after.TellsOf submission where
  creating := by
    rw [phase, address, job]
    exact tells.creating
  polling := by
    rw [phase, jobId, address]
    exact tells.polling

namespace World

variable {σ : Type}

/-- The submissions, the slot and the snapshot fit together. -/
structure Coherent (world : World σ) : Prop where
  /-- A poll loop is started only when the job exists. -/
  loopless : ∀ (index : Nat) (submission : Submission),
    world.submissions[index]? = some submission →
      submission.stage.isCreating = true → submission.pollLoop = none
  /-- Whatever is not in the slot has been cancelled. -/
  owner : ∀ (index : Nat) (submission : Submission),
    world.submissions[index]? = some submission →
      submission.cancelled = false → world.slot = some index
  told : ∀ (index : Nat) (submission : Submission),
    world.submissions[index]? = some submission →
      submission.cancelled = false → world.snapshot.TellsOf submission
  pending : world.snapshot.phase = .submitting →
    ∃ (index : Nat) (submission : Submission), world.submissions[index]? = some submission ∧
      submission.stage.isCreating = true ∧ submission.cancelled = false

theorem coherent_start (policy : Policy) (createDelay : Nat) (gate : Option Nat) (state : σ) :
    (start policy createDelay gate state).Coherent where
  loopless := by simp [start]
  owner := by simp [start]
  told := by simp [start]
  pending := by simp [start, Snapshot.initial]

namespace Coherent

/-- At most one submission has not been cancelled. -/
theorem eq_of_uncancelled {world : World σ} (coherent : world.Coherent) {first second : Nat}
    {left right : Submission} (foundLeft : world.submissions[first]? = some left)
    (foundRight : world.submissions[second]? = some right) (heldLeft : left.cancelled = false)
    (heldRight : right.cancelled = false) : first = second := by
  have slotLeft := coherent.owner first left foundLeft heldLeft
  have slotRight := coherent.owner second right foundRight heldRight
  exact Option.some.inj (slotLeft.symm.trans slotRight)

/-- A world in which everything has been cancelled fits together unless it claims to wait for a
job. -/
theorem of_all_cancelled {world : World σ}
    (loopless : ∀ (index : Nat) (submission : Submission),
      world.submissions[index]? = some submission →
        submission.stage.isCreating = true → submission.pollLoop = none)
    (cancelled : ∀ (index : Nat) (submission : Submission),
      world.submissions[index]? = some submission → submission.cancelled = true)
    (free : world.snapshot.phase ≠ .submitting) : world.Coherent where
  loopless := loopless
  owner := by
    intro index submission found held
    simp [cancelled index submission found] at held
  told := by
    intro index submission found held
    simp [cancelled index submission found] at held
  pending := fun submitting => absurd submitting free

/-- A change to one submission keeps everything together if the token stays as it is and the
snapshot tells of the changed submission; a cancelled submission must not touch the snapshot. -/
theorem of_update {world next : World σ} (coherent : world.Coherent) {index : Nat}
    {submission : Submission} {change : Submission → Submission}
    (found : world.submissions[index]? = some submission)
    (submissions : next.submissions = world.submissions.modify index change)
    (slot : next.slot = world.slot)
    (token : (change submission).cancelled = submission.cancelled)
    (loopless : (change submission).stage.isCreating = true →
      (change submission).pollLoop = none)
    (silent : submission.cancelled = true → next.snapshot = world.snapshot)
    (tells : submission.cancelled = false → next.snapshot.TellsOf (change submission))
    (pending : submission.cancelled = false → next.snapshot.phase = .submitting →
      (change submission).stage.isCreating = true) : next.Coherent := by
  have getElem : ∀ other, next.submissions[other]? =
      (world.submissions[other]?).map fun submission =>
        if index = other then change submission else submission := by
    intro other
    rw [submissions, List.getElem?_modify]
    rfl
  have getElem_self : next.submissions[index]? = some (change submission) := by
    simp [getElem, found]
  have getElem_other : ∀ other, index ≠ other →
      next.submissions[other]? = world.submissions[other]? := by
    intro other different
    simp [getElem, different]
  constructor
  · intro other after foundAfter creating
    by_cases same : index = other
    · subst other
      rcases Option.some.inj (getElem_self.symm.trans foundAfter) with rfl
      exact loopless creating
    · rw [getElem_other other same] at foundAfter
      exact coherent.loopless other after foundAfter creating
  · intro other after foundAfter held
    rw [slot]
    by_cases same : index = other
    · subst other
      rcases Option.some.inj (getElem_self.symm.trans foundAfter) with rfl
      exact coherent.owner index submission found (token.symm.trans held)
    · rw [getElem_other other same] at foundAfter
      exact coherent.owner other after foundAfter held
  · intro other after foundAfter held
    by_cases same : index = other
    · subst other
      rcases Option.some.inj (getElem_self.symm.trans foundAfter) with rfl
      exact tells (token.symm.trans held)
    · rw [getElem_other other same] at foundAfter
      -- Another submission is in charge, so the changed one has been cancelled.
      have cancelled : submission.cancelled = true := by
        by_contra uncancelled
        exact same (coherent.eq_of_uncancelled found foundAfter (by simpa using uncancelled) held)
      rw [silent cancelled]
      exact coherent.told other after foundAfter held
  · intro submitting
    cases token_before : submission.cancelled with
    | false =>
        exact ⟨index, change submission, getElem_self, pending token_before submitting,
          token.trans token_before⟩
    | true =>
        rw [silent token_before] at submitting
        rcases coherent.pending submitting with ⟨other, waiting, foundWaiting, creating, held⟩
        have different : index ≠ other := by
          rintro rfl
          rcases Option.some.inj (found.symm.trans foundWaiting) with rfl
          simp [token_before] at held
        exact ⟨other, waiting, (getElem_other other different).trans foundWaiting, creating, held⟩

/-! ### What a submission does of its own accord -/

variable (service : ReportService σ)

theorem not_submitting_of_polling {world : World σ} (coherent : world.Coherent) {index : Nat}
    {submission : Submission} {pollLoop : PollLoop}
    (found : world.submissions[index]? = some submission)
    (started : submission.pollLoop = some pollLoop) (running : pollLoop.isFinished = false)
    (held : submission.cancelled = false) : world.snapshot.phase ≠ .submitting := by
  intro submitting
  have polling := ((coherent.told index submission found held).polling pollLoop started running).1
  simp only [submitting] at polling
  contradiction

theorem not_creating_of_started {world : World σ} (coherent : world.Coherent) {index : Nat}
    {submission : Submission} {pollLoop : PollLoop}
    (found : world.submissions[index]? = some submission)
    (started : submission.pollLoop = some pollLoop) : submission.stage.isCreating = false := by
  by_contra creating
  have loopless := coherent.loopless index submission found (by simpa using creating)
  simp [started] at loopless

theorem receiveCreate {world : World σ} (coherent : world.Coherent) {index : Nat}
    {submission : Submission} (found : world.submissions[index]? = some submission)
    (creating : submission.stage.isCreating = true) :
    (world.receiveCreate service index submission).Coherent := by
  have loopless := coherent.loopless index submission found creating
  have creation := creation world.policy world.now
    (service.create submission.payload world.service).1 submission
  refine coherent.of_update found (receiveCreate_submissions service world index submission)
    (by simp) creation.cancelled (by simp [creation.isCreating]) ?_ ?_ ?_
  · intro cancelled
    simp [receiveCreate_snapshot, cancelled]
  · intro held
    have told := (coherent.told index submission found held).creating creating
    constructor
    · simp [creation.isCreating]
    · intro pollLoop started _
      have created := creation.answer_eq loopless started
      rw [creation.payload]
      simp only [receiveCreate_snapshot, held, Bool.false_eq_true, if_false, created]
      exact ⟨rfl, rfl, told.2.1⟩
  · intro held submitting
    simp only [receiveCreate_snapshot, held, Bool.false_eq_true, if_false] at submitting
    cases answer : (service.create submission.payload world.service).1 with
    | error error => simp [answer, Snapshot.afterCreate, Snapshot.withoutJob] at submitting
    | ok jobId => simp [answer, Snapshot.afterCreate, Snapshot.tracking] at submitting

theorem askStatus {world : World σ} (coherent : world.Coherent) {index due : Nat}
    {submission : Submission} {pollLoop : PollLoop}
    (found : world.submissions[index]? = some submission)
    (started : submission.pollLoop = some pollLoop) (waiting : pollLoop.state = .waiting due) :
    (world.askStatus index pollLoop due).Coherent := by
  have running : pollLoop.isFinished = false := by simp [PollLoop.isFinished, waiting]
  have notCreating := coherent.not_creating_of_started found started
  refine coherent.of_update found rfl rfl rfl ?_ (fun _ => rfl) ?_ ?_
  · simp [Submission.withLoopState, notCreating]
  · intro held
    have told := (coherent.told index submission found held).polling pollLoop started running
    constructor
    · simp [Submission.withLoopState, notCreating]
    · intro asked started' _
      simp only [Submission.withLoopState, started, Option.map_some] at started'
      rcases Option.some.inj started' with rfl
      exact told
  · intro held submitting
    exact absurd submitting (coherent.not_submitting_of_polling found started running held)

theorem leave {world : World σ} (coherent : world.Coherent) {index : Nat}
    {submission : Submission} (found : world.submissions[index]? = some submission)
    (cancelled : submission.cancelled = true) (polling : submission.isPolling = true) :
    (world.leave index).Coherent := by
  rcases (Option.any_eq_true _ _).mp polling with ⟨pollLoop, started, _⟩
  have notCreating := coherent.not_creating_of_started found started
  refine coherent.of_update found rfl rfl rfl (by simp [notCreating]) (fun _ => rfl) ?_ ?_
  · simp [cancelled]
  · simp [cancelled]

theorem receiveStatus {world : World σ} (coherent : world.Coherent) {index next : Nat}
    {submission : Submission} {pollLoop : PollLoop}
    (found : world.submissions[index]? = some submission)
    (started : submission.pollLoop = some pollLoop) (asking : pollLoop.state = .asking next) :
    (world.receiveStatus service index submission pollLoop next).Coherent := by
  have running : pollLoop.isFinished = false := by simp [PollLoop.isFinished, asking]
  have notCreating := coherent.not_creating_of_started found started
  have receipt := world.receipt pollLoop.deadline (service.status pollLoop.jobId world.service).1
  refine coherent.of_update found
    (receiveStatus_submissions service world index submission pollLoop next)
    (by simp) (by simp) (by simp [notCreating]) ?_ ?_ ?_
  · intro cancelled
    simp [receiveStatus_snapshot, cancelled]
  · intro held
    have told := (coherent.told index submission found held).polling pollLoop started running
    simp only [receiveStatus_snapshot, held, Bool.false_eq_true, if_false]
    constructor
    · simp [notCreating]
    · intro after started' running'
      rw [proceed_pollLoop _ started] at started'
      rcases Option.some.inj started' with rfl
      -- The loop goes on, so the answer has left the phase as it was.
      cases verdict : (world.afterAnswer pollLoop.deadline
          (service.status pollLoop.jobId world.service).1).2 with
      | stop => simp [verdict, LoopState.afterVerdict, PollLoop.isFinished] at running'
      | goOn =>
          rw [verdict] at receipt
          simp only [receipt.phase_of_goOn, receipt.jobId, receipt.address, proceed_payload]
          exact told
  · intro held submitting
    simp only [receiveStatus_snapshot, held, Bool.false_eq_true, if_false] at submitting
    cases verdict : (world.afterAnswer pollLoop.deadline
        (service.status pollLoop.jobId world.service).1).2 with
    | stop =>
        rw [verdict] at receipt
        exact absurd submitting (Snapshot.phase_ne_submitting_of_isFinal receipt.isFinal_of_stop)
    | goOn =>
        rw [verdict] at receipt
        rw [receipt.phase_of_goOn] at submitting
        exact absurd submitting (coherent.not_submitting_of_polling found started running held)

/-! ### What is done to the controller -/

/-- Once the slot has been emptied, everything is cancelled. -/
theorem cancelled_emptySlot {world : World σ} (coherent : world.Coherent) {index : Nat}
    {submission : Submission} (found : world.emptySlot.submissions[index]? = some submission) :
    submission.cancelled = true := by
  rw [getElem?_emptySlot, Option.map_eq_some_iff] at found
  rcases found with ⟨before, foundBefore, rfl⟩
  split
  · rfl
  · rename_i elsewhere
    by_contra held
    exact elsewhere (coherent.owner index before foundBefore (by simpa using held))

theorem loopless_emptySlot {world : World σ} (coherent : world.Coherent) {index : Nat}
    {submission : Submission} (found : world.emptySlot.submissions[index]? = some submission)
    (creating : submission.stage.isCreating = true) : submission.pollLoop = none := by
  rw [getElem?_emptySlot, Option.map_eq_some_iff] at found
  rcases found with ⟨before, foundBefore, rfl⟩
  have creatingBefore : before.stage.isCreating = true := by
    split at creating <;> exact creating
  have loopless := coherent.loopless index before foundBefore creatingBefore
  split <;> exact loopless

theorem accept {world : World σ} (coherent : world.Coherent) (payload : Payload) :
    (world.accept payload).Coherent := by
  have length : world.emptySlot.submissions.length = world.submissions.length :=
    emptySlot_length world
  constructor
  · intro index submission found creating
    rcases getElem?_accept found with earlier | ⟨_, rfl⟩
    · exact coherent.loopless_emptySlot earlier creating
    · rfl
  · intro index submission found held
    rcases getElem?_accept found with earlier | ⟨rfl, _⟩
    · simp [coherent.cancelled_emptySlot earlier] at held
    · exact congrArg some length
  · intro index submission found held
    rcases getElem?_accept found with earlier | ⟨_, rfl⟩
    · simp [coherent.cancelled_emptySlot earlier] at held
    · constructor
      · intro _
        exact ⟨rfl, rfl, rfl⟩
      · intro pollLoop started
        contradiction
  · intro _
    refine ⟨world.emptySlot.submissions.length, _, List.getElem?_concat_length, rfl, rfl⟩

theorem halt {world : World σ} (coherent : world.Coherent) : world.halt.Coherent := by
  refine of_all_cancelled ?_ ?_ ?_
  · intro index submission found
    exact coherent.loopless_emptySlot (by simpa using found)
  · intro index submission found
    exact coherent.cancelled_emptySlot (by simpa using found)
  · rw [halt_snapshot]
    split
    · simp [Snapshot.initial]
    · assumption

theorem clear {world : World σ} (coherent : world.Coherent) : world.clear.Coherent :=
  of_all_cancelled (fun _ _ found => coherent.loopless_emptySlot found)
    (fun _ _ found => coherent.cancelled_emptySlot found)
    (by simp [World.clear, publish, Snapshot.initial])

theorem download {world : World σ} (coherent : world.Coherent) (jobId : String) :
    (world.download service jobId).1.Coherent := by
  rcases download_snapshot service world jobId with ⟨error, lastDownload, snapshot⟩
  constructor
  · rw [download_submissions]
    exact coherent.loopless
  · rw [download_submissions, download_slot]
    exact coherent.owner
  · rw [download_submissions, snapshot]
    intro index submission found held
    exact (coherent.told index submission found held).congr rfl rfl rfl rfl
  · rw [download_submissions, snapshot]
    exact coherent.pending

theorem abandonCall {world : World σ} (coherent : world.Coherent) (index : Nat) :
    (world.abandonCall index).Coherent := by
  have given := world.abandonment index
  generalize world.abandonCall index = next at given ⊢
  cases given with
  | settled ended => exact coherent
  | @late submission found creating taken =>
      -- A submission in charge that waits for its job keeps the phase at `submitting`.
      have cancelled : submission.cancelled = true := by
        rcases taken with cancelled | free
        · exact cancelled
        · by_contra held
          exact free ((coherent.told index submission found (by simpa using held)).creating
            creating).1
      exact coherent.of_update found rfl rfl rfl (by simp [Stage.isCreating]) (fun _ => rfl)
        (by simp [cancelled]) (by simp [cancelled])
  | @inCharge submission found creating held submitting =>
      have before : ∀ (other : Nat) (after : Submission),
          ((world.update index fun submission =>
            { submission with stage := .abandoned }).cancel index).submissions[other]? =
              some after →
          after.cancelled = true ∧ after.stage.isCreating = false ∨
            index ≠ other ∧ world.submissions[other]? = some after := by
        intro other after foundAfter
        rcases getElem?_update_eq_some foundAfter with ⟨between, foundBetween, rfl⟩
        rcases getElem?_update_eq_some foundBetween with ⟨before, foundBefore, rfl⟩
        by_cases same : index = other
        · simp [same, Stage.isCreating]
        · simp only [same, if_false]
          exact Or.inr ⟨same, foundBefore⟩
      refine of_all_cancelled ?_ ?_ (by simp [publish, Snapshot.initial])
      · intro other after foundAfter stillCreating
        rcases before other after foundAfter with ⟨_, created⟩ | ⟨_, foundBefore⟩
        · simp [created] at stillCreating
        · exact coherent.loopless other after foundBefore stillCreating
      · intro other after foundAfter
        rcases before other after foundAfter with ⟨cancelled, _⟩ | ⟨different, foundBefore⟩
        · exact cancelled
        · by_contra uncancelled
          exact different
            (coherent.eq_of_uncancelled found foundBefore held (by simpa using uncancelled))
  | @firstPoll submission found pending created =>
      refine coherent.of_update found rfl rfl rfl (by simp [Stage.isCreating]) (fun _ => rfl) ?_ ?_
      · intro held
        exact ⟨by simp [Stage.isCreating], (coherent.told index submission found held).polling⟩
      · intro held submitting
        rcases coherent.pending submitting with
          ⟨other, waiting, foundWaiting, creating, heldWaiting⟩
        rcases coherent.eq_of_uncancelled found foundWaiting held heldWaiting with rfl
        rcases Option.some.inj (found.symm.trans foundWaiting) with rfl
        simp [created] at creating

theorem foldl_abandonCall {world : World σ} (coherent : world.Coherent) (indices : List Nat) :
    (indices.foldl World.abandonCall world).Coherent := by
  induction indices generalizing world with
  | nil => exact coherent
  | cons index indices ih => exact ih (coherent.abandonCall index)

theorem shut {world : World σ} (coherent : world.Coherent) : world.shut.Coherent := by
  have folded := coherent.foldl_abandonCall (List.range world.submissions.length)
  refine of_all_cancelled (fun _ _ found => folded.loopless_emptySlot found)
    (fun _ _ found => folded.cancelled_emptySlot found) ?_
  intro submitting
  rw [World.shut, emptySlot_snapshot] at submitting
  rcases folded.pending submitting with ⟨index, submission, found, creating, _⟩
  have ended := not_pending_of_foldl_abandonCall found
  cases stage : submission.stage <;>
    simp [stage, Stage.isCreating, Stage.isPending] at creating ended

/-- Every event keeps the submissions, the slot and the snapshot together. -/
theorem occur {world : World σ} (coherent : world.Coherent) (event : Event) :
    (world.occur service event).Coherent := by
  have transition := transition_occur service world event
  generalize world.occur service event = next at transition ⊢
  cases transition with
  | idle => exact coherent
  | receiveCreate found creating => exact coherent.receiveCreate service found creating
  | askStatus found started waiting _ => exact coherent.askStatus found started waiting
  | receiveStatus found started asking => exact coherent.receiveStatus service found started asking
  | leave found cancelled polling => exact coherent.leave found cancelled polling
  | reject _ => exact coherent
  | pass span => exact ⟨coherent.loopless, coherent.owner, coherent.told, coherent.pending⟩
  | accept _ _ => exact coherent.accept _
  | halt => exact coherent.halt
  | clear => exact coherent.clear
  | download jobId => exact coherent.download service jobId
  | allow count => exact ⟨coherent.loopless, coherent.owner, coherent.told, coherent.pending⟩
  | abandonCall index => exact coherent.abandonCall index
  | shut => exact coherent.shut

theorem run {world : World σ} (coherent : world.Coherent) (events : List Event) :
    (world.run service events).Coherent :=
  run_invariant service Coherent (fun _ event coherent => coherent.occur service event) world events
    coherent

/-- The controller polls exactly when the loop of a submission in charge is running. -/
theorem polls_iff {world : World σ} (coherent : world.Coherent) :
    world.polls = true ↔
      ∃ (index : Nat) (submission : Submission), world.submissions[index]? = some submission ∧
        submission.isPolling = true ∧ submission.cancelled = false := by
  constructor
  · intro polls
    cases slot : world.slot with
    | none => simp [World.polls, slot] at polls
    | some index =>
        cases found : world.submissions[index]? with
        | none => simp [World.polls, slot, found] at polls
        | some submission =>
            simp only [World.polls, slot, found, Option.bind_some, Bool.and_eq_true,
              Bool.not_eq_true'] at polls
            exact ⟨index, submission, found, polls.2, polls.1⟩
  · rintro ⟨index, submission, found, polling, held⟩
    have slot := coherent.owner index submission found held
    simp only [World.polls, slot, Option.bind_some, found, held, Bool.not_false, Bool.true_and]
    exact polling

/-- The phase is `submitting` exactly when a single submission waits for its job and has not been
cancelled. -/
theorem submitting_iff {world : World σ} (coherent : world.Coherent) :
    world.snapshot.phase = .submitting ↔
      ∃! index : Nat, ∃ submission, world.submissions[index]? = some submission ∧
        submission.stage.isCreating = true ∧ submission.cancelled = false := by
  constructor
  · intro submitting
    rcases coherent.pending submitting with ⟨index, submission, found, creating, held⟩
    refine ⟨index, ⟨submission, found, creating, held⟩, ?_⟩
    rintro other ⟨waiting, foundWaiting, _, heldWaiting⟩
    exact coherent.eq_of_uncancelled foundWaiting found heldWaiting held
  · rintro ⟨index, ⟨submission, found, creating, held⟩, _⟩
    exact ((coherent.told index submission found held).creating creating).1

end Coherent

end World

end AuditReports
