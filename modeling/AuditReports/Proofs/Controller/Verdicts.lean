import AuditReports.Proofs.Controller.Deadlines

/-!
# What an answer comes to

An answer about a job is folded into the snapshot, and it may end the polling. It does so by itself
if it is an error, if the job has failed, or if its report is ready; and any other answer does so if
it comes at the deadline or later. Which of these it is can be told from the answer, the time at
which it came and the deadline, and it decides the phase and the progress that are shown.
-/

namespace AuditReports

namespace Job

/-- The report can be downloaded. -/
def isReady (job : Job) : Bool :=
  job.status == .completed && job.downloadReady

end Job

namespace Landing

/-- The answer ends the polling, either by itself or because it comes at the deadline or later. -/
def stops (deadline : Option Nat) (landing : Landing) : Bool :=
  !landing.goesOn || deadline.any landing.isOverdue

/-- The answer tells of a report that can be downloaded. -/
def tellsReady (landing : Landing) : Bool :=
  landing.answer.toOption.any Job.isReady

/-- The message of an answer that tells of a job. -/
def message? (landing : Landing) : Option String :=
  landing.answer.toOption.map Job.progress

end Landing

namespace Policy

variable (policy : Policy) (deadline : Option Nat)

def snapshotAfter (snapshot : Snapshot) (landing : Landing) : Snapshot :=
  match landing.answer with
  | .error error => snapshot.givenUp error.message
  | .ok job =>
      let applied := snapshot.afterStatus job
      if deadline.any landing.isOverdue then applied.overdue (policy.timeout.getD 0) else applied

def snapshotAfterAll (snapshot : Snapshot) (told : List Landing) : Snapshot :=
  told.foldl (policy.snapshotAfter deadline) snapshot

theorem snapshotAfterAll_concat (snapshot : Snapshot) (told : List Landing) (landing : Landing) :
    policy.snapshotAfterAll deadline snapshot (told ++ [landing]) =
      policy.snapshotAfter deadline (policy.snapshotAfterAll deadline snapshot told) landing := by
  simp [snapshotAfterAll]

end Policy

/-- What an answer comes to: it loses the job or tells that it has failed, tells that its report is
ready, comes too late, or lets the polling go on. -/
inductive Landing.Effect (policy : Policy) (deadline : Option Nat) (landing : Landing)
    (before : Snapshot) : Snapshot → Prop where
  | failed {after : Snapshot} (stops : landing.stops deadline = true)
      (unready : landing.tellsReady = false) (failed : after.phase = .failed)
      (progress : after.progress = none) (address : after.address = before.address) :
      Effect policy deadline landing before after
  | ready {job : Job} (stops : landing.stops deadline = true)
      (ready : landing.tellsReady = true) : Effect policy deadline landing before
        (before.jobReady job)
  | ongoing {job : Job} (goesOn : landing.stops deadline = false)
      (told : landing.answer = .ok job) : Effect policy deadline landing before
        (before.jobProgress job)

namespace Landing

variable (policy : Policy) (deadline : Option Nat) (landing : Landing) (before : Snapshot)

theorem stops_of_error {error : CallError} (lost : landing.answer = .error error) :
    landing.stops deadline = true := by
  simp [stops, goesOn, lost]

theorem stops_of_ok {job : Job} (told : landing.answer = .ok job) :
    landing.stops deadline =
      (Snapshot.outcome job == .stop || deadline.any landing.isOverdue) := by
  simp only [stops, goesOn, told]
  cases Snapshot.outcome job <;> rfl

theorem isOverdue_of_goesOn {landing : Landing} (goesOn : landing.goesOn = true) (time : Nat) :
    landing.isOverdue time = decide (time ≤ landing.time) := by
  simp [isOverdue, goesOn]

theorem isOverdue_of_stop {landing : Landing} (stop : landing.goesOn = false) (time : Nat) :
    landing.isOverdue time = false := by
  simp [isOverdue, stop]

theorem effect : landing.Effect policy deadline before
    (policy.snapshotAfter deadline before landing) := by
  cases answer : landing.answer with
  | error error =>
      simp only [Policy.snapshotAfter, answer]
      exact .failed (landing.stops_of_error deadline answer)
        (by simp [tellsReady, answer, Except.toOption]) rfl rfl rfl
  | ok job =>
      have reading := before.reading job
      have stopping := landing.stops_of_ok deadline answer
      have overdue : Snapshot.outcome job = .stop → deadline.any landing.isOverdue = false := by
        intro stop
        have decided : landing.goesOn = false := by simp [goesOn, answer, stop]
        simp [isOverdue_of_stop decided]
      simp only [Policy.snapshotAfter, answer]
      generalize before.afterStatus job = applied at reading ⊢
      generalize Snapshot.outcome job = verdict at reading stopping overdue
      cases reading with
      | failed status =>
          rw [overdue rfl, if_neg Bool.false_ne_true]
          have unready : landing.tellsReady = false := by
            simp [tellsReady, answer, Job.isReady, status, Except.toOption]
          exact .failed stopping unready rfl rfl rfl
      | ready status downloadReady =>
          rw [overdue rfl, if_neg Bool.false_ne_true]
          exact .ready stopping
            (by simp [tellsReady, answer, Job.isReady, status, downloadReady, Except.toOption])
      | progress status notReady =>
          have unready : landing.tellsReady = false := by
            simpa [tellsReady, answer, Job.isReady, Except.toOption] using notReady
          cases late : deadline.any landing.isOverdue with
          | true =>
              rw [if_pos rfl]
              exact .failed (by rw [stopping, late, Bool.or_true]) unready rfl rfl rfl
          | false =>
              rw [if_neg Bool.false_ne_true]
              exact .ongoing (by rw [stopping, late]; rfl) answer

variable {policy deadline landing before} {after : Snapshot}

theorem Effect.address (effect : landing.Effect policy deadline before after) :
    after.address = before.address := by
  cases effect with
  | failed _ _ _ _ address => exact address
  | ready _ _ => rfl
  | ongoing _ _ => rfl

theorem Effect.phase (effect : landing.Effect policy deadline before after) :
    after.phase = if landing.stops deadline then
        if landing.tellsReady then .completed else .failed
      else before.phase := by
  cases effect with
  | failed stops unready failed _ _ => simp [stops, unready, failed]
  | ready stops ready => simp [stops, ready, Snapshot.jobReady]
  | ongoing goesOn _ => simp [goesOn, Snapshot.jobProgress]

/-- An answer that stops the polling takes the progress away, and any other replaces it. -/
theorem Effect.progress (effect : landing.Effect policy deadline before after) :
    after.progress = if landing.stops deadline then none else landing.message? := by
  cases effect with
  | failed stops _ _ progress _ => simp [stops, progress]
  | ready stops _ => simp [stops, Snapshot.jobReady]
  | ongoing goesOn told => simp [goesOn, message?, told, Snapshot.jobProgress, Except.toOption]

/-- An answer with which the polling goes on has a message. -/
theorem exists_message {landing : Landing} (goesOn : landing.stops deadline = false) :
    ∃ message, landing.message? = some message := by
  cases answer : landing.answer with
  | error error =>
      cases (landing.stops_of_error deadline answer).symm.trans goesOn
  | ok job => exact ⟨job.progress, by simp [message?, answer, Except.toOption]⟩

end Landing

namespace Policy

variable {policy : Policy} {deadline : Option Nat} {snapshot : Snapshot} {told : List Landing}

theorem address_snapshotAfterAll :
    (policy.snapshotAfterAll deadline snapshot told).address = snapshot.address := by
  induction told generalizing snapshot with
  | nil => rfl
  | cons landing later ih =>
      exact ih.trans (landing.effect policy deadline snapshot).address

/-- As long as no answer stops the polling, the phase stays as it is. -/
theorem phase_snapshotAfterAll (ongoing : ∀ landing ∈ told, landing.stops deadline = false) :
    (policy.snapshotAfterAll deadline snapshot told).phase = snapshot.phase := by
  induction told generalizing snapshot with
  | nil => rfl
  | cons landing later ih =>
      have rest : (policy.snapshotAfterAll deadline (policy.snapshotAfter deadline snapshot landing)
          later).phase = (policy.snapshotAfter deadline snapshot landing).phase :=
        ih fun other listed => ongoing other (List.mem_cons_of_mem _ listed)
      have first := (landing.effect policy deadline snapshot).phase
      rw [ongoing landing List.mem_cons_self, if_neg Bool.false_ne_true] at first
      exact rest.trans first

end Policy

namespace World

variable {σ : Type}

/-- What the controller does with an answer that has just come. -/
theorem afterAnswer_eq {world : World σ} {landing : Landing} (now : landing.time = world.now)
    (deadline : Option Nat) :
    world.afterAnswer deadline landing.answer =
      (world.policy.snapshotAfter deadline world.snapshot landing,
        if landing.stops deadline then .stop else .goOn) := by
  unfold afterAnswer Policy.snapshotAfter
  cases answer : landing.answer with
  | error error => simp [landing.stops_of_error deadline answer]
  | ok job =>
      simp only [landing.stops_of_ok deadline answer]
      cases verdict : Snapshot.outcome job with
      | stop =>
          have decided : landing.goesOn = false := by simp [Landing.goesOn, answer, verdict]
          simp [Landing.isOverdue_of_stop decided]
      | goOn =>
          have goesOn : landing.goesOn = true := by simp [Landing.goesOn, answer, verdict]
          have late : deadline.any landing.isOverdue = deadline.any (· ≤ world.now) := by
            simp [Landing.isOverdue_of_goesOn goesOn, now]
          rw [late]
          cases deadline.any (· ≤ world.now) <;> rfl

end World

end AuditReports
