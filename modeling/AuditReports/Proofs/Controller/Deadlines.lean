import AuditReports.Proofs.Controller.FirstCalls
import AuditReports.Proofs.Controller.Landings
import AuditReports.Proofs.Controller.Reasons

/-!
# When a job times out

A poll loop has a deadline, but no clock of its own: it looks at the deadline only when an answer
has landed that would let polling go on. So a job times out with the first such answer that comes at
the deadline or later, at the time of that answer. An answer that ends polling by itself is never
too late, and without an answer nothing ends polling at all.

As long as nobody cancels its submission, a job is awaited first, which is to say that the phase is
`polling`, and then it has been concluded. `AwaitStep` has all that can happen to a job that is
awaited. Nothing lands for one that has been concluded, because a loop that would still let something
land is one that polls.
-/

namespace AuditReports

namespace Landing

/-- The job of which the answer tells has neither failed nor become ready. -/
def goesOn (landing : Landing) : Bool :=
  match landing.answer with
  | .error _ => false
  | .ok job => Snapshot.outcome job == .goOn

/-- The answer would let polling go on, but it comes at the deadline or later. -/
def isOverdue (deadline : Nat) (landing : Landing) : Bool :=
  landing.goesOn && deadline ≤ landing.time

/-- The reason for a failure that the answer gives itself. -/
def reason? (landing : Landing) : Option String :=
  match landing.answer with
  | .error error => some error.message
  | .ok job => if job.status = .failed then some (Snapshot.failureReason job) else none

/-- An answer that would let polling go on is not about a failure. -/
theorem reason?_of_goesOn {landing : Landing} (goesOn : landing.goesOn = true) :
    landing.reason? = none := by
  unfold Landing.goesOn at goesOn
  unfold reason?
  split
  · rename_i error lost
    simp [lost] at goesOn
  · rename_i job told
    refine if_neg fun failed => ?_
    simp [told, Snapshot.outcome, failed] at goesOn

end Landing

/-- The snapshot shows how polling was ended by an answer, by what this answer tells. -/
inductive Snapshot.DecidedBy (snapshot : Snapshot) : Except CallError Job → Prop where
  | lost (error : CallError) (failed : snapshot.phase = .failed)
      (told : snapshot.error = some error.message) : DecidedBy snapshot (.error error)
  | failed {job : Job} (status : job.status = .failed) (failed : snapshot.phase = .failed)
      (told : snapshot.error = some (failureReason job)) : DecidedBy snapshot (.ok job)
  | ready {job : Job} (status : job.status = .completed) (downloadReady : job.downloadReady = true)
      (completed : snapshot.phase = .completed) : DecidedBy snapshot (.ok job)

namespace Snapshot

theorem DecidedBy.isFinal {snapshot : Snapshot} {answer : Except CallError Job}
    (decided : snapshot.DecidedBy answer) : snapshot.phase.isFinal = true := by
  cases decided with
  | lost error failed _ => simp [failed, Phase.isFinal]
  | failed _ failed _ => simp [failed, Phase.isFinal]
  | ready _ _ completed => simp [completed, Phase.isFinal]

/-- An answer that decides is shown as a failure only with its own reason. -/
theorem DecidedBy.error {snapshot : Snapshot} {landing : Landing}
    (decided : snapshot.DecidedBy landing.answer) (failed : snapshot.phase = .failed) :
    snapshot.error = landing.reason? := by
  unfold Landing.reason?
  generalize landing.answer = answer at decided ⊢
  cases decided with
  | lost error _ told => exact told
  | failed status _ told => simp [status, told]
  | ready _ _ completed => simp [completed] at failed

theorem Reading.decidedBy {before after : Snapshot} {job : Job}
    (reading : before.Reading job after .stop) : after.DecidedBy (.ok job) := by
  cases reading with
  | failed status => exact .failed status rfl rfl
  | ready status downloadReady => exact .ready status downloadReady rfl

theorem Reading.outcome {before after : Snapshot} {job : Job} {verdict : Verdict}
    (reading : before.Reading job after verdict) : outcome job = verdict := by
  cases reading with
  | failed status => simp [Snapshot.outcome, status]
  | ready status downloadReady => simp [Snapshot.outcome, status, downloadReady]
  | progress status notReady =>
      unfold Snapshot.outcome
      split
      · contradiction
      · rename_i completed
        simp [notReady completed]
      · rfl

end Snapshot

namespace World

variable {σ : Type} (service : ReportService σ)

/-- The submission is there, and nobody has cancelled it. -/
def IsHeld (world : World σ) (index : Nat) : Prop :=
  ∃ submission, world.submissions[index]? = some submission ∧ submission.cancelled = false

/-- The answer to its create call is there, and with it the job and its poll loop. -/
def StartsPolling (world : World σ) (index : Nat) : Prop :=
  ∃ submission jobId, world.submissions[index]? = some submission ∧
    submission.stage.isCreating = true ∧ submission.cancelled = false ∧
    (service.create submission.payload world.service).1 = .ok jobId

/-- With the event the job fails with the message of the timeout. An answer may give the same text
as its own reason, which is not meant here. -/
def TimesOut (limit : Nat) (world : World σ) (event : Event) : Prop :=
  let next := world.occur service event
  world.snapshot.phase = .polling ∧ next.snapshot.phase = .failed ∧
    next.snapshot.error = some (Snapshot.timeoutMessage limit) ∧
    ∀ landing, world.landing? service event = some landing →
      landing.reason? ≠ some (Snapshot.timeoutMessage limit)

/-- In the course of the run the job fails with the message of the timeout, at that time. -/
def TimesOutAt (limit : Nat) (world : World σ) : List Event → Nat → Prop
  | [], _ => False
  | event :: events, time =>
      (world.now = time ∧ world.TimesOut service limit event) ∨
        TimesOutAt limit (world.occur service event) events time

/-! ## Submissions that nobody cancels -/

theorem IsHeld.not_isCancelled {world : World σ} {index : Nat} (held : world.IsHeld index) :
    ¬world.IsCancelled index := by
  rintro ⟨submission, found, cancelled⟩
  rcases held with ⟨other, foundOther, held⟩
  rcases Option.some.inj (found.symm.trans foundOther) with rfl
  cases cancelled.symm.trans held

theorem IsHeld.occur {world : World σ} {index : Nat} (held : world.IsHeld index) {event : Event}
    (kept : ¬(world.occur service event).IsCancelled index) :
    (world.occur service event).IsHeld index := by
  rcases held with ⟨submission, found, _⟩
  have listed : ∃ after, (world.occur service event).submissions[index]? = some after := by
    by_cases own : ∃ action, event = .act index action
    · rcases own with ⟨action, rfl⟩
      rcases exists_modify_of_act service world index action with ⟨change, submissions, _⟩
      exact ⟨change submission, by simp [submissions, List.getElem?_modify_eq, found]⟩
    · rcases occur_withdrawn service (fun action same => own ⟨action, same⟩) found with
        ⟨after, foundAfter, _⟩
      exact ⟨after, foundAfter⟩
  rcases listed with ⟨after, foundAfter⟩
  refine ⟨after, foundAfter, ?_⟩
  by_contra cancelled
  exact kept ⟨after, foundAfter, by simpa using cancelled⟩

theorem not_isCancelled_occur {world : World σ} {index : Nat} {event : Event} {events : List Event}
    (kept : ¬(world.run service (event :: events)).IsCancelled index) :
    ¬(world.occur service event).IsCancelled index :=
  fun cancelled => kept (isCancelled_run service cancelled events)

/-! ## Jobs that have been concluded -/

/-- Polling has ended, and the submission is still the one in charge. -/
structure Concluded (world : World σ) (index : Nat) : Prop where
  coherent : world.Coherent
  final : world.snapshot.phase.isFinal = true
  held : world.IsHeld index

theorem landing?_of_isFinal {world : World σ} (coherent : world.Coherent)
    (final : world.snapshot.phase.isFinal = true) (event : Event) :
    world.landing? service event = none := by
  cases landed : world.landing? service event with
  | none => rfl
  | some landing =>
      rcases (landing?_eq_some_iff service).mp landed with ⟨found, held, started, asking⟩
      have live : Submission.isLive _ = true := Bool.or_eq_true_iff.mpr (Or.inr
        ((Option.any_eq_true _ _).mpr ⟨_, started, by simp [PollLoop.isFinished, asking]⟩))
      cases held.symm.trans (coherent.cancelled_of_isFinal final found live)

namespace Concluded

theorem occur {world : World σ} {index : Nat} (concluded : world.Concluded index) {event : Event}
    (kept : ¬(world.occur service event).IsCancelled index) :
    (world.occur service event).Concluded index ∧
      (world.occur service event).snapshot.phase = world.snapshot.phase := by
  rcases concluded with ⟨coherent, final, held⟩
  have goesOn : ¬world.StartsOver event := by
    intro starts
    rcases held with ⟨submission, found, _⟩
    apply kept
    apply isCancelled_of_revokes service coherent found
    cases event with
    | submit request => exact starts
    | reset => exact starts
    | _ => exact absurd starts id
  rcases occur_eq_of_isFinal service coherent final goesOn with ⟨_, _, same⟩
  have phase : (world.occur service event).snapshot.phase = world.snapshot.phase := by rw [same]
  exact ⟨⟨coherent.occur service event, by rw [phase]; exact final, held.occur service kept⟩, phase⟩

theorem run {world : World σ} {index : Nat} (concluded : world.Concluded index)
    {events : List Event} (kept : ¬(world.run service events).IsCancelled index) :
    (world.run service events).Concluded index ∧ world.landings service events = [] ∧
      ∀ limit time, ¬world.TimesOutAt service limit events time := by
  induction events generalizing world with
  | nil => exact ⟨concluded, rfl, fun _ _ => id⟩
  | cons event events ih =>
      rcases ih (concluded.occur service (not_isCancelled_occur service kept)).1 kept with
        ⟨last, quiet, never⟩
      refine ⟨last, ?_, ?_⟩
      · simp [landings, quiet,
          landing?_of_isFinal service concluded.coherent concluded.final event]
      · rintro limit time (⟨_, polling, _⟩ | later)
        · have final := concluded.final
          simp [polling, Phase.isFinal] at final
        · exact never limit time later

end Concluded

/-! ## Jobs that are awaited -/

/-- The controller waits for the job of a submission, whose loop has a deadline. -/
structure Awaits (world : World σ) (index limit deadline : Nat) : Prop where
  coherent : world.Coherent
  timeout : world.policy.timeout = some limit
  polling : world.snapshot.phase = .polling
  held : world.IsHeld index
  pollLoop : ∃ jobId state, world.loop? index = some ⟨jobId, some deadline, state⟩

/-- What can happen to a job that is awaited, with the answer that lands if one does. -/
inductive AwaitStep (index limit deadline : Nat) (next : World σ) : Option Landing → Prop where
  | quiet (awaits : next.Awaits index limit deadline) : AwaitStep index limit deadline next none
  | inTime {landing : Landing} (goesOn : landing.goesOn = true) (early : landing.time < deadline)
      (awaits : next.Awaits index limit deadline) :
      AwaitStep index limit deadline next (some landing)
  | overdue {landing : Landing} (goesOn : landing.goesOn = true) (late : deadline ≤ landing.time)
      (concluded : next.Concluded index) (failed : next.snapshot.phase = .failed)
      (told : next.snapshot.error = some (Snapshot.timeoutMessage limit)) :
      AwaitStep index limit deadline next (some landing)
  | decided {landing : Landing} (stops : landing.goesOn = false)
      (concluded : next.Concluded index) (decided : next.snapshot.DecidedBy landing.answer) :
      AwaitStep index limit deadline next (some landing)

theorem awaits_of_startsPolling {world : World σ} {index limit : Nat} (coherent : world.Coherent)
    (timeout : world.policy.timeout = some limit) (starts : world.StartsPolling service index) :
    (world.occur service (.act index .receiveCreate)).Awaits index limit (world.now + limit) := by
  rcases starts with ⟨submission, jobId, found, creating, held, answered⟩
  have coherentNext := coherent.occur service (.act index .receiveCreate)
  have timeoutNext := (congrArg Policy.timeout
    (occur_policy service world (.act index .receiveCreate))).trans timeout
  rw [occur_receiveCreate service found creating] at coherentNext timeoutNext ⊢
  have creation := creation world.policy world.now (.ok jobId) submission
  have foundNext : (world.receiveCreate service index submission).submissions[index]? =
      some (World.answered world.policy world.now (.ok jobId) submission) := by
    simp [receiveCreate_submissions, List.getElem?_modify_eq, found, answered]
  refine ⟨coherentNext, timeoutNext, ?_, ⟨_, foundNext, creation.cancelled.trans held⟩, ?_⟩
  · simp [receiveCreate_snapshot, held, answered, Snapshot.afterCreate, Snapshot.tracking]
  · rw [loop?_of_found foundNext]
    generalize World.answered world.policy world.now (.ok jobId) submission = after at creation
    cases creation with
    | followed => exact ⟨jobId, .waiting world.now, by simp [timeout]⟩
    | unfollowed _ cancelled => cases cancelled.symm.trans held
    | stillborn => exact ⟨jobId, .finished, by simp [timeout]⟩

namespace Awaits

variable {world : World σ} {index limit deadline : Nat}

/-- Without a landing the phase stays `polling`. -/
theorem polling_occur (awaits : world.Awaits index limit deadline) {event : Event}
    (kept : ¬(world.occur service event).IsCancelled index)
    (quiet : world.landing? service event = none) :
    (world.occur service event).snapshot.phase = .polling := by
  rcases awaits.held with ⟨submission, found, held⟩
  rcases awaits.held.occur service kept with ⟨after, foundAfter, heldAfter⟩
  by_cases own : ∃ action, event = .act index action
  · -- Of its own accord the submission could only let an answer land, which is excluded: its job
    -- exists, and it has not been cancelled.
    rcases own with ⟨action, rfl⟩
    have transition := transition_act service world index action
    generalize world.occur service (.act index action) = next at transition ⊢
    cases transition with
    | idle _ => exact awaits.polling
    | askStatus _ _ _ _ => exact awaits.polling
    | receiveCreate foundOwn creating =>
        rcases Option.some.inj (found.symm.trans foundOwn) with rfl
        have submitting :=
          ((awaits.coherent.told index submission found held).creating creating).1
        cases awaits.polling.symm.trans submitting
    | receiveStatus foundOwn started asking =>
        rcases Option.some.inj (found.symm.trans foundOwn) with rfl
        cases quiet.symm.trans (landing?_of_asking service found held started asking)
    | leave foundOwn cancelled _ =>
        rcases Option.some.inj (found.symm.trans foundOwn) with rfl
        cases cancelled.symm.trans held
  · exact awaits.coherent.phase_occur service (fun action same => own ⟨action, same⟩) found
      foundAfter held heldAfter awaits.polling

/-- What lands is an answer for the submission in charge. -/
theorem receipt (awaits : world.Awaits index limit deadline) {event : Event} {landing : Landing}
    (lands : world.Lands service event landing) :
    ∃ verdict, world.Receipt (some deadline) landing.answer
      (world.occur service event).snapshot verdict := by
  have own : landing.submission = index := by
    rcases awaits.held with ⟨submission, found, held⟩
    rcases lands with ⟨foundOther, heldOther, _, _⟩
    exact awaits.coherent.eq_of_uncancelled foundOther found heldOther held
  rcases lands.snapshot service with ⟨pollLoop, started, snapshot⟩
  rcases awaits.pollLoop with ⟨jobId, state, running⟩
  rw [own, running] at started
  rcases Option.some.inj started with rfl
  rw [snapshot]
  exact ⟨_, world.receipt (some deadline) landing.answer⟩

theorem step (awaits : world.Awaits index limit deadline) {event : Event}
    (kept : ¬(world.occur service event).IsCancelled index) :
    AwaitStep index limit deadline (world.occur service event) (world.landing? service event) := by
  have coherent := awaits.coherent.occur service event
  have held := awaits.held.occur service kept
  have onward : (world.occur service event).snapshot.phase = .polling →
      (world.occur service event).Awaits index limit deadline := by
    intro polling
    refine ⟨coherent, (congrArg Policy.timeout (occur_policy service world event)).trans
      awaits.timeout, polling, held, ?_⟩
    rcases awaits.pollLoop with ⟨jobId, state, running⟩
    rcases loopStep_occur service awaits.coherent index event with ⟨_, _, step⟩
    rw [running] at step
    rcases step.exists_state service with ⟨next, after⟩
    exact ⟨jobId, next, after⟩
  cases landed : world.landing? service event with
  | none => exact .quiet (onward (awaits.polling_occur service kept landed))
  | some landing =>
      have lands := (landing?_eq_some_iff service).mp landed
      rcases awaits.receipt service lands with ⟨verdict, receipt⟩
      have time := lands.time service
      generalize same : (world.occur service event).snapshot = after at receipt
      generalize told : landing.answer = answer at receipt
      have conclude : after.phase.isFinal = true →
          (world.occur service event).Concluded index :=
        fun final => ⟨coherent, same ▸ final, held⟩
      cases receipt with
      | lost error =>
          have decided : (world.snapshot.givenUp error.message).DecidedBy landing.answer := by
            rw [told]
            exact .lost error rfl rfl
          exact .decided (by simp [Landing.goesOn, told]) (conclude rfl) (same ▸ decided)
      | ended reading =>
          have decided : after.DecidedBy landing.answer := told ▸ reading.decidedBy
          exact .decided (by simp [Landing.goesOn, told, reading.outcome])
            (conclude decided.isFinal) (same ▸ decided)
      | overdue reading late =>
          refine .overdue (by simp [Landing.goesOn, told, reading.outcome]) ?_ (conclude rfl) ?_ ?_
          · rw [time]
            simpa using late
          · rw [same]
            rfl
          · rw [same, awaits.timeout]
            rfl
      | inTime reading early =>
          refine .inTime (by simp [Landing.goesOn, told, reading.outcome]) ?_ (onward ?_)
          · rw [time]
            simpa using early
          · rw [same]
            cases reading
            exact awaits.polling

end Awaits

/-! ## What an event does to a job that is awaited -/

theorem timesOut_iff_of_step {world : World σ} {index limit deadline : Nat} {event : Event}
    (awaits : world.Awaits index limit deadline)
    (step : AwaitStep index limit deadline (world.occur service event)
      (world.landing? service event)) :
    world.TimesOut service limit event ↔
      ∃ landing, world.landing? service event = some landing ∧
        landing.isOverdue deadline = true := by
  unfold TimesOut
  generalize world.landing? service event = landed at step ⊢
  generalize world.occur service event = next at step ⊢
  cases step with
  | quiet awaitsNext => simp [awaitsNext.polling]
  | inTime goesOn early awaitsNext =>
      have punctual := Nat.not_le.mpr early
      simp [awaitsNext.polling, Landing.isOverdue, punctual]
  | @overdue landing goesOn late _ failed told =>
      simp [awaits.polling, failed, told, Landing.isOverdue, goesOn, late,
        Landing.reason?_of_goesOn goesOn]
  | @decided landing stops _ decided =>
      constructor
      · rintro ⟨_, failed, told, unreasoned⟩
        exact absurd ((decided.error failed).symm.trans told) (unreasoned landing rfl)
      · simp [Landing.isOverdue, stops]

/-! ## Main result -/

/-- A job is awaited until it has been concluded. -/
theorem awaits_or_concluded {world : World σ} {index limit deadline : Nat}
    (awaits : world.Awaits index limit deadline) {events : List Event}
    (kept : ¬(world.run service events).IsCancelled index) :
    (world.run service events).Awaits index limit deadline ∨
      (world.run service events).Concluded index := by
  induction events generalizing world with
  | nil => exact Or.inl awaits
  | cons event events ih =>
      have step := awaits.step service (not_isCancelled_occur service kept)
      generalize world.landing? service event = landed at step
      cases step with
      | quiet awaits => exact ih awaits kept
      | inTime _ _ awaits => exact ih awaits kept
      | overdue _ _ concluded _ _ => exact Or.inr (concluded.run service kept).1
      | decided _ concluded _ => exact Or.inr (concluded.run service kept).1

theorem timesOutAt_iff {world : World σ} {index limit deadline : Nat}
    (awaits : world.Awaits index limit deadline) {events : List Event}
    (kept : ¬(world.run service events).IsCancelled index) (time : Nat) :
    world.TimesOutAt service limit events time ↔
      ∃ landing, (world.landings service events).find? (·.isOverdue deadline) = some landing ∧
        landing.time = time := by
  induction events generalizing world with
  | nil => simp [TimesOutAt, landings]
  | cons event events ih =>
      have step := awaits.step service (not_isCancelled_occur service kept)
      have now := timesOut_iff_of_step service awaits step
      simp only [TimesOutAt, now, landings]
      cases landed : world.landing? service event with
      | none =>
          rw [landed] at step
          cases step with
          | quiet awaits => simp [ih awaits kept]
      | some landing =>
          have moment := ((landing?_eq_some_iff service).mp landed).time service
          rw [landed] at step
          cases step with
          | inTime goesOn early awaits =>
              simp [ih awaits kept, Landing.isOverdue, Nat.not_le.mpr early]
          | overdue goesOn late concluded _ _ =>
              have never := (concluded.run service kept).2.2 limit time
              have overdue : landing.isOverdue deadline = true := by
                simp [Landing.isOverdue, goesOn, late]
              simp [never, overdue, moment]
          | decided stops concluded _ =>
              rcases (concluded.run service kept).2 with ⟨quiet, never⟩
              simp [never, quiet, Landing.isOverdue, stops]

theorem polling_iff {world : World σ} {index limit deadline : Nat}
    (awaits : world.Awaits index limit deadline) {events : List Event}
    (kept : ¬(world.run service events).IsCancelled index) :
    (world.run service events).snapshot.phase = .polling ↔
      ∀ landing ∈ world.landings service events,
        landing.goesOn = true ∧ landing.time < deadline := by
  have ended : ∀ {last : World σ}, last.Concluded index → last.snapshot.phase ≠ .polling := by
    intro last concluded polling
    have final := concluded.final
    simp [polling, Phase.isFinal] at final
  induction events generalizing world with
  | nil => simp [awaits.polling, landings]
  | cons event events ih =>
      have step := awaits.step service (not_isCancelled_occur service kept)
      simp only [landings, run_cons]
      generalize world.landing? service event = landed at step
      cases step with
      | quiet awaits => simp [ih awaits kept]
      | inTime goesOn early awaits => simp [ih awaits kept, goesOn, early]
      | overdue goesOn late concluded _ _ =>
          simp [ended (concluded.run service kept).1, Nat.not_lt.mpr late]
      | decided stops concluded _ =>
          simp [ended (concluded.run service kept).1, stops]

variable (interval limit createDelay : Nat) (gate : Option Nat) (state : σ)

/-- A job times out with an answer or not at all. Let polling be started for a submission that
nobody cancels, and let whatever may happen, with answers that take any time. Then the job fails
with the message of the timeout at exactly one time if ever: that of the first answer that lands at
the deadline or later and would let polling go on. An answer that ends polling decides what is shown
by what it tells, whenever it lands. An event with which nothing lands leaves the phase as it is.
And the phase is `polling` for exactly as long as every answer that has landed would let polling go
on and has come before the deadline; without an answer that is forever. -/
theorem times_out_with_an_answer :
    let initial := start ⟨interval, some limit⟩ createDelay gate state
    ∀ (history events : List Event) (index : Nat),
      let created := initial.run service history
      let begun := created.occur service (.act index .receiveCreate)
      let deadline := begun.now + limit
      let last := begun.run service events
      let landings := begun.landings service events
      created.StartsPolling service index → ¬last.IsCancelled index →
        (∀ time, begun.TimesOutAt service limit events time ↔
          ∃ landing, landings.find? (·.isOverdue deadline) = some landing ∧
            landing.time = time) ∧
        (∀ earlier event later, events = earlier ++ event :: later →
          let before := begun.run service earlier
          let after := before.occur service event
          (before.landing? service event = none → after.snapshot.phase = before.snapshot.phase) ∧
          ∀ landing, before.landing? service event = some landing → landing.goesOn = false →
            after.snapshot.DecidedBy landing.answer) ∧
        (last.snapshot.phase = .polling ↔
          ∀ landing ∈ landings, landing.goesOn = true ∧ landing.time < deadline) := by
  intro initial history events index created begun deadline last landings starts kept
  have coherent : created.Coherent :=
    coherent_run service ⟨interval, some limit⟩ createDelay gate state history
  have timeout : created.policy.timeout = some limit :=
    congrArg Policy.timeout (run_policy service initial history)
  have awaits := awaits_of_startsPolling service coherent timeout starts
  have now : begun.now = created.now := occur_now service fun span => Event.noConfusion
  rw [← now] at awaits
  refine ⟨timesOutAt_iff service awaits kept, ?_, polling_iff service awaits kept⟩
  rintro earlier event later rfl before after
  have keptAfter : ¬after.IsCancelled index := by
    intro cancelled
    apply kept
    rw [show last = (begun.run service earlier).run service (event :: later) from
      run_append service begun earlier (event :: later)]
    exact isCancelled_run service cancelled later
  have keptBefore : ¬before.IsCancelled index :=
    fun cancelled => keptAfter (isCancelled_occur service cancelled event)
  rcases awaits_or_concluded service awaits keptBefore with awaits | concluded
  · have step := awaits.step service keptAfter
    constructor
    · intro quiet
      rw [awaits.polling]
      exact awaits.polling_occur service keptAfter quiet
    · intro landing landed stops
      rw [landed] at step
      cases step with
      | inTime goesOn _ _ => cases stops.symm.trans goesOn
      | overdue goesOn _ _ _ _ => cases stops.symm.trans goesOn
      | decided _ _ decided => exact decided
  · refine ⟨fun _ => (concluded.occur service keptAfter).2, ?_⟩
    intro landing landed _
    cases (landing?_of_isFinal service concluded.coherent concluded.final event).symm.trans landed

/-- The service answers twice, and takes four seconds for its second answer. -/
def secondAnswer : List Event :=
  [.act 0 .askStatus, .pass 900, .act 0 .receiveStatus, .pass 100, .act 0 .askStatus, .pass 4000,
    .act 0 .receiveStatus]

/-- A job that has just been created, with a limit of two and a half seconds. -/
def justCreated (script : Script) : World Script :=
  ((start ⟨1000, some 2500⟩ 0 none script).run Script.service [.submit sampleRequest]).occur
    Script.service (.act 0 .receiveCreate)

/-- A job that stays queued times out after five seconds, for nobody looks at the clock before. A
report that is ready is welcome after nine seconds. -/
theorem times_out_with_the_second_answer :
    (justCreated sampleScript).TimesOutAt Script.service 2500 secondAnswer 5000 ∧
      ¬(justCreated sampleScript).TimesOutAt Script.service 2500 secondAnswer 2500 ∧
      ((justCreated sampleScript).run Script.service (secondAnswer.take 6)).now = 5000 ∧
      ((justCreated sampleScript).run Script.service (secondAnswer.take 6)).snapshot.phase =
        .polling ∧
      ((justCreated readyScript).run Script.service
          [.act 0 .askStatus, .pass 9000, .act 0 .receiveStatus]).snapshot.DecidedBy
        (.ok { Job.bare "first" .completed with downloadReady := true }) := by
  have main := times_out_with_an_answer Script.service 1000 2500 0 none
  have queued := main sampleScript [.submit sampleRequest] secondAnswer 0
    ⟨_, "first", rfl, rfl, rfl, rfl⟩ (IsHeld.not_isCancelled ⟨_, rfl, rfl⟩)
  have waiting := main sampleScript [.submit sampleRequest] (secondAnswer.take 6) 0
    ⟨_, "first", rfl, rfl, rfl, rfl⟩ (IsHeld.not_isCancelled ⟨_, rfl, rfl⟩)
  have ready := main readyScript [.submit sampleRequest]
    [.act 0 .askStatus, .pass 9000, .act 0 .receiveStatus] 0 ⟨_, "first", rfl, rfl, rfl, rfl⟩
    (IsHeld.not_isCancelled ⟨_, rfl, rfl⟩)
  have overdue : (((justCreated sampleScript).landings Script.service secondAnswer).find?
      (·.isOverdue 2500)).map (·.time) = some 5000 := by decide +kernel
  have polling := waiting.2.2.mpr (by decide +kernel)
  have welcome := (ready.2.1 [.act 0 .askStatus, .pass 9000] (.act 0 .receiveStatus) [] rfl).2
  refine ⟨(queued.1 5000).mpr (Option.map_eq_some_iff.mp overdue), ?_, by decide +kernel, polling,
    welcome _ rfl rfl⟩
  intro timesOut
  cases overdue.symm.trans (Option.map_eq_some_iff.mpr ((queued.1 2500).mp timesOut))

end World

end AuditReports
