import AuditReports.Proofs.Controller.Verdicts

/-!
# Tracking a single job

A controller that gets a single submission, which nobody cancels, has an easy life: the job is
created or not, and then one answer about it lands after the other until one of them stops the
polling. `World.Tracks` has the states of such a controller. In each of them everything that can be
seen of the controller is a function of the answers in its chronicle: what its snapshot shows, how
often it has notified its watchers, what its call has returned, and where the service stands.

When the next event comes, and whether the answers take long or arrive at once, is left open. A
deadline counts from the time at which the chronicle has the answer to the create call.
-/

namespace AuditReports

namespace Entry

/-- The answer about a job that an entry is about, if it is about one. -/
def landing? : Entry → Option Landing
  | ⟨time, some submission, .statusAnswered jobId answer⟩ => some ⟨time, submission, jobId, answer⟩
  | _ => none

/-- When a create call was answered, if the entry is about that. -/
def createdAt? : Entry → Option Nat
  | ⟨time, _, .createAnswered _⟩ => some time
  | _ => none

end Entry

namespace World

variable {σ : Type} (world : World σ)

/-- What the service has told about jobs. -/
def answers : List Landing :=
  world.chronicle.toList.filterMap Entry.landing?

def createdAt? : Option Nat :=
  world.chronicle.toList.findSome? Entry.createdAt?

/-- When the time for the first job is up. -/
def deadline? : Option Nat :=
  world.createdAt?.bind fun created => world.policy.timeout.map (created + ·)

end World

/-- The service answers requests for the status of a job one after the other. -/
inductive ReportService.Tells {σ : Type} (service : ReportService σ) (jobId : String) (state : σ) :
    List (Except CallError Job) → σ → Prop where
  | nothing : Tells service jobId state [] state
  | next {answers : List (Except CallError Job)} {left : σ}
      (tells : Tells service jobId state answers left) :
      Tells service jobId state (answers ++ [(service.status jobId left).1])
        (service.status jobId left).2

namespace World

variable {σ : Type}

/-! ## The states of the controller -/

/-- What can be seen of a controller that has a single submission: how far it has come, where the
service and the snapshot stand, when the job was created, and what has been told of it. -/
structure Stands (world : World σ) (policy : Policy) (submission : Submission) (state : σ)
    (snapshot : Snapshot) (created : Option Nat) (told : List Landing) : Prop where
  agreed : world.policy = policy
  single : world.submissions = [submission]
  service : world.service = state
  snapshot : world.snapshot = snapshot
  /-- Watchers are notified of the submission, of its job, and of each answer. -/
  notified : world.notifications = 1 + created.toList.length + told.length
  created : world.createdAt? = created
  answers : world.answers = told

section Tracks

variable (service : ReportService σ) (policy : Policy) (payload : Payload) (state : σ)

/-- A submission whose job exists, and which nobody has cancelled. -/
def tracked (jobId : String) (created : Nat) (stage : Stage) (loop : LoopState) : Submission :=
  ⟨payload, false, stage, some ⟨jobId, policy.timeout.map (created + ·), loop⟩⟩

/-- The job has been created, and these answers about it have landed. -/
structure Polled (world : World σ) (jobId : String) (created : Nat) (told : List Landing)
    (loop : LoopState) : Prop where
  accepted : (service.create payload state).1 = .ok jobId
  tells : service.Tells jobId (service.create payload state).2 (told.map Landing.answer)
    world.service
  stands : world.Stands policy
    (tracked policy payload jobId created
      (if told = [] then .firstPoll jobId else .returned (.ok jobId)) loop)
    world.service
    (policy.snapshotAfterAll (policy.timeout.map (created + ·))
      ((Snapshot.submitting payload.address).tracking jobId) told)
    (some created) told

/-- How far the controller has come with its submission. -/
inductive Tracks (world : World σ) : Prop where
  /-- The create call has not been answered. -/
  | creating (stands : world.Stands policy ⟨payload, false, .creating 0, none⟩ state
      (.submitting payload.address) none [])
  | refused {error : CallError} {created : Nat}
      (refused : (service.create payload state).1 = .error error)
      (stands : world.Stands policy
        ⟨payload, false, .returned (.error (.submission error)), none⟩
        (service.create payload state).2
        ((Snapshot.submitting payload.address).withoutJob error.message) (some created) [])
  /-- The job has been created, but it cannot be polled. -/
  | unpolled {jobId : String} {created : Nat}
      (accepted : (service.create payload state).1 = .ok jobId)
      (cannotPoll : policy.canPoll created = false)
      (stands : world.Stands policy
        (tracked policy payload jobId created (.returned (.ok jobId)) .finished)
        (service.create payload state).2
        ((Snapshot.submitting payload.address).tracking jobId) (some created) [])
  | ongoing {jobId : String} {created : Nat} {told : List Landing} {loop : LoopState}
      (polled : world.Polled service policy payload state jobId created told loop)
      (active : loop ≠ .finished)
      (ongoing : ∀ landing ∈ told,
        landing.stops (policy.timeout.map (created + ·)) = false)
  | ended {jobId : String} {created : Nat} {before : List Landing} {last : Landing}
      (polled : world.Polled service policy payload state jobId created (before ++ [last])
        .finished)
      (ongoing : ∀ landing ∈ before,
        landing.stops (policy.timeout.map (created + ·)) = false)
      (stopped : last.stops (policy.timeout.map (created + ·)) = true)

end Tracks

/-! ## What happens to the controller -/

section Steps

variable {world : World σ} {policy : Policy} {submission : Submission} {state : σ}
  {snapshot : Snapshot} {created : Option Nat} {told : List Landing}

namespace Stands

theorem found (stands : world.Stands policy submission state snapshot created told)
    {other : Submission} (found : world.submissions[0]? = some other) : other = submission := by
  rw [stands.single] at found
  exact (Option.some.inj found).symm

theorem pass (stands : world.Stands policy submission state snapshot created told) (span : Nat) :
    Stands { world with now := world.now + span } policy submission state snapshot created told :=
  ⟨stands.agreed, stands.single, stands.service, stands.snapshot, stands.notified, stands.created,
    stands.answers⟩

variable (service : ReportService σ)

theorem receiveCreate (stands : world.Stands policy submission state snapshot none [])
    (held : submission.cancelled = false) :
    (world.receiveCreate service 0 submission).Stands policy
      (answered policy world.now (service.create submission.payload state).1 submission)
      (service.create submission.payload state).2
      (snapshot.afterCreate (service.create submission.payload state).1) (some world.now) [] := by
  have answers := stands.answers
  have created := stands.created
  unfold World.answers at answers
  unfold createdAt? at created
  rw [← stands.service, ← stands.snapshot, ← stands.agreed]
  constructor
  · simp [World.receiveCreate, held, publish, update, record]
  · simp [receiveCreate_submissions, stands.single]
  · exact receiveCreate_service service world 0 submission
  · rw [receiveCreate_snapshot, held]
    rfl
  · simp [World.receiveCreate, held, publish, update, record, stands.notified]
  · simp [createdAt?, receiveCreate_chronicle, created, Entry.createdAt?]
  · simp [World.answers, receiveCreate_chronicle, answers, Entry.landing?]

theorem askStatus {pollLoop : PollLoop} {due : Nat}
    (stands : world.Stands policy submission state snapshot created told) :
    (world.askStatus 0 pollLoop due).Stands policy
      (submission.withLoopState (.asking (policy.following world.now due))) state snapshot created
      told := by
  have answers := stands.answers
  have created := stands.created
  unfold World.answers at answers
  unfold createdAt? at created
  refine ⟨stands.agreed, ?_, stands.service, stands.snapshot, stands.notified, ?_, ?_⟩
  · simp [World.askStatus, update, record, stands.single, stands.agreed]
  · simp [createdAt?, World.askStatus, update, record, created, Entry.createdAt?]
  · simp [World.answers, World.askStatus, update, record, answers, Entry.landing?]

theorem receiveStatus (pollLoop : PollLoop) (next : Nat)
    (stands : world.Stands policy submission state snapshot created told)
    (held : submission.cancelled = false) :
    let answer := (service.status pollLoop.jobId state).1
    let landing : Landing := ⟨world.now, 0, pollLoop.jobId, answer⟩
    (world.receiveStatus service 0 submission pollLoop next).Stands policy
      (submission.proceed (if landing.stops pollLoop.deadline then .finished else .waiting next))
      (service.status pollLoop.jobId state).2
      (policy.snapshotAfter pollLoop.deadline snapshot landing) created (told ++ [landing]) := by
  intro answer landing
  have answers := stands.answers
  have created := stands.created
  unfold World.answers at answers
  unfold createdAt? at created
  have now : landing.time = world.now := rfl
  have applied := afterAnswer_eq now pollLoop.deadline
  rw [stands.agreed, stands.snapshot] at applied
  have same : (service.status pollLoop.jobId world.service).1 = landing.answer := by
    rw [stands.service]
  constructor
  · simp [World.receiveStatus, held, publish, update, record, stands.agreed]
  · rw [receiveStatus_submissions, stands.single, held, same, applied]
    cases landing.stops pollLoop.deadline <;> rfl
  · rw [receiveStatus_service, stands.service]
  · rw [receiveStatus_snapshot, held, same, applied]
    rfl
  · simp [World.receiveStatus, held, publish, update, record, stands.notified, Nat.add_assoc]
  · simp [createdAt?, receiveStatus_chronicle, created, Entry.createdAt?]
  · simp [World.answers, receiveStatus_chronicle, answers, Entry.landing?, stands.service, landing,
      answer]

end Stands

end Steps

section Tracks

variable {service : ReportService σ} {policy : Policy} {payload : Payload} {state : σ}
  {world : World σ}

section Polled

variable {jobId : String} {created : Nat} {told : List Landing}

theorem Polled.ask {due : Nat}
    (polled : world.Polled service policy payload state jobId created told (.waiting due)) :
    (world.askStatus 0 ⟨jobId, policy.timeout.map (created + ·), .waiting due⟩ due).Polled service
      policy payload state jobId created told (.asking (policy.following world.now due)) :=
  ⟨polled.accepted, polled.tells, polled.stands.askStatus⟩

theorem Polled.receive {next : Nat} {stage : Stage}
    (polled : world.Polled service policy payload state jobId created told (.asking next))
    (reached : stage = if told = [] then .firstPoll jobId else .returned (.ok jobId)) :
    let deadline := policy.timeout.map (created + ·)
    ∃ landing : Landing,
      (world.receiveStatus service 0 (tracked policy payload jobId created stage (.asking next))
          ⟨jobId, deadline, .asking next⟩ next).Polled service policy payload state jobId created
        (told ++ [landing]) (if landing.stops deadline then .finished else .waiting next) := by
  intro deadline
  have stands := polled.stands
  rw [← reached] at stands
  have received :=
    Stands.receiveStatus service ⟨jobId, deadline, .asking next⟩ next stands rfl
  have released : stage.released = .returned (.ok jobId) := by
    rw [reached]
    split <;> rfl
  refine ⟨⟨world.now, 0, jobId, (service.status jobId world.service).1⟩, polled.accepted, ?_, ?_⟩
  · rw [List.map_append, received.service]
    exact .next polled.tells
  · rw [received.service, if_neg (by simp), policy.snapshotAfterAll_concat, ← released]
    exact received

end Polled

namespace Tracks

theorem notCancelled (tracks : world.Tracks service policy payload state) {submission : Submission}
    (found : world.submissions[0]? = some submission) : submission.cancelled = false := by
  cases tracks with
  | creating stands => rw [stands.found found]
  | refused _ stands => rw [stands.found found]
  | unpolled _ _ stands => rw [stands.found found]; rfl
  | ongoing polled _ _ => rw [polled.stands.found found]; rfl
  | ended polled _ _ => rw [polled.stands.found found]; rfl

/-- A create call that has not been answered was made by a submission without a loop. -/
theorem stands_of_creating (tracks : world.Tracks service policy payload state)
    {submission : Submission} (found : world.submissions[0]? = some submission)
    (creating : submission.stage.isCreating = true) :
    submission = ⟨payload, false, .creating 0, none⟩ ∧
      world.Stands policy submission state (.submitting payload.address) none [] := by
  cases tracks with
  | creating stands =>
      rcases stands.found found with rfl
      exact ⟨rfl, stands⟩
  | refused _ stands =>
      rcases stands.found found with rfl
      cases creating
  | unpolled _ _ stands =>
      rcases stands.found found with rfl
      cases creating
  | ongoing polled _ _ =>
      rcases polled.stands.found found with rfl
      simp only [tracked] at creating
      split at creating <;> cases creating
  | ended polled _ _ =>
      rcases polled.stands.found found with rfl
      simp [tracked, Stage.isCreating] at creating

/-- A loop that has not come to its end polls the job, and no answer has stopped it. -/
theorem polled_of_active (tracks : world.Tracks service policy payload state)
    {submission : Submission} (found : world.submissions[0]? = some submission)
    {pollLoop : PollLoop} (started : submission.pollLoop = some pollLoop)
    (active : pollLoop.state ≠ .finished) :
    ∃ jobId created told,
      let deadline := policy.timeout.map (created + ·)
      world.Polled service policy payload state jobId created told pollLoop.state ∧
        (∀ landing ∈ told, landing.stops deadline = false) ∧
        pollLoop = ⟨jobId, deadline, pollLoop.state⟩ ∧
        submission = tracked policy payload jobId created
          (if told = [] then .firstPoll jobId else .returned (.ok jobId)) pollLoop.state := by
  cases tracks with
  | creating stands =>
      rcases stands.found found with rfl
      cases started
  | refused _ stands =>
      rcases stands.found found with rfl
      cases started
  | unpolled _ _ stands =>
      rcases stands.found found with rfl
      rcases Option.some.inj started with rfl
      exact absurd rfl active
  | ongoing polled _ ongoing =>
      rcases polled.stands.found found with rfl
      rcases Option.some.inj started with rfl
      exact ⟨_, _, _, polled, ongoing, rfl, rfl⟩
  | ended polled _ _ =>
      rcases polled.stands.found found with rfl
      rcases Option.some.inj started with rfl
      exact absurd rfl active

theorem pass (tracks : world.Tracks service policy payload state) (span : Nat) :
    (world.occur service (.pass span)).Tracks service policy payload state := by
  cases tracks with
  | creating stands => exact .creating (stands.pass span)
  | refused refused stands => exact .refused refused (stands.pass span)
  | unpolled accepted cannotPoll stands => exact .unpolled accepted cannotPoll (stands.pass span)
  | ongoing polled active ongoing =>
      exact .ongoing ⟨polled.accepted, polled.tells, polled.stands.pass span⟩ active ongoing
  | ended polled ongoing stopped =>
      exact .ended ⟨polled.accepted, polled.tells, polled.stands.pass span⟩ ongoing stopped

/-- With the answer to its create call the job is there, and its loop, or it is not. -/
theorem receiveCreate {submission : Submission}
    (fresh : submission = ⟨payload, false, .creating 0, none⟩)
    (stands : world.Stands policy submission state (.submitting payload.address) none []) :
    (world.receiveCreate service 0 submission).Tracks service policy payload state := by
  subst fresh
  have received := stands.receiveCreate service rfl
  have creation := creation policy world.now (service.create payload state).1
    ⟨payload, false, .creating 0, none⟩
  cases answer : (service.create payload state).1 with
  | error error =>
      rw [answer] at received
      exact .refused answer received
  | ok jobId =>
      rw [answer] at received creation
      generalize World.answered policy world.now (.ok jobId)
        ⟨payload, false, .creating 0, none⟩ = after at received creation
      cases creation with
      | unfollowed _ cancelled => cases cancelled
      | stillborn _ _ cannotPoll => exact .unpolled answer cannotPoll received
      | followed _ _ _ =>
          have polled : Polled service policy payload state
              (world.receiveCreate service 0 ⟨payload, false, .creating 0, none⟩) jobId world.now []
              (.waiting world.now) := by
            refine ⟨answer, ?_, ?_⟩
            · rw [received.service]
              exact .nothing
            · rw [received.service]
              exact received
          exact .ongoing polled LoopState.noConfusion fun _ listed => by cases listed

/-- Whatever the submission does, the controller goes from one of its states to another. -/
theorem act (tracks : world.Tracks service policy payload state) (action : Action) :
    (world.occur service (.act 0 action)).Tracks service policy payload state := by
  have transition := transition_act service world 0 action
  generalize world.occur service (.act 0 action) = next at transition ⊢
  cases transition with
  | idle _ => exact tracks
  | receiveCreate found creating =>
      rcases tracks.stands_of_creating found creating with ⟨fresh, stands⟩
      exact receiveCreate fresh stands
  | leave found cancelled _ => cases (tracks.notCancelled found).symm.trans cancelled
  | @askStatus _ submission pollLoop due found started waiting reached =>
      rcases tracks.polled_of_active found started (by simp [waiting]) with
        ⟨jobId, created, told, polled, ongoing, same, -⟩
      rw [waiting] at polled same
      rw [same]
      exact .ongoing polled.ask LoopState.noConfusion ongoing
  | @receiveStatus _ submission pollLoop next found started asking =>
      rcases tracks.polled_of_active found started (by simp [asking]) with
        ⟨jobId, created, told, polled, ongoing, same, is⟩
      rw [asking] at polled same is
      rw [same, is]
      rcases polled.receive rfl with ⟨landing, received⟩
      cases stops : landing.stops (policy.timeout.map (created + ·)) with
      | true =>
          rw [stops, if_pos rfl] at received
          exact .ended received ongoing stops
      | false =>
          rw [stops, if_neg Bool.false_ne_true] at received
          refine .ongoing received LoopState.noConfusion fun other listed => ?_
          rcases List.mem_append.mp listed with earlier | new
          · exact ongoing other earlier
          · rcases List.mem_singleton.mp new with rfl
            exact stops

/-! ## What can be seen in each of the states -/

theorem notifications (tracks : world.Tracks service policy payload state) :
    world.notifications = 1 + world.createdAt?.toList.length + world.answers.length := by
  cases tracks with
  | creating stands => rw [stands.created, stands.answers, stands.notified]
  | refused _ stands => rw [stands.created, stands.answers, stands.notified]
  | unpolled _ _ stands => rw [stands.created, stands.answers, stands.notified]
  | ongoing polled _ _ =>
      rw [polled.stands.created, polled.stands.answers, polled.stands.notified]
  | ended polled _ _ =>
      rw [polled.stands.created, polled.stands.answers, polled.stands.notified]

/-- The call returns an error if the job has not been created, and nothing has been asked then. -/
theorem refused_of_result {error : ReportError}
    (tracks : world.Tracks service policy payload state)
    (returned : Session.result? world 0 = some (.error error)) :
    ∃ cause, (service.create payload state).1 = .error cause ∧
      world.service = (service.create payload state).2 := by
  have result : ∀ submission, world.submissions = [submission] →
      submission.stage = .returned (.error error) := by
    intro submission single
    rw [Session.result?, single, List.getElem?_cons_zero] at returned
    simp only at returned
    split at returned
    · next is =>
        rcases Option.some.inj returned with rfl
        exact is
    · cases returned
  cases tracks with
  | creating stands => cases result _ stands.single
  | refused refused stands => exact ⟨_, refused, stands.service⟩
  | unpolled _ _ stands => cases result _ stands.single
  | @ongoing _ _ told _ polled _ _ =>
      have stage := result _ polled.stands.single
      simp only [tracked] at stage
      split at stage <;> cases stage
  | ended polled _ _ =>
      have stage := result _ polled.stands.single
      simp [tracked] at stage

end Tracks

/-- The job that has been polled is at its end: of the answers only the last one stops the
polling. -/
structure StoppedBy (world : World σ) (before : List Landing) (last : Landing) : Prop where
  answers : world.answers = before ++ [last]
  ongoing : ∀ landing ∈ before, landing.stops world.deadline? = false
  stopped : last.stops world.deadline? = true

/-- What is left of a job at the end of its polling. -/
structure Finished (service : ReportService σ) (payload : Payload) (state : σ) (world : World σ)
    (jobId : String) (before : List Landing) (last : Landing) : Prop
    extends world.StoppedBy before last where
  accepted : (service.create payload state).1 = .ok jobId
  tells : service.Tells jobId (service.create payload state).2
    ((before ++ [last]).map Landing.answer) world.service
  phase : world.snapshot.phase = if last.tellsReady then .completed else .failed
  progress : world.snapshot.progress = none
  address : world.snapshot.address = some payload.address
  /-- The snapshot is what the answers have made of it. -/
  shown : world.snapshot = world.policy.snapshotAfterAll world.deadline?
    ((Snapshot.submitting payload.address).tracking jobId) (before ++ [last])
  result : Session.result? world 0 = some (.ok jobId)

namespace Polled

variable {jobId : String} {created : Nat} {told : List Landing} {loop : LoopState}

theorem deadline?_eq (polled : world.Polled service policy payload state jobId created told loop) :
    world.deadline? = policy.timeout.map (created + ·) := by
  rw [World.deadline?, polled.stands.created, polled.stands.agreed]
  rfl

theorem address (polled : world.Polled service policy payload state jobId created told loop) :
    world.snapshot.address = some payload.address := by
  rw [polled.stands.snapshot, Policy.address_snapshotAfterAll]
  rfl

theorem result? (polled : world.Polled service policy payload state jobId created told loop) :
    Session.result? world 0 = if told = [] then none else some (.ok jobId) := by
  rw [Session.result?, polled.stands.single, List.getElem?_cons_zero]
  simp only [tracked]
  by_cases none : told = [] <;> simp [none]

theorem phase_of_ongoing
    (polled : world.Polled service policy payload state jobId created told loop)
    (ongoing : ∀ landing ∈ told, landing.stops (policy.timeout.map (created + ·)) = false) :
    world.snapshot.phase = .polling := by
  rw [polled.stands.snapshot, Policy.phase_snapshotAfterAll ongoing]
  rfl

theorem finished {before : List Landing} {last : Landing}
    (polled : world.Polled service policy payload state jobId created (before ++ [last]) loop)
    (ongoing : ∀ landing ∈ before, landing.stops (policy.timeout.map (created + ·)) = false)
    (stopped : last.stops (policy.timeout.map (created + ·)) = true) :
    world.Finished service payload state jobId before last := by
  have effect := last.effect policy (policy.timeout.map (created + ·))
    (policy.snapshotAfterAll (policy.timeout.map (created + ·))
      ((Snapshot.submitting payload.address).tracking jobId) before)
  have snapshot := polled.stands.snapshot
  rw [Policy.snapshotAfterAll_concat] at snapshot
  rw [← snapshot] at effect
  refine ⟨⟨polled.stands.answers, ?_, ?_⟩, polled.accepted, polled.tells, ?_, ?_, polled.address,
    ?_, ?_⟩
  · rwa [polled.deadline?_eq]
  · rwa [polled.deadline?_eq]
  · rw [effect.phase, stopped, if_pos rfl]
  · rw [effect.progress, stopped, if_pos rfl]
  · rw [polled.deadline?_eq, polled.stands.agreed]
    exact polled.stands.snapshot
  · rw [polled.result?, if_neg (by simp)]

end Polled

theorem Finished.isFinal {jobId : String} {before : List Landing} {last : Landing}
    (finished : world.Finished service payload state jobId before last) :
    world.snapshot.phase.isFinal = true := by
  rw [finished.phase]
  cases last.tellsReady <;> rfl

namespace Tracks

/-- The phase is final once an answer has stopped the polling, and not before. -/
theorem isFinal_iff (tracks : world.Tracks service policy payload state) :
    world.snapshot.phase.isFinal = true ↔
      ∃ jobId before last, world.Finished service payload state jobId before last := by
  refine ⟨fun final => ?_, fun ⟨_, _, _, finished⟩ => finished.isFinal⟩
  cases tracks with
  | creating stands =>
      rw [stands.snapshot] at final
      cases final
  | refused _ stands =>
      rw [stands.snapshot] at final
      cases final
  | unpolled _ _ stands =>
      rw [stands.snapshot] at final
      cases final
  | ongoing polled _ ongoing =>
      rw [polled.phase_of_ongoing ongoing] at final
      cases final
  | ended polled ongoing stopped => exact ⟨_, _, _, polled.finished ongoing stopped⟩

/-- If the last answer stops the polling, no answer before it does. -/
theorem finished_of_stops (tracks : world.Tracks service policy payload state)
    {before : List Landing} {last : Landing} (answers : world.answers = before ++ [last])
    (stops : last.stops world.deadline? = true) :
    ∃ jobId, world.Finished service payload state jobId before last := by
  cases tracks with
  | creating stands => simp [stands.answers] at answers
  | refused _ stands => simp [stands.answers] at answers
  | unpolled _ _ stands => simp [stands.answers] at answers
  | ongoing polled _ ongoing =>
      rw [polled.stands.answers] at answers
      have goesOn := ongoing last (answers ▸ List.mem_concat_self)
      rw [polled.deadline?_eq, goesOn] at stops
      cases stops
  | ended polled ongoing stopped =>
      rw [polled.stands.answers] at answers
      rcases List.append_inj' answers rfl with ⟨rfl, same⟩
      rcases List.singleton_inj.mp same with rfl
      exact ⟨_, polled.finished ongoing stopped⟩

/-- Until then the progress is the message of the last answer. -/
theorem progress_of_not_isFinal (tracks : world.Tracks service policy payload state)
    {before : List Landing} {last : Landing} (answers : world.answers = before ++ [last])
    (ongoing : world.snapshot.phase.isFinal = false) :
    ∃ message, last.message? = some message ∧ world.snapshot.progress = some message := by
  cases tracks with
  | creating stands => simp [stands.answers] at answers
  | refused _ stands => simp [stands.answers] at answers
  | unpolled _ _ stands => simp [stands.answers] at answers
  | @ongoing jobId created _ _ polled _ goOn =>
      rw [polled.stands.answers] at answers
      rcases answers with rfl
      have goesOn := goOn last List.mem_concat_self
      have effect := last.effect policy (policy.timeout.map (created + ·))
        (policy.snapshotAfterAll (policy.timeout.map (created + ·))
          ((Snapshot.submitting payload.address).tracking jobId) before)
      rw [← Policy.snapshotAfterAll_concat, ← polled.stands.snapshot] at effect
      rcases Landing.exists_message goesOn with ⟨message, is⟩
      refine ⟨message, is, ?_⟩
      rw [effect.progress, goesOn, if_neg Bool.false_ne_true, is]
  | ended polled goOn stopped =>
      rw [(polled.finished goOn stopped).isFinal] at ongoing
      cases ongoing

/-- The call returns a job if one has been created. -/
theorem accepted_of_result (tracks : world.Tracks service policy payload state) {jobId : String}
    (returned : Session.result? world 0 = some (.ok jobId)) :
    (service.create payload state).1 = .ok jobId := by
  cases tracks with
  | creating stands => simp [Session.result?, stands.single] at returned
  | refused _ stands => simp [Session.result?, stands.single] at returned
  | unpolled accepted _ stands =>
      simp only [Session.result?, stands.single, List.getElem?_cons_zero, tracked,
        Option.some.injEq, Except.ok.injEq] at returned
      rwa [returned] at accepted
  | ongoing polled _ _ =>
      rw [polled.result?] at returned
      split at returned
      · cases returned
      · cases returned
        exact polled.accepted
  | ended polled _ _ =>
      rw [polled.result?] at returned
      split at returned
      · cases returned
      · cases returned
        exact polled.accepted

/-- Once the phase is final, the submission is over. -/
theorem over_of_isFinal (tracks : world.Tracks service policy payload state)
    (final : world.snapshot.phase.isFinal = true) :
    ∃ submission, world.submissions = [submission] ∧ submission.isLive = false := by
  cases tracks with
  | creating stands =>
      rw [stands.snapshot] at final
      cases final
  | refused _ stands =>
      rw [stands.snapshot] at final
      cases final
  | unpolled _ _ stands =>
      rw [stands.snapshot] at final
      cases final
  | ongoing polled _ ongoing =>
      rw [polled.phase_of_ongoing ongoing] at final
      cases final
  | ended polled _ _ =>
      refine ⟨_, polled.stands.single, ?_⟩
      rw [if_neg (by simp)]
      rfl

/-- A job of which nothing has been told although its call has returned is not polled. -/
theorem over_of_result (tracks : world.Tracks service policy payload state) {jobId : String}
    (returned : Session.result? world 0 = some (.ok jobId)) (untold : world.answers = []) :
    ∃ submission, world.submissions = [submission] ∧ submission.isLive = false := by
  cases tracks with
  | creating stands =>
      exact ⟨_, stands.single, by simp [Session.result?, stands.single] at returned⟩
  | refused _ stands => exact ⟨_, stands.single, rfl⟩
  | unpolled _ _ stands => exact ⟨_, stands.single, rfl⟩
  | ongoing polled _ _ =>
      rw [polled.stands.answers] at untold
      rw [polled.result?, if_pos untold] at returned
      cases returned
  | ended polled _ _ =>
      rw [polled.stands.answers] at untold
      simp at untold

/-- Once an answer has been told, the call has returned with the job. -/
theorem result?_of_answers (tracks : world.Tracks service policy payload state)
    (answers : world.answers ≠ []) : ∃ jobId, Session.result? world 0 = some (.ok jobId) := by
  cases tracks with
  | creating stands => exact absurd stands.answers answers
  | refused _ stands => exact absurd stands.answers answers
  | unpolled _ _ stands => exact absurd stands.answers answers
  | ongoing polled _ _ =>
      rw [polled.stands.answers] at answers
      exact ⟨_, polled.result?.trans (if_neg answers)⟩
  | ended polled _ _ => exact ⟨_, polled.result?.trans (if_neg (by simp))⟩

end Tracks

end Tracks

/-- A submission that is over does nothing any more. -/
theorem occur_act_of_over {world : World σ} {submission : Submission}
    (single : world.submissions = [submission]) (isOver : submission.isLive = false)
    (service : ReportService σ) (action : Action) :
    world.occur service (.act 0 action) = world := by
  rcases Bool.or_eq_false_iff.mp isOver with ⟨created, ended⟩
  have found : world.submissions[0]? = some submission := by rw [single]; rfl
  have finished : ∀ pollLoop, submission.pollLoop = some pollLoop →
      pollLoop.state = .finished := by
    intro pollLoop started
    simpa [Submission.isPolling, started, PollLoop.isFinished] using ended
  have barred : submission.may world.now action = false := by
    cases action with
    | receiveCreate => exact created
    | leave => simp [Submission.may, ended]
    | askStatus =>
        cases started : submission.pollLoop with
        | none => simp [Submission.may, started]
        | some pollLoop => simp [Submission.may, started, finished pollLoop started]
    | receiveStatus =>
        cases started : submission.pollLoop with
        | none => simp [Submission.may, started]
        | some pollLoop => simp [Submission.may, started, finished pollLoop started]
  simp [occur, found, barred]

/-! ## The first state -/

/-- The controller that has just taken a request, which has not been sent yet. -/
def taken (payload : Payload) (state : σ) (policy : Policy) : World σ :=
  (start policy 0 none state).accept payload

theorem claim_start {request : ReportRequest} {payload : Payload}
    (valid : request.check = .ok payload) (policy : Policy) (state : σ) :
    (start policy 0 none state).claim request = .ok (taken payload state policy) := by
  simp [claim, valid, start, Snapshot.initial, taken]

theorem tracks_taken (service : ReportService σ) (payload : Payload) (state : σ)
    (policy : Policy) : (taken payload state policy).Tracks service policy payload state :=
  .creating ⟨rfl, rfl, rfl, rfl, rfl, rfl, rfl⟩

end World

end AuditReports
