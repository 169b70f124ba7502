import AuditReports.Proofs.Controller.Lockstep
import AuditReports.Proofs.Controller.Ownership

/-!
# Downloads

A download publishes a snapshot of its own, in every phase and for any job, next to the submission
that is in charge. It must not get in the way of the work on a report, so nothing that is done about
a job may depend on what a download leaves: the error, the last download, the notifications and what
the service was asked for.

Two worlds agree on jobs if they differ in nothing else. Everything that can happen keeps them
agreeing when it happens in both, and a download that happens in one of them only keeps it as well.
So two runs agree as soon as they are the same without their downloads. Of the service it is assumed
that its own answers about jobs do not depend on downloads, as is the case with one that answers
from a script.
-/

namespace AuditReports

namespace ReportService

variable {σ τ : Type}

/-- What the service answers about jobs depends on a part of its state that a download leaves as it
is. -/
structure DownloadsApart (service : ReportService σ) (jobs : σ → τ) : Prop where
  create : ∀ payload first second, jobs first = jobs second →
    (service.create payload first).1 = (service.create payload second).1 ∧
      jobs (service.create payload first).2 = jobs (service.create payload second).2
  status : ∀ jobId first second, jobs first = jobs second →
    (service.status jobId first).1 = (service.status jobId second).1 ∧
      jobs (service.status jobId first).2 = jobs (service.status jobId second).2
  download : ∀ jobId state, jobs (service.download jobId state).2 = jobs state

end ReportService

namespace Script

/-- The answers about jobs that are left. -/
def jobAnswers (script : Script) : List (Except CallError String) × List (Except CallError Job) :=
  (script.creates, script.statuses)

theorem service_downloadsApart : service.DownloadsApart jobAnswers where
  create := by
    intro _ first second same
    rcases Prod.mk.inj same with ⟨creates, statuses⟩
    simp [service, jobAnswers, creates, statuses]
  status := by
    intro _ first second same
    rcases Prod.mk.inj same with ⟨creates, statuses⟩
    simp [service, jobAnswers, creates, statuses]
  download := fun _ _ => rfl

end Script

namespace Exchange

def isDownload : Exchange → Bool
  | .downloadAsked _ => true
  | .downloadAnswered _ _ => true
  | _ => false

end Exchange

namespace Snapshot

/-- The snapshot without what downloads leave in it. -/
def withoutDownloads (snapshot : Snapshot) : Snapshot :=
  { snapshot with error := none, lastDownload := none }

section

variable {left right : Snapshot} (same : left.withoutDownloads = right.withoutDownloads)

include same

theorem withoutDownloads_afterCreate (answer : Except CallError String) :
    (left.afterCreate answer).withoutDownloads = (right.afterCreate answer).withoutDownloads := by
  have erased : ∀ snapshot : Snapshot, (snapshot.afterCreate answer).withoutDownloads =
      (snapshot.withoutDownloads.afterCreate answer).withoutDownloads := by
    intro snapshot
    cases answer <;> rfl
  rw [erased, same, ← erased]

theorem withoutDownloads_givenUp (message : String) :
    (left.givenUp message).withoutDownloads = (right.givenUp message).withoutDownloads := by
  have erased : ∀ snapshot : Snapshot, (snapshot.givenUp message).withoutDownloads =
      (snapshot.withoutDownloads.givenUp message).withoutDownloads := fun _ => rfl
  rw [erased, same, ← erased]

theorem withoutDownloads_afterStatus (job : Job) :
    (left.afterStatus job).withoutDownloads = (right.afterStatus job).withoutDownloads := by
  have erased : ∀ snapshot : Snapshot, (snapshot.afterStatus job).withoutDownloads =
      (snapshot.withoutDownloads.afterStatus job).withoutDownloads := by
    intro snapshot
    simp only [afterStatus]
    split
    · rfl
    · split <;> rfl
    · rfl
  rw [erased, same, ← erased]

end

end Snapshot

namespace World

variable {σ τ : Type}

/-- What has passed between the controller and the service about jobs. -/
def jobEntries (world : World σ) : List Entry :=
  world.chronicle.toList.filter (!·.exchange.isDownload)

/-- The worlds differ at most in what downloads have left. -/
structure AgreesOnJobs (jobs : σ → τ) (left right : World σ) : Prop where
  policy : left.policy = right.policy
  createDelay : left.createDelay = right.createDelay
  gate : left.gate = right.gate
  service : jobs left.service = jobs right.service
  now : left.now = right.now
  snapshot : left.snapshot.withoutDownloads = right.snapshot.withoutDownloads
  slot : left.slot = right.slot
  submissions : left.submissions = right.submissions
  jobEntries : left.jobEntries = right.jobEntries

namespace AgreesOnJobs

variable {jobs : σ → τ} {left middle right : World σ}

theorem refl (world : World σ) : world.AgreesOnJobs jobs world :=
  ⟨rfl, rfl, rfl, rfl, rfl, rfl, rfl, rfl, rfl⟩

theorem symm (agrees : left.AgreesOnJobs jobs right) : right.AgreesOnJobs jobs left :=
  ⟨agrees.policy.symm, agrees.createDelay.symm, agrees.gate.symm, agrees.service.symm,
    agrees.now.symm, agrees.snapshot.symm, agrees.slot.symm, agrees.submissions.symm,
    agrees.jobEntries.symm⟩

theorem trans (first : left.AgreesOnJobs jobs middle) (second : middle.AgreesOnJobs jobs right) :
    left.AgreesOnJobs jobs right :=
  ⟨first.policy.trans second.policy, first.createDelay.trans second.createDelay,
    first.gate.trans second.gate, first.service.trans second.service, first.now.trans second.now,
    first.snapshot.trans second.snapshot, first.slot.trans second.slot,
    first.submissions.trans second.submissions, first.jobEntries.trans second.jobEntries⟩

theorem phase (agrees : left.AgreesOnJobs jobs right) :
    left.snapshot.phase = right.snapshot.phase := by
  have same := congrArg Snapshot.phase agrees.snapshot
  exact same

/-! ### The parts of a step -/

theorem update (agrees : left.AgreesOnJobs jobs right) (index : Nat)
    (change : Submission → Submission) :
    (left.update index change).AgreesOnJobs jobs (right.update index change) :=
  { agrees with
    submissions := congrArg (List.modify · index change) agrees.submissions }

theorem publish (agrees : left.AgreesOnJobs jobs right) {shown shown' : Snapshot}
    (same : shown.withoutDownloads = shown'.withoutDownloads) :
    (left.publish shown).AgreesOnJobs jobs (right.publish shown') :=
  { agrees with snapshot := same }

theorem record (agrees : left.AgreesOnJobs jobs right) (submission : Option Nat)
    (exchange : Exchange) :
    (left.record submission exchange).AgreesOnJobs jobs (right.record submission exchange) :=
  { agrees with
    jobEntries := by
      have entries : ∀ world : World σ, (world.record submission exchange).jobEntries =
          world.jobEntries ++
            [⟨world.now, submission, exchange⟩].filter (!·.exchange.isDownload) := by
        intro world
        simp [World.jobEntries, World.record, List.filter_append]
      rw [entries, entries, agrees.jobEntries, agrees.now] }

theorem serve (agrees : left.AgreesOnJobs jobs right) {state state' : σ}
    (same : jobs state = jobs state') :
    { left with service := state }.AgreesOnJobs jobs { right with service := state' } :=
  { agrees with service := same }

theorem emptySlot (agrees : left.AgreesOnJobs jobs right) :
    left.emptySlot.AgreesOnJobs jobs right.emptySlot := by
  simp only [World.emptySlot, agrees.slot]
  cases right.slot with
  | none => exact agrees
  | some index => exact { agrees.update index _ with slot := rfl }

/-! ### What a submission does of its own accord -/

section Actions

variable {service : ReportService σ} (apart : service.DownloadsApart jobs)

include apart

theorem receiveCreate (agrees : left.AgreesOnJobs jobs right) (index : Nat)
    (submission : Submission) :
    (left.receiveCreate service index submission).AgreesOnJobs jobs
      (right.receiveCreate service index submission) := by
  rcases apart.create submission.payload left.service right.service agrees.service with
    ⟨answer, state⟩
  simp only [World.receiveCreate, answer]
  generalize (service.create submission.payload right.service).1 = answer
  have recorded := (agrees.serve state).record (some index) (.createAnswered answer)
  have received := recorded.update index (answered right.policy right.now answer)
  rw [recorded.policy, recorded.now]
  cases submission.cancelled with
  | true => exact received
  | false =>
      exact received.publish (Snapshot.withoutDownloads_afterCreate received.snapshot answer)

omit apart in
theorem askStatus (agrees : left.AgreesOnJobs jobs right) (index : Nat) (pollLoop : PollLoop)
    (due : Nat) :
    (left.askStatus index pollLoop due).AgreesOnJobs jobs
      (right.askStatus index pollLoop due) := by
  rw [World.askStatus, World.askStatus, agrees.policy, agrees.now]
  exact (agrees.record (some index) (.statusAsked pollLoop.jobId)).update index _

omit apart in
theorem afterAnswer (agrees : left.AgreesOnJobs jobs right) (deadline : Option Nat)
    (answer : Except CallError Job) :
    (left.afterAnswer deadline answer).1.withoutDownloads =
        (right.afterAnswer deadline answer).1.withoutDownloads ∧
      (left.afterAnswer deadline answer).2 = (right.afterAnswer deadline answer).2 := by
  cases answer with
  | error error =>
      exact ⟨Snapshot.withoutDownloads_givenUp agrees.snapshot error.message, rfl⟩
  | ok job =>
      have applied := Snapshot.withoutDownloads_afterStatus agrees.snapshot job
      simp only [World.afterAnswer, agrees.now, agrees.policy]
      split
      · exact ⟨applied, rfl⟩
      · split
        · exact ⟨Snapshot.withoutDownloads_givenUp applied _, rfl⟩
        · exact ⟨applied, rfl⟩

theorem receiveStatus (agrees : left.AgreesOnJobs jobs right) (index : Nat)
    (submission : Submission) (pollLoop : PollLoop) (next : Nat) :
    (left.receiveStatus service index submission pollLoop next).AgreesOnJobs jobs
      (right.receiveStatus service index submission pollLoop next) := by
  rcases apart.status pollLoop.jobId left.service right.service agrees.service with
    ⟨answer, state⟩
  simp only [World.receiveStatus, answer]
  generalize (service.status pollLoop.jobId right.service).1 = answer
  have served : AgreesOnJobs jobs
      { left with
        service := (service.status pollLoop.jobId left.service).2
        gate := left.gate.map (· - 1) }
      { right with
        service := (service.status pollLoop.jobId right.service).2
        gate := right.gate.map (· - 1) } :=
    { agrees with service := state, gate := congrArg (Option.map (· - 1)) agrees.gate }
  have received := served.record (some index) (.statusAnswered pollLoop.jobId answer)
  cases submission.cancelled with
  | true => exact received.update index _
  | false =>
      have folded := received.afterAnswer pollLoop.deadline answer
      simp only [Bool.false_eq_true, if_false, folded.2]
      exact (received.publish folded.1).update index _

theorem perform (agrees : left.AgreesOnJobs jobs right) (index : Nat) (action : Action) :
    (left.perform service index action).AgreesOnJobs jobs
      (right.perform service index action) := by
  simp only [World.perform, agrees.submissions]
  cases right.submissions[index]? with
  | none => exact agrees
  | some submission =>
      dsimp only
      cases action with
      | receiveCreate => exact agrees.receiveCreate apart index submission
      | leave => exact agrees.update index _
      | askStatus =>
          cases submission.pollLoop with
          | none => exact agrees
          | some pollLoop =>
              dsimp only
              cases pollLoop.state with
              | waiting due => exact agrees.askStatus index pollLoop due
              | _ => exact agrees
      | receiveStatus =>
          cases submission.pollLoop with
          | none => exact agrees
          | some pollLoop =>
              dsimp only
              cases pollLoop.state with
              | asking next => exact agrees.receiveStatus apart index submission pollLoop next
              | _ => exact agrees

end Actions

/-! ### What is done to the controller -/

theorem accept (agrees : left.AgreesOnJobs jobs right) (payload : Payload) :
    (left.accept payload).AgreesOnJobs jobs (right.accept payload) := by
  have emptied := agrees.emptySlot
  have taken : AgreesOnJobs jobs
      { left.emptySlot with
        slot := some left.emptySlot.submissions.length
        submissions := left.emptySlot.submissions ++
          [⟨payload, false, .creating (left.emptySlot.now + left.emptySlot.createDelay), none⟩] }
      { right.emptySlot with
        slot := some left.emptySlot.submissions.length
        submissions := left.emptySlot.submissions ++
          [⟨payload, false, .creating (right.emptySlot.now + right.emptySlot.createDelay),
            none⟩] } :=
    { emptied with
      slot := rfl
      submissions := by rw [emptied.now, emptied.createDelay] }
  simp only [World.accept, ← emptied.submissions]
  exact AgreesOnJobs.record (taken.publish rfl) _ _

theorem clear (agrees : left.AgreesOnJobs jobs right) :
    left.clear.AgreesOnJobs jobs right.clear :=
  agrees.emptySlot.publish rfl

theorem halt (agrees : left.AgreesOnJobs jobs right) :
    left.halt.AgreesOnJobs jobs right.halt := by
  have emptied := agrees.emptySlot
  simp only [World.halt, emptied.phase]
  split
  · exact emptied.publish rfl
  · exact emptied

theorem allow (agrees : left.AgreesOnJobs jobs right) (count : Nat) :
    (left.allow count).AgreesOnJobs jobs (right.allow count) :=
  { agrees with gate := congrArg (Option.map (· + count)) agrees.gate }

theorem abandonCall (agrees : left.AgreesOnJobs jobs right) (index : Nat) :
    (left.abandonCall index).AgreesOnJobs jobs (right.abandonCall index) := by
  simp only [World.abandonCall, agrees.submissions]
  cases right.submissions[index]? with
  | none => exact agrees
  | some submission =>
      dsimp only
      cases submission.stage with
      | creating answerAt =>
          have abandoned := agrees.update index fun submission =>
            { submission with stage := .abandoned }
          dsimp only
          rw [abandoned.phase]
          split
          · exact abandoned
          · exact (abandoned.update index _).publish rfl
      | firstPoll jobId => exact agrees.update index _
      | _ => exact agrees

theorem shut (agrees : left.AgreesOnJobs jobs right) :
    left.shut.AgreesOnJobs jobs right.shut := by
  simp only [World.shut, agrees.submissions]
  apply emptySlot
  generalize List.range right.submissions.length = indices
  induction indices generalizing left right with
  | nil => exact agrees
  | cons index indices ih => exact ih (agrees.abandonCall index)

end AgreesOnJobs

/-- A download leaves everything about jobs as it is. -/
theorem agreesOnJobs_download {service : ReportService σ} {jobs : σ → τ}
    (apart : service.DownloadsApart jobs) (world : World σ) (jobId : String) :
    (world.download service jobId).1.AgreesOnJobs jobs world := by
  have state := apart.download jobId world.service
  have entries : (world.download service jobId).1.jobEntries = world.jobEntries := by
    simp [jobEntries, download_chronicle, Exchange.isDownload]
  rw [download] at entries ⊢
  rcases answered : service.download jobId world.service with ⟨answer, rest⟩
  rw [answered] at state entries
  cases answer with
  | error error => exact ⟨rfl, rfl, rfl, state, rfl, rfl, rfl, rfl, entries⟩
  | ok download => exact ⟨rfl, rfl, rfl, state, rfl, rfl, rfl, rfl, entries⟩

/-! ## Runs with and without downloads -/

namespace Event

def isDownload : Event → Bool
  | .download _ => true
  | _ => false

end Event

section Runs

variable {service : ReportService σ} {jobs : σ → τ} (apart : service.DownloadsApart jobs)
  {left right : World σ}

include apart

theorem AgreesOnJobs.occur (agrees : left.AgreesOnJobs jobs right) {event : Event}
    (other : event.isDownload = false) :
    (left.occur service event).AgreesOnJobs jobs (right.occur service event) := by
  cases event with
  | act index action =>
      simp only [World.occur, agrees.submissions, agrees.now]
      cases right.submissions[index]? with
      | none => exact agrees
      | some submission =>
          dsimp only
          split
          · exact agrees.perform apart index action
          · exact agrees
  | pass span => exact { agrees with now := congrArg (· + span) agrees.now }
  | submit request =>
      rcases claim_alike agrees.phase request with
        ⟨error, rejected, rejected'⟩ | ⟨payload, claimed, claimed'⟩
      · simp only [World.occur, rejected, rejected']
        exact agrees
      · simp only [World.occur, claimed, claimed']
        exact agrees.accept payload
  | stopPolling => exact agrees.halt
  | reset => exact agrees.clear
  | download jobId => cases other
  | permit count => exact agrees.allow count
  | abandon index => exact agrees.abandonCall index
  | close => exact agrees.shut

theorem AgreesOnJobs.run_filter (agrees : left.AgreesOnJobs jobs right) (events : List Event) :
    (left.run service events).AgreesOnJobs jobs
      (right.run service (events.filter (!·.isDownload))) := by
  induction events generalizing left right with
  | nil => exact agrees
  | cons event events ih =>
      cases kind : event.isDownload with
      | true =>
          rw [List.filter_cons_of_neg (by simp [kind])]
          cases event with
          | download jobId => exact ih ((agreesOnJobs_download apart left jobId).trans agrees)
          | _ => cases kind
      | false =>
          rw [List.filter_cons_of_pos (by simp [kind])]
          exact ih (agrees.occur apart kind)

theorem lockstep_agreesOnJobs : Lockstep service 0 (AgreesOnJobs (σ := σ) jobs) where
  now agrees := agrees.now
  pendingWork agrees := by rw [pendingWork, pendingWork, agrees.submissions, agrees.now]
  nextAction? agrees := by
    simp [nextAction?, isFree, agrees.submissions, agrees.now, agrees.gate]
  nextWake? agrees := by rw [nextWake?, nextWake?, agrees.submissions]
  perform agrees index action := by simpa using agrees.perform apart index action
  moveTo agrees moment := { agrees with now := rfl }

end Runs

/-- What can be learnt about jobs is the same in both worlds, apart from the errors and the
downloads that are shown. -/
structure ShowsSameJobs (left right : World σ) : Prop where
  phase : left.snapshot.phase = right.snapshot.phase
  jobId : left.snapshot.jobId = right.snapshot.jobId
  address : left.snapshot.address = right.snapshot.address
  job : left.snapshot.job = right.snapshot.job
  progress : left.snapshot.progress = right.snapshot.progress
  notice : left.snapshot.notice = right.snapshot.notice
  polls : left.polls = right.polls
  /-- The create calls and the status calls, with their times. -/
  calls : left.calls.filter (!·.2.isDownload) = right.calls.filter (!·.2.isDownload)
  results : ∀ index, Session.result? left index = Session.result? right index

theorem AgreesOnJobs.showsSameJobs {jobs : σ → τ} {left right : World σ}
    (agrees : left.AgreesOnJobs jobs right) : left.ShowsSameJobs right := by
  have same := agrees.snapshot
  simp only [Snapshot.withoutDownloads, Snapshot.mk.injEq] at same
  have calls : ∀ world : World σ, world.calls.filter (!·.2.isDownload) =
      (world.jobEntries.filter (·.exchange.isRequest)).map fun entry =>
        (entry.time, entry.exchange) := by
    intro world
    simp [World.calls, World.jobEntries, List.filter_map, List.filter_filter, Function.comp_def,
      Bool.and_comm]
  constructor
  · exact same.1
  · exact same.2.1
  · exact same.2.2.1
  · exact same.2.2.2.1
  · exact same.2.2.2.2.1
  · exact same.2.2.2.2.2.1
  · rw [polls, polls, agrees.slot, agrees.submissions]
  · rw [calls, calls, agrees.jobEntries]
  · intro index
    rw [Session.result?, Session.result?, agrees.submissions]

end World

namespace Step

def isDownload : Step → Bool
  | .download _ => true
  | _ => false

end Step

namespace Session

variable {σ τ : Type}

structure AgreesOnJobs (jobs : σ → τ) (left right : Session σ) : Prop where
  world : left.world.AgreesOnJobs jobs right.world
  submits : left.submits = right.submits
  isOpen : left.isOpen = right.isOpen

section

variable {jobs : σ → τ} {left middle right : Session σ}

theorem AgreesOnJobs.trans (first : left.AgreesOnJobs jobs middle)
    (second : middle.AgreesOnJobs jobs right) : left.AgreesOnJobs jobs right :=
  ⟨first.world.trans second.world, first.submits.trans second.submits,
    first.isOpen.trans second.isOpen⟩

theorem AgreesOnJobs.observe (agrees : left.AgreesOnJobs jobs right) {world world' : World σ}
    (next : world.AgreesOnJobs jobs world') (submits : List (Option Nat)) (isOpen : Bool)
    (download download' : Option (Except ReportError Artifact)) :
    (left.observe world submits isOpen download).1.AgreesOnJobs jobs
        (right.observe world' submits isOpen download').1 ∧
      (left.observe world submits isOpen download).2.finished =
        (right.observe world' submits isOpen download').2.finished := by
  have finished := @finishedBetween_congr σ left.world world right.world world' id
    agrees.world.showsSameJobs.results next.showsSameJobs.results 0 submits
  refine ⟨⟨next, rfl, rfl⟩, ?_⟩
  simpa [Session.observe] using finished

section Steps

variable {service : ReportService σ} (apart : service.DownloadsApart jobs)

include apart

theorem AgreesOnJobs.submit (agrees : left.AgreesOnJobs jobs right) (request : ReportRequest) :
    (left.submit service request).1.AgreesOnJobs jobs (right.submit service request).1 ∧
      (left.submit service request).2.finished = (right.submit service request).2.finished := by
  rcases World.claim_alike agrees.world.phase request with
    ⟨error, rejected, rejected'⟩ | ⟨payload, claimed, claimed'⟩
  · simp only [Session.submit, World.submit, rejected, rejected', Except.map, agrees.submits]
    have seen := agrees.observe agrees.world (right.submits ++ [none]) true none none
    exact ⟨seen.1, congrArg (· ++ _) seen.2⟩
  · have settled := (World.lockstep_agreesOnJobs apart).settle (agrees.world.accept payload)
    simp only [Session.submit, World.submit, claimed, claimed', Except.map, agrees.submits,
      agrees.world.submissions]
    exact agrees.observe settled _ true none none

/-- A step that is no download keeps two sessions agreeing, and the same submissions end. -/
theorem AgreesOnJobs.perform (agrees : left.AgreesOnJobs jobs right) {step : Step}
    (other : step.isDownload = false) :
    (left.perform service step).1.AgreesOnJobs jobs (right.perform service step).1 ∧
      (left.perform service step).2.finished = (right.perform service step).2.finished := by
  have lockstep := World.lockstep_agreesOnJobs apart
  have observed := fun {world world' : World σ} (next : world.AgreesOnJobs jobs world') isOpen =>
    agrees.observe next right.submits isOpen none none
  have refused : left.refuse.1.AgreesOnJobs jobs right.refuse.1 ∧
      left.refuse.2.finished = right.refuse.2.finished := by
    simp only [refuse, agrees.submits, agrees.isOpen]
    exact observed agrees.world right.isOpen
  cases step with
  | advance span =>
      simp only [Session.perform, agrees.submits, agrees.isOpen]
      exact observed (lockstep.advance agrees.world span) _
  | permit count =>
      simp only [Session.perform, agrees.submits, agrees.isOpen]
      exact observed (lockstep.settle (agrees.world.allow count)) _
  | close =>
      simp only [Session.perform, agrees.submits]
      exact observed (lockstep.settle agrees.world.shut) _
  | abandon number =>
      simp only [Session.perform, submission?, agrees.submits, agrees.isOpen]
      cases right.submits[number]?.join with
      | none => exact observed agrees.world _
      | some index => exact observed (lockstep.settle (agrees.world.abandonCall index)) _
  | submit request =>
      simp only [Session.perform, performOpen, agrees.isOpen]
      split
      · exact agrees.submit apart request
      · exact refused
  | stopPolling =>
      simp only [Session.perform, performOpen, agrees.isOpen, agrees.submits]
      split
      · exact observed (lockstep.settle agrees.world.halt) true
      · exact refused
  | reset =>
      simp only [Session.perform, performOpen, agrees.isOpen, agrees.submits]
      split
      · exact observed (lockstep.settle agrees.world.clear) true
      · exact refused
  | download jobId => cases other

theorem perform_download (session : Session σ) (jobId : String) :
    (session.perform service (.download jobId)).1.AgreesOnJobs jobs session ∧
      (session.perform service (.download jobId)).2.finished = [] := by
  have unchanged : session.AgreesOnJobs jobs session := ⟨.refl session.world, rfl, rfl⟩
  simp only [Session.perform, performOpen]
  cases isOpen : session.isOpen with
  | false =>
      simp only [Bool.false_eq_true, if_false]
      refine ⟨⟨.refl session.world, rfl, rfl⟩, ?_⟩
      simp [refuse, Session.observe]
  | true =>
      have agrees := World.agreesOnJobs_download apart session.world jobId
      simp only [if_true]
      refine ⟨⟨agrees, rfl, isOpen.symm⟩, ?_⟩
      exact finishedBetween_eq_nil (fun index _ => agrees.showsSameJobs.results index) 0

theorem AgreesOnJobs.after_filter (agrees : left.AgreesOnJobs jobs right) (steps : List Step) :
    (left.after service steps).AgreesOnJobs jobs
        (right.after service (steps.filter (!·.isDownload))) ∧
      (left.run service steps).flatMap (·.finished) =
        (right.run service (steps.filter (!·.isDownload))).flatMap (·.finished) := by
  induction steps generalizing left right with
  | nil => exact ⟨agrees, rfl⟩
  | cons step steps ih =>
      cases kind : step.isDownload with
      | true =>
          rw [List.filter_cons_of_neg (by simp [kind])]
          cases step with
          | download jobId =>
              -- Only the left side takes the step, and the right one need not follow.
              have first := perform_download apart left jobId
              have rest := ih (first.1.trans agrees)
              refine ⟨rest.1, ?_⟩
              rw [Session.run, List.flatMap_cons, first.2, rest.2, List.nil_append]
          | _ => cases kind
      | false =>
          rw [List.filter_cons_of_pos (by simp [kind])]
          have first := agrees.perform apart kind
          have rest := ih first.1
          refine ⟨rest.1, ?_⟩
          rw [Session.run, Session.run, List.flatMap_cons, List.flatMap_cons, first.2, rest.2]

end Steps

end

/-! ## Main result -/

variable (service : ReportService σ) (policy : Policy) (createDelay : Nat) (gate : Option Nat)
  (state : σ)

/-- Downloads do not interfere with the work on a report. In whatever order things happen, two runs
that differ only in their downloads, of whatever jobs and with whatever answers, show the same
phase, the same job with its id and address, the same progress and the same notice; the controller
polls in both or in neither, the create calls and the status calls are the same at the same times,
and so are the results of all submissions. The same holds of two sessions, which also tell the same
submissions to have ended, in the same order. -/
theorem downloads_do_not_interfere {jobs : σ → τ} (apart : service.DownloadsApart jobs) :
    let initial := World.start policy createDelay gate state
    (∀ left right : List World.Event,
      left.filter (!·.isDownload) = right.filter (!·.isDownload) →
        (initial.run service left).ShowsSameJobs (initial.run service right)) ∧
    (∀ left right : List Step,
      left.filter (!·.isDownload) = right.filter (!·.isDownload) →
        let session := Session.start initial
        (session.after service left).world.ShowsSameJobs (session.after service right).world ∧
          (session.run service left).flatMap (·.finished) =
            (session.run service right).flatMap (·.finished)) := by
  intro initial
  refine ⟨?_, ?_⟩
  · intro left right same
    have agreesLeft := (World.AgreesOnJobs.refl initial).run_filter apart left
    have agreesRight := (World.AgreesOnJobs.refl initial).run_filter apart right
    rw [← same] at agreesRight
    exact (agreesLeft.trans agreesRight.symm).showsSameJobs
  · intro left right same session
    have unchanged : session.AgreesOnJobs jobs session := ⟨.refl initial, rfl, rfl⟩
    have agreesLeft := unchanged.after_filter apart left
    have agreesRight := unchanged.after_filter apart right
    rw [← same] at agreesRight
    exact ⟨(agreesLeft.1.world.trans agreesRight.1.world.symm).showsSameJobs,
      agreesLeft.2.trans agreesRight.2.symm⟩

/-- Downloads fail while a job is created and while it is polled. They are seen in the error and
nowhere else. -/
theorem downloads_do_not_interfere_when_failing :
    let initial := World.start ⟨5000, none⟩ 0 none World.sampleScript
    let session := Session.start initial
    let events : List World.Event := [.submit World.sampleRequest, .act 0 .receiveCreate]
    let left : List Step :=
      [.submit World.sampleRequest, .download "first", .advance 5000, .download "other"]
    let right : List Step := [.submit World.sampleRequest, .advance 5000]
    Script.service.DownloadsApart Script.jobAnswers ∧
      (initial.run Script.service (events ++ [.download "first"])).ShowsSameJobs
        (initial.run Script.service events) ∧
      (initial.run Script.service (events ++ [.download "first"])).snapshot.error =
        some "Network error: no scripted download response" ∧
      (initial.run Script.service events).snapshot.error = none ∧
      (session.after Script.service left).world.ShowsSameJobs
        (session.after Script.service right).world ∧
      (session.run Script.service left).flatMap (·.finished) = [(0, .ok "first")] := by
  intro initial session events left right
  have main := downloads_do_not_interfere Script.service ⟨5000, none⟩ 0 none World.sampleScript
    Script.service_downloadsApart
  have sessions := main.2 left right rfl
  exact ⟨Script.service_downloadsApart, main.1 _ events rfl, rfl, rfl, sessions.1,
    sessions.2.trans rfl⟩

end Session

end AuditReports
