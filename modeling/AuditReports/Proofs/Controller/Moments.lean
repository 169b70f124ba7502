import AuditReports.Proofs.Controller.Stability

/-!
# Between two halves of an answer

When the answer to a create call arrives, the controller does two things: it publishes what has
become of the job, and it starts the poll loop. Each of the two is done at once, but between them
other calls may come in, and each half looks for itself whether the submission has been cancelled.
An `Event` does both halves together. A moment is finer: it is an event or the second half of one,
and anything may happen between the halves.

Every run is a course of moments in which nothing comes between, so what holds of all courses holds
of all runs. The other way round it takes one more invariant than for runs. A submission that waits
for the second half, and has not been cancelled, is in charge without being live: the snapshot names
its job already, and nobody polls it yet.
-/

namespace AuditReports

namespace Submission

/-- The state of a submission after the first half of an answer to its create call. -/
def adopted (answer : Except CallError String) (submission : Submission) : Submission :=
  match answer with
  | .error error => { submission with stage := .returned (.error (.submission error)) }
  | .ok jobId =>
      { submission with
        stage := if submission.cancelled then .returned (.error .cancelled) else .firstPoll jobId }

/-- The first half of the answer has been dealt with, and the second has not. -/
def awaitsLoop (jobId : String) (submission : Submission) : Prop :=
  submission.stage = .firstPoll jobId ∧ submission.pollLoop = none

/-- The state of a submission after the second half. Without a loop, there is no first answer that
the call would have to wait for. -/
def launched (policy : Policy) (now : Nat) (submission : Submission) : Submission :=
  match submission.stage, submission.pollLoop with
  | .firstPoll jobId, none =>
      if submission.cancelled then { submission with stage := .returned (.ok jobId) }
      else World.polled policy now jobId submission
  | _, _ => submission

@[simp]
theorem adopted_cancelled (answer : Except CallError String) (submission : Submission) :
    (submission.adopted answer).cancelled = submission.cancelled := by
  cases answer <;> rfl

@[simp]
theorem adopted_payload (answer : Except CallError String) (submission : Submission) :
    (submission.adopted answer).payload = submission.payload := by
  cases answer <;> rfl

@[simp]
theorem adopted_pollLoop (answer : Except CallError String) (submission : Submission) :
    (submission.adopted answer).pollLoop = submission.pollLoop := by
  cases answer <;> rfl

@[simp]
theorem adopted_isCreating (answer : Except CallError String) (submission : Submission) :
    (submission.adopted answer).stage.isCreating = false := by
  cases answer with
  | error error => rfl
  | ok jobId =>
      simp only [adopted]
      split <;> rfl

/-- What the second half makes of a submission. -/
inductive Launch (policy : Policy) (now : Nat) (submission : Submission) : Submission → Prop where
  | none (unready : ∀ jobId, ¬submission.awaitsLoop jobId) : Launch policy now submission submission
  | dropped {jobId : String} (awaits : submission.awaitsLoop jobId)
      (cancelled : submission.cancelled = true) :
      Launch policy now submission { submission with stage := .returned (.ok jobId) }
  | started {jobId : String} (awaits : submission.awaitsLoop jobId)
      (held : submission.cancelled = false) (canPoll : policy.canPoll now = true) :
      Launch policy now submission
        { submission with
          stage := .firstPoll jobId
          pollLoop := some ⟨jobId, policy.timeout.map (now + ·), .waiting now⟩ }
  | stillborn {jobId : String} (awaits : submission.awaitsLoop jobId)
      (held : submission.cancelled = false) (cannotPoll : policy.canPoll now = false) :
      Launch policy now submission
        { submission with
          stage := .returned (.ok jobId)
          pollLoop := some ⟨jobId, policy.timeout.map (now + ·), .finished⟩ }

theorem launch (policy : Policy) (now : Nat) (submission : Submission) :
    submission.Launch policy now (submission.launched policy now) := by
  unfold launched
  split
  · rename_i jobId stage loopless
    by_cases token : submission.cancelled = true
    · rw [if_pos token]
      exact .dropped ⟨stage, loopless⟩ token
    · rw [if_neg token, World.polled]
      by_cases canPoll : policy.canPoll now = true
      · rw [if_pos canPoll]
        exact .started ⟨stage, loopless⟩ (by simpa using token) canPoll
      · rw [if_neg canPoll]
        exact .stillborn ⟨stage, loopless⟩ (by simpa using token) (by simpa using canPoll)
  · rename_i unready
    exact .none fun jobId awaits => unready jobId awaits.1 awaits.2

section Launches

variable {policy : Policy} {now : Nat} {submission after : Submission}

theorem Launch.cancelled (launch : submission.Launch policy now after) :
    after.cancelled = submission.cancelled := by
  cases launch <;> rfl

theorem Launch.payload (launch : submission.Launch policy now after) :
    after.payload = submission.payload := by
  cases launch <;> rfl

theorem Launch.isCreating (launch : submission.Launch policy now after) :
    after.stage.isCreating = submission.stage.isCreating := by
  cases launch with
  | none _ => rfl
  | dropped awaits _ => simp [awaits.1, Stage.isCreating]
  | started awaits _ _ => simp [awaits.1, Stage.isCreating]
  | stillborn awaits _ _ => simp [awaits.1, Stage.isCreating]

/-- After the second half there is nothing to wait for. -/
theorem Launch.not_awaitsLoop (launch : submission.Launch policy now after) (jobId : String) :
    ¬after.awaitsLoop jobId := by
  cases launch with
  | none unready => exact unready jobId
  | dropped _ _ => exact fun awaits => by cases awaits.1
  | started _ _ _ => exact fun awaits => by cases awaits.2
  | stillborn _ _ _ => exact fun awaits => by cases awaits.2

theorem Launch.tellsOf (launch : submission.Launch policy now after) {snapshot : Snapshot}
    (tells : snapshot.TellsOf submission)
    (adopted : ∀ jobId, submission.awaitsLoop jobId →
      snapshot.phase = .polling ∧ snapshot.jobId = some jobId ∧
        snapshot.address = some submission.payload.address) : snapshot.TellsOf after := by
  cases launch with
  | none _ => exact tells
  | dropped _ _ => exact ⟨fun creating => (by cases creating), tells.polling⟩
  | @started jobId awaits _ _ =>
      refine ⟨fun creating => (by cases creating), ?_⟩
      intro pollLoop started _
      rcases Option.some.inj started with rfl
      exact adopted jobId awaits
  | stillborn _ _ _ =>
      refine ⟨fun creating => (by cases creating), ?_⟩
      intro pollLoop started running
      rcases Option.some.inj started with rfl
      cases running

end Launches

/-- With nothing in between, the two halves are the whole. -/
theorem launched_adopted (policy : Policy) (now : Nat) (answer : Except CallError String)
    {submission : Submission} (loopless : submission.pollLoop = none) :
    (submission.adopted answer).launched policy now =
      World.answered policy now answer submission := by
  cases answer with
  | error error => rfl
  | ok jobId =>
      cases token : submission.cancelled <;>
        simp [adopted, launched, World.answered, World.polled, loopless, token]

end Submission

namespace World

variable {σ : Type} (service : ReportService σ)

/-! ## Moments -/

/-- The first half of an answer to a create call. -/
def adopt (world : World σ) (index : Nat) (submission : Submission) : World σ :=
  let (answer, state) := service.create submission.payload world.service
  let world := { world with service := state }.record (some index) (.createAnswered answer)
  let world := world.update index (·.adopted answer)
  if submission.cancelled then world else world.publish (world.snapshot.afterCreate answer)

/-- The second half. -/
def launch (world : World σ) (index : Nat) : World σ :=
  world.update index (·.launched world.policy world.now)

/-- A single thing that happens. Of an answer to a create call, the event is the first half only. -/
inductive Moment where
  | event (event : Event)
  | launch (index : Nat)

def happen (world : World σ) : Moment → World σ
  | .event (.act index .receiveCreate) =>
      match world.submissions[index]? with
      | none => world
      | some submission =>
          if submission.stage.isCreating then world.adopt service index submission else world
  | .event event => world.occur service event
  | .launch index => world.launch index

def play (world : World σ) (moments : List Moment) : World σ :=
  moments.foldl (happen service) world

@[simp]
theorem play_nil (world : World σ) : world.play service [] = world := rfl

@[simp]
theorem play_cons (world : World σ) (moment : Moment) (moments : List Moment) :
    world.play service (moment :: moments) = (world.happen service moment).play service moments :=
  rfl

@[simp]
theorem play_append (world : World σ) (first second : List Moment) :
    world.play service (first ++ second) = (world.play service first).play service second :=
  List.foldl_append

/-- What every moment keeps, every course keeps. -/
theorem play_invariant (invariant : World σ → Prop)
    (kept : ∀ world moment, invariant world → invariant (world.happen service moment))
    (world : World σ) (moments : List Moment) (holds : invariant world) :
    invariant (world.play service moments) := by
  induction moments generalizing world with
  | nil => exact holds
  | cons moment moments ih =>
      exact ih (world.happen service moment) (kept world moment holds)

/-- The event is all there is to it: it is no answer to a create call, or nobody waits for one. -/
def IsWhole (world : World σ) (event : Event) : Prop :=
  ∀ (index : Nat) (submission : Submission), event = .act index .receiveCreate →
    world.submissions[index]? = some submission → submission.stage.isCreating = false

/-- What a moment does. -/
inductive Happening (world : World σ) : Moment → World σ → Prop where
  | adopt {index : Nat} {submission : Submission}
      (found : world.submissions[index]? = some submission)
      (creating : submission.stage.isCreating = true) :
      Happening world (.event (.act index .receiveCreate)) (world.adopt service index submission)
  | occur {event : Event} (whole : world.IsWhole event) :
      Happening world (.event event) (world.occur service event)
  | launch (index : Nat) : Happening world (.launch index) (world.launch index)

theorem happen_event {event : Event} (other : ∀ index, event ≠ .act index .receiveCreate)
    (world : World σ) : world.happen service (.event event) = world.occur service event := by
  unfold happen
  split
  · rename_i same
    cases same
    exact absurd rfl (other _)
  · rename_i same
    cases same
    rfl
  · rename_i same
    cases same

theorem happen_receiveCreate {world : World σ} {index : Nat} {submission : Submission}
    (found : world.submissions[index]? = some submission)
    (creating : submission.stage.isCreating = true) :
    world.happen service (.event (.act index .receiveCreate)) =
      world.adopt service index submission := by
  simp [happen, found, creating]

/-- Where nobody waits for an answer, both the first half and the whole of it do nothing. -/
theorem happen_receiveCreate_of_ready {world : World σ} {index : Nat}
    (ready : ∀ submission, world.submissions[index]? = some submission →
      submission.stage.isCreating = false) :
    world.happen service (.event (.act index .receiveCreate)) =
      world.occur service (.act index .receiveCreate) := by
  cases found : world.submissions[index]? with
  | none => simp [happen, World.occur, found]
  | some submission =>
      simp [happen, World.occur, found, Submission.may, ready submission found]

theorem happening (world : World σ) (moment : Moment) :
    world.Happening service moment (world.happen service moment) := by
  cases moment with
  | launch index => exact .launch index
  | event event =>
      by_cases answer : ∃ index, event = .act index .receiveCreate
      · rcases answer with ⟨index, rfl⟩
        by_cases ready : ∀ submission, world.submissions[index]? = some submission →
            submission.stage.isCreating = false
        · rw [happen_receiveCreate_of_ready service ready]
          apply Happening.occur
          rintro other submission event found
          cases event
          exact ready submission found
        · simp only [not_forall, Bool.not_eq_false] at ready
          rcases ready with ⟨submission, found, creating⟩
          rw [happen_receiveCreate service found creating]
          exact .adopt found creating
      · rw [happen_event service (fun index same => answer ⟨index, same⟩)]
        exact .occur fun index _ same => absurd ⟨index, same⟩ answer

section Halves

variable (world : World σ) (index : Nat) (submission : Submission)

theorem adopt_submissions :
    (world.adopt service index submission).submissions =
      world.submissions.modify index
        (·.adopted (service.create submission.payload world.service).1) := by
  simp only [adopt]
  cases submission.cancelled <;> rfl

theorem adopt_snapshot :
    (world.adopt service index submission).snapshot =
      if submission.cancelled then world.snapshot
      else world.snapshot.afterCreate (service.create submission.payload world.service).1 := by
  simp only [adopt]
  cases submission.cancelled <;> rfl

theorem adopt_notifications :
    (world.adopt service index submission).notifications =
      if submission.cancelled then world.notifications else world.notifications + 1 := by
  simp only [adopt]
  cases submission.cancelled <;> rfl

@[simp]
theorem adopt_slot : (world.adopt service index submission).slot = world.slot := by
  simp only [adopt]
  cases submission.cancelled <;> rfl

@[simp]
theorem adopt_policy : (world.adopt service index submission).policy = world.policy := by
  simp only [adopt]
  cases submission.cancelled <;> rfl

@[simp]
theorem adopt_now : (world.adopt service index submission).now = world.now := by
  simp only [adopt]
  cases submission.cancelled <;> rfl

theorem adopt_chronicle :
    (world.adopt service index submission).chronicle =
      world.chronicle.push ⟨world.now, some index, .createAnswered
        (service.create submission.payload world.service).1⟩ := by
  simp only [adopt]
  cases submission.cancelled <;> rfl

end Halves

@[simp]
theorem happen_policy (world : World σ) (moment : Moment) :
    (world.happen service moment).policy = world.policy := by
  have happening := happening service world moment
  generalize world.happen service moment = next at happening ⊢
  cases happening with
  | adopt _ _ => exact adopt_policy service world _ _
  | occur _ => exact occur_policy service world _
  | launch _ => rfl

@[simp]
theorem play_policy (world : World σ) (moments : List Moment) :
    (world.play service moments).policy = world.policy :=
  play_invariant service (fun later => later.policy = world.policy)
    (fun later moment same => (happen_policy service later moment).trans same) world moments rfl

theorem le_happen_now (world : World σ) (moment : Moment) :
    world.now ≤ (world.happen service moment).now := by
  have happening := happening service world moment
  generalize world.happen service moment = next at happening ⊢
  cases happening with
  | adopt _ _ => exact Nat.le_of_eq (adopt_now service world _ _).symm
  | occur _ => exact le_occur_now service world _
  | launch _ => exact Nat.le_refl world.now

/-! ## Runs as courses -/

theorem receiveCreate_eq {world : World σ} {index : Nat} {submission : Submission}
    (found : world.submissions[index]? = some submission) (loopless : submission.pollLoop = none) :
    world.receiveCreate service index submission =
      (world.adopt service index submission).launch index := by
  have submissions : world.submissions.modify index
      (answered world.policy world.now (service.create submission.payload world.service).1) =
        (world.submissions.modify index
          (·.adopted (service.create submission.payload world.service).1)).modify index
            (·.launched world.policy world.now) := by
    apply List.ext_getElem?
    intro other
    simp only [List.getElem?_modify]
    by_cases same : index = other
    · subst other
      simp [found, Submission.launched_adopted world.policy world.now _ loopless]
    · cases world.submissions[other]? <;> simp [same]
  cases token : submission.cancelled <;>
    simpa [receiveCreate, adopt, launch, update, publish, record, token] using submissions

/-- Every run is a course of moments. -/
theorem exists_play_of_run {world : World σ} (coherent : world.Coherent) (events : List Event) :
    ∃ moments, world.play service moments = world.run service events := by
  induction events generalizing world with
  | nil => exact ⟨[], rfl⟩
  | cons event events ih =>
      rcases ih (coherent.occur service event) with ⟨later, rest⟩
      have first : ∃ moments, world.play service moments = world.occur service event := by
        have happening := happening service world (.event event)
        generalize same : world.happen service (.event event) = next at happening
        cases happening with
        | @adopt index submission found creating =>
            refine ⟨[.event (.act index .receiveCreate), .launch index], ?_⟩
            have loopless := coherent.loopless index submission found creating
            rw [occur_receiveCreate service found creating,
              receiveCreate_eq service found loopless, play_cons, same]
            rfl
        | occur _ => exact ⟨[.event event], same⟩
      rcases first with ⟨moments, happened⟩
      exact ⟨moments ++ later, by rw [play_append, happened, rest, run_cons]⟩

/-! ## What holds between the halves -/

theorem update_eq_self {world : World σ} {index : Nat} {change : Submission → Submission}
    (same : ∀ submission, world.submissions[index]? = some submission →
      change submission = submission) : world.update index change = world := by
  have submissions : world.submissions.modify index change = world.submissions := by
    apply List.ext_getElem?
    intro other
    rw [List.getElem?_modify]
    by_cases own : index = other
    · subst other
      cases found : world.submissions[index]? with
      | none => simp
      | some submission => simp [same submission found]
    · simp [own]
  simp [update, submissions]

/-- The submissions, the slot and the snapshot fit together, and the snapshot also names the job of
a submission in charge that waits for the second half. -/
structure FinelyCoherent (world : World σ) : Prop where
  coherent : world.Coherent
  adopted : ∀ (index : Nat) (submission : Submission) (jobId : String),
    world.submissions[index]? = some submission → submission.cancelled = false →
      submission.awaitsLoop jobId →
        world.snapshot.phase = .polling ∧ world.snapshot.jobId = some jobId ∧
          world.snapshot.address = some submission.payload.address

theorem finelyCoherent_start (policy : Policy) (createDelay : Nat) (gate : Option Nat)
    (state : σ) : (start policy createDelay gate state).FinelyCoherent where
  coherent := coherent_start policy createDelay gate state
  adopted := by simp [start]

namespace FinelyCoherent

theorem adopt {world : World σ} (fine : world.FinelyCoherent) {index : Nat}
    {submission : Submission} (found : world.submissions[index]? = some submission)
    (creating : submission.stage.isCreating = true) :
    (world.adopt service index submission).FinelyCoherent where
  coherent := by
    have loopless := fine.coherent.loopless index submission found creating
    refine fine.coherent.of_update found (adopt_submissions service world index submission)
      (by simp) (by simp) (by simp) ?_ ?_ ?_
    · intro cancelled
      simp [adopt_snapshot, cancelled]
    · intro _
      exact ⟨by simp, fun pollLoop started => by simp [loopless] at started⟩
    · intro held submitting
      simp only [adopt_snapshot, held, Bool.false_eq_true, if_false] at submitting
      cases answer : (service.create submission.payload world.service).1 with
      | error error => simp [answer, Snapshot.afterCreate, Snapshot.withoutJob] at submitting
      | ok jobId => simp [answer, Snapshot.afterCreate, Snapshot.tracking] at submitting
  adopted := by
    intro other after jobId foundAfter held awaits
    rw [adopt_submissions] at foundAfter
    by_cases same : index = other
    · subst other
      rw [List.getElem?_modify_eq, found] at foundAfter
      rcases Option.some.inj foundAfter with rfl
      rw [Submission.adopted_cancelled] at held
      have told := (fine.coherent.told index submission found held).creating creating
      rw [adopt_snapshot, held]
      cases answer : (service.create submission.payload world.service).1 with
      | error error =>
          rw [answer] at awaits
          cases awaits.1
      | ok created =>
          rw [answer] at awaits
          have stage := awaits.1
          simp only [Submission.adopted, held, Bool.false_eq_true, if_false] at stage
          cases stage
          exact ⟨rfl, rfl, told.2.1⟩
    · rw [List.getElem?_modify_ne _ _ same] at foundAfter
      have cancelled : submission.cancelled = true := by
        by_contra uncancelled
        exact same (fine.coherent.eq_of_uncancelled found foundAfter (by simpa using uncancelled)
          held)
      rw [adopt_snapshot, if_pos cancelled]
      exact fine.adopted other after jobId foundAfter held awaits

theorem launch {world : World σ} (fine : world.FinelyCoherent) (index : Nat) :
    (world.launch index).FinelyCoherent := by
  cases found : world.submissions[index]? with
  | none =>
      rw [World.launch, update_eq_self (by simp [found])]
      exact fine
  | some submission =>
      have launch := submission.launch world.policy world.now
      constructor
      · refine fine.coherent.of_update found rfl rfl launch.cancelled ?_ (fun _ => rfl) ?_ ?_
        · intro creating
          rw [launch.isCreating] at creating
          have loopless := fine.coherent.loopless index submission found creating
          generalize submission.launched world.policy world.now = after at launch
          cases launch with
          | none _ => exact loopless
          | dropped _ _ => exact loopless
          | started awaits _ _ => simp [awaits.1, Stage.isCreating] at creating
          | stillborn awaits _ _ => simp [awaits.1, Stage.isCreating] at creating
        · intro held
          exact launch.tellsOf (fine.coherent.told index submission found held) fun jobId =>
            fine.adopted index submission jobId found held
        · intro held submitting
          rcases fine.coherent.pending submitting with
            ⟨other, waiting, foundWaiting, creating, heldWaiting⟩
          rcases fine.coherent.eq_of_uncancelled found foundWaiting held heldWaiting with rfl
          rcases Option.some.inj (found.symm.trans foundWaiting) with rfl
          rwa [launch.isCreating]
      · intro other after jobId foundAfter held awaits
        rcases getElem?_update_eq_some foundAfter with ⟨before, foundBefore, rfl⟩
        split at held
        · rename_i same
          subst other
          rcases Option.some.inj (found.symm.trans foundBefore) with rfl
          rw [if_pos rfl] at awaits
          exact absurd awaits (launch.not_awaitsLoop jobId)
        · rename_i different
          rw [if_neg different] at awaits ⊢
          exact fine.adopted other before jobId foundBefore held awaits

/-- A submission in charge that waits for the second half after an event did so before. -/
theorem of_occur_awaitsLoop {world : World σ} {event : Event} (whole : world.IsWhole event)
    {index : Nat} {after : Submission} {jobId : String}
    (foundAfter : (world.occur service event).submissions[index]? = some after)
    (held : after.cancelled = false) (awaits : after.awaitsLoop jobId) :
    world.submissions[index]? = some after := by
  by_cases own : ∃ action, event = .act index action
  · rcases own with ⟨action, rfl⟩
    have transition := transition_act service world index action
    generalize world.occur service (.act index action) = next at transition foundAfter
    cases transition with
    | idle _ => exact foundAfter
    | @receiveCreate _ submission found creating =>
        simp [whole index submission rfl found] at creating
    | askStatus found started _ _ =>
        change (world.submissions.modify index _)[index]? = some after at foundAfter
        rw [List.getElem?_modify_eq, found] at foundAfter
        rcases Option.some.inj foundAfter with rfl
        simp [Submission.awaitsLoop, Submission.withLoopState, started] at awaits
    | receiveStatus found started _ =>
        rw [receiveStatus_submissions, List.getElem?_modify_eq, found] at foundAfter
        rcases Option.some.inj foundAfter with rfl
        simp [Submission.awaitsLoop, proceed_pollLoop _ started] at awaits
    | leave found _ polling =>
        rcases (Option.any_eq_true _ _).mp polling with ⟨pollLoop, started, _⟩
        change (world.submissions.modify index _)[index]? = some after at foundAfter
        rw [List.getElem?_modify_eq, found] at foundAfter
        rcases Option.some.inj foundAfter with rfl
        simp [Submission.awaitsLoop, proceed_pollLoop _ started] at awaits
  · cases found : world.submissions[index]? with
    | none =>
        have created := (occur_newcomer service found foundAfter).2.2
        simp [awaits.1, Stage.isCreating] at created
    | some before =>
        rcases occur_withdrawn service (fun action same => own ⟨action, same⟩) found with
          ⟨other, foundOther, withdrawn⟩
        rcases Option.some.inj (foundAfter.symm.trans foundOther) with rfl
        have token : before.cancelled = false := withdrawn.held held
        have stage : after.stage = before.stage := by
          rcases withdrawn.stage with same | ⟨_, abandoned⟩
          · exact same
          · cases awaits.1.symm.trans abandoned
        have same : before = after := by
          cases before
          cases after
          simp only [Submission.mk.injEq]
          exact ⟨withdrawn.payload.symm, token.trans held.symm, stage.symm, withdrawn.pollLoop.symm⟩
        rw [same]

theorem occur {world : World σ} (fine : world.FinelyCoherent) {event : Event}
    (whole : world.IsWhole event) : (world.occur service event).FinelyCoherent where
  coherent := fine.coherent.occur service event
  adopted := by
    intro index after jobId foundAfter held awaits
    have found := of_occur_awaitsLoop service whole foundAfter held awaits
    have told := fine.adopted index after jobId found held awaits
    have publication := publication service fine.coherent event
    generalize (world.occur service event).snapshot = shown at publication ⊢
    cases publication with
    | same => exact told
    | emptied drops =>
        rcases drops with rfl | submitting
        · simp [fine.coherent.cancelled_emptySlot foundAfter] at held
        · exact absurd (told.1.symm.trans submitting) Phase.noConfusion
    | @accepted request payload _ claimed =>
        simp only [World.occur, claimed] at foundAfter
        rcases getElem?_accept foundAfter with earlier | ⟨_, rfl⟩
        · simp [fine.coherent.cancelled_emptySlot earlier] at held
        · cases awaits.1
    | created _ _ _ waiting _ => exact absurd (told.1.symm.trans waiting) Phase.noConfusion
    | polled foundPolling heldPolling started _ _ _ =>
        -- Two submissions would be in charge.
        rcases fine.coherent.eq_of_uncancelled found foundPolling held heldPolling with rfl
        rcases Option.some.inj (found.symm.trans foundPolling) with rfl
        cases awaits.2.symm.trans started
    | downloaded other =>
        rcases download_snapshot service world other with ⟨error, lastDownload, snapshot⟩
        rw [snapshot]
        exact told

theorem happen {world : World σ} (fine : world.FinelyCoherent) (moment : Moment) :
    (world.happen service moment).FinelyCoherent := by
  have happening := happening service world moment
  generalize world.happen service moment = next at happening ⊢
  cases happening with
  | adopt found creating => exact fine.adopt service found creating
  | occur whole => exact fine.occur service whole
  | launch index => exact fine.launch index

end FinelyCoherent

/-- Whatever comes between two halves, everything fits together. -/
theorem finelyCoherent_play (policy : Policy) (createDelay : Nat) (gate : Option Nat) (state : σ)
    (moments : List Moment) :
    ((start policy createDelay gate state).play service moments).FinelyCoherent :=
  play_invariant service FinelyCoherent (fun _ moment fine => fine.happen service moment) _ moments
    (finelyCoherent_start policy createDelay gate state)

end World

end AuditReports
