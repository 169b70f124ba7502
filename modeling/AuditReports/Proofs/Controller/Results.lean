import AuditReports.Proofs.Controller.Cancellation
import AuditReports.Proofs.Controller.Diary

/-!
# What a submission returns

A submission returns one thing, and the controller tracks another: the job in the snapshot, and the
loop that polls it. That the two agree depends on where, among the moments of a course, the
submission is cancelled, and the diary of the submission has noted that. From its account it can be
read off what the call returns.

A call that returns an error never gets as far as a loop, and neither does one that is given up
before its job exists. Without a loop no status call is made, and only the answer to a create call
puts a job into the snapshot.
-/

namespace AuditReports

/-! ## What a call returns -/

/-- What a call returns, after what has arrived for its submission. -/
inductive Outcome (policy : Policy) (now : Nat) (submission : Submission) :
    List Note → Except ReportError String → Prop where
  | refused (error : CallError) (cancelled : Bool) :
      Outcome policy now submission [.answered (.error error) cancelled]
        (.error (.submission error))
  | dropped (jobId : String) :
      Outcome policy now submission [.answered (.ok jobId) true] (.error .cancelled)
  | tracked {jobId : String} {cancelled : Bool} {later : List Note}
      (told : later.all Note.isTold = true)
      (waited : policy.canPoll now = true → submission.cancelled = true ∨
        cancelled = false ∧ ∃ answer rest, later = .told jobId answer false :: rest) :
      Outcome policy now submission
        (.answered (.ok jobId) false :: .launched jobId cancelled :: later) (.ok jobId)

theorem Account.outcome {policy : Policy} {now : Nat} {diary : List Note} {submission : Submission}
    {result : Except ReportError String} (account : Account policy now diary submission)
    (returned : submission.stage = .returned result) :
    Outcome policy now submission diary result := by
  cases account with
  | refused cancelled stage _ =>
      cases returned.symm.trans stage
      exact .refused _ cancelled
  | dropped jobId stage _ =>
      cases returned.symm.trans stage
      exact .dropped jobId
  | tracked stage told waited =>
      cases returned.symm.trans stage
      exact .tracked told waited
  | waiting creating _ => simp [returned, Stage.isCreating] at creating
  | adopted awaits => cases returned.symm.trans awaits.1
  | polling stage _ _ => cases returned.symm.trans stage
  | givenUp stage _ => cases returned.symm.trans stage
  | left stage => cases returned.symm.trans stage

namespace Outcome

variable {policy : Policy} {now : Nat} {submission : Submission} {diary : List Note}
  {result : Except ReportError String}

theorem not_mem_of_isTold {later : List Note} (told : later.all Note.isTold = true)
    (answer : Except CallError String) (cancelled : Bool) :
    .answered answer cancelled ∉ later := by
  intro listed
  cases List.all_eq_true.mp told _ listed

theorem eq_ok_iff (outcome : Outcome policy now submission diary result) (jobId : String) :
    result = .ok jobId ↔ .answered (.ok jobId) false ∈ diary := by
  cases outcome with
  | tracked told _ => simp [not_mem_of_isTold told, eq_comm]
  | _ => simp

theorem eq_cancelled_iff (outcome : Outcome policy now submission diary result) :
    result = .error .cancelled ↔ ∃ jobId, .answered (.ok jobId) true ∈ diary := by
  cases outcome with
  | tracked told _ => simp [not_mem_of_isTold told]
  | _ => simp

theorem eq_submission_iff (outcome : Outcome policy now submission diary result)
    (error : CallError) :
    result = .error (.submission error) ↔
      ∃ cancelled, .answered (.error error) cancelled ∈ diary := by
  cases outcome with
  | tracked told _ => simp [not_mem_of_isTold told]
  | refused _ _ => simp [eq_comm]
  | dropped _ => simp

end Outcome

/-- What a call has returned agrees with what has arrived for its submission. It returns a job
exactly if the job was created while the submission was uncancelled, and the second half of that
answer has followed; it returns `cancelled` exactly if the job was created after the submission had
been cancelled, and an error of the create call exactly if that failed. -/
structure ResultAgrees (policy : Policy) (now : Nat) (submission : Submission) (diary : List Note)
    (result : Except ReportError String) : Prop where
  ok_iff : ∀ jobId, result = .ok jobId ↔ .answered (.ok jobId) false ∈ diary
  cancelled_iff : result = .error .cancelled ↔ ∃ jobId, .answered (.ok jobId) true ∈ diary
  submission_iff : ∀ error, result = .error (.submission error) ↔
    ∃ cancelled, .answered (.error error) cancelled ∈ diary
  /-- With a job in hand, the submission has been cancelled or the first answer about the job has
  been told to it, unless the time limit ends beyond what the clock can tell. -/
  awaited : ∀ jobId, result = .ok jobId → ∃ cancelled later,
    diary = .answered (.ok jobId) false :: .launched jobId cancelled :: later ∧
      (policy.interval ≠ 0 → submission.cancelled = true ∨
        (cancelled = false ∧ ∃ answer rest, later = .told jobId answer false :: rest) ∨
        ∃ limit, policy.timeout = some limit ∧ Policy.lastSecond < (now + limit) / 1000)

theorem Outcome.resultAgrees {policy : Policy} {now : Nat} {submission : Submission}
    {diary : List Note} {result : Except ReportError String}
    (outcome : Outcome policy now submission diary result) :
    ResultAgrees policy now submission diary result := by
  refine ⟨outcome.eq_ok_iff, outcome.eq_cancelled_iff, outcome.eq_submission_iff, ?_⟩
  rintro jobId rfl
  cases outcome with
  | @tracked _ cancelled later told waited =>
      refine ⟨cancelled, later, rfl, fun paced => ?_⟩
      by_cases inReach : ∀ limit, policy.timeout = some limit →
          (now + limit) / 1000 ≤ Policy.lastSecond
      · rcases waited (World.canPoll_iff.mpr ⟨paced, inReach⟩) with withdrawn | answered
        · exact .inl withdrawn
        · exact .inr (.inl answered)
      · rcases not_forall.mp inReach with ⟨limit, beyond⟩
        rcases Classical.not_imp.mp beyond with ⟨given, beyond⟩
        exact .inr (.inr ⟨limit, given, Nat.lt_of_not_le beyond⟩)

/-! ## Calls that never start a loop -/

namespace Submission

/-- The call is over, and no loop was started for it. -/
structure IsUnfollowed (submission : Submission) : Prop where
  ended : submission.stage.isPending = false
  loopless : submission.pollLoop = none

theorem Evolution.of_isUnfollowed {policy : Policy} {now : Nat} {before after : Submission}
    {note : Option Note} (evolution : before.Evolution policy now note after)
    (unfollowed : before.IsUnfollowed) : note = none ∧ after.IsUnfollowed := by
  cases evolution with
  | withdrawn withdrawn =>
      exact ⟨rfl, withdrawn.isPending_eq_false unfollowed.ended,
        withdrawn.pollLoop.trans unfollowed.loopless⟩
  | answered creating _ =>
      cases unfollowed.ended.symm.trans (Stage.isPending_of_isCreating creating)
  | launched awaits _ =>
      have pending : before.stage.isPending = true := by simp [awaits.1, Stage.isPending]
      cases unfollowed.ended.symm.trans pending
  | asked started _ => cases started.symm.trans unfollowed.loopless
  | told started _ _ => cases started.symm.trans unfollowed.loopless
  | left _ started => cases started.symm.trans unfollowed.loopless

/-- A loop that was started stays. -/
theorem Evolution.loopless {policy : Policy} {now : Nat} {before after : Submission}
    {note : Option Note} (evolution : before.Evolution policy now note after)
    (loopless : after.pollLoop = none) : before.pollLoop = none := by
  cases evolution with
  | withdrawn withdrawn => exact withdrawn.pollLoop.symm.trans loopless
  | answered _ answer => simpa using loopless
  | launched awaits _ => exact awaits.2
  | asked started _ => simp [Submission.withLoopState, started] at loopless
  | told started _ _ => simp [World.proceed_pollLoop _ started] at loopless
  | left _ started => simp [World.proceed_pollLoop _ started] at loopless

end Submission

/-- A call that has returned an error, and one that was given up before its create call was
answered, are over, and no job was created for them in time. -/
theorem Account.of_failed {policy : Policy} {now : Nat} {diary : List Note}
    {submission : Submission} (account : Account policy now diary submission)
    (failed : (∃ error, submission.stage = .returned (.error error)) ∨
      submission.stage = .abandoned ∧ ∀ answer cancelled, .answered answer cancelled ∉ diary) :
    submission.IsUnfollowed ∧ ∀ jobId, .answered (.ok jobId) false ∉ diary := by
  have ended : submission.stage.isPending = false := by
    rcases failed with ⟨error, returned⟩ | ⟨abandoned, _⟩
    · simp [returned, Stage.isPending]
    · simp [abandoned, Stage.isPending]
  cases account with
  | waiting _ loopless => exact ⟨⟨ended, loopless⟩, by simp⟩
  | refused _ _ loopless => exact ⟨⟨ended, loopless⟩, by simp⟩
  | dropped _ _ loopless => exact ⟨⟨ended, loopless⟩, by simp⟩
  | givenUp _ loopless => exact ⟨⟨ended, loopless⟩, by simp⟩
  | adopted awaits => simp [awaits.1, Stage.isPending] at ended
  | polling stage _ _ => simp [stage, Stage.isPending] at ended
  | tracked stage _ _ => simp [stage] at failed
  | left stage =>
      rcases failed with ⟨error, returned⟩ | ⟨_, unanswered⟩
      · cases stage.symm.trans returned
      · exact absurd List.mem_cons_self (unanswered _ _)

namespace World

variable {σ : Type} (service : ReportService σ)

theorem isUnfollowed_play {world : World σ} {index : Nat} {submission : Submission}
    (found : world.submissions[index]? = some submission) (unfollowed : submission.IsUnfollowed)
    (moments : List Moment) :
    (∃ after, (world.play service moments).submissions[index]? = some after ∧ after.IsUnfollowed) ∧
      world.diary service index moments = [] := by
  induction moments generalizing world submission with
  | nil => exact ⟨⟨submission, found, unfollowed⟩, rfl⟩
  | cons moment moments ih =>
      rcases evolution service found moment with ⟨after, foundAfter, evolution⟩
      rcases evolution.of_isUnfollowed unfollowed with ⟨silent, unfollowedAfter⟩
      rcases ih foundAfter unfollowedAfter with ⟨last, rest⟩
      refine ⟨last, ?_⟩
      rw [diary, silent, rest]
      rfl

/-- No status call is made for a submission without a loop. -/
def Silent (world : World σ) (index : Nat) : Prop :=
  (∀ submission, world.submissions[index]? = some submission → submission.pollLoop = none) →
    world.statusCalls index = []

theorem statusCalls_happen {world : World σ} {index : Nat}
    (loopless : ∀ submission, world.submissions[index]? = some submission →
      submission.pollLoop = none) (moment : Moment) :
    (world.happen service moment).statusCalls index = world.statusCalls index := by
  have happening := happening service world moment
  generalize world.happen service moment = next at happening ⊢
  cases happening with
  | adopt _ _ => exact statusCalls_push (adopt_chronicle service world _ _) fun _ => rfl
  | launch _ => rfl
  | @occur event _ =>
      by_cases asks : event = .act index .askStatus
      · subst asks
        have transition := transition_act service world index .askStatus
        generalize world.occur service (.act index .askStatus) = next at transition ⊢
        cases transition with
        | idle _ => rfl
        | askStatus found started _ _ => cases started.symm.trans (loopless _ found)
      · exact statusCalls_occur service asks

theorem Silent.happen {world : World σ} {index : Nat} (silent : world.Silent index)
    (moment : Moment) : (world.happen service moment).Silent index := by
  intro loopless
  have before : ∀ submission, world.submissions[index]? = some submission →
      submission.pollLoop = none := by
    intro submission found
    rcases evolution service found moment with ⟨after, foundAfter, evolution⟩
    exact evolution.loopless (loopless after foundAfter)
  rw [statusCalls_happen service before moment]
  exact silent before

theorem silent_play (policy : Policy) (createDelay : Nat) (gate : Option Nat) (state : σ)
    (moments : List Moment) (index : Nat) :
    ((start policy createDelay gate state).play service moments).Silent index :=
  play_invariant service (fun world => world.Silent index)
    (fun _ moment silent => silent.happen service moment) _ moments fun _ => rfl

/-! ## Where the job in the snapshot comes from -/

/-- Only the answer to a create call puts a job into the snapshot. -/
theorem exists_answered_of_jobId {world : World σ} (fine : world.FinelyCoherent) {moment : Moment}
    {jobId : String} (shown : (world.happen service moment).snapshot.jobId = some jobId)
    (new : world.snapshot.jobId ≠ some jobId) :
    ∃ index, world.note? service index moment = some (.answered (.ok jobId) false) := by
  have happening := happening service world moment
  generalize world.happen service moment = next at happening shown
  cases happening with
  | @adopt index submission found creating =>
      rw [adopt_snapshot] at shown
      cases token : submission.cancelled with
      | true => exact absurd (by simpa [token] using shown) new
      | false =>
          cases answer : (service.create submission.payload world.service).1 with
          | error error => simp [token, answer, Snapshot.afterCreate, Snapshot.withoutJob] at shown
          | ok created =>
              simp only [token, answer, Snapshot.afterCreate, Snapshot.tracking,
                Bool.false_eq_true, if_false, Option.some.injEq] at shown
              refine ⟨index, ?_⟩
              rw [note?_of_own service rfl found]
              simp [Submission.note?, creating, token, answer, shown]
  | launch _ => exact absurd shown new
  | @occur event whole =>
      have publication := publication service fine.coherent event
      generalize (world.occur service event).snapshot = after at publication shown
      cases publication with
      | same => exact absurd shown new
      | emptied _ => cases shown
      | accepted _ _ => cases shown
      | created found _ creating _ _ =>
          cases creating.symm.trans (whole _ _ rfl found)
      | polled _ _ _ _ _ receipt => exact absurd (receipt.jobId.symm.trans shown) new
      | downloaded other =>
          rcases download_snapshot service world other with ⟨error, lastDownload, snapshot⟩
          rw [snapshot] at shown
          exact absurd shown new

/-! ## What the notes stand for -/

theorem happen_of_answered {world : World σ} (fine : world.FinelyCoherent) {index : Nat}
    {moment : Moment} {answer : Except CallError String} {cancelled : Bool}
    (noted : world.note? service index moment = some (.answered answer cancelled)) :
    (cancelled = true →
      (world.happen service moment).snapshot = world.snapshot ∧
        (world.happen service moment).notifications = world.notifications) ∧
    (cancelled = false → world.snapshot.phase = .submitting ∧
      (world.happen service moment).snapshot = world.snapshot.afterCreate answer ∧
        (world.happen service moment).notifications = world.notifications + 1) := by
  rcases noted_of_note? service noted with ⟨own, submission, found, noted⟩
  cases noted with
  | answered creating =>
      cases own
      rw [happen_receiveCreate service found creating, adopt_snapshot, adopt_notifications]
      constructor
      · intro cancelled
        simp [cancelled]
      · intro held
        have told := (fine.coherent.told index submission found held).creating creating
        simp [held, told.1]

theorem happen_of_launched {world : World σ} {index : Nat} {moment : Moment} {jobId : String}
    {cancelled : Bool}
    (noted : world.note? service index moment = some (.launched jobId cancelled)) :
    ∃ after, (world.happen service moment).submissions[index]? = some after ∧
      (cancelled = true → after.pollLoop = none) ∧
      (cancelled = false → ∃ pollLoop, after.pollLoop = some pollLoop ∧ pollLoop.jobId = jobId ∧
        pollLoop.isFinished = !world.policy.canPoll world.now) := by
  rcases noted_of_note? service noted with ⟨own, submission, found, noted⟩
  cases noted with
  | launched awaits =>
      cases own
      refine ⟨submission.launched world.policy world.now, by simp [World.happen, launch,
        getElem?_update, found], ?_⟩
      have launch := submission.launch world.policy world.now
      generalize submission.launched world.policy world.now = after at launch
      cases launch with
      | none unready => exact absurd awaits (unready jobId)
      | dropped other cancelled => simp [cancelled, other.2]
      | started other held canPoll =>
          cases awaits.1.symm.trans other.1
          simp [held, canPoll, PollLoop.isFinished]
      | stillborn other held cannotPoll =>
          cases awaits.1.symm.trans other.1
          simp [held, cannotPoll, PollLoop.isFinished]

theorem happen_of_told {world : World σ} {index : Nat} {moment : Moment} {jobId : String}
    {answer : Except CallError Job}
    (noted : world.note? service index moment = some (.told jobId answer false)) :
    ∃ submission pollLoop, world.submissions[index]? = some submission ∧
      submission.pollLoop = some pollLoop ∧ pollLoop.jobId = jobId ∧
      (service.status jobId world.service).1 = answer ∧
      (world.happen service moment).snapshot = (world.afterAnswer pollLoop.deadline answer).1 := by
  rcases noted_of_note? service noted with ⟨own, submission, found, noted⟩
  generalize token : false = cancelled at noted
  cases noted with
  | @told _ next pollLoop started asking =>
      cases own
      have happened : world.happen service (.event (.act index .receiveStatus)) =
          world.receiveStatus service index submission pollLoop next :=
        occur_receiveStatus service found started asking
      refine ⟨submission, pollLoop, found, started, rfl, rfl, ?_⟩
      rw [happened, receiveStatus_snapshot, ← token]
      rfl

/-! ## Main result -/

/-- What a moment does, by what is noted of it for a submission: an answer to a create call
publishes the job in the phase `polling`, or the error in the phase `idle`, unless the submission
has been cancelled; the second half starts a loop for the job unless the submission has been
cancelled in between; and what is told to a submission that is uncancelled is applied to the
snapshot. -/
def Does (world next : World σ) (index : Nat) : Option Note → Prop
  | some (.answered (.ok jobId) false) =>
      next.snapshot.phase = .polling ∧ next.snapshot.jobId = some jobId ∧
        next.notifications = world.notifications + 1
  | some (.answered (.ok _) true) => next.snapshot = world.snapshot
  | some (.answered (.error error) cancelled) =>
      (next.snapshot ≠ world.snapshot ↔ cancelled = false) ∧
        (cancelled = false →
          next.snapshot.phase = .idle ∧ next.snapshot.error = some error.message)
  | some (.launched jobId cancelled) =>
      ∃ after, next.submissions[index]? = some after ∧
        (cancelled = true → after.pollLoop = none) ∧
        (cancelled = false → ∃ pollLoop, after.pollLoop = some pollLoop ∧
          pollLoop.jobId = jobId ∧ pollLoop.isFinished = !world.policy.canPoll world.now)
  | some (.told jobId answer false) =>
      ∃ submission pollLoop, world.submissions[index]? = some submission ∧
        submission.pollLoop = some pollLoop ∧ pollLoop.jobId = jobId ∧
        (service.status jobId world.service).1 = answer ∧
        next.snapshot = (world.afterAnswer pollLoop.deadline answer).1
  | _ => True

theorem does_happen {world : World σ} (fine : world.FinelyCoherent) (index : Nat)
    (moment : Moment) :
    world.Does service (world.happen service moment) index
      (world.note? service index moment) := by
  generalize noted : world.note? service index moment = note
  match note, noted with
  | none, _ => trivial
  | some (.answered (.ok jobId) false), noted =>
      have happened := (happen_of_answered service fine noted).2 rfl
      rw [Does, happened.2.1]
      exact ⟨rfl, rfl, happened.2.2⟩
  | some (.answered (.ok jobId) true), noted =>
      exact ((happen_of_answered service fine noted).1 rfl).1
  | some (.answered (.error error) true), noted =>
      simp [Does, ((happen_of_answered service fine noted).1 rfl).1]
  | some (.answered (.error error) false), noted =>
      have happened := (happen_of_answered service fine noted).2 rfl
      rw [Does, happened.2.1]
      refine ⟨⟨fun _ => rfl, fun _ same => ?_⟩, fun _ => ⟨rfl, rfl⟩⟩
      have idle := congrArg Snapshot.phase same
      rw [happened.1] at idle
      cases idle
  | some (.launched jobId cancelled), noted => exact happen_of_launched service noted
  | some (.told jobId answer false), noted => exact happen_of_told service noted
  | some (.told jobId answer true), _ => trivial

/-- In a course no status call is made for a submission, and every job that gets into the snapshot
was created for another one. -/
structure Bypasses (initial : World σ) (index : Nat) (moments : List Moment) : Prop where
  unasked : (initial.play service moments).statusCalls index = []
  others : ∀ earlier moment later jobId, moments = earlier ++ moment :: later →
    let before := initial.play service earlier
    (before.happen service moment).snapshot.jobId = some jobId →
      before.snapshot.jobId ≠ some jobId →
        ∃ other, other ≠ index ∧
          before.note? service other moment = some (.answered (.ok jobId) false)

theorem bypasses_of_failed (policy : Policy) (createDelay : Nat) (gate : Option Nat) (state : σ)
    {moments : List Moment} {index : Nat} {submission : Submission}
    (found : ((start policy createDelay gate state).play service moments).submissions[index]? =
      some submission)
    (failed : (∃ error, submission.stage = .returned (.error error)) ∨
      submission.stage = .abandoned ∧ ∀ answer cancelled, .answered answer cancelled ∉
        (start policy createDelay gate state).diary service index moments)
    (more : List Moment) :
    (start policy createDelay gate state).Bypasses service index (moments ++ more) := by
  have accounted := accounted_play service policy createDelay gate state moments index
  rcases (accounted.account found).of_failed failed with ⟨unfollowed, unanswered⟩
  rcases isUnfollowed_play service found unfollowed more with
    ⟨⟨last, foundLast, unfollowedLast⟩, silent⟩
  constructor
  · apply silent_play service
    intro other foundOther
    rw [play_append] at foundOther
    rcases Option.some.inj (foundLast.symm.trans foundOther) with rfl
    exact unfollowedLast.loopless
  · intro earlier moment later jobId same before shown new
    have fine : before.FinelyCoherent :=
      finelyCoherent_play service policy createDelay gate state earlier
    rcases exists_answered_of_jobId service fine shown new with ⟨other, noted⟩
    refine ⟨other, ?_, noted⟩
    rintro rfl
    -- The diary would have it, but nothing has been noted since the call was over.
    have whole :=
      congrArg ((start policy createDelay gate state).diary service other) same
    rw [diary_append, diary_append, silent, List.append_nil] at whole
    apply unanswered jobId
    rw [whole, World.diary, noted]
    simp

/-- What a submission returns agrees with what is tracked, whatever comes between the moments at
which an answer arrives and a loop is started. For a call that has returned an error, and for one
that was given up before its create call was answered, no status call is ever made, and it never
puts a job into the snapshot. -/
theorem results_agree_with_tracking (policy : Policy) (createDelay : Nat) (gate : Option Nat)
    (state : σ) :
    let initial := start policy createDelay gate state
    ∀ (moments : List Moment) (index : Nat),
      let world := initial.play service moments
      let diary := initial.diary service index moments
      (∀ submission result, world.submissions[index]? = some submission →
        submission.stage = .returned result →
          ResultAgrees policy world.now submission diary result) ∧
      (∀ moment, world.Does service (world.happen service moment) index
        (world.note? service index moment)) ∧
      ∀ submission, world.submissions[index]? = some submission →
        ((∃ error, submission.stage = .returned (.error error)) ∨
          submission.stage = .abandoned ∧
            ∀ answer cancelled, .answered answer cancelled ∉ diary) →
        ∀ more, initial.Bypasses service index (moments ++ more) := by
  intro initial moments index world diary
  have accounted : world.Accounted index diary := accounted_play service _ _ _ _ moments index
  have fine : world.FinelyCoherent :=
    finelyCoherent_play service policy createDelay gate state moments
  refine ⟨?_, does_happen service fine index, ?_⟩
  · intro submission result found returned
    have outcome := (accounted.account found).outcome returned
    rw [show world.policy = policy from play_policy service initial moments] at outcome
    exact outcome.resultAgrees
  · intro submission found failed more
    exact bypasses_of_failed service policy createDelay gate state found failed more

/-- The first submission is cancelled before it has its job; the second one is tracked. -/
def overtakenMoments : List Moment :=
  [.event (.submit sampleRequest), .event .stopPolling, .event (.submit sampleRequest),
    .event (.act 0 .receiveCreate), .event (.act 1 .receiveCreate), .launch 1,
    .event (.act 1 .askStatus), .event (.act 1 .receiveStatus)]

theorem results_agree_when_overtaken :
    let initial := start ⟨5000, none⟩ 0 none sampleScript
    let world := initial.play Script.service overtakenMoments
    (∃ submission, world.submissions[0]? = some submission ∧
      submission.stage = .returned (.error .cancelled)) ∧
    (∃ jobId, .answered (.ok jobId) true ∈ initial.diary Script.service 0 overtakenMoments) ∧
    (∃ submission, world.submissions[1]? = some submission ∧
      submission.stage = .returned (.ok "second") ∧ submission.cancelled = false) ∧
    (∃ answer rest, initial.diary Script.service 1 overtakenMoments =
      .answered (.ok "second") false :: .launched "second" false ::
        .told "second" answer false :: rest) ∧
    (initial.play Script.service
      (overtakenMoments ++ [.event (.pass 5000)])).statusCalls 0 = [] := by
  have main := results_agree_with_tracking Script.service ⟨5000, none⟩ 0 none sampleScript
    overtakenMoments
  have dropped := ((main 0).1 _ _ rfl rfl).cancelled_iff.mp rfl
  rcases ((main 1).1 _ _ rfl rfl).awaited "second" rfl with ⟨cancelled, later, noted, waited⟩
  have silent := ((main 0).2.2 _ rfl (Or.inl ⟨_, rfl⟩) [.event (.pass 5000)]).unasked
  refine ⟨⟨_, rfl, rfl⟩, dropped, ⟨_, rfl, rfl, rfl⟩, ?_, silent⟩
  rcases waited (by decide) with withdrawn | ⟨rfl, answer, rest, rfl⟩ | ⟨limit, given, _⟩
  · cases withdrawn
  · exact ⟨answer, rest, noted⟩
  · cases given

/-- A limit that ends beyond what the clock can tell: the call returns its job, and neither has an
answer about it been told nor the submission been cancelled. -/
theorem first_answer_is_not_awaited :
    let initial := start ⟨5000, some 18446744073709551615000⟩ 0 none sampleScript
    let moments : List Moment :=
      [.event (.submit sampleRequest), .event (.act 0 .receiveCreate), .launch 0]
    let world := initial.play Script.service moments
    (∃ submission, world.submissions[0]? = some submission ∧
      submission.stage = .returned (.ok "first") ∧ submission.cancelled = false) ∧
    initial.diary Script.service 0 moments =
      [.answered (.ok "first") false, .launched "first" false] ∧
    world.snapshot.job = none :=
  ⟨⟨_, rfl, rfl, rfl⟩, rfl, rfl⟩

/-- A reset comes between the two halves: the call returns its job, and nobody polls that. -/
example :
    let initial := start ⟨5000, none⟩ 0 none sampleScript
    let moments : List Moment :=
      [.event (.submit sampleRequest), .event (.act 0 .receiveCreate), .event .reset, .launch 0]
    initial.diary Script.service 0 moments =
        [.answered (.ok "first") false, .launched "first" true] ∧
      (initial.play Script.service moments).polls = false :=
  ⟨rfl, rfl⟩

end World

end AuditReports
