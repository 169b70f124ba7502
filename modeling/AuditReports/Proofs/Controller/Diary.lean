import AuditReports.Proofs.Controller.Moments

/-!
# The diary of a submission

Much of what happens in a course of moments does not concern a submission. What arrives for it is
noted in its diary: the answer to its create call, the second half of that answer and the answers
about its job, each with whether the submission had been cancelled by then.

A moment adds at most one note, and it changes the submission in one of six ways. So the diary and
the stage of a submission account for each other: the account says for every stage what the diary
must be, and it follows each of the six ways by cases.
-/

namespace AuditReports

/-- Something that arrives for a submission, and whether the submission had been cancelled. -/
inductive Note where
  | answered (answer : Except CallError String) (cancelled : Bool)
  /-- The second half of an answer that has brought a job. -/
  | launched (jobId : String) (cancelled : Bool)
  | told (jobId : String) (answer : Except CallError Job) (cancelled : Bool)

def Note.isTold : Note → Bool
  | .told _ _ _ => true
  | _ => false

/-- The submission of whose own doing a moment is. -/
def World.Moment.owner? : World.Moment → Option Nat
  | .event (.act index _) => some index
  | .launch index => some index
  | _ => none

/-- What there is to note of a moment of the submission's own. -/
def Submission.note? {σ : Type} (service : ReportService σ) (state : σ) (submission : Submission) :
    World.Moment → Option Note
  | .event (.act _ .receiveCreate) =>
      if submission.stage.isCreating then
        some (.answered (service.create submission.payload state).1 submission.cancelled)
      else none
  | .event (.act _ .receiveStatus) =>
      match submission.pollLoop with
      | some ⟨jobId, _, .asking _⟩ =>
          some (.told jobId (service.status jobId state).1 submission.cancelled)
      | _ => none
  | .launch _ =>
      match submission.stage, submission.pollLoop with
      | .firstPoll jobId, none => some (.launched jobId submission.cancelled)
      | _, _ => none
  | _ => none

namespace World

variable {σ : Type} (service : ReportService σ)

def note? (world : World σ) (index : Nat) (moment : Moment) : Option Note :=
  if moment.owner? = some index then
    (world.submissions[index]?).bind fun submission =>
      submission.note? service world.service moment
  else none

/-- What arrives for a submission in a course. -/
def diary (world : World σ) (index : Nat) : List Moment → List Note
  | [] => []
  | moment :: moments =>
      (world.note? service index moment).toList ++ diary (world.happen service moment) index moments

theorem diary_append (world : World σ) (index : Nat) (first second : List Moment) :
    world.diary service index (first ++ second) =
      world.diary service index first ++ (world.play service first).diary service index second := by
  induction first generalizing world with
  | nil => rfl
  | cons moment first ih => simp [diary, ih]

theorem note?_of_foreign (world : World σ) {index : Nat} {moment : Moment}
    (foreign : moment.owner? ≠ some index) : world.note? service index moment = none :=
  if_neg foreign

theorem note?_of_missing {world : World σ} {index : Nat}
    (missing : world.submissions[index]? = none) (moment : Moment) :
    world.note? service index moment = none := by
  simp [note?, missing]

theorem note?_of_own {world : World σ} {index : Nat} {submission : Submission} {moment : Moment}
    (own : moment.owner? = some index) (found : world.submissions[index]? = some submission) :
    world.note? service index moment = submission.note? service world.service moment := by
  simp [note?, own, found]

end World

namespace Submission

variable {σ : Type} (service : ReportService σ) (state : σ)

theorem note?_of_impossible {submission : Submission} {now : Nat} {action : World.Action}
    (impossible : submission.may now action = false) (index : Nat) :
    submission.note? service state (.event (.act index action)) = none := by
  cases action with
  | receiveCreate =>
      have created : submission.stage.isCreating = false := impossible
      simp [note?, created]
  | receiveStatus =>
      simp only [note?]
      split
      · rename_i jobId deadline next started
        simp [may, started] at impossible
      · rfl
  | _ => rfl

theorem note?_of_unready {submission : Submission} (unready : ∀ jobId, ¬submission.awaitsLoop jobId)
    (index : Nat) : submission.note? service state (.launch index) = none := by
  simp only [note?]
  split
  · rename_i jobId stage loopless
    exact absurd ⟨stage, loopless⟩ (unready jobId)
  · rfl

/-- What stands behind a note. -/
inductive Noted (submission : Submission) : World.Moment → Note → Prop where
  | answered {index : Nat} (creating : submission.stage.isCreating = true) :
      Noted submission (.event (.act index .receiveCreate))
        (.answered (service.create submission.payload state).1 submission.cancelled)
  | launched {index : Nat} {jobId : String} (awaits : submission.awaitsLoop jobId) :
      Noted submission (.launch index) (.launched jobId submission.cancelled)
  | told {index next : Nat} {pollLoop : PollLoop} (started : submission.pollLoop = some pollLoop)
      (asking : pollLoop.state = .asking next) :
      Noted submission (.event (.act index .receiveStatus))
        (.told pollLoop.jobId (service.status pollLoop.jobId state).1 submission.cancelled)

theorem noted_of_note? {submission : Submission} {moment : World.Moment} {note : Note}
    (noted : submission.note? service state moment = some note) :
    submission.Noted service state moment note := by
  unfold note? at noted
  split at noted
  · split at noted
    · rename_i creating
      cases noted
      exact .answered creating
    · cases noted
  · split at noted
    · rename_i started
      cases noted
      exact .told started rfl
    · cases noted
  · split at noted
    · rename_i stage loopless
      cases noted
      exact .launched ⟨stage, loopless⟩
    · cases noted
  · cases noted

/-- What a moment makes of a submission, and what there is to note of it. -/
inductive Evolution (policy : Policy) (now : Nat) (before : Submission) :
    Option Note → Submission → Prop where
  | withdrawn {after : Submission} (withdrawn : before.Withdrawn after) :
      Evolution policy now before none after
  | answered (creating : before.stage.isCreating = true) (answer : Except CallError String) :
      Evolution policy now before (some (.answered answer before.cancelled)) (before.adopted answer)
  | launched {jobId : String} {after : Submission} (awaits : before.awaitsLoop jobId)
      (launch : before.Launch policy now after) :
      Evolution policy now before (some (.launched jobId before.cancelled)) after
  | asked {pollLoop : PollLoop} (started : before.pollLoop = some pollLoop) (next : Nat) :
      Evolution policy now before none (before.withLoopState (.asking next))
  | told {pollLoop : PollLoop} (started : before.pollLoop = some pollLoop)
      (answer : Except CallError Job) (state : LoopState) :
      Evolution policy now before (some (.told pollLoop.jobId answer before.cancelled))
        (before.proceed state)
  | left {pollLoop : PollLoop} (cancelled : before.cancelled = true)
      (started : before.pollLoop = some pollLoop) :
      Evolution policy now before none (before.proceed .finished)

end Submission

namespace World

variable {σ : Type} (service : ReportService σ)

theorem noted_of_note? {world : World σ} {index : Nat} {moment : Moment} {note : Note}
    (noted : world.note? service index moment = some note) :
    moment.owner? = some index ∧ ∃ submission, world.submissions[index]? = some submission ∧
      submission.Noted service world.service moment note := by
  unfold note? at noted
  split at noted
  · rename_i own
    rcases Option.bind_eq_some_iff.mp noted with ⟨submission, found, noted⟩
    exact ⟨own, submission, found, submission.noted_of_note? service world.service noted⟩
  · cases noted

theorem evolution_occur {world : World σ} {event : Event} (whole : world.IsWhole event)
    {index : Nat} {before : Submission} (found : world.submissions[index]? = some before) :
    ∃ after, (world.occur service event).submissions[index]? = some after ∧
      before.Evolution world.policy world.now (world.note? service index (.event event)) after := by
  by_cases own : ∃ action, event = .act index action
  · rcases own with ⟨action, rfl⟩
    rw [note?_of_own service rfl found]
    have transition := transition_act service world index action
    generalize world.occur service (.act index action) = next at transition ⊢
    cases transition with
    | idle impossible =>
        rw [Submission.note?_of_impossible service _ (impossible before found)]
        exact ⟨before, found, .withdrawn (.refl before)⟩
    | @receiveCreate _ submission found creating =>
        simp [whole index submission rfl found] at creating
    | @askStatus _ _ _ due found' started _ _ =>
        rcases Option.some.inj (found.symm.trans found') with rfl
        refine ⟨before.withLoopState (.asking (world.policy.following world.now due)), ?_,
          .asked started _⟩
        change (world.submissions.modify index _)[index]? = _
        rw [List.getElem?_modify_eq, found]
        rfl
    | @receiveStatus _ _ pollLoop next found' started asking =>
        rcases Option.some.inj (found.symm.trans found') with rfl
        refine ⟨_, by rw [receiveStatus_submissions, List.getElem?_modify_eq, found]; rfl, ?_⟩
        have note : before.note? service world.service (.event (.act index .receiveStatus)) =
            some (.told pollLoop.jobId (service.status pollLoop.jobId world.service).1
              before.cancelled) := by
          cases pollLoop
          simp only at asking
          simp [Submission.note?, started, asking]
        rw [note]
        exact .told started _ _
    | leave found' cancelled polling =>
        rcases Option.some.inj (found.symm.trans found') with rfl
        rcases (Option.any_eq_true _ _).mp polling with ⟨pollLoop, started, _⟩
        refine ⟨_, ?_, .left cancelled started⟩
        change (world.submissions.modify index _)[index]? = _
        rw [List.getElem?_modify_eq, found]
        rfl
  · have foreign : (Moment.event event).owner? ≠ some index := by
      cases event with
      | act other action =>
          intro same
          rcases Option.some.inj same with rfl
          exact own ⟨action, rfl⟩
      | _ => simp [Moment.owner?]
    rw [note?_of_foreign service world foreign]
    rcases occur_withdrawn service (fun action same => own ⟨action, same⟩) found with
      ⟨after, foundAfter, withdrawn⟩
    exact ⟨after, foundAfter, .withdrawn withdrawn⟩

/-- A moment changes a submission in one of six ways. -/
theorem evolution {world : World σ} {index : Nat} {before : Submission}
    (found : world.submissions[index]? = some before) (moment : Moment) :
    ∃ after, (world.happen service moment).submissions[index]? = some after ∧
      before.Evolution world.policy world.now (world.note? service index moment) after := by
  have happening := happening service world moment
  generalize world.happen service moment = next at happening ⊢
  cases happening with
  | occur whole => exact evolution_occur service whole found
  | @adopt other submission foundOther creating =>
      rw [adopt_submissions]
      by_cases same : other = index
      · subst other
        rcases Option.some.inj (found.symm.trans foundOther) with rfl
        have note : before.note? service world.service (.event (.act index .receiveCreate)) =
            some (.answered (service.create before.payload world.service).1 before.cancelled) := by
          simp [Submission.note?, creating]
        rw [note?_of_own service rfl found, note, List.getElem?_modify_eq, found]
        exact ⟨_, rfl, .answered creating _⟩
      · have foreign : (Moment.event (.act other .receiveCreate)).owner? ≠ some index :=
          fun owner => same (Option.some.inj owner)
        rw [note?_of_foreign service world foreign, List.getElem?_modify_ne _ _ same]
        exact ⟨before, found, .withdrawn (.refl before)⟩
  | launch other =>
      rw [launch, getElem?_update, found]
      by_cases same : other = index
      · subst other
        rw [note?_of_own service rfl found]
        refine ⟨before.launched world.policy world.now, by simp, ?_⟩
        have launch := before.launch world.policy world.now
        by_cases ready : ∃ jobId, before.awaitsLoop jobId
        · rcases ready with ⟨jobId, awaits⟩
          have note : before.note? service world.service (.launch index) =
              some (.launched jobId before.cancelled) := by
            simp [Submission.note?, awaits.1, awaits.2]
          rw [note]
          exact .launched awaits launch
        · have unready : ∀ jobId, ¬before.awaitsLoop jobId := fun jobId awaits =>
            ready ⟨jobId, awaits⟩
          rw [Submission.note?_of_unready service _ unready]
          generalize before.launched world.policy world.now = after at launch ⊢
          cases launch with
          | none _ => exact .withdrawn (.refl before)
          | dropped awaits _ => exact absurd awaits (unready _)
          | started awaits _ _ => exact absurd awaits (unready _)
          | stillborn awaits _ _ => exact absurd awaits (unready _)
      · have foreign : (Moment.launch other).owner? ≠ some index :=
          fun owner => same (Option.some.inj owner)
        rw [note?_of_foreign service world foreign]
        exact ⟨before, by simp [same], .withdrawn (.refl before)⟩

/-! ## The account of a submission -/

theorem canPoll_iff {policy : Policy} {now : Nat} :
    policy.canPoll now = true ↔ policy.interval ≠ 0 ∧
      ∀ limit, policy.timeout = some limit → (now + limit) / 1000 ≤ Policy.lastSecond := by
  simp only [Policy.canPoll, Bool.and_eq_true, bne_iff_ne]
  cases policy.timeout with
  | none => simp
  | some limit => simp

theorem canPoll_of_le {policy : Policy} {now later : Nat} (le : now ≤ later)
    (canPoll : policy.canPoll later = true) : policy.canPoll now = true := by
  rw [canPoll_iff] at canPoll ⊢
  refine ⟨canPoll.1, fun limit timeout => ?_⟩
  exact Nat.le_trans (Nat.div_le_div_right (Nat.add_le_add_right le limit))
    (canPoll.2 limit timeout)

end World

/-- What the diary of a submission is at each stage. -/
inductive Account (policy : Policy) (now : Nat) : List Note → Submission → Prop where
  | waiting {submission : Submission} (creating : submission.stage.isCreating = true)
      (loopless : submission.pollLoop = none) : Account policy now [] submission
  | adopted {submission : Submission} {jobId : String} (awaits : submission.awaitsLoop jobId) :
      Account policy now [.answered (.ok jobId) false] submission
  | polling {submission : Submission} {jobId : String} {pollLoop : PollLoop}
      (stage : submission.stage = .firstPoll jobId) (started : submission.pollLoop = some pollLoop)
      (named : pollLoop.jobId = jobId) :
      Account policy now [.answered (.ok jobId) false, .launched jobId false] submission
  | refused {submission : Submission} {error : CallError} (cancelled : Bool)
      (stage : submission.stage = .returned (.error (.submission error)))
      (loopless : submission.pollLoop = none) :
      Account policy now [.answered (.error error) cancelled] submission
  | dropped {submission : Submission} (jobId : String)
      (stage : submission.stage = .returned (.error .cancelled))
      (loopless : submission.pollLoop = none) :
      Account policy now [.answered (.ok jobId) true] submission
  /-- The call has returned the job; if loops can work, it has waited for the first answer or for
  the cancellation. -/
  | tracked {submission : Submission} {jobId : String} {cancelled : Bool} {later : List Note}
      (stage : submission.stage = .returned (.ok jobId)) (told : later.all Note.isTold = true)
      (waited : policy.canPoll now = true → submission.cancelled = true ∨
        cancelled = false ∧ ∃ answer rest, later = .told jobId answer false :: rest) :
      Account policy now (.answered (.ok jobId) false :: .launched jobId cancelled :: later)
        submission
  | givenUp {submission : Submission} (stage : submission.stage = .abandoned)
      (loopless : submission.pollLoop = none) : Account policy now [] submission
  /-- The call was given up after its job existed. -/
  | left {submission : Submission} {jobId : String} {later : List Note}
      (stage : submission.stage = .abandoned) :
      Account policy now (.answered (.ok jobId) false :: later) submission

namespace Account

variable {policy : Policy} {now : Nat} {diary : List Note} {before after : Submission}

theorem later (account : Account policy now diary before) {time : Nat} (le : now ≤ time) :
    Account policy time diary before := by
  cases account with
  | waiting creating loopless => exact .waiting creating loopless
  | adopted awaits => exact .adopted awaits
  | polling stage started named => exact .polling stage started named
  | refused cancelled stage loopless => exact .refused cancelled stage loopless
  | dropped jobId stage loopless => exact .dropped jobId stage loopless
  | tracked stage told waited =>
      exact .tracked stage told fun canPoll => waited (World.canPoll_of_le le canPoll)
  | givenUp stage loopless => exact .givenUp stage loopless
  | left stage => exact .left stage

theorem withdraw (account : Account policy now diary before) (withdrawn : before.Withdrawn after) :
    Account policy now diary after := by
  rcases withdrawn.stage with same | ⟨pending, abandoned⟩
  · have loopless := withdrawn.pollLoop
    cases account with
    | waiting creating none => exact .waiting (same ▸ creating) (loopless.trans none)
    | adopted awaits => exact .adopted ⟨same.trans awaits.1, loopless.trans awaits.2⟩
    | polling stage started named =>
        exact .polling (same.trans stage) (loopless.trans started) named
    | refused cancelled stage none =>
        exact .refused cancelled (same.trans stage) (loopless.trans none)
    | dropped jobId stage none => exact .dropped jobId (same.trans stage) (loopless.trans none)
    | tracked stage told waited =>
        exact .tracked (same.trans stage) told fun canPoll =>
          (waited canPoll).imp_left withdrawn.cancelled_of
    | givenUp stage none => exact .givenUp (same.trans stage) (loopless.trans none)
    | left stage => exact .left (same.trans stage)
  · cases account with
    | waiting _ none => exact .givenUp abandoned (withdrawn.pollLoop.trans none)
    | adopted _ => exact .left abandoned
    | polling _ _ _ => exact .left abandoned
    | refused _ stage _ => simp [stage, Stage.isPending] at pending
    | dropped _ stage _ => simp [stage, Stage.isPending] at pending
    | tracked stage _ _ => simp [stage, Stage.isPending] at pending
    | givenUp stage _ => simp [stage, Stage.isPending] at pending
    | left stage => simp [stage, Stage.isPending] at pending

theorem answer (account : Account policy now diary before)
    (creating : before.stage.isCreating = true) (answer : Except CallError String) :
    Account policy now (diary ++ [.answered answer before.cancelled]) (before.adopted answer) := by
  cases account with
  | waiting _ loopless =>
      cases answer with
      | error error => exact .refused _ rfl loopless
      | ok jobId =>
          cases token : before.cancelled with
          | true => exact .dropped jobId (by simp [Submission.adopted, token]) loopless
          | false => exact .adopted ⟨by simp [Submission.adopted, token], loopless⟩
  | adopted awaits => simp [awaits.1, Stage.isCreating] at creating
  | polling stage _ _ => simp [stage, Stage.isCreating] at creating
  | refused _ stage _ => simp [stage, Stage.isCreating] at creating
  | dropped _ stage _ => simp [stage, Stage.isCreating] at creating
  | tracked stage _ _ => simp [stage, Stage.isCreating] at creating
  | givenUp stage _ => simp [stage, Stage.isCreating] at creating
  | left stage => simp [stage, Stage.isCreating] at creating

theorem launch (account : Account policy now diary before) {jobId : String}
    (awaits : before.awaitsLoop jobId) (launch : before.Launch policy now after) :
    Account policy now (diary ++ [.launched jobId before.cancelled]) after := by
  cases account with
  | @adopted _ tracked awaiting =>
      cases awaiting.1.symm.trans awaits.1
      cases launch with
      | none unready => exact absurd awaits (unready jobId)
      | dropped other cancelled =>
          cases awaits.1.symm.trans other.1
          exact .tracked rfl rfl fun _ => Or.inl cancelled
      | started other held _ =>
          cases awaits.1.symm.trans other.1
          rw [held]
          exact .polling rfl rfl rfl
      | stillborn other _ cannotPoll =>
          cases awaits.1.symm.trans other.1
          exact .tracked rfl rfl fun canPoll =>
            absurd (canPoll.symm.trans cannotPoll) Bool.noConfusion
  | waiting creating _ => simp [awaits.1, Stage.isCreating] at creating
  | polling _ started _ => cases started.symm.trans awaits.2
  | refused _ stage _ => cases stage.symm.trans awaits.1
  | dropped _ stage _ => cases stage.symm.trans awaits.1
  | tracked stage _ _ => cases stage.symm.trans awaits.1
  | givenUp stage _ => cases stage.symm.trans awaits.1
  | left stage => cases stage.symm.trans awaits.1

section Loops

variable {pollLoop : PollLoop} (started : before.pollLoop = some pollLoop)

include started

theorem ask (account : Account policy now diary before) (next : Nat) :
    Account policy now diary (before.withLoopState (.asking next)) := by
  cases account with
  | polling stage other named =>
      rcases Option.some.inj (started.symm.trans other) with rfl
      have asking : (before.withLoopState (.asking next)).pollLoop =
          some { pollLoop with state := .asking next } := by
        simp [Submission.withLoopState, started]
      exact .polling stage asking named
  | tracked stage told waited => exact .tracked stage told waited
  | left stage => exact .left stage
  | waiting _ loopless => cases started.symm.trans loopless
  | adopted awaits => cases started.symm.trans awaits.2
  | refused _ _ loopless => cases started.symm.trans loopless
  | dropped _ _ loopless => cases started.symm.trans loopless
  | givenUp _ loopless => cases started.symm.trans loopless

/-- A loop goes on or ends with an answer that is told, or with the cancellation. -/
theorem proceed (account : Account policy now diary before) (state : LoopState) {notes : List Note}
    (told : notes.all Note.isTold = true)
    (heard : before.cancelled = true ∨ ∃ answer, notes = [.told pollLoop.jobId answer false]) :
    Account policy now (diary ++ notes) (before.proceed state) := by
  cases account with
  | polling stage other named =>
      rcases Option.some.inj (started.symm.trans other) with rfl
      refine .tracked (by simp [Submission.proceed, stage, Stage.released]) told fun _ => ?_
      rcases heard with cancelled | ⟨answer, rfl⟩
      · exact Or.inl cancelled
      · exact Or.inr ⟨rfl, answer, [], by rw [named]; rfl⟩
  | tracked stage earlier waited =>
      refine .tracked (by simp [Submission.proceed, stage, Stage.released])
        (by simp [earlier, told]) fun canPoll => ?_
      rcases waited canPoll with cancelled | ⟨held, first, rest, rfl⟩
      · exact Or.inl cancelled
      · exact Or.inr ⟨held, first, rest ++ notes, rfl⟩
  | left stage => exact .left (by simp [Submission.proceed, stage, Stage.released])
  | waiting _ loopless => cases started.symm.trans loopless
  | adopted awaits => cases started.symm.trans awaits.2
  | refused _ _ loopless => cases started.symm.trans loopless
  | dropped _ _ loopless => cases started.symm.trans loopless
  | givenUp _ loopless => cases started.symm.trans loopless

end Loops

/-- The account follows whatever a moment makes of the submission. -/
theorem evolve (account : Account policy now diary before) {note : Option Note}
    (evolution : before.Evolution policy now note after) :
    Account policy now (diary ++ note.toList) after := by
  cases evolution with
  | withdrawn withdrawn => simpa using account.withdraw withdrawn
  | answered creating answer => exact account.answer creating answer
  | launched awaits launch => exact account.launch awaits launch
  | asked started next => simpa using account.ask started next
  | told started answer state =>
      apply account.proceed started state (by simp [Note.isTold])
      cases token : before.cancelled with
      | true => exact Or.inl rfl
      | false => exact Or.inr ⟨answer, rfl⟩
  | left cancelled started => exact account.proceed started .finished rfl (Or.inl cancelled)

end Account

namespace World

variable {σ : Type} (service : ReportService σ)

/-- A submission that a moment adds waits for its job. -/
theorem happen_newcomer {world : World σ} {moment : Moment} {index : Nat} {submission : Submission}
    (missing : world.submissions[index]? = none)
    (found : (world.happen service moment).submissions[index]? = some submission) :
    submission.stage.isCreating = true ∧ submission.pollLoop = none := by
  have happening := happening service world moment
  generalize world.happen service moment = next at happening found
  cases happening with
  | adopt _ _ =>
      rw [adopt_submissions, List.getElem?_modify, missing] at found
      cases found
  | occur _ =>
      have newcomer := occur_newcomer service missing found
      exact ⟨newcomer.2.2, newcomer.1⟩
  | launch _ =>
      rw [launch, getElem?_update, missing] at found
      cases found

/-- The diary accounts for the submission, or both are still missing. -/
def Accounted (world : World σ) (index : Nat) (diary : List Note) : Prop :=
  match world.submissions[index]? with
  | none => diary = []
  | some submission => Account world.policy world.now diary submission

theorem Accounted.happen {world : World σ} {index : Nat} {diary : List Note}
    (accounted : world.Accounted index diary) (moment : Moment) :
    (world.happen service moment).Accounted index
      (diary ++ (world.note? service index moment).toList) := by
  unfold Accounted at accounted ⊢
  cases found : world.submissions[index]? with
  | none =>
      simp only [found] at accounted
      subst accounted
      rw [note?_of_missing service found]
      cases foundAfter : (world.happen service moment).submissions[index]? with
      | none => rfl
      | some after =>
          have newcomer := happen_newcomer service found foundAfter
          exact .waiting newcomer.1 newcomer.2
  | some before =>
      simp only [found] at accounted
      rcases evolution service found moment with ⟨after, foundAfter, evolution⟩
      simp only [foundAfter, happen_policy]
      exact (accounted.evolve evolution).later (le_happen_now service world moment)

theorem Accounted.play {world : World σ} {index : Nat} {diary : List Note}
    (accounted : world.Accounted index diary) (moments : List Moment) :
    (world.play service moments).Accounted index (diary ++ world.diary service index moments) := by
  induction moments generalizing world diary with
  | nil => simpa [World.diary] using accounted
  | cons moment moments ih =>
      rw [play_cons, World.diary, ← List.append_assoc]
      exact ih (accounted.happen service moment)

theorem Accounted.account {world : World σ} {index : Nat} {diary : List Note}
    (accounted : world.Accounted index diary) {submission : Submission}
    (found : world.submissions[index]? = some submission) :
    Account world.policy world.now diary submission := by
  unfold Accounted at accounted
  rwa [found] at accounted

/-- In every course, the diary of a submission accounts for it. -/
theorem accounted_play (policy : Policy) (createDelay : Nat) (gate : Option Nat) (state : σ)
    (moments : List Moment) (index : Nat) :
    ((start policy createDelay gate state).play service moments).Accounted index
      ((start policy createDelay gate state).diary service index moments) := by
  have new : (start policy createDelay gate state).Accounted index [] := by
    simp [Accounted, start]
  simpa using new.play service moments

end World

end AuditReports
