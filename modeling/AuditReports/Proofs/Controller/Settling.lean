import AuditReports.Proofs.Controller.Coherence

/-!
# Settling

A session lets everything happen that can happen before it takes its next step. This module shows
that the bound in its definition is never reached.

A world is settled when nothing can happen in it at this moment. Settling ends there because a bound
on the work that is left goes down with everything that happens: a tick that is due is followed by
one that is at least a millisecond later, which is where an interval of zero would break the
argument.
-/

namespace AuditReports

namespace Submission

/-! ## What a submission waits for -/

/-- A submission waits for its job, or for nothing, or for what its loop waits for. -/
inductive Waits (submission : Submission) : Prop where
  | job (answerAt : Nat) (stage : submission.stage = .creating answerAt)
  | nothing (created : submission.stage.isCreating = false) (loopless : submission.pollLoop = none)
  | loop (created : submission.stage.isCreating = false) (pollLoop : PollLoop)
      (started : submission.pollLoop = some pollLoop)

theorem waits (submission : Submission) : submission.Waits := by
  cases stage : submission.stage with
  | creating answerAt => exact .job answerAt stage
  | _ =>
      cases started : submission.pollLoop with
      | none => exact .nothing (by simp [stage, Stage.isCreating]) started
      | some pollLoop => exact .loop (by simp [stage, Stage.isCreating]) pollLoop started

section

variable {submission : Submission} (now : Nat) (free : Bool)

theorem action?_of_creating {answerAt : Nat} (stage : submission.stage = .creating answerAt) :
    submission.action? now free = if answerAt ≤ now then some .receiveCreate else none := by
  simp [action?, stage]

theorem action?_of_loopless (created : submission.stage.isCreating = false)
    (loopless : submission.pollLoop = none) : submission.action? now free = none := by
  cases stage : submission.stage with
  | creating answerAt => simp [stage, Stage.isCreating] at created
  | _ => simp [action?, stage, loopless]

theorem action?_of_started (created : submission.stage.isCreating = false) {pollLoop : PollLoop}
    (started : submission.pollLoop = some pollLoop) :
    submission.action? now free =
      match pollLoop.state with
      | .finished => none
      | .waiting due =>
          if submission.cancelled then some .leave
          else if due ≤ now then some .askStatus
          else none
      | .asking _ =>
          if submission.cancelled then some .leave
          else if free then some .receiveStatus
          else none := by
  cases stage : submission.stage with
  | creating answerAt => simp [stage, Stage.isCreating] at created
  | _ => cases state : pollLoop.state <;> simp [action?, stage, started, state]

theorem wake?_of_creating {answerAt : Nat} (stage : submission.stage = .creating answerAt) :
    submission.wake? = some answerAt := by
  simp [wake?, stage]

theorem wake?_of_loopless (created : submission.stage.isCreating = false)
    (loopless : submission.pollLoop = none) : submission.wake? = none := by
  cases stage : submission.stage with
  | creating answerAt => simp [stage, Stage.isCreating] at created
  | _ => simp [wake?, stage, loopless]

theorem wake?_of_started (created : submission.stage.isCreating = false) {pollLoop : PollLoop}
    (started : submission.pollLoop = some pollLoop) :
    submission.wake? =
      match pollLoop.state with
      | .waiting due => some due
      | _ => none := by
  cases stage : submission.stage with
  | creating answerAt => simp [stage, Stage.isCreating] at created
  | _ => cases state : pollLoop.state <;> simp [wake?, stage, started, state]

theorem work_of_creating {answerAt : Nat} (stage : submission.stage = .creating answerAt) :
    submission.work now = 4 := by
  simp [work, stage]

theorem work_of_started (created : submission.stage.isCreating = false) {pollLoop : PollLoop}
    (started : submission.pollLoop = some pollLoop) :
    submission.work now =
      match pollLoop.state with
      | .waiting due => 1 + 2 * (now + 1 - due)
      | .asking next => 2 + 2 * (now + 1 - next)
      | .finished => 0 := by
  cases stage : submission.stage with
  | creating answerAt => simp [stage, Stage.isCreating] at created
  | _ => cases state : pollLoop.state <;> simp [work, stage, started, state]

end

theorem may_of_action? {now : Nat} {free : Bool} {submission : Submission} {action : World.Action}
    (possible : submission.action? now free = some action) : submission.may now action = true := by
  cases submission.waits with
  | job answerAt stage =>
      rw [action?_of_creating now free stage] at possible
      split at possible
      · rcases Option.some.inj possible with rfl
        simp [may, stage, Stage.isCreating]
      · cases possible
  | nothing created loopless => simp [action?_of_loopless now free created loopless] at possible
  | loop created pollLoop started =>
      rw [action?_of_started now free created started] at possible
      split at possible
      · cases possible
      · rename_i due waiting
        split at possible
        · rename_i cancelled
          rcases Option.some.inj possible with rfl
          simp [may, isPolling, started, PollLoop.isFinished, waiting, cancelled]
        · split at possible
          · rename_i reached
            rcases Option.some.inj possible with rfl
            simp [may, started, waiting, reached]
          · cases possible
      · rename_i next asking
        split at possible
        · rename_i cancelled
          rcases Option.some.inj possible with rfl
          simp [may, isPolling, started, PollLoop.isFinished, asking, cancelled]
        · split at possible
          · rcases Option.some.inj possible with rfl
            simp [may, started, asking]
          · cases possible

/-- A cancelled loop can always do something: it leaves. -/
theorem isPolling_eq_false_of_action? {now : Nat} {free : Bool} {submission : Submission}
    (loopless : submission.stage.isCreating = true → submission.pollLoop = none)
    (cancelled : submission.cancelled = true) (rests : submission.action? now free = none) :
    submission.isPolling = false := by
  cases submission.waits with
  | job answerAt stage => simp [isPolling, loopless (by simp [stage, Stage.isCreating])]
  | nothing created loopless => simp [isPolling, loopless]
  | loop created pollLoop started =>
      rw [action?_of_started now free created started] at rests
      cases state : pollLoop.state with
      | finished => simp [isPolling, started, PollLoop.isFinished, state]
      | waiting due => simp [state, cancelled] at rests
      | asking next => simp [state, cancelled] at rests

theorem lt_of_wake? {now wake : Nat} {free : Bool} {submission : Submission}
    (rests : submission.action? now free = none) (due : submission.wake? = some wake) :
    now < wake := by
  cases submission.waits with
  | job answerAt stage =>
      rw [wake?_of_creating stage] at due
      rcases Option.some.inj due with rfl
      simpa [action?_of_creating now free stage] using rests
  | nothing created loopless => simp [wake?_of_loopless created loopless] at due
  | loop created pollLoop started =>
      rw [action?_of_started now free created started] at rests
      rw [wake?_of_started created started] at due
      split at due
      · rename_i tick waiting
        rcases Option.some.inj due with rfl
        cases token : submission.cancelled <;> simp [waiting, token] at rests
        exact rests
      · cases due

/-- Until something falls due there is nothing to do. -/
theorem action?_eq_none_of_wake? {now later : Nat} {free : Bool} {submission : Submission}
    (rests : submission.action? now free = none)
    (ahead : ∀ wake, submission.wake? = some wake → later < wake) :
    submission.action? later free = none := by
  cases submission.waits with
  | job answerAt stage =>
      have early := ahead answerAt (wake?_of_creating stage)
      rw [action?_of_creating later free stage, if_neg (by omega)]
  | nothing created loopless => exact action?_of_loopless later free created loopless
  | loop created pollLoop started =>
      rw [action?_of_started now free created started] at rests
      rw [action?_of_started later free created started]
      cases state : pollLoop.state with
      | waiting due =>
          have early := ahead due (by simp [wake?_of_started created started, state])
          cases token : submission.cancelled <;> simp [state, token] at rests
          simpa using early
      | finished => rfl
      | asking next => simpa [state] using rests

/-! ## The work that is left -/

theorem work_creation_lt {policy : Policy} {now : Nat} {answer : Except CallError String}
    {submission after : Submission}
    (creation : World.Creation policy now submission answer after)
    (creating : submission.stage.isCreating = true) (loopless : submission.pollLoop = none) :
    after.work now < submission.work now := by
  have before : submission.work now = 4 := by
    cases stage : submission.stage with
    | creating answerAt => exact work_of_creating now stage
    | _ => simp [stage, Stage.isCreating] at creating
  rw [before]
  cases creation with
  | refused error => simp [work, loopless]
  | unfollowed jobId _ => simp [work, loopless]
  | followed jobId _ _ =>
      simp only [work, Option.map_some]
      omega
  | stillborn jobId _ _ => simp [work]

@[simp]
theorem withLoopState_isCreating (submission : Submission) (state : LoopState) :
    (submission.withLoopState state).stage.isCreating = submission.stage.isCreating := rfl

theorem withLoopState_pollLoop {submission : Submission} {pollLoop : PollLoop} (state : LoopState)
    (started : submission.pollLoop = some pollLoop) :
    (submission.withLoopState state).pollLoop = some { pollLoop with state := state } := by
  simp [withLoopState, started]

/-- The tick after one that fires now is at least a millisecond later. -/
theorem lt_following {policy : Policy} (paced : policy.interval ≠ 0) (now due : Nat) :
    due < policy.following now due := by
  simp only [Policy.following]
  split <;> omega

theorem work_asking_lt {policy : Policy} (paced : policy.interval ≠ 0) {now due : Nat}
    {submission : Submission} {pollLoop : PollLoop}
    (created : submission.stage.isCreating = false)
    (started : submission.pollLoop = some pollLoop) (waiting : pollLoop.state = .waiting due)
    (reached : due ≤ now) :
    (submission.withLoopState (.asking (policy.following now due))).work now <
      submission.work now := by
  have before := work_of_started now created started
  have after := work_of_started now (by simpa using created)
    (withLoopState_pollLoop (.asking (policy.following now due)) started)
  have later := lt_following paced now due
  rw [before, after, waiting]
  simp only
  omega

theorem work_proceed_lt {now next : Nat} {submission : Submission} {pollLoop : PollLoop}
    (created : submission.stage.isCreating = false)
    (started : submission.pollLoop = some pollLoop) (asking : pollLoop.state = .asking next)
    (verdict : Verdict) :
    (submission.proceed (.afterVerdict next verdict)).work now < submission.work now := by
  have before := work_of_started now created started
  have after := work_of_started now (by simpa using created)
    (World.proceed_pollLoop (.afterVerdict next verdict) started)
  rw [before, after, asking]
  cases verdict with
  | goOn =>
      simp only [LoopState.afterVerdict]
      omega
  | stop =>
      simp only [LoopState.afterVerdict]
      omega

theorem work_finished_lt {now : Nat} {submission : Submission} {pollLoop : PollLoop}
    (created : submission.stage.isCreating = false)
    (started : submission.pollLoop = some pollLoop) (running : pollLoop.isFinished = false) :
    (submission.proceed .finished).work now < submission.work now := by
  have before := work_of_started now created started
  have after := work_of_started now (by simpa using created)
    (World.proceed_pollLoop .finished started)
  rw [before, after]
  cases state : pollLoop.state with
  | waiting due =>
      simp only
      omega
  | asking next =>
      simp only
      omega
  | finished => simp [PollLoop.isFinished, state] at running

theorem work_pos_of_action? {now : Nat} {free : Bool} {submission : Submission}
    {action : World.Action} (possible : submission.action? now free = some action) :
    0 < submission.work now := by
  cases submission.waits with
  | job answerAt stage => simp [work_of_creating now stage]
  | nothing created loopless => simp [action?_of_loopless now free created loopless] at possible
  | loop created pollLoop started =>
      rw [action?_of_started now free created started] at possible
      rw [work_of_started now created started]
      cases state : pollLoop.state with
      | waiting due => exact Nat.add_pos_left Nat.one_pos _
      | asking next => exact Nat.add_pos_left Nat.two_pos _
      | finished => simp [state] at possible

end Submission

namespace World

variable {σ : Type}

/-! ## The next action -/

theorem firstAction?_eq_some {now : Nat} {free : Bool} {start index : Nat} {action : Action}
    {submissions : List Submission}
    (next : firstAction? now free start submissions = some (index, action)) :
    ∃ (place : Nat) (submission : Submission), index = start + place ∧
      submissions[place]? = some submission ∧ submission.action? now free = some action := by
  induction submissions generalizing start with
  | nil => cases next
  | cons submission submissions ih =>
      simp only [firstAction?] at next
      split at next
      · rename_i first possible
        rcases Prod.mk.inj (Option.some.inj next) with ⟨rfl, rfl⟩
        exact ⟨0, submission, rfl, rfl, possible⟩
      · rcases ih next with ⟨place, other, rfl, found, possible⟩
        exact ⟨place + 1, other, by omega, found, possible⟩

theorem firstAction?_eq_none_iff {now : Nat} {free : Bool} {start : Nat}
    {submissions : List Submission} :
    firstAction? now free start submissions = none ↔
      ∀ submission ∈ submissions, submission.action? now free = none := by
  induction submissions generalizing start with
  | nil => simp [firstAction?]
  | cons submission submissions ih =>
      cases possible : submission.action? now free with
      | none => simp [firstAction?, possible, ih]
      | some action => simp [firstAction?, possible]

theorem nextAction?_eq_some {world : World σ} {index : Nat} {action : Action}
    (next : world.nextAction? = some (index, action)) :
    ∃ submission, world.submissions[index]? = some submission ∧
      submission.action? world.now world.isFree = some action := by
  rcases firstAction?_eq_some next with ⟨place, submission, rfl, found, possible⟩
  exact ⟨submission, by simpa using found, possible⟩

theorem nextAction?_of_single {world : World σ} {submission : Submission}
    (single : world.submissions = [submission]) :
    world.nextAction? = (submission.action? world.now world.isFree).map (0, ·) := by
  simp only [nextAction?, single, firstAction?]
  cases submission.action? world.now world.isFree <;> rfl

/-- Nothing can happen at this moment. -/
def Settled (world : World σ) : Prop :=
  ∀ submission ∈ world.submissions, submission.action? world.now world.isFree = none

instance (world : World σ) : Decidable world.Settled :=
  inferInstanceAs (Decidable (∀ submission ∈ world.submissions,
    submission.action? world.now world.isFree = none))

theorem nextAction?_eq_none_iff {world : World σ} : world.nextAction? = none ↔ world.Settled :=
  firstAction?_eq_none_iff

variable (service : ReportService σ)

theorem perform_eq_occur {world : World σ} {index : Nat} {action : Action}
    (next : world.nextAction? = some (index, action)) :
    world.perform service index action = world.occur service (.act index action) := by
  rcases nextAction?_eq_some next with ⟨submission, found, possible⟩
  simp [occur, found, Submission.may_of_action? possible]

/-! ## Loops that make progress -/

/-- A loop runs only if there is time between two of its ticks. -/
def Paced (world : World σ) : Prop :=
  ∀ (index : Nat) (submission : Submission), world.submissions[index]? = some submission →
    submission.isPolling = true → world.policy.interval ≠ 0

theorem paced_start (policy : Policy) (createDelay : Nat) (gate : Option Nat) (state : σ) :
    (start policy createDelay gate state).Paced := by
  simp [Paced, start]

@[simp]
theorem occur_policy (world : World σ) (event : Event) :
    (world.occur service event).policy = world.policy := by
  have transition := transition_occur service world event
  generalize world.occur service event = next at transition ⊢
  cases transition with
  | idle => rfl
  | @receiveCreate _ submission _ _ =>
      simp only [receiveCreate]
      cases submission.cancelled <;> rfl
  | askStatus _ _ _ _ => rfl
  | @receiveStatus _ submission _ _ _ _ _ =>
      simp only [receiveStatus]
      cases submission.cancelled <;> rfl
  | leave _ _ _ => rfl
  | pass span => rfl
  | reject _ => rfl
  | accept _ _ => exact (emptySlot_surroundings world).policy
  | halt => exact (halt_surroundings world).policy
  | clear => exact (emptySlot_surroundings world).policy
  | download jobId =>
      rw [download]
      rcases service.download jobId world.service with ⟨answer, state⟩
      cases answer <;> rfl
  | allow count => rfl
  | abandonCall index => exact (abandonCall_surroundings world index).policy
  | shut => exact (shut_surroundings world).policy

theorem run_policy (world : World σ) (events : List Event) :
    (world.run service events).policy = world.policy :=
  run_invariant service (fun later => later.policy = world.policy)
    (fun later event same => (occur_policy service later event).trans same) world events rfl

theorem Paced.occur {world : World σ} (paced : world.Paced) (coherent : world.Coherent)
    (event : Event) : (world.occur service event).Paced := by
  intro index after foundAfter polling
  rw [occur_policy]
  by_cases own : ∃ action, event = .act index action
  · rcases own with ⟨action, rfl⟩
    have transition := transition_act service world index action
    generalize world.occur service (.act index action) = next at transition foundAfter
    cases transition with
    | idle => exact paced index after foundAfter polling
    | @receiveCreate _ submission found creating =>
        rw [receiveCreate_submissions, List.getElem?_modify_eq, found] at foundAfter
        rcases Option.some.inj foundAfter with rfl
        exact (creation world.policy world.now _ submission).interval_ne_zero
          (coherent.loopless index submission found creating) polling
    | @askStatus _ submission pollLoop due found started waiting reached =>
        exact paced index submission found
          (by simp [Submission.isPolling, started, PollLoop.isFinished, waiting])
    | @receiveStatus _ submission pollLoop next found started asking =>
        exact paced index submission found
          (by simp [Submission.isPolling, started, PollLoop.isFinished, asking])
    | @leave _ submission found cancelled running => exact paced index submission found running
  · have foreign : ∀ action, event ≠ .act index action := fun action same => own ⟨action, same⟩
    cases found : world.submissions[index]? with
    | none => simp [Submission.isPolling, (occur_newcomer service found foundAfter).1] at polling
    | some before =>
        rcases occur_withdrawn service foreign found with ⟨other, foundOther, withdrawn⟩
        rcases Option.some.inj (foundAfter.symm.trans foundOther) with rfl
        simp only [Submission.isPolling, withdrawn.pollLoop] at polling
        exact paced index before found polling

/-! ## Settling comes to its end -/

theorem foldr_modify_lt {α : Type} (size : α → Nat) (change : α → α) {items : List α}
    {index : Nat} {item : α} (found : items[index]? = some item)
    (less : size (change item) < size item) :
    (items.modify index change).foldr (fun item rest => size item + rest) 0 <
      items.foldr (fun item rest => size item + rest) 0 := by
  induction items generalizing index with
  | nil => cases found
  | cons head tail ih =>
      cases index with
      | zero =>
          rcases Option.some.inj found with rfl
          simpa using less
      | succ index => simpa using ih found

theorem le_foldr {α : Type} (size : α → Nat) {items : List α} {item : α} (listed : item ∈ items) :
    size item ≤ items.foldr (fun item rest => size item + rest) 0 := by
  induction items with
  | nil => cases listed
  | cons head tail ih =>
      rcases List.mem_cons.mp listed with rfl | later
      · exact Nat.le_add_right _ _
      · exact Nat.le_trans (ih later) (Nat.le_add_left _ _)

theorem pendingWork_lt {world next : World σ} {index : Nat} {submission : Submission}
    {change : Submission → Submission} (found : world.submissions[index]? = some submission)
    (submissions : next.submissions = world.submissions.modify index change)
    (now : next.now = world.now)
    (less : (change submission).work world.now < submission.work world.now) :
    next.pendingWork < world.pendingWork := by
  rw [pendingWork, submissions, now]
  exact foldr_modify_lt (Submission.work world.now) change found less

theorem pendingWork_perform_lt {world : World σ} (coherent : world.Coherent) (paced : world.Paced)
    {index : Nat} {action : Action} (next : world.nextAction? = some (index, action)) :
    (world.occur service (.act index action)).pendingWork < world.pendingWork := by
  rcases nextAction?_eq_some next with ⟨submission, found, possible⟩
  have may := Submission.may_of_action? possible
  have transition := transition_act service world index action
  generalize world.occur service (.act index action) = after at transition ⊢
  cases transition with
  | idle impossible => simp [impossible submission found] at may
  | receiveCreate found creating =>
      exact pendingWork_lt found (receiveCreate_submissions service world _ _)
        (receiveCreate_now service world _ _)
        (Submission.work_creation_lt (creation _ _ _ _) creating
          (coherent.loopless _ _ found creating))
  | @askStatus _ _ pollLoop due found started waiting reached =>
      have interval := paced index _ found
        (by simp [Submission.isPolling, started, PollLoop.isFinished, waiting])
      exact pendingWork_lt found rfl rfl (Submission.work_asking_lt interval
        (coherent.not_creating_of_started found started) started waiting reached)
  | @receiveStatus _ other _ _ found started asking =>
      have created := coherent.not_creating_of_started found started
      refine pendingWork_lt found (receiveStatus_submissions service world _ _ _ _)
        (receiveStatus_now service world _ _ _ _) ?_
      split
      · exact Submission.work_finished_lt created started (by simp [PollLoop.isFinished, asking])
      · exact Submission.work_proceed_lt created started asking _
  | leave found cancelled polling =>
      rcases (Option.any_eq_true _ _).mp polling with ⟨pollLoop, started, running⟩
      exact pendingWork_lt found rfl rfl (Submission.work_finished_lt
        (coherent.not_creating_of_started found started) started (by simpa using running))

theorem nextAction?_eq_none_of_no_work {world : World σ} (idle : world.pendingWork = 0) :
    world.nextAction? = none := by
  cases next : world.nextAction? with
  | none => rfl
  | some pair =>
      rcases nextAction?_eq_some next with ⟨submission, found, possible⟩
      have positive := Submission.work_pos_of_action? possible
      have bound : submission.work world.now ≤ world.pendingWork :=
        le_foldr (Submission.work world.now) (List.mem_of_getElem? found)
      omega

theorem settled_drain {world : World σ} (coherent : world.Coherent) (paced : world.Paced)
    {budget : Nat} (enough : world.pendingWork ≤ budget) :
    (drain service budget world).Settled := by
  induction budget generalizing world with
  | zero =>
      have idle : world.pendingWork = 0 := Nat.le_zero.mp enough
      exact nextAction?_eq_none_iff.mp (nextAction?_eq_none_of_no_work idle)
  | succ budget ih =>
      simp only [drain]
      split
      · rename_i quiet
        exact nextAction?_eq_none_iff.mp quiet
      · rename_i index action next
        have less := pendingWork_perform_lt service coherent paced next
        rw [perform_eq_occur service next]
        exact ih (coherent.occur service _) (paced.occur service coherent _) (by omega)

/-- Once there is budget for all the work, more of it makes no difference. -/
theorem drain_eq_of_enough {world : World σ} (coherent : world.Coherent) (paced : world.Paced)
    {first second : Nat} (enough : world.pendingWork ≤ first) (ample : world.pendingWork ≤ second) :
    drain service first world = drain service second world := by
  induction first generalizing world second with
  | zero =>
      have quiet := nextAction?_eq_none_of_no_work (Nat.le_zero.mp enough)
      cases second with
      | zero => rfl
      | succ second => simp [drain, quiet]
  | succ first ih =>
      cases next : world.nextAction? with
      | none => cases second <;> simp [drain, next]
      | some pair =>
          have less := pendingWork_perform_lt service coherent paced next
          cases second with
          | zero => omega
          | succ second =>
              simp only [drain, next]
              rw [perform_eq_occur service next]
              exact ih (coherent.occur service _) (paced.occur service coherent _) (by omega)
                (by omega)

theorem settle_of_settled {world : World σ} (settled : world.Settled) :
    settle service world = world := by
  have quiet := nextAction?_eq_none_iff.mpr settled
  simp only [settle]
  cases world.pendingWork with
  | zero => rfl
  | succ budget => simp [drain, quiet]

/-- Settling starts with what happens next. -/
theorem settle_of_next {world : World σ} (coherent : world.Coherent) (paced : world.Paced)
    {index : Nat} {action : Action} (next : world.nextAction? = some (index, action)) :
    settle service world = settle service (world.occur service (.act index action)) := by
  have less := pendingWork_perform_lt service coherent paced next
  rcases Nat.exists_eq_add_one.mpr (Nat.lt_of_le_of_lt (Nat.zero_le _) less) with
    ⟨budget, enough⟩
  simp only [settle]
  rw [enough, drain, next]
  simp only
  rw [perform_eq_occur service next]
  exact drain_eq_of_enough service (coherent.occur service _) (paced.occur service coherent _)
    (by omega) (Nat.le_refl _)

end World

end AuditReports
