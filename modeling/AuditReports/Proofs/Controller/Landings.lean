import AuditReports.Proofs.Controller.Cancellation

/-!
# Answers that land

An answer to a status call lands if it is folded into the snapshot, which it is unless the
submission has been cancelled by then. The landings of a run are the answers that landed, in their
order; all that the snapshot ever shows of the state of a job comes from them.

What a poll loop does is little: it is started, it calls, an answer lands, or it ends because its
submission has been cancelled. `LoopStep` says for each of them what it waits for next and which
call and which landing there is. A run is followed loop by loop by cases on it.
-/

namespace AuditReports

/-- An answer about a job that is folded into the snapshot, when, and for which submission. -/
structure Landing where
  time : Nat
  submission : Nat
  jobId : String
  answer : Except CallError Job

namespace World

variable {σ : Type} (service : ReportService σ)

/-- The answer that lands with an event, if one does. -/
def landing? (world : World σ) : Event → Option Landing
  | .act index .receiveStatus =>
      match world.submissions[index]? with
      | some ⟨_, false, _, some ⟨jobId, _, .asking _⟩⟩ =>
          some ⟨world.now, index, jobId, (service.status jobId world.service).1⟩
      | _ => none
  | _ => none

/-- The answers that land in a run. -/
def landings (world : World σ) : List Event → List Landing
  | [] => []
  | event :: events =>
      (world.landing? service event).toList ++ landings (world.occur service event) events

theorem landings_append (world : World σ) (first second : List Event) :
    world.landings service (first ++ second) =
      world.landings service first ++ (world.run service first).landings service second := by
  induction first generalizing world with
  | nil => rfl
  | cons event first ih => simp [landings, ih]

theorem landings_concat (world : World σ) (events : List Event) (event : Event) :
    world.landings service (events ++ [event]) =
      world.landings service events ++
        ((world.run service events).landing? service event).toList := by
  simp [landings_append, landings]

/-! ## What stands behind a landing -/

inductive Lands (world : World σ) : Event → Landing → Prop where
  | intro {index : Nat} {submission : Submission} {pollLoop : PollLoop} {next : Nat}
      (found : world.submissions[index]? = some submission) (held : submission.cancelled = false)
      (started : submission.pollLoop = some pollLoop) (asking : pollLoop.state = .asking next) :
      Lands world (.act index .receiveStatus)
        ⟨world.now, index, pollLoop.jobId, (service.status pollLoop.jobId world.service).1⟩

theorem landing?_of_asking {world : World σ} {index next : Nat} {submission : Submission}
    {pollLoop : PollLoop} (found : world.submissions[index]? = some submission)
    (held : submission.cancelled = false) (started : submission.pollLoop = some pollLoop)
    (asking : pollLoop.state = .asking next) :
    world.landing? service (.act index .receiveStatus) =
      some ⟨world.now, index, pollLoop.jobId, (service.status pollLoop.jobId world.service).1⟩ := by
  rcases submission with ⟨payload, cancelled, stage, loop⟩
  rcases pollLoop with ⟨jobId, deadline, state⟩
  subst held started asking
  simp only [landing?, found]

theorem landing?_eq_some_iff {world : World σ} {event : Event} {landing : Landing} :
    world.landing? service event = some landing ↔ world.Lands service event landing := by
  constructor
  · intro lands
    unfold landing? at lands
    split at lands
    · split at lands
      · rename_i found
        rcases Option.some.inj lands with rfl
        exact .intro found rfl rfl rfl
      · cases lands
    · cases lands
  · rintro ⟨found, held, started, asking⟩
    exact landing?_of_asking service found held started asking

theorem landing?_of_other {event : Event} (other : ∀ index, event ≠ .act index .receiveStatus)
    (world : World σ) : world.landing? service event = none := by
  unfold landing?
  split
  · exact absurd rfl (other _)
  · rfl

/-- Whatever arrives for a cancelled submission does not land. -/
theorem landing?_of_isCancelled {world : World σ} {index : Nat}
    (cancelled : world.IsCancelled index) (action : Action) :
    world.landing? service (.act index action) = none := by
  rcases cancelled with ⟨submission, found, cancelled⟩
  cases landed : world.landing? service (.act index action) with
  | none => rfl
  | some landing =>
      rcases (landing?_eq_some_iff service).mp landed with ⟨foundOther, held, _, _⟩
      rcases Option.some.inj (found.symm.trans foundOther) with rfl
      cases cancelled.symm.trans held

theorem Lands.time {world : World σ} {event : Event} {landing : Landing}
    (lands : world.Lands service event landing) : landing.time = world.now := by
  cases lands
  rfl

theorem Lands.answer {world : World σ} {event : Event} {landing : Landing}
    (lands : world.Lands service event landing) :
    (service.status landing.jobId world.service).1 = landing.answer := by
  cases lands
  rfl

/-- The poll loop of a submission, once it has been started. -/
def loop? (world : World σ) (index : Nat) : Option PollLoop :=
  world.submissions[index]?.bind Submission.pollLoop

theorem loop?_of_found {world : World σ} {index : Nat} {submission : Submission}
    (found : world.submissions[index]? = some submission) :
    world.loop? index = submission.pollLoop := by
  simp [loop?, found]

/-- A landing is folded into the snapshot; the deadline is that of the loop that asked. -/
theorem Lands.snapshot {world : World σ} {event : Event} {landing : Landing}
    (lands : world.Lands service event landing) :
    ∃ pollLoop, world.loop? landing.submission = some pollLoop ∧
      (world.occur service event).snapshot =
        (world.afterAnswer pollLoop.deadline landing.answer).1 := by
  rcases lands with ⟨found, held, started, asking⟩
  refine ⟨_, (loop?_of_found found).trans started, ?_⟩
  rw [occur_receiveStatus service found started asking, receiveStatus_snapshot, held]
  rfl

theorem exists_of_mem_landings {world : World σ} {events : List Event} {landing : Landing}
    (listed : landing ∈ world.landings service events) :
    ∃ earlier event later, events = earlier ++ event :: later ∧
      (world.run service earlier).Lands service event landing := by
  induction events generalizing world with
  | nil => cases listed
  | cons event events ih =>
      rcases List.mem_append.mp listed with first | rest
      · exact ⟨[], event, events, rfl,
          (landing?_eq_some_iff service).mp (Option.mem_toList.mp first)⟩
      · rcases ih rest with ⟨earlier, other, later, rfl, lands⟩
        exact ⟨event :: earlier, other, later, rfl, lands⟩

/-- Once a submission has been cancelled, nothing lands for it. -/
theorem submission_ne_of_isCancelled {world : World σ} {index : Nat}
    (cancelled : world.IsCancelled index) {events : List Event} {landing : Landing}
    (listed : landing ∈ world.landings service events) : landing.submission ≠ index := by
  rintro rfl
  rcases exists_of_mem_landings service listed with ⟨earlier, event, later, _, lands⟩
  have still := isCancelled_run service cancelled earlier
  have landed := (landing?_eq_some_iff service).mpr lands
  cases lands
  cases (landing?_of_isCancelled service still _).symm.trans landed

/-! ## One loop -/

/-- What an event does to the loop of a submission, and the call and the landing that come with
it. -/
inductive LoopStep (world : World σ) (index : Nat) :
    Option PollLoop → Option PollLoop → List Entry → Option Landing → Prop where
  | kept (pollLoop : Option PollLoop) : LoopStep world index pollLoop pollLoop [] none
  | started (jobId : String) {state : LoopState}
      (fresh : state = .waiting world.now ∨ state = .finished) :
      LoopStep world index none
        (some ⟨jobId, world.policy.timeout.map (world.now + ·), state⟩) [] none
  | asked {jobId : String} {deadline : Option Nat} {due : Nat} (reached : due ≤ world.now) :
      LoopStep world index (some ⟨jobId, deadline, .waiting due⟩)
        (some ⟨jobId, deadline, .asking (world.policy.following world.now due)⟩)
        [⟨world.now, some index, .statusAsked jobId⟩] none
  | landed {jobId : String} {deadline : Option Nat} {next : Nat} {answer : Except CallError Job}
      (answered : (service.status jobId world.service).1 = answer) :
      LoopStep world index (some ⟨jobId, deadline, .asking next⟩)
        (some ⟨jobId, deadline, .afterVerdict next (world.afterAnswer deadline answer).2⟩)
        [] (some ⟨world.now, index, jobId, answer⟩)
  | ended {jobId : String} {deadline : Option Nat} {state : LoopState}
      (cancelled : world.IsCancelled index) :
      LoopStep world index (some ⟨jobId, deadline, state⟩) (some ⟨jobId, deadline, .finished⟩)
        [] none

/-- The landing of an event, if it is one of the submission. -/
def landingOf? (world : World σ) (index : Nat) (event : Event) : Option Landing :=
  (world.landing? service event).filter (·.submission == index)

theorem landingOf?_of_lands {world : World σ} {event : Event} {landing : Landing}
    (lands : world.Lands service event landing) :
    world.landingOf? service landing.submission event = some landing := by
  simp [landingOf?, (landing?_eq_some_iff service).mpr lands]

theorem landingOf?_of_none {world : World σ} {event : Event}
    (quiet : world.landing? service event = none) (index : Nat) :
    world.landingOf? service index event = none := by
  simp [landingOf?, quiet]

theorem landingOf?_of_foreign {world : World σ} {index : Nat} {event : Event}
    (foreign : ∀ action, event ≠ .act index action) :
    world.landingOf? service index event = none := by
  cases landed : world.landing? service event with
  | none => exact landingOf?_of_none service landed index
  | some landing =>
      rcases (landing?_eq_some_iff service).mp landed with @⟨other, _, _, _, _, _, _, _⟩
      have different : other ≠ index := by
        rintro rfl
        exact foreign _ rfl
      simp [landingOf?, landed, different]

theorem landing?_of_impossible {world : World σ} {index : Nat} {action : Action}
    (impossible : ∀ submission, world.submissions[index]? = some submission →
      submission.may world.now action = false) :
    world.landing? service (.act index action) = none := by
  cases landed : world.landing? service (.act index action) with
  | none => rfl
  | some landing =>
      rcases (landing?_eq_some_iff service).mp landed with ⟨found, _, started, asking⟩
      have barred := impossible _ found
      simp [Submission.may, started, asking] at barred

/-- A loop keeps its job and its deadline. -/
theorem LoopStep.exists_state {world : World σ} {index : Nat} {pollLoop : PollLoop}
    {after : Option PollLoop} {calls : List Entry} {landed : Option Landing}
    (step : world.LoopStep service index (some pollLoop) after calls landed) :
    ∃ state, after = some { pollLoop with state := state } := by
  cases step with
  | kept => exact ⟨pollLoop.state, rfl⟩
  | asked reached => exact ⟨_, rfl⟩
  | landed answered => exact ⟨_, rfl⟩
  | ended cancelled => exact ⟨_, rfl⟩

/-- The answer to its create call starts the loop of a submission, or leaves it without one. -/
theorem LoopStep.of_creation {world : World σ} {submission after : Submission}
    {answer : Except CallError String}
    (creation : Creation world.policy world.now submission answer after)
    (loopless : submission.pollLoop = none) (index : Nat) :
    world.LoopStep service index none after.pollLoop [] none := by
  cases creation with
  | refused error =>
      simp only [loopless]
      exact .kept none
  | unfollowed jobId _ =>
      simp only [loopless]
      exact .kept none
  | followed jobId _ _ => exact .started jobId (Or.inl rfl)
  | stillborn jobId _ _ => exact .started jobId (Or.inr rfl)

/-- What a submission does of its own accord. -/
theorem loopStep_act {world : World σ} (coherent : world.Coherent) (index : Nat)
    (action : Action) :
    ∃ calls, (world.occur service (.act index action)).statusCalls index =
        world.statusCalls index ++ calls ∧
      world.LoopStep service index (world.loop? index)
        ((world.occur service (.act index action)).loop? index) calls
        (world.landingOf? service index (.act index action)) := by
  have silent : action ≠ .askStatus →
      (world.occur service (.act index action)).statusCalls index =
        world.statusCalls index ++ [] := by
    intro other
    rw [List.append_nil]
    exact statusCalls_occur service fun same => other (Event.act.inj same).2
  have quiet : action ≠ .receiveStatus →
      world.landingOf? service index (.act index action) = none := by
    intro other
    apply landingOf?_of_none
    exact landing?_of_other service (fun _ same => other (Event.act.inj same).2) world
  have transition := transition_act service world index action
  generalize world.occur service (.act index action) = next at transition silent ⊢
  cases transition with
  | idle impossible =>
      refine ⟨[], (List.append_nil _).symm, ?_⟩
      rw [landingOf?_of_none service (landing?_of_impossible service impossible)]
      exact .kept _
  | @receiveCreate _ submission found creating =>
      have loopless := coherent.loopless index submission found creating
      refine ⟨[], silent (by simp), ?_⟩
      rw [quiet (by simp), loop?_of_found found, loopless, loop?, receiveCreate_submissions,
        List.getElem?_modify_eq, found]
      exact .of_creation service (creation world.policy world.now _ submission) loopless index
  | @askStatus _ submission pollLoop due found started waiting reached =>
      refine ⟨[⟨world.now, some index, .statusAsked pollLoop.jobId⟩], ?_, ?_⟩
      · simp [statusCalls, askStatus, update, record, List.filter_append, Exchange.asksStatus]
      · have after := Submission.withLoopState_pollLoop
          (.asking (world.policy.following world.now due)) started
        rw [quiet (by simp), loop?_of_found found, started, loop?, askStatus, getElem?_update]
        simp only [record, found, Option.map_some, if_true, Option.bind_some, after]
        rcases pollLoop with ⟨jobId, deadline, state⟩
        rcases waiting with rfl
        exact .asked reached
  | @receiveStatus _ submission pollLoop tick found started asking =>
      refine ⟨[], silent (by simp), ?_⟩
      have foundAfter := congrArg (·[index]?)
        (receiveStatus_submissions service world index submission pollLoop tick)
      simp only [List.getElem?_modify_eq, found, Option.map_eq_map, Option.map_some] at foundAfter
      rw [loop?_of_found found, started, loop?_of_found foundAfter, proceed_pollLoop _ started]
      rcases pollLoop with ⟨jobId, deadline, state⟩
      rcases asking with rfl
      cases token : submission.cancelled with
      | true =>
          have cancelled : world.IsCancelled index := ⟨submission, found, token⟩
          rw [landingOf?_of_none service (landing?_of_isCancelled service cancelled _)]
          exact .ended cancelled
      | false =>
          rw [landingOf?_of_lands service (.intro found token started rfl)]
          exact .landed rfl
  | @leave _ submission found cancelled polling =>
      rcases (Option.any_eq_true _ _).mp polling with ⟨pollLoop, started, _⟩
      have after := proceed_pollLoop .finished started
      refine ⟨[], silent (by simp), ?_⟩
      rw [quiet (by simp), loop?_of_found found, started, loop?, leave, getElem?_update, found]
      simp only [Option.map_some, if_true, Option.bind_some, after]
      exact .ended ⟨submission, found, cancelled⟩

theorem loop?_occur_of_foreign {world : World σ} {index : Nat} {event : Event}
    (foreign : ∀ action, event ≠ .act index action) :
    (world.occur service event).loop? index = world.loop? index := by
  cases found : world.submissions[index]? with
  | none =>
      rw [loop?, loop?, found]
      cases foundAfter : (world.occur service event).submissions[index]? with
      | none => rfl
      | some after => exact (occur_newcomer service found foundAfter).1
  | some before =>
      rcases occur_withdrawn service foreign found with ⟨after, foundAfter, withdrawn⟩
      rw [loop?_of_found found, loop?_of_found foundAfter, withdrawn.pollLoop]

/-- What an event does to the loop of a submission, with the calls that it adds to those that were
made for the submission. -/
theorem loopStep_occur {world : World σ} (coherent : world.Coherent) (index : Nat)
    (event : Event) :
    ∃ calls, (world.occur service event).statusCalls index = world.statusCalls index ++ calls ∧
      world.LoopStep service index (world.loop? index)
        ((world.occur service event).loop? index) calls
        (world.landingOf? service index event) := by
  by_cases own : ∃ action, event = .act index action
  · rcases own with ⟨action, rfl⟩
    exact loopStep_act service coherent index action
  · have foreign : ∀ action, event ≠ .act index action := fun action same => own ⟨action, same⟩
    refine ⟨[], ?_, ?_⟩
    · rw [List.append_nil]
      exact statusCalls_occur service (foreign .askStatus)
    · rw [loop?_occur_of_foreign service foreign, landingOf?_of_foreign service foreign]
      exact .kept _

/-- The answers that land in a run for one of the submissions. -/
def landingsOf (world : World σ) (index : Nat) (events : List Event) : List Landing :=
  (world.landings service events).filter (·.submission == index)

theorem landingsOf_concat (world : World σ) (index : Nat) (events : List Event) (event : Event) :
    world.landingsOf service index (events ++ [event]) =
      world.landingsOf service index events ++
        ((world.run service events).landingOf? service index event).toList := by
  rw [landingsOf, landings_concat, List.filter_append, ← Option.toList_filter]
  rfl

end World

end AuditReports
