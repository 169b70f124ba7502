import AuditReports.Proofs.Controller.Lockstep
import AuditReports.Proofs.Controller.Ownership

/-!
# Rejected requests

A request that is not valid, and one that is made while a submission waits for its job, is turned
away before anything has been touched. The only trace that it leaves in a session is the number that
was given to it: the submissions after it are numbered one higher. So the run with a rejected
request and the run without it are the same up to the numbers, and that is what has to be shown for
every step that can follow.

The other errors of a submission come later, from the service or from a cancellation, and never look
like a rejection.
-/

namespace AuditReports

namespace ReportError

/-- The request was turned away. -/
def isRejection : ReportError → Bool
  | .validation _ => true
  | .alreadySubmitting => true
  | _ => false

end ReportError

namespace Session

/-! ## Numbers that are given away -/

/-- The number of a submission when `count` more numbers have been given away before the one at
`place`. -/
def renumber (place count number : Nat) : Nat :=
  if number < place then number else number + count

/-- The submissions by number when `count` more numbers have been given away. -/
def withBlanks (place count : Nat) (submits : List (Option Nat)) : List (Option Nat) :=
  submits.take place ++ (List.replicate count none ++ submits.drop place)

end Session

namespace Step

/-- The same step, with the submissions named by their new numbers. -/
def renumbered (place count : Nat) : Step → Step
  | .abandon number => .abandon (Session.renumber place count number)
  | step => step

end Step

namespace Observation

/-- The same observation, with the submissions named by their new numbers, after `requests` earlier
requests. -/
def renumbered (place count requests : Nat) (seen : Observation) : Observation :=
  { seen with
    finished := seen.finished.map fun ended => (Session.renumber place count ended.1, ended.2)
    requests := requests + seen.requests }

end Observation

namespace Session

variable {σ : Type}

/-- The session when `count` more numbers have been given away, to requests that were rejected, and
`requests` more requests have been counted. -/
def spaced (session : Session σ) (place count requests : Nat) : Session σ :=
  { session with
    submits := withBlanks place count session.submits
    requests := requests + session.requests }

variable {place count : Nat} {submits : List (Option Nat)}

theorem getElem?_withBlanks (within : place ≤ submits.length) (number : Nat) :
    (withBlanks place count submits)[renumber place count number]? = submits[number]? := by
  have length : (submits.take place).length = place := List.length_take_of_le within
  simp only [withBlanks, renumber]
  split
  · rename_i before
    rw [List.getElem?_append_left (by omega), List.getElem?_take_of_lt before]
  · rw [List.getElem?_append_right (by omega), List.getElem?_append_right (by simp; omega),
      List.getElem?_drop, List.length_replicate, length]
    congr 1
    omega

theorem withBlanks_append (within : place ≤ submits.length) (more : List (Option Nat)) :
    withBlanks place count (submits ++ more) = withBlanks place count submits ++ more := by
  simp [withBlanks, List.take_append_of_le_length within, List.drop_append_of_le_length within]

theorem length_withBlanks (within : place ≤ submits.length) :
    (withBlanks place count submits).length = renumber place count submits.length := by
  rw [renumber, if_neg (by omega), withBlanks, List.length_append, List.length_append,
    List.length_take_of_le within, List.length_replicate, List.length_drop]
  omega

theorem finishedBetween_add (before after : World σ) (number : Nat) :
    finishedBetween before after (number + count) submits =
      (finishedBetween before after number submits).map fun ended =>
        (ended.1 + count, ended.2) := by
  induction submits generalizing number with
  | nil => rfl
  | cons place submits ih =>
      have rest := ih (number + 1)
      rw [Nat.add_right_comm] at rest
      cases place with
      | none => exact rest
      | some index =>
          simp only [finishedBetween]
          split
          · rw [rest, List.map_cons]
          · exact rest

theorem finishedBetween_withBlanks (within : place ≤ submits.length) (before after : World σ) :
    finishedBetween before after 0 (withBlanks place count submits) =
      (finishedBetween before after 0 submits).map fun ended =>
        (renumber place count ended.1, ended.2) := by
  have length : (submits.take place).length = place := List.length_take_of_le within
  have earlier : (finishedBetween before after 0 (submits.take place)).map
      (fun ended => (renumber place count ended.1, ended.2)) =
        finishedBetween before after 0 (submits.take place) := by
    refine (List.map_congr_left fun ended listed => ?_).trans (List.map_id _)
    have bound := (mem_finishedBetween listed).2.1
    simp [renumber, show ended.1 < place by omega]
  have later : (finishedBetween before after place (submits.drop place)).map
      (fun ended => (renumber place count ended.1, ended.2)) =
        finishedBetween before after (place + count) (submits.drop place) := by
    rw [finishedBetween_add]
    refine List.map_congr_left fun ended listed => ?_
    have bound := (mem_finishedBetween listed).1
    simp [renumber, show ¬ended.1 < place by omega]
  conv_rhs => rw [← List.take_append_drop place submits]
  rw [withBlanks, finishedBetween_append, finishedBetween_append, finishedBetween_append,
    List.map_append, length, Nat.zero_add, finishedBetween_blank, earlier, later,
    List.length_replicate, List.nil_append]

section Spaced

variable (service : ReportService σ) (count requests : Nat)

theorem observe_spaced (session : Session σ) (world : World σ)
    (within : place ≤ submits.length) (isOpen : Bool)
    (download : Option (Except ReportError Artifact)) :
    (session.spaced place count requests).observe world (withBlanks place count submits) isOpen
        download =
      (session.observe world submits isOpen download).map (·.spaced place count requests)
        (·.renumbered place count requests) := by
  simp only [observe, spaced, Prod.map_apply, Observation.renumbered,
    finishedBetween_withBlanks within, Nat.add_assoc]

theorem submission?_spaced {session : Session σ} (within : place ≤ session.submits.length)
    (number : Nat) :
    (session.spaced place count requests).submission? (renumber place count number) =
      session.submission? number := by
  simp only [submission?, spaced, getElem?_withBlanks within]

theorem submit_spaced {session : Session σ} (within : place ≤ session.submits.length)
    (request : ReportRequest) :
    (session.spaced place count requests).submit service request =
      (session.submit service request).map (·.spaced place count requests)
        (·.renumbered place count requests) := by
  have more : ∀ submit, (session.spaced place count requests).submits ++ [submit] =
      withBlanks place count (session.submits ++ [submit]) :=
    fun submit => (withBlanks_append within [submit]).symm
  have within' : ∀ submit, place ≤ (session.submits ++ [submit]).length := by
    intro submit
    rw [List.length_append]
    omega
  have world : (session.spaced place count requests).world = session.world := rfl
  simp only [submit, world, more]
  cases session.world.submit service request with
  | ok next => exact observe_spaced count requests session next (within' _) true none
  | error error =>
      have number : (session.spaced place count requests).submits.length =
          renumber place count session.submits.length := length_withBlanks within
      simp only [observe_spaced count requests session session.world (within' none), number,
        Prod.map, Observation.renumbered, List.map_append, List.map_cons, List.map_nil]

/-- A step does the same whatever numbers have been given away. -/
theorem perform_spaced {session : Session σ} (within : place ≤ session.submits.length)
    (step : Step) :
    (session.spaced place count requests).perform service (step.renumbered place count) =
      (session.perform service step).map (·.spaced place count requests)
        (·.renumbered place count requests) := by
  have observed := fun world isOpen download =>
    observe_spaced count requests session world within isOpen download
  have refused : (session.spaced place count requests).refuse =
      session.refuse.map (·.spaced place count requests)
        (·.renumbered place count requests) := by
    have seen := observed session.world session.isOpen none
    simp only [refuse]
    exact congrArg (fun told : Session σ × Observation => (told.1, { told.2 with refused := true }))
      seen
  cases step with
  | advance span => exact observed _ _ _
  | permit count => exact observed _ _ _
  | close => exact observed _ _ _
  | abandon number =>
      simp only [Step.renumbered, perform, submission?_spaced count requests within]
      exact observed _ _ _
  | submit request =>
      simp only [Step.renumbered, perform, apply_ite (Prod.map _ _)]
      exact ite_congr rfl (fun _ => submit_spaced service count requests within request)
        fun _ => refused
  | stopPolling =>
      simp only [Step.renumbered, perform, apply_ite (Prod.map _ _)]
      exact ite_congr rfl (fun _ => observed _ _ _) fun _ => refused
  | reset =>
      simp only [Step.renumbered, perform, apply_ite (Prod.map _ _)]
      exact ite_congr rfl (fun _ => observed _ _ _) fun _ => refused
  | download jobId =>
      simp only [Step.renumbered, perform, apply_ite (Prod.map _ _)]
      exact ite_congr rfl (fun _ => observed _ _ _) fun _ => refused

theorem length_submits_perform (session : Session σ) (step : Step) :
    session.submits.length ≤ (session.perform service step).1.submits.length := by
  rcases submits_perform service session step with same | ⟨request, submitted⟩
  · exact Nat.le_of_eq (congrArg List.length same.symm)
  · rw [submitted, submit]
    split <;> simp [observe]

/-- A whole session is the same whatever numbers have been given away. -/
theorem run_spaced {session : Session σ} (within : place ≤ session.submits.length)
    (steps : List Step) :
    (session.spaced place count requests).run service (steps.map (·.renumbered place count)) =
        (session.run service steps).map (·.renumbered place count requests) ∧
      (session.spaced place count requests).after service
          (steps.map (·.renumbered place count)) =
        (session.after service steps).spaced place count requests := by
  induction steps generalizing session with
  | nil => exact ⟨rfl, rfl⟩
  | cons step steps ih =>
      have first := perform_spaced service count requests within step
      have rest := ih (Nat.le_trans within (length_submits_perform service session step))
      simp only [List.map_cons, run, after, List.foldl_cons, first, Prod.map]
      exact ⟨congrArg _ rest.1, rest.2⟩

end Spaced

end Session

namespace Stage

theorem eq_of_released {stage : Stage} {error : ReportError}
    (returned : stage.released = .returned (.error error)) : stage = .returned (.error error) := by
  cases stage with
  | firstPoll jobId => simp [released] at returned
  | _ => exact returned

end Stage

namespace World

variable {σ : Type} (service : ReportService σ)

/-! ## Errors of accepted submissions -/

/-- No submission that was accepted ends as if its request had been turned away. -/
def NeverTurnsAway (world : World σ) : Prop :=
  ∀ (index : Nat) (submission : Submission), world.submissions[index]? = some submission →
    ∀ error, submission.stage = .returned (.error error) → error.isRejection = false

theorem Creation.isRejection {policy : Policy} {now : Nat} {submission after : Submission}
    {answer : Except CallError String} {error : ReportError}
    (creation : Creation policy now submission answer after)
    (returned : after.stage = .returned (.error error)) : error.isRejection = false := by
  cases creation with
  | refused failure =>
      rcases Except.error.inj (Stage.returned.inj returned) with rfl
      rfl
  | unfollowed jobId _ =>
      rcases Except.error.inj (Stage.returned.inj returned) with rfl
      rfl
  | followed jobId _ _ => cases returned
  | stillborn jobId _ _ => cases returned

theorem NeverTurnsAway.occur {world : World σ} (never : world.NeverTurnsAway) (event : Event) :
    (world.occur service event).NeverTurnsAway := by
  intro index after foundAfter error returned
  by_cases own : ∃ action, event = .act index action
  · rcases own with ⟨action, rfl⟩
    have transition := transition_act service world index action
    generalize world.occur service (.act index action) = next at transition foundAfter
    cases transition with
    | idle _ => exact never index after foundAfter error returned
    | receiveCreate found _ =>
        rw [receiveCreate_submissions, List.getElem?_modify_eq, found] at foundAfter
        rcases Option.some.inj foundAfter with rfl
        exact (creation world.policy world.now _ _).isRejection returned
    | askStatus _ _ _ _ =>
        rcases getElem?_update_eq_some foundAfter with ⟨before, foundBefore, rfl⟩
        simp only [if_true] at returned
        exact never index before foundBefore error returned
    | receiveStatus found _ _ =>
        rw [receiveStatus_submissions, List.getElem?_modify_eq, found] at foundAfter
        rcases Option.some.inj foundAfter with rfl
        exact never index _ found error (Stage.eq_of_released returned)
    | leave _ _ _ =>
        rcases getElem?_update_eq_some foundAfter with ⟨before, foundBefore, rfl⟩
        simp only [if_true] at returned
        exact never index before foundBefore error (Stage.eq_of_released returned)
  · cases found : world.submissions[index]? with
    | none =>
        have creating := (occur_newcomer service found foundAfter).2.2
        simp [returned, Stage.isCreating] at creating
    | some before =>
        rcases occur_withdrawn service (fun action same => own ⟨action, same⟩) found with
          ⟨other, foundOther, withdrawn⟩
        rcases Option.some.inj (foundAfter.symm.trans foundOther) with rfl
        rcases withdrawn.stage with same | ⟨_, abandoned⟩
        · exact never index before found error (same.symm.trans returned)
        · simp [abandoned] at returned

theorem neverTurnsAway_run (policy : Policy) (createDelay : Nat) (gate : Option Nat) (state : σ)
    (events : List Event) :
    ((start policy createDelay gate state).run service events).NeverTurnsAway :=
  run_invariant service NeverTurnsAway (fun _ event never => never.occur service event) _ events
    (by simp [NeverTurnsAway, start])

end World

namespace Session

variable {σ : Type} (service : ReportService σ)

/-- A submission of a session ends as a rejected one only if its request was turned away. -/
theorem submit_of_rejection {session : Session σ} {request : ReportRequest} {error : ReportError}
    (never : (session.submit service request).1.world.NeverTurnsAway)
    (ended : (session.submits.length, .error error) ∈ (session.submit service request).2.finished)
    (rejection : error.isRejection = true) :
    session.world.submit service request = .error error := by
  simp only [submit] at never ended ⊢
  cases submitted : session.world.submit service request with
  | ok next =>
      simp only [submitted, observe] at never ended
      rcases (mem_finishedBetween ended).2.2 with ⟨index, _, result⟩
      rcases result?_eq_some_iff.mp result with ⟨submission, found, returned⟩
      simp [never index submission found error returned] at rejection
  | error other =>
      simp only [submitted, observe, finishedBetween_self, List.nil_append, List.mem_singleton,
        Prod.mk.injEq, true_and, Except.error.injEq] at ended
      rw [ended]

/-- A rejected request gives a number away, and that is all. -/
theorem submit_of_error {session : Session σ} (isOpen : session.isOpen = true)
    {request : ReportRequest} {error : ReportError}
    (rejected : session.world.submit service request = .error error) :
    session.submit service request =
      (session.spaced session.submits.length 1 0,
        { finished := [(session.submits.length, .error error)]
          changed := some false
          polling := some session.world.polls
          snapshot := session.world.snapshot
          asked := []
          requests := session.requests
          download := none
          refused := false }) := by
  simp [submit, rejected, observe, spaced, withBlanks, isOpen]

/-! ## Main result -/

variable (policy : Policy) (createDelay : Nat) (gate : Option Nat) (state : σ)

theorem neverTurnsAway_after (steps : List Step) :
    ((Session.start (World.start policy createDelay gate state)).after service
      steps).world.NeverTurnsAway := by
  have reached := @after_spec σ service (Session.start (World.start policy createDelay gate state))
    (atRest_start policy createDelay gate state) steps
  rcases reached.2 with ⟨events, world, _⟩
  rw [world]
  exact World.neverTurnsAway_run service policy createDelay gate state events

/-- A rejected request leaves no trace. In whatever order things happen, the run with a request that
is turned away and the run without it reach the same states. And a submission of a session that ends
with a rejection asks the service for nothing and notifies nobody, and whatever steps follow, what
can be seen after each of them is what would have been seen without it, only that the later
submissions are numbered one higher; the states of the controller, and with them all calls with
their times, are the same. -/
theorem rejected_request_leaves_no_trace :
    let initial := World.start policy createDelay gate state
    (∀ (history rest : List World.Event) (request : ReportRequest) (error : ReportError),
      (initial.run service history).claim request = .error error →
        initial.run service (history ++ .submit request :: rest) =
          initial.run service (history ++ rest)) ∧
    (∀ (history rest : List Step) (request : ReportRequest) (error : ReportError),
      let session := (Session.start initial).after service history
      let number := session.submits.length
      let next := (session.perform service (.submit request)).1
      let seen := (session.perform service (.submit request)).2
      let renamed := rest.map (·.renumbered number 1)
      (number, .error error) ∈ seen.finished → error.isRejection = true →
        seen =
          { finished := [(number, .error error)]
            changed := some false
            polling := some session.world.polls
            snapshot := session.world.snapshot
            asked := []
            requests := session.requests
            download := none
            refused := false } ∧
        next.world = session.world ∧
        next.run service renamed = (session.run service rest).map (·.renumbered number 1 0) ∧
        (next.after service renamed).world = (session.after service rest).world) := by
  intro initial
  refine ⟨?_, ?_⟩
  · intro history rest request error rejected
    rw [World.run_append, World.run_append, World.run_cons]
    simp only [World.occur, rejected]
  · intro history rest request error session number next seen renamed ended rejection
    cases isOpen : session.isOpen with
    | false =>
        have refused : seen.finished = [] := by
          simp [seen, perform, isOpen, refuse, observe]
        simp [refused] at ended
    | true =>
        have submitted : session.perform service (.submit request) =
            session.submit service request := by
          simp [perform, isOpen, performOpen]
        have never := neverTurnsAway_after service policy createDelay gate state
          (history ++ [.submit request])
        rw [after, List.foldl_append] at never
        change next.world.NeverTurnsAway at never
        simp only [next, seen, submitted] at never ended ⊢
        have rejected := submit_of_rejection service never ended rejection
        rcases run_spaced service 1 0 (Nat.le_refl session.submits.length) rest with ⟨told, last⟩
        rw [submit_of_error service isOpen rejected]
        exact ⟨rfl, rfl, told, (congrArg Session.world last).trans rfl⟩

/-- A second request is turned away while the first one waits for its job, and the third one, which
replaces the first, can be given up by its number. -/
theorem rejected_request_leaves_no_trace_while_waiting :
    let initial := World.start ⟨5000, none⟩ 100 none World.sampleScript
    let session := (Session.start initial).after Script.service [.submit World.sampleRequest]
    let rest : List Step := [.stopPolling, .submit World.sampleRequest, .advance 50, .abandon 1]
    let turned := session.perform Script.service (.submit World.sampleRequest)
    (initial.run Script.service [.submit World.sampleRequest]).claim World.sampleRequest =
        .error .alreadySubmitting ∧
      (initial.run Script.service
          [.submit World.sampleRequest, .submit World.sampleRequest, .pass 100]) =
        initial.run Script.service [.submit World.sampleRequest, .pass 100] ∧
      turned.2.finished = [(1, .error .alreadySubmitting)] ∧ turned.2.asked = [] ∧
      rest.map (·.renumbered 1 1) =
        [.stopPolling, .submit World.sampleRequest, .advance 50, .abandon 2] ∧
      turned.1.run Script.service (rest.map (·.renumbered 1 1)) =
        (session.run Script.service rest).map (·.renumbered 1 1 0) ∧
      (turned.1.after Script.service (rest.map (·.renumbered 1 1))).world.snapshot = .initial := by
  have main := rejected_request_leaves_no_trace Script.service ⟨5000, none⟩ 100 none
    World.sampleScript
  have follows := main.2 [.submit World.sampleRequest]
    [.stopPolling, .submit World.sampleRequest, .advance 50, .abandon 1] World.sampleRequest
    .alreadySubmitting (List.mem_singleton.mpr rfl) rfl
  refine ⟨rfl, main.1 [.submit World.sampleRequest] [.pass 100] World.sampleRequest _ rfl, rfl,
    congrArg Observation.asked follows.1, rfl, follows.2.2.1, ?_⟩
  exact congrArg World.snapshot follows.2.2.2

end Session

end AuditReports
