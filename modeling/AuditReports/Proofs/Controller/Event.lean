import AuditReports.Controller.Event
import AuditReports.Controller.Session

/-!
# What an event does

An event is a single thing that happens to a controller, possible or not. `Transition` says once for
all what an event does. Every invariant of the controller is a case split over its constructors.
-/

namespace AuditReports

namespace Exchange

/-- A service was asked for the status of a job. -/
def asksStatus : Exchange → Bool
  | .statusAsked _ => true
  | _ => false

end Exchange

namespace Submission

/-- The submission waits for its job or polls it. -/
def isLive (submission : Submission) : Bool :=
  submission.stage.isCreating || submission.isPolling

end Submission

namespace World

variable {σ : Type} (service : ReportService σ)

@[simp]
theorem run_nil (world : World σ) : world.run service [] = world := rfl

@[simp]
theorem run_cons (world : World σ) (event : Event) (events : List Event) :
    world.run service (event :: events) = (world.occur service event).run service events := rfl

@[simp]
theorem run_append (world : World σ) (first second : List Event) :
    world.run service (first ++ second) = (world.run service first).run service second :=
  List.foldl_append

/-- What every event keeps, every run keeps. -/
theorem run_invariant (invariant : World σ → Prop)
    (kept : ∀ world event, invariant world → invariant (world.occur service event))
    (world : World σ) (events : List Event) (holds : invariant world) :
    invariant (world.run service events) := by
  induction events generalizing world with
  | nil => exact holds
  | cons event events ih => exact ih (world.occur service event) (kept world event holds)

/-- What an event does, and what has to hold for it to do anything. -/
inductive Transition (world : World σ) : Event → World σ → Prop where
  /-- The submission cannot do that now. -/
  | idle {index : Nat} {action : Action} (impossible : ∀ submission,
      world.submissions[index]? = some submission → submission.may world.now action = false) :
      Transition world (.act index action) world
  | receiveCreate {index : Nat} {submission : Submission}
      (found : world.submissions[index]? = some submission)
      (creating : submission.stage.isCreating = true) :
      Transition world (.act index .receiveCreate) (world.receiveCreate service index submission)
  | askStatus {index : Nat} {submission : Submission} {pollLoop : PollLoop} {due : Nat}
      (found : world.submissions[index]? = some submission)
      (started : submission.pollLoop = some pollLoop)
      (waiting : pollLoop.state = .waiting due) (reached : due ≤ world.now) :
      Transition world (.act index .askStatus) (world.askStatus index pollLoop due)
  | receiveStatus {index : Nat} {submission : Submission} {pollLoop : PollLoop} {next : Nat}
      (found : world.submissions[index]? = some submission)
      (started : submission.pollLoop = some pollLoop)
      (asking : pollLoop.state = .asking next) :
      Transition world (.act index .receiveStatus)
        (world.receiveStatus service index submission pollLoop next)
  | leave {index : Nat} {submission : Submission}
      (found : world.submissions[index]? = some submission)
      (cancelled : submission.cancelled = true) (polling : submission.isPolling = true) :
      Transition world (.act index .leave) (world.leave index)
  | pass (span : Nat) : Transition world (.pass span) { world with now := world.now + span }
  | reject {request : ReportRequest} {error : ReportError}
      (rejected : world.claim request = .error error) : Transition world (.submit request) world
  | accept {request : ReportRequest} {payload : Payload} (valid : request.check = .ok payload)
      (free : world.snapshot.phase ≠ .submitting) :
      Transition world (.submit request) (world.accept payload)
  | halt : Transition world .stopPolling world.halt
  | clear : Transition world .reset world.clear
  | download (jobId : String) :
      Transition world (.download jobId) (world.download service jobId).1
  | allow (count : Nat) : Transition world (.permit count) (world.allow count)
  | abandonCall (index : Nat) : Transition world (.abandon index) (world.abandonCall index)
  | shut : Transition world .close world.shut

theorem claim_ok_iff {world next : World σ} {request : ReportRequest} :
    world.claim request = .ok next ↔
      ∃ payload, request.check = .ok payload ∧ world.snapshot.phase ≠ .submitting ∧
        next = world.accept payload := by
  simp only [claim]
  split
  · rename_i invalid
    simp [invalid]
  · rename_i payload valid
    by_cases submitting : world.snapshot.phase = .submitting
    · simp [submitting]
    · constructor
      · intro claimed
        simp only [beq_iff_eq, submitting, if_false, Except.ok.injEq] at claimed
        exact ⟨payload, valid, submitting, claimed.symm⟩
      · rintro ⟨other, check, _, rfl⟩
        simp only [beq_iff_eq, submitting, if_false, Except.ok.injEq]
        rw [Except.ok.inj (valid.symm.trans check)]

theorem occur_receiveCreate {world : World σ} {index : Nat} {submission : Submission}
    (found : world.submissions[index]? = some submission)
    (creating : submission.stage.isCreating = true) :
    world.occur service (.act index .receiveCreate) =
      world.receiveCreate service index submission := by
  simp [occur, found, Submission.may, creating, perform]

theorem occur_askStatus {world : World σ} {index due : Nat} {submission : Submission}
    {pollLoop : PollLoop} (found : world.submissions[index]? = some submission)
    (started : submission.pollLoop = some pollLoop) (waiting : pollLoop.state = .waiting due)
    (reached : due ≤ world.now) :
    world.occur service (.act index .askStatus) = world.askStatus index pollLoop due := by
  simp [occur, found, Submission.may, started, waiting, reached, perform]

theorem occur_receiveStatus {world : World σ} {index next : Nat} {submission : Submission}
    {pollLoop : PollLoop} (found : world.submissions[index]? = some submission)
    (started : submission.pollLoop = some pollLoop) (asking : pollLoop.state = .asking next) :
    world.occur service (.act index .receiveStatus) =
      world.receiveStatus service index submission pollLoop next := by
  simp [occur, found, Submission.may, started, asking, perform]

theorem transition_act (world : World σ) (index : Nat) (action : Action) :
    world.Transition service (.act index action) (world.occur service (.act index action)) := by
  cases found : world.submissions[index]? with
  | none => simpa [occur, found] using Transition.idle (by simp [found])
  | some submission =>
      by_cases possible : submission.may world.now action = true
      · simp only [occur, found, possible, if_true]
        cases action with
        | receiveCreate =>
            simp only [perform, found]
            exact .receiveCreate found possible
        | leave =>
            rcases (Bool.and_eq_true _ _).mp possible with ⟨cancelled, polling⟩
            simp only [perform, found]
            exact .leave found cancelled polling
        | askStatus =>
            rcases (Option.any_eq_true _ _).mp possible with ⟨pollLoop, started, tick⟩
            cases state : pollLoop.state with
            | waiting due =>
                have reached : due ≤ world.now := by simpa [state] using tick
                simp only [perform, found, started, state]
                exact .askStatus found started state reached
            | asking next => simp [state] at tick
            | finished => simp [state] at tick
        | receiveStatus =>
            rcases (Option.any_eq_true _ _).mp possible with ⟨pollLoop, started, asked⟩
            cases state : pollLoop.state with
            | waiting due => simp [state] at asked
            | asking next =>
                simp only [perform, found, started, state]
                exact .receiveStatus found started state
            | finished => simp [state] at asked
      · simpa [occur, found, possible] using Transition.idle (by simpa [found] using possible)

theorem transition_occur (world : World σ) (event : Event) :
    world.Transition service event (world.occur service event) := by
  cases event with
  | act index action => exact transition_act service world index action
  | pass span => exact .pass span
  | submit request =>
      simp only [occur]
      split
      · rename_i error rejected
        exact .reject rejected
      · rename_i next claimed
        rcases claim_ok_iff.mp claimed with ⟨payload, valid, free, rfl⟩
        exact .accept valid free
  | stopPolling => exact .halt
  | reset => exact .clear
  | download jobId => exact .download jobId
  | permit count => exact .allow count
  | abandon index => exact .abandonCall index
  | close => exact .shut

end World

end AuditReports
