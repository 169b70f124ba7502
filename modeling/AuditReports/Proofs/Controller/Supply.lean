import Mathlib.Data.List.Induction
import AuditReports.Proofs.Controller.Landings
import AuditReports.Proofs.Controller.Reasons
import AuditReports.Proofs.Controller.Timeline

/-!
# Permits and responses

A scripted service behind a gate gives one response for one permit. Whether a response is lost can
only depend on what becomes of a call that waits at the gate. If everything happens in its turn,
such a call either gets its response, and then its submission has not been cancelled and the
response lands, or it is withdrawn before and leaves the gate without having taken anything. So the
responses that were taken are the landings of the run, one for one, and nothing else uses up a
permit.

In its turn means that a submission does what it does next, and that nobody does anything to the
controller as long as something can happen of its own accord. So when a call at the gate is
cancelled there is no permit there that it could take instead of leaving. `Supplied` says what this
leaves for a single event. A session is a run in which everything happens in its turn.
-/

namespace AuditReports

namespace Exchange

/-- A service has told the status of a job. -/
def answersStatus : Exchange → Bool
  | .statusAnswered _ _ => true
  | _ => false

end Exchange

/-- The answer as it is entered in the chronicle. -/
def Landing.entry (landing : Landing) : Entry :=
  ⟨landing.time, some landing.submission, .statusAnswered landing.jobId landing.answer⟩

namespace Script

/-- Response number `place` to status calls, told of the job that was asked for. The last response
is given again and again. -/
def response (script : Script) (place : Nat) (jobId : String) : Except CallError Job :=
  (script.statuses[min place (script.statuses.length - 1)]?.getD
    (.error (.network "no scripted status response"))).map fun job => { job with id := jobId }

/-- The responses to status calls that are left when `count` of them have been taken. -/
def remaining (script : Script) (count : Nat) : List (Except CallError Job) :=
  script.statuses.drop (min count (script.statuses.length - 1))

theorem status_of_remaining {script left : Script} {count : Nat}
    (remains : left.statuses = script.remaining count) (jobId : String) :
    (service.status jobId left).1 = script.response count jobId ∧
      (service.status jobId left).2.statuses = script.remaining (count + 1) :=
  Course.status_answer ⟨.standard, 0, jobId, script.statuses⟩ remains

end Script

/-- How many permits the event adds to those at the gate. -/
def World.Event.permits : World.Event → Nat
  | .permit count => count
  | _ => 0

def Step.permits : Step → Nat
  | .permit count => count
  | _ => 0

/-- Only a loop whose submission has not been cancelled receives an answer, and only if there is a
permit. -/
theorem Submission.held_of_receiveStatus {now : Nat} {free : Bool} {submission : Submission}
    (turn : submission.action? now free = some .receiveStatus) :
    submission.cancelled = false ∧ free = true := by
  cases submission.waits with
  | job answerAt stage =>
      rw [action?_of_creating now free stage] at turn
      split at turn <;> cases turn
  | nothing created loopless =>
      cases (action?_of_loopless now free created loopless).symm.trans turn
  | loop created pollLoop started =>
      rw [action?_of_started now free created started] at turn
      cases state : pollLoop.state with
      | finished => simp [state] at turn
      | waiting due =>
          simp only [state] at turn
          split at turn
          · cases turn
          · split at turn <;> cases turn
      | asking next =>
          simp only [state] at turn
          split at turn
          · cases turn
          · rename_i uncancelled
            split at turn
            · rename_i free
              exact ⟨by simpa using uncancelled, free⟩
            · cases turn

namespace World

section

variable {σ : Type} (service : ReportService σ)

/-- The status answers that have been taken from the service. -/
def statusAnswers (world : World σ) : List Entry :=
  world.chronicle.toList.filter (·.exchange.answersStatus)

/-- The event comes in its turn: a submission does what it does next, and whatever is done to the
controller finds nothing left to happen. -/
def InTurn (world : World σ) : Event → Prop
  | .act index action => ∃ submission, world.submissions[index]? = some submission ∧
      submission.action? world.now world.isFree = some action
  | _ => world.Settled

instance (world : World σ) : (event : Event) → Decidable (world.InTurn event)
  | .act index action =>
      decidable_of_iff (world.submissions[index]?.bind
        (·.action? world.now world.isFree) = some action) Option.bind_eq_some_iff
  | .pass _ | .submit _ | .stopPolling | .reset | .download _ | .permit _ | .abandon _ | .close =>
      inferInstanceAs (Decidable world.Settled)

/-- Everything happens in its turn. -/
def Orderly (world : World σ) : List Event → Prop
  | [] => True
  | event :: events => world.InTurn event ∧ Orderly (world.occur service event) events

instance decidableOrderly (world : World σ) :
    (events : List Event) → Decidable (world.Orderly service events)
  | [] => .isTrue trivial
  | event :: events =>
      have := decidableOrderly (world.occur service event) events
      inferInstanceAs (Decidable (_ ∧ _))

theorem orderly_append {world : World σ} {first second : List Event} :
    world.Orderly service (first ++ second) ↔
      world.Orderly service first ∧ (world.run service first).Orderly service second := by
  induction first generalizing world with
  | nil => simp [Orderly]
  | cons event first ih => simp [Orderly, ih, and_assoc]

/-! ## What an event takes -/

theorem statusAnswers_push {world next : World σ} {entry : Entry}
    (chronicle : next.chronicle = world.chronicle.push entry)
    (silent : entry.exchange.answersStatus = false) :
    next.statusAnswers = world.statusAnswers := by
  simp [statusAnswers, chronicle, List.filter_append, silent]

end

/-- What an event takes from the gate and from the script, with the answer that lands if one
does. -/
inductive Supplied (world next : World Script) (granted : Nat) : Option Landing → Prop where
  | nothing (answers : next.statusAnswers = world.statusAnswers)
      (statuses : next.service.statuses = world.service.statuses)
      (gate : next.gate = world.gate.map (· + granted)) : Supplied world next granted none
  | response {landing : Landing} (ungranted : granted = 0) (free : world.isFree = true)
      (answers : next.statusAnswers = world.statusAnswers ++ [landing.entry])
      (given : Script.service.status landing.jobId world.service = (landing.answer, next.service))
      (gate : next.gate = world.gate.map (· - 1)) : Supplied world next granted (some landing)

theorem Supplied.ungranted {world next : World Script}
    (answers : next.statusAnswers = world.statusAnswers)
    (statuses : next.service.statuses = world.service.statuses)
    (gate : next.gate = world.gate) : Supplied world next 0 none :=
  .nothing answers statuses (by simp [gate])

theorem Supplied.of_surroundings {world next : World Script} (same : world.SameSurroundings next) :
    Supplied world next 0 none := by
  refine .ungranted ?_ (by rw [same.service]) same.gate
  rw [statusAnswers, statusAnswers, same.chronicle]

theorem supplied {world : World Script} {event : Event} (inTurn : world.InTurn event) :
    Supplied world (world.occur Script.service event) event.permits
      (world.landing? Script.service event) := by
  have transition := transition_occur Script.service world event
  by_cases receives : ∃ index, event = .act index .receiveStatus
  · rcases receives with ⟨index, rfl⟩
    rcases inTurn with ⟨submission, found, turn⟩
    rcases Submission.held_of_receiveStatus turn with ⟨held, free⟩
    have may := Submission.may_of_action? turn
    generalize world.occur Script.service (.act index .receiveStatus) = next at transition ⊢
    cases transition with
    | idle impossible => cases (impossible submission found).symm.trans may
    | @receiveStatus _ _ pollLoop tick foundOther started asking =>
        rcases Option.some.inj (found.symm.trans foundOther) with rfl
        rw [landing?_of_asking Script.service found held started asking]
        refine .response rfl free ?_ ?_ (receiveStatus_gate Script.service world _ _ _ _)
        · simp [statusAnswers, receiveStatus_chronicle, List.filter_append,
            Exchange.answersStatus, Landing.entry]
        · rw [receiveStatus_service]
  · rw [landing?_of_other Script.service fun index same => receives ⟨index, same⟩]
    generalize world.occur Script.service event = next at transition ⊢
    cases transition with
    | idle _ => exact .of_surroundings (.refl world)
    | receiveCreate _ _ =>
        refine .ungranted ?_ ?_ (receiveCreate_gate Script.service world _ _)
        · exact statusAnswers_push (receiveCreate_chronicle Script.service world _ _) rfl
        · rw [receiveCreate_service]
          rfl
    | askStatus _ _ _ _ => exact .ungranted (statusAnswers_push rfl rfl) rfl rfl
    | receiveStatus _ _ _ => exact absurd ⟨_, rfl⟩ receives
    | leave _ _ _ => exact .of_surroundings ⟨rfl, rfl, rfl, rfl, rfl, rfl⟩
    | pass span => exact .ungranted rfl rfl rfl
    | reject _ => exact .of_surroundings (.refl world)
    | accept _ _ =>
        have emptied := emptySlot_surroundings world
        refine .ungranted ?_ (congrArg Script.statuses emptied.service) emptied.gate
        exact statusAnswers_push (accept_chronicle world _) rfl
    | halt => exact .of_surroundings (halt_surroundings world)
    | clear =>
        exact .of_surroundings ((emptySlot_surroundings world).trans ⟨rfl, rfl, rfl, rfl, rfl, rfl⟩)
    | download jobId =>
        refine .ungranted ?_ ?_ (download_gate Script.service world jobId)
        · simp [statusAnswers, download_chronicle, Exchange.answersStatus]
        · rw [download_service]
          rfl
    | allow count => exact .nothing rfl rfl rfl
    | abandonCall index => exact .of_surroundings (abandonCall_surroundings world index)
    | shut => exact .of_surroundings (shut_surroundings world)

/-! ## What a run takes -/

def permitsIn (events : List Event) : Nat :=
  (events.map Event.permits).sum

/-- The responses that have been taken are those that have landed, and so are the permits. -/
structure Balanced (permits : Nat) (script : Script) (granted : Nat) (landings : List Landing)
    (world : World Script) : Prop where
  answers : world.statusAnswers = landings.map Landing.entry
  responses : ∀ place landing, landings[place]? = some landing →
    landing.answer = script.response place landing.jobId
  statuses : world.service.statuses = script.remaining landings.length
  gate : ∃ free, world.gate = some free ∧ permits + granted = free + landings.length

theorem Balanced.step {permits granted more : Nat} {script : Script} {landings : List Landing}
    {world next : World Script} {landed : Option Landing}
    (balanced : Balanced permits script granted landings world)
    (supplied : Supplied world next more landed) :
    Balanced permits script (granted + more) (landings ++ landed.toList) next := by
  rcases balanced with ⟨answers, responses, statuses, free, gate, balance⟩
  cases supplied with
  | nothing sameAnswers sameStatuses gateNext =>
      rw [Option.toList_none, List.append_nil]
      refine ⟨sameAnswers.trans answers, responses, sameStatuses.trans statuses, free + more, ?_, ?_⟩
      · simp [gateNext, gate]
      · omega
  | @response landing ungranted isFree answersNext given gateNext =>
      -- As many responses were taken before as answers had landed, so this is the next one.
      have taken := Script.status_of_remaining statuses landing.jobId
      rw [given] at taken
      have positive : 0 < free := by simpa [World.isFree, gate] using isFree
      refine ⟨?_, ?_, ?_, free - 1, ?_, ?_⟩
      · simp [answersNext, answers]
      · intro place other found
        rcases Nat.lt_or_ge place landings.length with earlier | beyond
        · rw [List.getElem?_append_left earlier] at found
          exact responses place other found
        · rw [List.getElem?_append_right beyond, Option.toList_some, List.getElem?_singleton]
            at found
          rcases Option.ite_none_right_eq_some.mp found with ⟨last, same⟩
          rcases Option.some.inj same with rfl
          rw [show place = landings.length by omega]
          exact taken.1
      · simpa using taken.2
      · simp [gateNext, gate]
      · simp
        omega

theorem balanced_run (policy : Policy) (createDelay permits : Nat) (script : Script)
    {events : List Event}
    (orderly : (start policy createDelay (some permits) script).Orderly Script.service events) :
    let initial := start policy createDelay (some permits) script
    Balanced permits script (permitsIn events) (initial.landings Script.service events)
      (initial.run Script.service events) := by
  intro initial
  induction events using List.reverseRecOn with
  | nil => exact ⟨rfl, by simp [landings], by simp [Script.remaining]; rfl, permits, rfl, rfl⟩
  | append_singleton events event ih =>
      rcases (orderly_append Script.service).mp orderly with ⟨before, inTurn, _⟩
      have step := (ih before).step (supplied inTurn)
      rw [landings_concat, run_append, run_cons, run_nil]
      simpa [permitsIn] using step

/-! ## Sessions as orderly runs -/

section

variable {σ : Type} (service : ReportService σ)

/-- One world becomes another in an orderly way, with so many permits granted. -/
def Proceeds (world next : World σ) (granted : Nat) : Prop :=
  ∃ events, next = world.run service events ∧ world.Orderly service events ∧
    permitsIn events = granted

theorem Proceeds.refl (world : World σ) : world.Proceeds service world 0 :=
  ⟨[], rfl, trivial, rfl⟩

theorem Proceeds.trans {first second third : World σ} {granted more : Nat}
    (left : first.Proceeds service second granted) (right : second.Proceeds service third more) :
    first.Proceeds service third (granted + more) := by
  rcases left with ⟨earlier, rfl, orderlyEarlier, rfl⟩
  rcases right with ⟨later, rfl, orderlyLater, rfl⟩
  exact ⟨earlier ++ later, by simp, (orderly_append service).mpr ⟨orderlyEarlier, orderlyLater⟩,
    by simp [permitsIn]⟩

theorem proceeds_occur {world : World σ} {event : Event} (inTurn : world.InTurn event) :
    world.Proceeds service (world.occur service event) event.permits :=
  ⟨[event], rfl, ⟨inTurn, trivial⟩, by simp [permitsIn]⟩

theorem proceeds_to {world : World σ} (settled : world.Settled) {target : Nat}
    (ahead : world.now ≤ target) : world.Proceeds service { world with now := target } 0 := by
  have inTurn : world.InTurn (.pass (target - world.now)) := settled
  have passed := proceeds_occur service inTurn
  rwa [occur, Nat.add_sub_cancel' ahead] at passed

theorem proceeds_drain (world : World σ) (budget : Nat) :
    world.Proceeds service (drain service budget world) 0 := by
  induction budget generalizing world with
  | zero => exact .refl service world
  | succ budget ih =>
      simp only [drain]
      split
      · exact .refl service world
      · rename_i index action next
        rw [perform_eq_occur service next]
        have inTurn : world.InTurn (.act index action) := nextAction?_eq_some next
        exact (proceeds_occur service inTurn).trans service (ih _)

theorem proceeds_settle (world : World σ) : world.Proceeds service (settle service world) 0 :=
  proceeds_drain service world world.pendingWork

theorem Passage.proceeds {target : Nat} {world last : World σ}
    (passage : Passage service target world last) (rest : world.AtRest) :
    world.Proceeds service last 0 := by
  induction passage with
  | arrive ahead _ => exact proceeds_to service rest.settled ahead
  | @wake world _ wake later _ ih =>
      exact ((proceeds_to service rest.settled (Nat.le_of_lt later)).trans service
        (proceeds_settle service _)).trans service (ih (rest.settle_at service wake))

theorem inTurn_of_settled {world : World σ} (settled : world.Settled) {event : Event}
    (deliberate : event.isSpontaneous = false) : world.InTurn event := by
  cases event with
  | act index action => cases deliberate
  | _ => exact settled

end

end World

namespace Session

variable {σ : Type} (service : ReportService σ)

/-- What is done in a step is done by somebody, and grants what the step grants. -/
theorem of_caused {session : Session σ} {step : Step} {event : World.Event}
    (causes : session.caused step = some event) :
    event.isSpontaneous = false ∧ event.permits = step.permits := by
  cases step with
  | advance span => cases causes
  | permit count =>
      rcases Option.some.inj causes with rfl
      exact ⟨rfl, rfl⟩
  | close =>
      rcases Option.some.inj causes with rfl
      exact ⟨rfl, rfl⟩
  | abandon number =>
      rcases Option.map_eq_some_iff.mp causes with ⟨index, _, rfl⟩
      exact ⟨rfl, rfl⟩
  | _ =>
      rcases Option.ite_none_right_eq_some.mp causes with ⟨_, same⟩
      rcases Option.some.inj same with rfl
      exact ⟨rfl, rfl⟩

theorem permits_of_not_caused {session : Session σ} {step : Step}
    (idle : session.caused step = none) : step.permits = 0 := by
  cases step with
  | permit count => cases idle
  | _ => rfl

/-- Every step of a session is an orderly run, in which as many permits are granted as in the
step. -/
theorem proceeds_perform {session : Session σ} (rest : session.world.AtRest) (step : Step) :
    session.world.Proceeds service (session.perform service step).1.world step.permits := by
  by_cases advances : ∃ span, step = .advance span
  · rcases advances with ⟨span, rfl⟩
    exact (World.passage_advance service rest span).proceeds service rest
  · rw [perform_world service rest fun span same => advances ⟨span, same⟩]
    cases causes : session.caused step with
    | none =>
        rw [permits_of_not_caused causes]
        exact World.proceeds_settle service session.world
    | some event =>
        rcases of_caused causes with ⟨deliberate, granted⟩
        have inTurn := World.inTurn_of_settled rest.settled deliberate
        rw [← granted]
        exact (World.proceeds_occur service inTurn).trans service (World.proceeds_settle service _)

theorem proceeds_after {session : Session σ} (rest : session.world.AtRest) (steps : List Step) :
    session.world.Proceeds service (session.after service steps).world
      (steps.map Step.permits).sum := by
  induction steps generalizing session with
  | nil => exact .refl service session.world
  | cons step steps ih =>
      rw [List.map_cons, List.sum_cons]
      exact (proceeds_perform service rest step).trans service
        (ih (perform_spec service rest step).1)

end Session

namespace World

/-! ## Main result -/

variable (policy : Policy) (createDelay permits : Nat) (script : Script)

/-- Status answers are applied exactly once and in order. Let a scripted service wait at a gate, and
let everything happen in its turn. Then the status answers that were taken are those that landed, in
the same order; number `k` of them is response number `k` of the script, and what is left of the
script follows on it. The permits that were granted are those that are still free and one for each
landing. An answer that lands is folded into the snapshot, and an event with which nothing lands
takes neither a response nor a permit. Once a submission has been cancelled, no answer is taken for
it any more. And every session is a run in which everything happens in its turn. -/
theorem answers_land_once_in_order :
    let initial := start policy createDelay (some permits) script
    (∀ events, initial.Orderly Script.service events →
      let last := initial.run Script.service events
      let landings := initial.landings Script.service events
      last.statusAnswers = landings.map Landing.entry ∧
      (∀ place landing, landings[place]? = some landing →
        landing.answer = script.response place landing.jobId) ∧
      last.service.statuses = script.remaining landings.length ∧
      (∃ free, last.gate = some free ∧ permits + permitsIn events = free + landings.length) ∧
      (∀ earlier event later, events = earlier ++ event :: later →
        let before := initial.run Script.service earlier
        let after := before.occur Script.service event
        (∀ landing, before.landing? Script.service event = some landing →
          ∃ pollLoop, before.loop? landing.submission = some pollLoop ∧
            after.snapshot = (before.afterAnswer pollLoop.deadline landing.answer).1) ∧
        (before.landing? Script.service event = none →
          after.statusAnswers = before.statusAnswers ∧
          after.service.statuses = before.service.statuses ∧
          after.gate = before.gate.map (· + event.permits))) ∧
      ∀ earlier later index, events = earlier ++ later →
        let before := initial.run Script.service earlier
        before.IsCancelled index →
          last.statusAnswers.filter (·.submission == some index) =
            before.statusAnswers.filter (·.submission == some index)) ∧
    ∀ steps, ∃ events, initial.Orderly Script.service events ∧
      ((Session.start initial).after Script.service steps).world =
        initial.run Script.service events ∧
      permitsIn events = (steps.map Step.permits).sum := by
  intro initial
  constructor
  · intro events orderly last landings
    rcases balanced_run policy createDelay permits script orderly with
      ⟨answers, responses, statuses, gate⟩
    refine ⟨answers, responses, statuses, gate, ?_, ?_⟩
    · rintro earlier event later rfl before after
      constructor
      · intro landing landed
        exact ((landing?_eq_some_iff Script.service).mp landed).snapshot Script.service
      · intro quiet
        have inTurn : before.InTurn event := ((orderly_append Script.service).mp orderly).2.1
        have supplied := supplied inTurn
        rw [quiet] at supplied
        cases supplied with
        | nothing answers statuses gate => exact ⟨answers, statuses, gate⟩
    · rintro earlier later index rfl before cancelled
      have orderlyBefore := ((orderly_append Script.service).mp orderly).1
      have answersBefore := (balanced_run policy createDelay permits script orderlyBefore).answers
      have foreign : (before.landings Script.service later).filter (·.submission == index) = [] := by
        rw [List.filter_eq_nil_iff]
        intro landing listed own
        exact submission_ne_of_isCancelled Script.service cancelled listed (eq_of_beq own)
      rw [answers, answersBefore, landings_append]
      simp only [List.map_append, List.filter_append, List.filter_map]
      simpa [Function.comp_def, Landing.entry] using foreign
  · intro steps
    have rest : (Session.start initial).world.AtRest :=
      Session.atRest_start policy createDelay (some permits) script
    rcases Session.proceeds_after Script.service rest steps with ⟨events, last, orderly, granted⟩
    exact ⟨events, orderly, last, granted⟩

/-- Two jobs and two responses. -/
def replacedScript : Script :=
  { sampleScript with statuses := [.ok (Job.bare "" .queued), .ok (Job.bare "" .processing)] }

/-- The second call for the first job waits at the gate when another request is made. Then two
permits are granted. -/
def replacement : List Event :=
  firstAnswer ++
    [.pass 5000, .act 0 .askStatus, .submit sampleRequest, .act 0 .leave, .act 1 .receiveCreate,
      .act 1 .askStatus, .permit 2, .act 1 .receiveStatus]

/-- The call that waited takes nothing: the second response is for the second job, and a permit is
left. -/
theorem answers_land_once_in_replacement :
    let initial := start ⟨5000, none⟩ 0 (some 1) replacedScript
    let last := initial.run Script.service replacement
    let landings := initial.landings Script.service replacement
    initial.Orderly Script.service replacement ∧
      landings.map (·.jobId) = ["first", "second"] ∧
      last.statusAnswers = landings.map Landing.entry ∧
      (∀ landing, landings[1]? = some landing →
        landing.answer = replacedScript.response 1 landing.jobId) ∧
      ∃ free, last.gate = some free ∧ 1 + 2 = free + landings.length := by
  intro initial last landings
  have orderly : initial.Orderly Script.service replacement := by decide +kernel
  rcases (answers_land_once_in_order ⟨5000, none⟩ 0 1 replacedScript).1 replacement orderly with
    ⟨answers, responses, _, balance, _⟩
  exact ⟨orderly, by decide +kernel, answers, responses 1, balance⟩

end World

end AuditReports
