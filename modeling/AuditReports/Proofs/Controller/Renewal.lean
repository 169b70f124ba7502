import AuditReports.Proofs.Controller.Past
import AuditReports.Proofs.Controller.Rejections

/-!
# Starting over

A controller that is reset, or takes a submission while no other call is pending, might as well be a
new one: what it had before has become a past that nothing depends on.

The past is over only once everything has settled after the reset or the submission. A loop that was
running until then has still to notice that it has been cancelled, and that it does so first is the
one place where the two controllers differ.
-/

namespace AuditReports

namespace Stage

theorem released_of_ended {stage : Stage} (ended : stage.isPending = false) :
    stage.released = stage := by
  cases stage with
  | firstPoll jobId => cases ended
  | _ => rfl

end Stage

namespace Submission

/-- A loop that is running when its submission is cancelled has only to leave. -/
theorem action?_of_cancelled {submission : Submission} (ended : submission.stage.isPending = false)
    (polling : submission.isPolling = true) (now : Nat) (free : Bool) :
    { submission with cancelled := true }.action? now free = some .leave := by
  rcases (Option.any_eq_true _ _).mp polling with ⟨pollLoop, started, running⟩
  have step := @action?_of_started { submission with cancelled := true } now free
    (not_creating_of_ended ended) pollLoop started
  rw [step]
  cases state : pollLoop.state with
  | finished => simp [PollLoop.isFinished, state] at running
  | _ => rfl

/-- The submission after it has been cancelled and its loop has noticed that. -/
def dismissed (submission : Submission) : Submission :=
  { submission.proceed .finished with cancelled := true }

theorem dismissed_of_stopped (submission : Submission)
    (ended : submission.stage.isPending = false) (stopped : submission.isPolling = false) :
    submission.dismissed = { submission with cancelled := true } := by
  have pollLoop : (submission.proceed .finished).pollLoop = submission.pollLoop := by
    cases started : submission.pollLoop with
    | none => simp [proceed, withLoopState, started]
    | some pollLoop =>
        rw [World.proceed_pollLoop .finished started, ← finished_of_stopped stopped started]
  have stage : (submission.proceed .finished).stage = submission.stage :=
    Stage.released_of_ended ended
  rw [dismissed, pollLoop, stage]
  rfl

theorem dismissed_isOver (submission : Submission)
    (ended : submission.stage.isPending = false) : submission.dismissed.IsOver where
  cancelled := rfl
  ended := (congrArg Stage.isPending (Stage.released_of_ended ended)).trans ended
  stopped := by
    cases started : submission.pollLoop with
    | none => simp [dismissed, isPolling, proceed, withLoopState, started]
    | some pollLoop =>
        simp [dismissed, isPolling, World.proceed_pollLoop .finished started, PollLoop.isFinished]

end Submission

namespace World

variable {σ : Type}

/-! ## Leaving the past behind -/

/-- The past of a controller that has let go of everything. -/
def past (world : World σ) : Past :=
  ⟨world.submissions.map Submission.dismissed, world.notifications, world.chronicle⟩

/-- A new controller in the same surroundings. -/
def renewed (world : World σ) : World σ :=
  { start world.policy world.createDelay world.gate world.service with now := world.now }

theorem atRest_renewed (world : World σ) : world.renewed.AtRest where
  coherent :=
    (coherent_start world.policy world.createDelay world.gate world.service).pass world.now
  paced := paced_start world.policy world.createDelay world.gate world.service
  settled := by simp [Settled, renewed, start]

theorem past_isOver {world : World σ}
    (ended : ∀ submission ∈ world.submissions, submission.stage.isPending = false) :
    world.past.IsOver := by
  intro after listed
  rcases List.mem_map.mp listed with ⟨submission, member, rfl⟩
  exact submission.dismissed_isOver (ended submission member)

theorem firstAction?_eq_some_of {now : Nat} {free : Bool} {submissions : List Submission}
    {index : Nat} {submission : Submission} {action : Action}
    (found : submissions[index]? = some submission)
    (possible : submission.action? now free = some action)
    (earlier : ∀ place < index, ∀ other, submissions[place]? = some other →
      other.action? now free = none) (start : Nat) :
    firstAction? now free start submissions = some (start + index, action) := by
  induction submissions generalizing index start with
  | nil => cases found
  | cons head tail ih =>
      cases index with
      | zero =>
          rcases Option.some.inj found with rfl
          simp [firstAction?, possible]
      | succ index =>
          rw [firstAction?, earlier 0 (Nat.zero_lt_succ index) head rfl]
          simp only
          rw [ih found (fun place before other => earlier (place + 1) (by omega) other) (start + 1)]
          rw [Nat.add_assoc, Nat.add_comm 1]

/-- The world with its past behind it. -/
def startedOver (world : World σ) : World σ :=
  world.renewed.withPast world.past

theorem startedOver_submissions (world : World σ) :
    world.startedOver.submissions = world.submissions.map Submission.dismissed :=
  List.append_nil _

theorem startedOver_chronicle (world : World σ) :
    world.startedOver.chronicle = world.chronicle := by
  simp [startedOver, withPast, past, renewed, start]

theorem emptySlot_eq (world : World σ) :
    world.emptySlot = { world with slot := none, submissions := world.emptySlot.submissions } := by
  cases slot : world.slot with
  | none =>
      have same : world.emptySlot = world := by simp only [emptySlot, slot]
      rw [same, ← slot]
  | some index => simp only [emptySlot, slot, cancel, update]

theorem lt_emptySlot_length {world : World σ} {index : Nat} {submission : Submission}
    (found : world.submissions[index]? = some submission) :
    index < world.emptySlot.submissions.length := by
  rw [emptySlot_length]
  exact (List.getElem?_eq_some_iff.mp found).1

/-- The slot of a controller with its past behind it is empty, and what it is left with is what the
old one is left with once everything is over. -/
theorem emptySlot_startedOver (world : World σ) :
    world.startedOver.emptySlot =
      { world.emptySlot with snapshot := .initial, submissions := world.past.submissions } := by
  rw [emptySlot_eq world]
  simp [startedOver, withPast, renewed, start, past, emptySlot]

section Rest

variable {world : World σ} (rest : world.AtRest)
  (ended : ∀ submission ∈ world.submissions, submission.stage.isPending = false)

include rest ended

/-- In a world at rest, emptying the slot already makes every submission part of the past, but for
one whose loop is running. -/
theorem getElem?_emptySlot_of_rest {place : Nat}
    (stopped : world.slot = some place → ∀ submission, world.submissions[place]? = some submission →
      submission.isPolling = false) :
    world.emptySlot.submissions[place]? = world.past.submissions[place]? := by
  simp only [getElem?_emptySlot, past, List.getElem?_map]
  cases found : world.submissions[place]? with
  | none => rfl
  | some submission =>
      have listed := List.mem_of_getElem? found
      have whole := ended submission listed
      simp only [Option.map_some, Option.some.injEq]
      by_cases held : world.slot = some place
      · rw [if_pos held, submission.dismissed_of_stopped whole (stopped held submission found)]
      · have cancelled : submission.cancelled = true := by
          by_contra uncancelled
          exact held (rest.coherent.owner place submission found (by simpa using uncancelled))
        rw [if_neg held,
          submission.dismissed_of_stopped whole (rest.noticed submission listed cancelled)]
        cases submission
        simp_all

section Running

variable {index : Nat} {submission : Submission} (slot : world.slot = some index)
  (found : world.submissions[index]? = some submission)

include slot found

/-- After the slot has been emptied and the loop in it has left, every submission is part of the
past. -/
theorem proceed_emptySlot_of_rest :
    world.emptySlot.submissions.modify index (·.proceed .finished) = world.past.submissions := by
  apply List.ext_getElem?
  intro place
  by_cases same : place = index
  · rcases same with rfl
    rw [List.getElem?_modify_eq, getElem?_emptySlot, found, past, List.getElem?_map, found,
      Option.map_some, if_pos slot]
    rfl
  · rw [List.getElem?_modify_ne _ _ (Ne.symm same)]
    apply getElem?_emptySlot_of_rest rest ended
    intro held
    exact absurd (Option.some.inj (held.symm.trans slot)) same

/-- A loop that was running when the slot was emptied is the first to do something: it leaves. -/
theorem nextAction?_of_rest (polling : submission.isPolling = true) {next : World σ}
    (now : next.now = world.now) (gate : next.gate = world.gate) {newcomers : List Submission}
    (submissions : next.submissions = world.emptySlot.submissions ++ newcomers) :
    next.nextAction? = some (index, .leave) := by
  have bound := lt_emptySlot_length found
  have foundNext : next.submissions[index]? = some { submission with cancelled := true } := by
    rw [submissions, List.getElem?_append_left bound, getElem?_emptySlot, found, Option.map_some,
      if_pos slot]
  have leaves := Submission.action?_of_cancelled (ended submission (List.mem_of_getElem? found))
    polling next.now next.isFree
  have earlier : ∀ place < index, ∀ other, next.submissions[place]? = some other →
      other.action? next.now next.isFree = none := by
    intro place before other foundOther
    rw [submissions, List.getElem?_append_left (by omega), getElem?_emptySlot] at foundOther
    rcases Option.map_eq_some_iff.mp foundOther with ⟨untouched, foundUntouched, rfl⟩
    have elsewhere : world.slot ≠ some place := by
      rw [slot]
      intro same
      exact absurd (Option.some.inj same) (by omega)
    rw [if_neg elsewhere, now, isFree, gate]
    exact rest.settled untouched (List.mem_of_getElem? foundUntouched)
  exact (firstAction?_eq_some_of foundNext leaves earlier 0).trans (by rw [Nat.zero_add])

end Running

variable (service : ReportService σ)

/-- Once the slot has been emptied, everything that was there before is over as soon as the rest has
settled. -/
theorem settle_of_rest {next : World σ} (coherent : next.Coherent)
    (paced : next.Paced) (now : next.now = world.now) (gate : next.gate = world.gate)
    {newcomers : List Submission}
    (submissions : next.submissions = world.emptySlot.submissions ++ newcomers) :
    settle service next =
      settle service { next with submissions := world.past.submissions ++ newcomers } := by
  by_cases running : ∃ index submission, world.slot = some index ∧
      world.submissions[index]? = some submission ∧ submission.isPolling = true
  · -- The past is complete only when this loop has left, which is what happens first.
    rcases running with ⟨index, submission, slot, found, polling⟩
    have bound := lt_emptySlot_length found
    have first := nextAction?_of_rest rest ended slot found polling now gate submissions
    have gone : next.submissions.modify index (·.proceed .finished) =
        world.past.submissions ++ newcomers := by
      rw [submissions, modify_append_left _ bound, proceed_emptySlot_of_rest rest ended slot found]
    have left : next.perform service index .leave =
        { next with submissions := world.past.submissions ++ newcomers } := by
      have within : index < next.submissions.length := by
        rw [submissions, List.length_append]
        omega
      rw [perform, List.getElem?_eq_getElem within, ← gone]
      rfl
    rw [settle_of_next service coherent paced first, ← perform_eq_occur service first, left]
  · have same : world.emptySlot.submissions = world.past.submissions := by
      apply List.ext_getElem?
      intro place
      apply getElem?_emptySlot_of_rest rest ended
      intro slot submission found
      by_contra polling
      exact running ⟨place, submission, slot, found, by simpa using polling⟩
    rw [← same, ← submissions]

theorem settle_clear_of_rest :
    settle service world.clear = settle service world.startedOver.clear := by
  have coherent : world.clear.Coherent := rest.coherent.occur service .reset
  have paced : world.clear.Paced := rest.paced.occur service rest.coherent .reset
  have around := emptySlot_surroundings world
  rw [settle_of_rest rest ended service coherent paced around.now around.gate
    (List.append_nil _).symm, List.append_nil, clear, clear, emptySlot_startedOver]
  rfl

theorem settle_accept_of_rest {request : ReportRequest} {payload : Payload}
    (claimed : world.claim request = .ok (world.accept payload)) :
    settle service (world.accept payload) =
      settle service (world.startedOver.accept payload) := by
  have submitted : world.occur service (.submit request) = world.accept payload := by
    simp [occur, claimed]
  have coherent := rest.coherent.occur service (.submit request)
  have paced := rest.paced.occur service rest.coherent (.submit request)
  rw [submitted] at coherent paced
  have around := emptySlot_surroundings world
  have length : world.emptySlot.submissions.length = world.past.submissions.length := by
    simp [past]
  rw [settle_of_rest rest ended service coherent paced around.now around.gate rfl, accept, accept,
    emptySlot_startedOver]
  simp only [length]
  rfl

end Rest

/-! ## Places -/

section Lengths

variable (service : ReportService σ)

theorem length_le_run (world : World σ) (events : List Event) :
    world.submissions.length ≤ (world.run service events).submissions.length := by
  refine run_invariant service (world.submissions.length ≤ ·.submissions.length) ?_ world events
    (Nat.le_refl _)
  intro next event longer
  rcases length_occur_or_accepted service next event with same | ⟨payload, accepted, _⟩
  · exact Nat.le_trans longer (Nat.le_of_eq same.symm)
  · rw [accepted, length_accept]
    exact Nat.le_succ_of_le longer

theorem length_le_of_evolves {world next : World σ} (evolves : world.Evolves service next) :
    world.submissions.length ≤ next.submissions.length := by
  rcases evolves.exists_run service with ⟨events, rfl, _⟩
  exact length_le_run service world events

/-- A submission that is accepted gets a place of its own. -/
theorem length_submit {world next : World σ} {request : ReportRequest}
    (accepted : world.submit service request = .ok next) :
    world.submissions.length < next.submissions.length := by
  rw [submit] at accepted
  cases claimed : world.claim request with
  | error error => simp [claimed, Except.map] at accepted
  | ok taken =>
      rcases claim_ok_iff.mp claimed with ⟨payload, _, _, rfl⟩
      simp only [claimed, Except.map, Except.ok.injEq] at accepted
      rcases drifts_settle service (world.accept payload) with ⟨events, settled, _⟩
      have longer := length_le_run service (world.accept payload) events
      rw [← settled, accepted, length_accept] at longer
      exact longer

end Lengths

end World

namespace Step

/-- The step drops whatever the controller was doing. -/
def startsOver : Step → Bool
  | .reset => true
  | .submit request => request.check.isOk
  | _ => false

theorem renumbered_of_startsOver {step : Step} (starts : step.startsOver = true)
    (place count : Nat) : step.renumbered place count = step := by
  cases step with
  | abandon number => cases starts
  | _ => rfl

end Step

namespace Session

variable {σ : Type} (service : ReportService σ)

/-! ## The first step -/

/-- A new session in the same surroundings, which counts on from this one. -/
def renewed (session : Session σ) : Session σ :=
  (Session.start session.world.renewed).spaced 0 session.submits.length session.requests

/-- What is told after a step depends on what the world shows before it, and on nothing else. -/
theorem observe_congr {left right : Session σ} (requests : left.requests = right.requests)
    (chronicle : left.world.chronicle = right.world.chronicle)
    (notifications : left.world.notifications = right.world.notifications)
    (results : ∀ index, result? left.world index = result? right.world index) (world : World σ)
    (submits : List (Option Nat)) (isOpen : Bool)
    (download : Option (Except ReportError Artifact)) :
    left.observe world submits isOpen download = right.observe world submits isOpen download := by
  have finished := @finishedBetween_congr σ left.world world right.world world id results
    (fun _ => rfl) 0 submits
  rw [Option.map_id, List.map_id] at finished
  simp only [observe, askedBetween, requests, chronicle, notifications, finished]

section Rest

variable {session : Session σ} (rest : session.world.AtRest)
  (ended : ∀ submission ∈ session.world.submissions, submission.stage.isPending = false)

include ended

theorem result?_startedOver (index : Nat) :
    result? session.world index = result? session.world.startedOver index := by
  simp only [result?, World.startedOver_submissions, List.getElem?_map]
  cases found : session.world.submissions[index]? with
  | none => rfl
  | some submission =>
      have stage : submission.dismissed.stage = submission.stage :=
        Stage.released_of_ended (ended submission (List.mem_of_getElem? found))
      simp only [Option.map_some, stage]

include rest

/-- The past does not matter for a step that drops it. -/
theorem perform_startedOver (isOpen : session.isOpen = true) {first : Step}
    (starts : first.startsOver = true) :
    session.perform service first =
      { session with world := session.world.startedOver }.perform service first := by
  have seen := @observe_congr σ session { session with world := session.world.startedOver } rfl
    (World.startedOver_chronicle session.world).symm rfl (result?_startedOver ended)
  cases first with
  | reset =>
      simp only [perform, isOpen, if_true, performOpen, World.reset,
        World.settle_clear_of_rest rest ended service]
      exact seen _ _ _ _
  | submit request =>
      cases valid : request.check with
      | error error => simp [Step.startsOver, valid, Except.isOk, Except.toBool] at starts
      | ok payload =>
          have free : session.world.snapshot.phase ≠ .submitting := by
            -- In that phase some call would be pending.
            intro submitting
            rcases rest.coherent.pending submitting with ⟨index, submission, found, creating, _⟩
            have created := Submission.not_creating_of_ended
              (ended submission (List.mem_of_getElem? found))
            simp [created] at creating
          have claimed := World.claim_ok_iff.mpr ⟨payload, valid, free, rfl⟩
          have idle : session.world.startedOver.snapshot.phase ≠ .submitting :=
            show Phase.idle ≠ .submitting by decide
          have claimedNew := World.claim_ok_iff.mpr ⟨payload, valid, idle, rfl⟩
          have settled := World.settle_accept_of_rest rest ended service claimed
          simp only [perform, isOpen, if_true, performOpen, submit, World.submit, claimed,
            claimedNew, Except.map, settled, World.startedOver_submissions, List.length_map]
          exact seen _ _ _ _
  | _ => cases starts

end Rest

/-! ## Numbers -/

/-- Every number that was given to a submission names one that there is. -/
def Numbered (session : Session σ) : Prop :=
  ∀ index, some index ∈ session.submits → index < session.world.submissions.length

theorem Numbered.submit {session : Session σ} (numbered : session.Numbered)
    (request : ReportRequest) : (session.submit service request).1.Numbered := by
  intro index listed
  simp only [Session.submit] at listed ⊢
  cases submitted : session.world.submit service request with
  | error error =>
      simp only [submitted, observe] at listed ⊢
      exact numbered index (by simpa using listed)
  | ok next =>
      have longer := World.length_submit service submitted
      simp only [submitted, observe] at listed ⊢
      rcases List.mem_append.mp listed with earlier | newest
      · exact Nat.lt_trans (numbered index earlier) longer
      · simp only [List.mem_singleton, Option.some.injEq] at newest
        rwa [newest]

theorem Numbered.perform {session : Session σ} (numbered : session.Numbered)
    (rest : session.world.AtRest) (step : Step) :
    (session.perform service step).1.Numbered := by
  rcases submits_perform service session step with same | ⟨request, submitted⟩
  · intro index listed
    rw [same] at listed
    have longer := World.length_le_of_evolves service (perform_spec service rest step).2
    exact Nat.lt_of_lt_of_le (numbered index listed) longer
  · rw [submitted]
    exact numbered.submit service request

theorem numbered_after {session : Session σ} (numbered : session.Numbered)
    (rest : session.world.AtRest) (steps : List Step) :
    (session.after service steps).Numbered := by
  induction steps generalizing session with
  | nil => exact numbered
  | cons step steps ih =>
      exact ih (numbered.perform service rest step) (perform_spec service rest step).1

/-! ## Main result -/

/-- From now on the session tells what a new one tells that starts now in the same surroundings, and
the same calls are made at the same times. -/
def ActsAsNew (session : Session σ) (steps : List Step) : Prop :=
  session.run service steps = session.renewed.run service steps ∧
    (session.after service steps).world.calls =
      session.world.calls ++ (session.renewed.after service steps).world.calls

theorem actsAsNew {session : Session σ} (rest : session.world.AtRest)
    (numbered : session.Numbered) (isOpen : session.isOpen = true)
    (ended : ∀ submission ∈ session.world.submissions, submission.stage.isPending = false)
    {first : Step} (starts : first.startsOver = true) (steps : List Step) :
    session.ActsAsNew service (first :: steps) := by
  have early : ∀ index, some index ∈ session.submits → index < session.world.past.length := by
    intro index listed
    have within := numbered index listed
    simpa [World.past, Past.length] using within
  let begun : Session σ := { session with world := session.world.startedOver }
  have together : begun.Continues session.world.past session.submits session.renewed := by
    refine ⟨rfl, ⟨[], (List.append_nil _).symm, ?_⟩, isOpen, rfl⟩
    simp [renewed, spaced, withBlanks, start]
  have sameStart : session.perform service first = begun.perform service first :=
    perform_startedOver service rest ended isOpen starts
  rcases together.run early service (World.past_isOver ended)
    (World.atRest_renewed session.world) (first :: steps) with ⟨told, last⟩
  refine ⟨?_, ?_⟩
  · rw [← told, run, run, sameStart]
  · have same : session.after service (first :: steps) = begun.after service (first :: steps) := by
      rw [after, after, List.foldl_cons, List.foldl_cons, sameStart]
    rw [same, last.world, World.calls_withPast]
    rfl

variable (policy : Policy) (createDelay : Nat) (gate : Option Nat) (state : σ)

/-- What a controller has done before a reset, or before a submission that is accepted while no
other call is pending, does not matter any more. In whatever order things happened until everything
had settled, a session acts from then on as a new one in which as many numbers have been given away.
And after any steps of a session whose controller has not been given up, what follows is, but for
the numbers, what a session with a new controller tells. -/
theorem history_independent :
    let initial := World.start policy createDelay gate state
    (∀ (history : List World.Event) (submits : List (Option Nat)) (requests : Nat) (first : Step)
        (rest : List Step),
      let session : Session σ := ⟨initial.run service history, submits, true, requests⟩
      session.world.Settled → session.Numbered →
      (∀ submission ∈ session.world.submissions, submission.stage.isPending = false) →
      first.startsOver = true → session.ActsAsNew service (first :: rest)) ∧
    (∀ (history : List Step) (first : Step) (rest : List Step),
      let session := (Session.start initial).after service history
      let number := session.submits.length
      session.isOpen = true →
      (∀ submission ∈ session.world.submissions, submission.stage.isPending = false) →
      first.startsOver = true →
        session.ActsAsNew service (first :: rest) ∧
        session.run service ((first :: rest).map (·.renumbered 0 number)) =
          ((Session.start session.world.renewed).run service (first :: rest)).map
            (·.renumbered 0 number session.requests)) := by
  intro initial
  refine ⟨?_, ?_⟩
  · intro history submits requests first rest session settled numbered ended starts
    have fresh := atRest_start policy createDelay gate state
    have reached := World.atRest_run service fresh.coherent fresh.paced settled
    exact actsAsNew service reached numbered rfl ended starts rest
  · intro history first rest session number isOpen ended starts
    have fresh : (Session.start initial).world.AtRest :=
      atRest_start policy createDelay gate state
    have reached : session.world.AtRest := (after_spec service fresh history).1
    have numbered : session.Numbered :=
      numbered_after service (by simp [Numbered, start]) fresh history
    have acts := fun steps =>
      actsAsNew service reached numbered isOpen ended starts steps
    refine ⟨acts rest, ?_⟩
    have renamed : (first :: rest).map (·.renumbered 0 number) =
        first :: rest.map (·.renumbered 0 number) := by
      rw [List.map_cons, first.renumbered_of_startsOver starts]
    rw [renamed, (acts _).1, ← renamed]
    exact (run_spaced service number session.requests (Nat.zero_le _) (first :: rest)).1

/-- A loop is running and a download has failed when a second request is made. The call that is
given up later is the first one, which has returned long ago. -/
theorem history_independent_while_polling :
    let initial := World.start ⟨5000, none⟩ 0 none World.sampleScript
    let session := (Session.start initial).after Script.service
      [.submit World.sampleRequest, .download "first"]
    let first := Step.submit World.sampleRequest
    let events : List World.Event :=
      [.submit World.sampleRequest, .act 0 .receiveCreate, .act 0 .askStatus,
        .act 0 .receiveStatus]
    let other : Session Script := ⟨initial.run Script.service events, [some 0], true, 2⟩
    session.world.polls = true ∧ session.world.snapshot.error.isSome = true ∧
      session.ActsAsNew Script.service [first, .abandon 0, .advance 5000] ∧
      (session.perform Script.service first).2.snapshot.jobId = some "second" ∧
      (session.perform Script.service first).2.snapshot.error = none ∧
      other.ActsAsNew Script.service [.reset] := by
  have main := history_independent Script.service ⟨5000, none⟩ 0 none World.sampleScript
  refine ⟨rfl, rfl, ?_, rfl, rfl, ?_⟩
  · have acts := main.2 [.submit World.sampleRequest, .download "first"]
      (.submit World.sampleRequest) [.abandon 0, .advance 5000] rfl
      (List.forall_mem_singleton.mpr rfl) rfl
    exact acts.1
  · refine main.1 _ [some 0] 2 .reset [] (List.forall_mem_singleton.mpr rfl) ?_
      (List.forall_mem_singleton.mpr rfl) rfl
    intro index listed
    rcases Option.some.inj (List.mem_singleton.mp listed) with rfl
    exact Nat.one_pos

end Session

end AuditReports
