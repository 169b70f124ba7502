import AuditReports.Proofs.Controller.Settling

/-!
# Sessions as runs

Between two steps of a session a world is at rest: nothing can happen in it, and it drifts through
time from one moment at which something falls due to the next. Time passes by at least a millisecond
between two of them, because in a settled world nothing is due that is not still to come.

So a session is a run of events like any other. The run is prompt: no time passes while a loop has
still to notice that its submission has been cancelled.
-/

namespace AuditReports

namespace World

variable {σ : Type} (service : ReportService σ)

/-! ## Drifting -/

/-- The event happens of its own accord. -/
def Event.isSpontaneous : Event → Bool
  | .act _ _ => true
  | .pass _ => true
  | _ => false

/-- Every loop has noticed whether its submission has been cancelled. -/
def Noticed (world : World σ) : Prop :=
  ∀ submission ∈ world.submissions, submission.cancelled = true → submission.isPolling = false

/-- No time passes while a loop has still to notice that its submission has been cancelled. -/
def Prompt (world : World σ) : List Event → Prop
  | [] => True
  | event :: events =>
      ((∃ span, event = .pass span) → world.Noticed) ∧ Prompt (world.occur service event) events

theorem prompt_append {world : World σ} {first second : List Event} :
    world.Prompt service (first ++ second) ↔
      world.Prompt service first ∧ (world.run service first).Prompt service second := by
  induction first generalizing world with
  | nil => simp [Prompt]
  | cons event first ih => simp [Prompt, ih, and_assoc]

/-- One world becomes another while nobody does anything. -/
def Drifts (world next : World σ) : Prop :=
  ∃ events, next = world.run service events ∧ world.Prompt service events ∧
    ∀ event ∈ events, event.isSpontaneous = true

theorem Drifts.refl (world : World σ) : world.Drifts service world :=
  ⟨[], rfl, trivial, by simp⟩

theorem Drifts.trans {first second third : World σ} (left : first.Drifts service second)
    (right : second.Drifts service third) : first.Drifts service third := by
  rcases left with ⟨earlier, rfl, promptEarlier, spontaneousEarlier⟩
  rcases right with ⟨later, rfl, promptLater, spontaneousLater⟩
  refine ⟨earlier ++ later, by simp, (prompt_append service).mpr ⟨promptEarlier, promptLater⟩, ?_⟩
  intro event listed
  rcases List.mem_append.mp listed with earlier | later
  · exact spontaneousEarlier event earlier
  · exact spontaneousLater event later

theorem drifts_act (world : World σ) (index : Nat) (action : Action) :
    world.Drifts service (world.occur service (.act index action)) :=
  ⟨[.act index action], rfl, ⟨by simp, trivial⟩, by simp [Event.isSpontaneous]⟩

theorem drifts_to {world : World σ} (noticed : world.Noticed) {target : Nat}
    (ahead : world.now ≤ target) : world.Drifts service { world with now := target } := by
  refine ⟨[.pass (target - world.now)], ?_, ⟨fun _ => noticed, trivial⟩,
    by simp [Event.isSpontaneous]⟩
  simp [occur, Nat.add_sub_cancel' ahead]

theorem drifts_drain (world : World σ) (budget : Nat) :
    world.Drifts service (drain service budget world) := by
  induction budget generalizing world with
  | zero => exact .refl service world
  | succ budget ih =>
      simp only [drain]
      split
      · exact .refl service world
      · rename_i index action next
        rw [perform_eq_occur service next]
        exact (drifts_act service world index action).trans service (ih _)

/-- What holds of the world between two steps of a session. -/
structure AtRest (world : World σ) : Prop where
  coherent : world.Coherent
  paced : world.Paced
  settled : world.Settled

theorem AtRest.noticed {world : World σ} (rest : world.AtRest) : world.Noticed := by
  intro submission listed cancelled
  rcases List.mem_iff_getElem?.mp listed with ⟨index, found⟩
  exact Submission.isPolling_eq_false_of_action? (rest.coherent.loopless index submission found)
    cancelled (rest.settled submission listed)

theorem atRest_run {world : World σ} (coherent : world.Coherent) (paced : world.Paced)
    {events : List Event} (settled : (world.run service events).Settled) :
    (world.run service events).AtRest := by
  have invariant := run_invariant service (fun world => world.Coherent ∧ world.Paced)
    (fun _ event held => ⟨held.1.occur service event, held.2.occur service held.1 event⟩)
    world events ⟨coherent, paced⟩
  exact ⟨invariant.1, invariant.2, settled⟩

theorem atRest_settle {world : World σ} (coherent : world.Coherent) (paced : world.Paced) :
    (settle service world).AtRest := by
  have settled := settled_drain service coherent paced (Nat.le_refl world.pendingWork)
  rcases drifts_drain service world world.pendingWork with ⟨events, drained, _, _⟩
  rw [drained] at settled
  rw [settle, drained]
  exact atRest_run service coherent paced settled

/-! ## The passing of time -/

theorem lt_of_nextWake? {world : World σ} (settled : world.Settled) {wake : Nat}
    (next : world.nextWake? = some wake) : world.now < wake := by
  have listed := (List.min?_eq_some_iff.mp next).1
  rcases List.mem_filterMap.mp listed with ⟨submission, member, due⟩
  exact Submission.lt_of_wake? (settled submission member) due

/-- A settled world stays settled until something falls due. -/
theorem Settled.advanceTo {world : World σ} (settled : world.Settled) {target : Nat}
    (ahead : ∀ wake, world.nextWake? = some wake → target < wake) :
    { world with now := target }.Settled := by
  intro submission listed
  apply Submission.action?_eq_none_of_wake? (settled submission listed)
  intro wake due
  have member := List.mem_filterMap.mpr ⟨submission, listed, due⟩
  cases next : world.nextWake? with
  | none =>
      rw [nextWake?, List.min?_eq_none_iff] at next
      simp [next] at member
  | some first =>
      have least := (List.min?_eq_some_iff.mp next).2 wake member
      exact Nat.lt_of_lt_of_le (ahead first next) least

theorem drifts_settle (world : World σ) : world.Drifts service (settle service world) :=
  drifts_drain service world world.pendingWork

@[simp]
theorem drain_now (world : World σ) (budget : Nat) :
    (drain service budget world).now = world.now := by
  induction budget generalizing world with
  | zero => rfl
  | succ budget ih =>
      simp only [drain]
      split
      · rfl
      · rename_i index action next
        rw [ih, perform_eq_occur service next]
        exact occur_now service fun span => Event.noConfusion

theorem Coherent.pass {world : World σ} (coherent : world.Coherent) (target : Nat) :
    { world with now := target }.Coherent :=
  ⟨coherent.loopless, coherent.owner, coherent.told, coherent.pending⟩

/-- Time passes up to the target, from one moment at which something falls due to the next, until
nothing more does. -/
inductive Passage (target : Nat) : World σ → World σ → Prop where
  | arrive {world : World σ} (ahead : world.now ≤ target)
      (quiet : ∀ wake, world.nextWake? = some wake → target < wake) :
      Passage target world { world with now := target }
  | wake {world last : World σ} {wake : Nat} (later : world.now < wake)
      (onward : Passage target (settle service { world with now := wake }) last) :
      Passage target world last

theorem AtRest.settle_at {world : World σ} (rest : world.AtRest) (moment : Nat) :
    (settle service { world with now := moment }).AtRest :=
  atRest_settle service (rest.coherent.pass moment) rest.paced

/-- There is always budget enough, because every step takes at least a millisecond. -/
theorem passage_passTo {world : World σ} (rest : world.AtRest) {target budget : Nat}
    (ahead : world.now ≤ target) (enough : target - world.now < budget) :
    Passage service target world (passTo service target budget world) := by
  induction budget generalizing world with
  | zero => omega
  | succ budget ih =>
      simp only [passTo]
      split
      · rename_i next
        exact .arrive ahead (by simp [next])
      · rename_i wake next
        split
        · rename_i reached
          have later := lt_of_nextWake? rest.settled next
          have nowNext : (settle service { world with now := wake }).now = wake :=
            drain_now service _ _
          rw [Nat.max_eq_right (Nat.le_of_lt later)]
          exact .wake later (ih (rest.settle_at service wake) (by omega) (by omega))
        · rename_i distant
          apply Passage.arrive ahead
          intro other same
          rcases Option.some.inj (next.symm.trans same) with rfl
          omega

theorem passage_advance {world : World σ} (rest : world.AtRest) (span : Nat) :
    Passage service (world.now + span) world (advance service world span) :=
  passage_passTo service rest (by omega) (by omega)

/-- Time passes up to the target, and at the end nothing is left to do. -/
theorem Passage.spec {target : Nat} {world last : World σ}
    (passage : Passage service target world last) (rest : world.AtRest) :
    last.AtRest ∧ last.now = target ∧ world.Drifts service last := by
  induction passage with
  | arrive ahead quiet =>
      exact ⟨⟨rest.coherent.pass target, rest.paced, rest.settled.advanceTo quiet⟩, rfl,
        drifts_to service rest.noticed ahead⟩
  | @wake world last wake later onward ih =>
      rcases ih (rest.settle_at service wake) with ⟨restLast, nowLast, drifts⟩
      exact ⟨restLast, nowLast, ((drifts_to service rest.noticed (Nat.le_of_lt later)).trans
        service (drifts_settle service _)).trans service drifts⟩

theorem advance_spec {world : World σ} (rest : world.AtRest) (span : Nat) :
    (advance service world span).AtRest ∧ (advance service world span).now = world.now + span ∧
      world.Drifts service (advance service world span) :=
  (passage_advance service rest span).spec service rest

/-! ## Sessions as runs -/

/-- Somebody does something, or nothing, and then one world becomes another while nobody does
anything. -/
def Evolves (world next : World σ) : Prop :=
  ∃ caused : Option Event, (∀ event, caused = some event → event.isSpontaneous = false) ∧
    (world.run service caused.toList).Drifts service next

theorem Drifts.evolves {world next : World σ} (drifts : world.Drifts service next) :
    world.Evolves service next :=
  ⟨none, by simp, drifts⟩

theorem Evolves.exists_run {world next : World σ} (evolves : world.Evolves service next) :
    ∃ events, next = world.run service events ∧ world.Prompt service events := by
  rcases evolves with ⟨caused, deliberate, events, rfl, prompt, _⟩
  refine ⟨caused.toList ++ events, by simp, (prompt_append service).mpr ⟨?_, prompt⟩⟩
  cases caused with
  | none => trivial
  | some event =>
      refine ⟨?_, trivial⟩
      rintro ⟨span, rfl⟩
      exact absurd (deliberate _ rfl) (by simp [Event.isSpontaneous])

/-- After something has been done and everything has settled, the world is at rest again. -/
theorem AtRest.settle_occur {world : World σ} (rest : world.AtRest) (event : Event)
    (deliberate : event.isSpontaneous = false) :
    (settle service (world.occur service event)).AtRest ∧
      world.Evolves service (settle service (world.occur service event)) := by
  refine ⟨atRest_settle service (rest.coherent.occur service event)
    (rest.paced.occur service rest.coherent event), some event, ?_, drifts_settle service _⟩
  intro other same
  rcases Option.some.inj same with rfl
  exact deliberate

theorem AtRest.download {world : World σ} (rest : world.AtRest) (jobId : String) :
    (world.download service jobId).1.AtRest where
  coherent := rest.coherent.download service jobId
  paced := rest.paced.occur service rest.coherent (.download jobId)
  settled := by
    simp only [Settled, isFree]
    rw [download_submissions, download_now, download_gate]
    exact rest.settled

end World

namespace Session

variable {σ : Type} (service : ReportService σ)

def after (session : Session σ) (steps : List Step) : Session σ :=
  steps.foldl (fun session step => (session.perform service step).1) session

theorem atRest_start (policy : Policy) (createDelay : Nat) (gate : Option Nat) (state : σ) :
    (World.start policy createDelay gate state).AtRest where
  coherent := World.coherent_start policy createDelay gate state
  paced := World.paced_start policy createDelay gate state
  settled := by simp [World.Settled, World.start]

theorem submit_spec {session : Session σ} (rest : session.world.AtRest) (request : ReportRequest) :
    (session.submit service request).1.world.AtRest ∧
      session.world.Evolves service (session.submit service request).1.world := by
  simp only [submit, World.submit]
  cases claimed : session.world.claim request with
  | error error => exact ⟨rest, (World.Drifts.refl service _).evolves service⟩
  | ok next =>
      have submitted : next = session.world.occur service (.submit request) := by
        simp [World.occur, claimed]
      change (World.settle service next).AtRest ∧
        session.world.Evolves service (World.settle service next)
      rw [submitted]
      exact rest.settle_occur service _ rfl

/-- Every step of a session is a run of events, and the world is at rest before and after it. -/
theorem perform_spec {session : Session σ} (rest : session.world.AtRest) (step : Step) :
    (session.perform service step).1.world.AtRest ∧
      session.world.Evolves service (session.perform service step).1.world := by
  have unchanged : session.world.AtRest ∧ session.world.Evolves service session.world :=
    ⟨rest, (World.Drifts.refl service _).evolves service⟩
  cases step with
  | advance span =>
      have passed := World.advance_spec service rest span
      exact ⟨passed.1, passed.2.2.evolves service⟩
  | permit count => exact rest.settle_occur service (.permit count) rfl
  | close => exact rest.settle_occur service .close rfl
  | abandon number =>
      simp only [perform, observe]
      split
      · rename_i index _
        exact rest.settle_occur service (.abandon index) rfl
      · exact unchanged
  | submit request =>
      simp only [perform]
      split
      · exact submit_spec service rest request
      · exact unchanged
  | stopPolling =>
      simp only [perform]
      split
      · exact rest.settle_occur service .stopPolling rfl
      · exact unchanged
  | reset =>
      simp only [perform]
      split
      · exact rest.settle_occur service .reset rfl
      · exact unchanged
  | download jobId =>
      simp only [perform]
      split
      · exact ⟨rest.download service jobId, some (.download jobId),
          by simp [World.Event.isSpontaneous], World.Drifts.refl service _⟩
      · exact unchanged

theorem after_spec {session : Session σ} (rest : session.world.AtRest) (steps : List Step) :
    (session.after service steps).world.AtRest ∧
      ∃ events, (session.after service steps).world = session.world.run service events ∧
        session.world.Prompt service events := by
  induction steps generalizing session with
  | nil => exact ⟨rest, [], rfl, trivial⟩
  | cons step steps ih =>
      rcases perform_spec service rest step with ⟨restNext, evolves⟩
      rcases evolves.exists_run service with ⟨first, world, promptFirst⟩
      rcases ih restNext with ⟨restLast, second, last, promptSecond⟩
      rw [world] at promptSecond last
      refine ⟨restLast, first ++ second, ?_, ?_⟩
      · rw [World.run_append]
        exact last
      · exact (World.prompt_append service).mpr ⟨promptFirst, promptSecond⟩

end Session

end AuditReports
