import AuditReports.Controller.Watcher
import AuditReports.Proofs.Controller.Moments

/-!
# What watchers see

A watcher does not look at the snapshot all the time: it looks when it has been notified. This is
enough if no change of the snapshot passes in silence. Whether watchers are notified is decided
anew wherever the snapshot is written, so the proof looks at each of these places once: either the
snapshot is left as it is, or it is published, and whoever publishes notifies.

Notifications are only counted, and a watcher that is slow finds several at once. Being announced is
therefore said of any two worlds of which one becomes the other, and it is transitive: between two
looks, between two steps of a session and from one event to the next it is the same.
-/

namespace AuditReports

namespace World

/-- If the snapshot is another one, watchers have been notified in the meantime. -/
structure Announced {σ : Type} (before after : World σ) : Prop where
  counted : before.notifications ≤ after.notifications
  snapshot : after.notifications = before.notifications → after.snapshot = before.snapshot

namespace Announced

variable {σ : Type} {first second third : World σ}

theorem refl (world : World σ) : world.Announced world :=
  ⟨Nat.le_refl _, fun _ => rfl⟩

theorem trans (left : first.Announced second) (right : second.Announced third) :
    first.Announced third where
  counted := Nat.le_trans left.counted right.counted
  snapshot := by
    intro same
    have counted := left.counted
    have countedNext := right.counted
    exact (right.snapshot (by omega)).trans (left.snapshot (by omega))

theorem unchanged (notifications : second.notifications = first.notifications)
    (snapshot : second.snapshot = first.snapshot) : first.Announced second :=
  ⟨Nat.le_of_eq notifications.symm, fun _ => snapshot⟩

theorem published (notified : second.notifications = first.notifications + 1) :
    first.Announced second :=
  ⟨by omega, by omega⟩

/-- Whoever sees that the snapshot has changed has been notified. -/
theorem lt_of_ne (announced : first.Announced second)
    (changed : second.snapshot ≠ first.snapshot) : first.notifications < second.notifications :=
  Nat.lt_of_le_of_ne announced.counted fun same => changed (announced.snapshot same.symm)

end Announced

variable {σ : Type}

/-! ## Wherever the snapshot is written -/

theorem announced_emptySlot (world : World σ) : world.Announced world.emptySlot := by
  unfold emptySlot
  split <;> exact .unchanged rfl rfl

theorem announced_accept (world : World σ) (payload : Payload) :
    world.Announced (world.accept payload) :=
  (announced_emptySlot world).trans (.published rfl)

theorem announced_halt (world : World σ) : world.Announced world.halt := by
  refine (announced_emptySlot world).trans ?_
  unfold halt
  simp only
  split
  · exact .published rfl
  · exact .refl _

theorem announced_clear (world : World σ) : world.Announced world.clear :=
  (announced_emptySlot world).trans (.published rfl)

theorem announced_abandonCall (world : World σ) (index : Nat) :
    world.Announced (world.abandonCall index) := by
  have given := world.abandonment index
  generalize world.abandonCall index = next at given ⊢
  cases given with
  | settled _ => exact .refl world
  | late _ _ _ => exact .unchanged rfl rfl
  | inCharge _ _ _ _ => exact .published rfl
  | firstPoll _ _ _ => exact .unchanged rfl rfl

theorem announced_shut (world : World σ) : world.Announced world.shut := by
  have folded : ∀ (indices : List Nat) (world : World σ),
      world.Announced (indices.foldl abandonCall world) := by
    intro indices
    induction indices with
    | nil => exact .refl
    | cons index indices ih =>
        exact fun world => (announced_abandonCall world index).trans (ih _)
  exact (folded _ world).trans (announced_emptySlot _)

variable (service : ReportService σ)

theorem announced_download (world : World σ) (jobId : String) :
    world.Announced (world.download service jobId).1 := by
  unfold download
  rcases service.download jobId world.service with ⟨answer, state⟩
  cases answer <;> exact .published rfl

theorem announced_receiveCreate (world : World σ) (index : Nat) (submission : Submission) :
    world.Announced (world.receiveCreate service index submission) := by
  unfold receiveCreate
  cases submission.cancelled with
  | true => exact .unchanged rfl rfl
  | false => exact .published rfl

theorem announced_adopt (world : World σ) (index : Nat) (submission : Submission) :
    world.Announced (world.adopt service index submission) := by
  unfold adopt
  cases submission.cancelled with
  | true => exact .unchanged rfl rfl
  | false => exact .published rfl

theorem announced_receiveStatus (world : World σ) (index : Nat) (submission : Submission)
    (pollLoop : PollLoop) (next : Nat) :
    world.Announced (world.receiveStatus service index submission pollLoop next) := by
  unfold receiveStatus
  cases submission.cancelled with
  | true => exact .unchanged rfl rfl
  | false => exact .published rfl

/-! ## Events, moments and steps -/

theorem announced_occur (world : World σ) (event : Event) :
    world.Announced (world.occur service event) := by
  have transition := transition_occur service world event
  generalize world.occur service event = next at transition ⊢
  cases transition with
  | idle _ => exact .refl world
  | receiveCreate _ _ => exact announced_receiveCreate service world _ _
  | askStatus _ _ _ _ => exact .unchanged rfl rfl
  | receiveStatus _ _ _ => exact announced_receiveStatus service world _ _ _ _
  | leave _ _ _ => exact .unchanged rfl rfl
  | pass span => exact .unchanged rfl rfl
  | reject _ => exact .refl world
  | accept _ _ => exact announced_accept world _
  | halt => exact announced_halt world
  | clear => exact announced_clear world
  | download jobId => exact announced_download service world jobId
  | allow count => exact .unchanged rfl rfl
  | abandonCall index => exact announced_abandonCall world index
  | shut => exact announced_shut world

theorem announced_run (world : World σ) (events : List Event) :
    world.Announced (world.run service events) := by
  induction events generalizing world with
  | nil => exact .refl world
  | cons event events ih => exact (announced_occur service world event).trans (ih _)

theorem announced_happen (world : World σ) (moment : Moment) :
    world.Announced (world.happen service moment) := by
  have happening := happening service world moment
  generalize world.happen service moment = next at happening ⊢
  cases happening with
  | adopt _ _ => exact announced_adopt service world _ _
  | occur _ => exact announced_occur service world _
  | launch index => exact .unchanged rfl rfl

theorem announced_after {session : Session σ} (rest : session.world.AtRest) (steps : List Step) :
    session.world.Announced (session.after service steps).world := by
  rcases (Session.after_spec service rest steps).2 with ⟨events, last, _⟩
  rw [last]
  exact announced_run service session.world events

end World

/-! ## Watchers -/

namespace Watcher

variable {σ : Type} (service : ReportService σ)

/-- The watcher gets to its notifications from time to time, with anything happening in between. -/
def follow (watcher : Watcher) (world : World σ) : List (List World.Event) → Watcher
  | [] => watcher
  | events :: more =>
      follow (watcher.look (world.run service events)) (world.run service events) more

theorem look_watch {before after : World σ} (announced : before.Announced after) :
    before.watch.look after = after.watch := by
  unfold look
  split
  · rename_i same
    simp only [World.watch] at same ⊢
    rw [same, announced.snapshot same]
  · rfl

theorem follow_watch (world : World σ) (course : List (List World.Event)) :
    world.watch.follow service world course = (world.run service course.flatten).watch := by
  induction course generalizing world with
  | nil => rfl
  | cons events more ih =>
      rw [follow, look_watch (World.announced_run service world events), ih, List.flatten_cons,
        World.run_append]

end Watcher

namespace Session

variable {σ : Type} (service : ReportService σ)

theorem changed_submit (session : Session σ) (request : ReportRequest) :
    (session.submit service request).2.changed =
      some (session.world.notifications !=
        (session.submit service request).1.world.notifications) := by
  unfold submit
  cases session.world.submit service request <;> rfl

/-- As long as the controller has not been given up, a step tells whether watchers were notified. -/
theorem changed_perform (session : Session σ) (step : Step)
    (isOpen : (session.perform service step).1.isOpen = true) :
    (session.perform service step).2.changed =
      some (session.world.notifications !=
        (session.perform service step).1.world.notifications) := by
  cases step with
  | advance span => exact if_pos isOpen
  | permit count => exact if_pos isOpen
  | abandon number => exact if_pos isOpen
  | close => cases isOpen
  | submit request =>
      simp only [perform] at isOpen ⊢
      split
      · exact changed_submit service session request
      · rename_i given
        rw [if_neg given] at isOpen
        exact absurd isOpen given
  | _ =>
      simp only [perform] at isOpen ⊢
      split
      · rfl
      · rename_i given
        rw [if_neg given] at isOpen
        exact absurd isOpen given

end Session

namespace World

variable {σ : Type} (service : ReportService σ)

/-! ## Main result -/

variable (policy : Policy) (createDelay : Nat) (gate : Option Nat) (state : σ)

/-- No state changes in silence. If an event, a moment or a step of a session changes the snapshot,
then watchers are notified with it, and a step in which they are says so, for as long as there is a
controller to watch. So whoever starts to watch in any state and looks again at each notification
always holds the snapshot that there is, however much has happened between two looks. -/
theorem no_silent_change :
    let initial := start policy createDelay gate state
    (∀ (history : List Event) (event : Event),
      let world := initial.run service history
      let next := world.occur service event
      next.snapshot ≠ world.snapshot → world.notifications < next.notifications) ∧
    (∀ (history : List Moment) (moment : Moment),
      let world := initial.play service history
      let next := world.happen service moment
      next.snapshot ≠ world.snapshot → world.notifications < next.notifications) ∧
    (∀ (history : List Step) (step : Step),
      let session := (Session.start initial).after service history
      let taken := session.perform service step
      taken.1.world.snapshot ≠ session.world.snapshot →
        session.world.notifications < taken.1.world.notifications ∧
          (taken.1.isOpen = true → taken.2.changed = some true)) ∧
    (∀ (history : List Event) (course : List (List Event)),
      let world := initial.run service history
      (world.watch.follow service world course).shown =
        (world.run service course.flatten).snapshot) ∧
    ∀ history steps : List Step,
      let session := (Session.start initial).after service history
      let last := session.after service steps
      (session.world.watch.look last.world).shown = last.world.snapshot := by
  intro initial
  have rest : ∀ history : List Step,
      ((Session.start initial).after service history).world.AtRest := by
    intro history
    have fresh : (Session.start initial).world.AtRest :=
      Session.atRest_start policy createDelay gate state
    exact (Session.after_spec service fresh history).1
  refine ⟨?_, ?_, ?_, ?_, ?_⟩
  · intro history event world next changed
    exact (announced_occur service world event).lt_of_ne changed
  · intro history moment world next changed
    exact (announced_happen service world moment).lt_of_ne changed
  · intro history step session taken changed
    have notified := (announced_after service (rest history) [step]).lt_of_ne changed
    refine ⟨notified, ?_⟩
    intro isOpen
    rw [Session.changed_perform service session step isOpen, Option.some.injEq, bne_iff_ne]
    exact Nat.ne_of_lt notified
  · intro history course world
    rw [Watcher.follow_watch]
    rfl
  · intro history steps session last
    rw [Watcher.look_watch (announced_after service (rest history) steps)]
    rfl

/-- A watcher looks when the job has been created, when its report is ready, and once more. -/
def looks : List (List Event) :=
  [[.submit sampleRequest, .act 0 .receiveCreate], [.act 0 .askStatus, .act 0 .receiveStatus], []]

/-- A request is made, the job is created, and its report is ready, all in one step. -/
theorem no_silent_change_when_ready_at_once :
    let initial := start ⟨5000, none⟩ 0 none readyScript
    let submitted := initial.play Script.service [.event (.submit sampleRequest)]
    let adopted := submitted.happen Script.service (.event (.act 0 .receiveCreate))
    let taken := (Session.start initial).perform Script.service (.submit sampleRequest)
    initial.notifications < (initial.occur Script.service (.submit sampleRequest)).notifications ∧
      submitted.notifications < adopted.notifications ∧
      taken.1.world.snapshot.phase = .completed ∧ taken.2.changed = some true ∧
      (initial.watch.follow Script.service initial looks).shown.phase = .completed := by
  intro initial submitted adopted taken
  have main := no_silent_change Script.service ⟨5000, none⟩ 0 none readyScript
  have submits := main.1 [] (.submit sampleRequest) (by decide +kernel)
  have adopts := main.2.1 [.event (.submit sampleRequest)] (.event (.act 0 .receiveCreate))
    (by decide +kernel)
  have completes := (main.2.2.1 [] (.submit sampleRequest) (by decide +kernel)).2 rfl
  have follows : (initial.watch.follow Script.service initial looks).shown =
      (initial.run Script.service looks.flatten).snapshot := main.2.2.2.1 [] looks
  refine ⟨submits, adopts, by decide +kernel, completes, ?_⟩
  rw [follows]
  decide +kernel

end World

end AuditReports
