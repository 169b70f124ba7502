import AuditReports.Proofs.Controller.Cancellation

/-!
# What passes for a submission

Everything that passes between the controller and the service is entered in the chronicle, with the
submission for which it passes. An event gives a submission at most one entry, and changes it in one
of five ways: others withdraw it, its create call is answered, its loop makes a call, its loop
receives an answer, or its loop leaves. So whatever relates a submission to its entries is kept by a
run if it is kept in each of these five ways.
-/

namespace AuditReports

namespace Submission

/-- What an event makes of a submission, and what passes for it with the service. -/
inductive Turn (policy : Policy) (now : Nat) (before : Submission) :
    Option Exchange → Submission → Prop where
  | withdrawn {after : Submission} (withdrawn : before.Withdrawn after) :
      Turn policy now before none after
  | answered {answer : Except CallError String} {after : Submission}
      (creating : before.stage.isCreating = true)
      (creation : World.Creation policy now before answer after) :
      Turn policy now before (some (.createAnswered answer)) after
  | asked {pollLoop : PollLoop} {due : Nat} (started : before.pollLoop = some pollLoop)
      (waiting : pollLoop.state = .waiting due) (next : Nat) :
      Turn policy now before (some (.statusAsked pollLoop.jobId))
        (before.withLoopState (.asking next))
  | told {pollLoop : PollLoop} {next : Nat} (started : before.pollLoop = some pollLoop)
      (asking : pollLoop.state = .asking next) (answer : Except CallError Job)
      (state : LoopState) :
      Turn policy now before (some (.statusAnswered pollLoop.jobId answer)) (before.proceed state)
  | left (cancelled : before.cancelled = true) :
      Turn policy now before none (before.proceed .finished)

theorem Turn.held {policy : Policy} {now : Nat} {before after : Submission}
    {exchange : Option Exchange} (turn : before.Turn policy now exchange after)
    (held : after.cancelled = false) : before.cancelled = false := by
  cases turn with
  | withdrawn withdrawn => exact withdrawn.held held
  | answered _ creation => exact creation.cancelled.symm.trans held
  | asked _ _ _ => exact held
  | told _ _ _ _ => exact held
  | left cancelled => cases cancelled.symm.trans held

end Submission

namespace World

variable {σ : Type} (service : ReportService σ)

/-! ## What passes for a submission -/

/-- What has passed with the service for a submission, in its order. -/
def entriesOf (world : World σ) (index : Nat) : List Entry :=
  world.chronicle.toList.filter (·.submission == some index)

theorem mem_entriesOf_iff {world : World σ} {index : Nat} {entry : Entry} :
    entry ∈ world.entriesOf index ↔ entry ∈ world.chronicle ∧ entry.submission = some index := by
  simp [entriesOf]

theorem statusCalls_eq_nil_iff {world : World σ} {index : Nat} :
    world.statusCalls index = [] ↔
      ∀ entry ∈ world.entriesOf index, entry.exchange.asksStatus = false := by
  simp [statusCalls, mem_entriesOf_iff]

theorem entriesOf_push_own {world next : World σ} {index : Nat} {exchange : Exchange}
    (chronicle : next.chronicle = world.chronicle.push ⟨world.now, some index, exchange⟩) :
    next.entriesOf index = world.entriesOf index ++ [⟨world.now, some index, exchange⟩] := by
  simp [entriesOf, chronicle, List.filter_append]

theorem entriesOf_push {world next : World σ} {index : Nat} {entry : Entry}
    (chronicle : next.chronicle = world.chronicle.push entry)
    (foreign : entry.submission ≠ some index) : next.entriesOf index = world.entriesOf index := by
  simp [entriesOf, chronicle, List.filter_append, foreign]

theorem entriesOf_of_surroundings {before after : World σ} (same : before.SameSurroundings after)
    (index : Nat) : after.entriesOf index = before.entriesOf index := by
  rw [entriesOf, entriesOf, same.chronicle]

/-- Nothing passes for a submission but what it does of its own accord, except that the service is
asked for its job when it is accepted. -/
theorem entriesOf_occur_of_foreign {world : World σ} {index : Nat} {event : Event}
    (foreign : ∀ action, event ≠ .act index action)
    (notNew : index < world.submissions.length ∨
      (world.occur service event).submissions[index]? = none) :
    (world.occur service event).entriesOf index = world.entriesOf index := by
  have transition := transition_occur service world event
  generalize world.occur service event = next at transition notNew ⊢
  have other : ∀ {action place}, event = .act place action → some place ≠ some index := by
    rintro action place rfl same
    rcases Option.some.inj same with rfl
    exact foreign action rfl
  cases transition with
  | receiveCreate _ _ =>
      exact entriesOf_push (receiveCreate_chronicle service world _ _) (other rfl)
  | askStatus _ _ _ _ => exact entriesOf_push rfl (other rfl)
  | receiveStatus _ _ _ =>
      exact entriesOf_push (receiveStatus_chronicle service world _ _ _ _) (other rfl)
  | @accept _ payload _ _ =>
      refine entriesOf_push (accept_chronicle world payload) fun same => ?_
      rcases Option.some.inj same with rfl
      rcases notNew with earlier | absent
      · exact Nat.lt_irrefl _ earlier
      · rw [List.getElem?_eq_none_iff, length_accept] at absent
        exact Nat.not_succ_le_self _ absent
  | halt => exact entriesOf_of_surroundings (halt_surroundings world) index
  | clear => exact entriesOf_of_surroundings (emptySlot_surroundings world) index
  | download jobId => simp [entriesOf, download_chronicle]
  | abandonCall call => exact entriesOf_of_surroundings (abandonCall_surroundings world call) index
  | shut => exact entriesOf_of_surroundings (shut_surroundings world) index
  | _ => rfl

/-- An event changes a submission in one of five ways and adds at most one entry for it. -/
theorem turn_occur {world : World σ} {index : Nat} {before : Submission}
    (found : world.submissions[index]? = some before) (event : Event) :
    ∃ after exchange, (world.occur service event).submissions[index]? = some after ∧
      before.Turn world.policy world.now exchange after ∧
      (world.occur service event).entriesOf index =
        world.entriesOf index ++ (exchange.map (⟨world.now, some index, ·⟩)).toList := by
  by_cases own : ∃ action, event = .act index action
  · rcases own with ⟨action, rfl⟩
    have transition := transition_act service world index action
    generalize world.occur service (.act index action) = next at transition ⊢
    cases transition with
    | idle _ => exact ⟨before, none, found, .withdrawn (.refl before), by simp⟩
    | receiveCreate found' creating =>
        rcases Option.some.inj (found.symm.trans found') with rfl
        rw [receiveCreate_submissions, List.getElem?_modify_eq, found]
        exact ⟨_, _, rfl, .answered creating (creation world.policy world.now _ before),
          entriesOf_push_own (receiveCreate_chronicle service world index before)⟩
    | @askStatus _ _ _ due found' started waiting _ =>
        rcases Option.some.inj (found.symm.trans found') with rfl
        change ∃ after exchange, (world.submissions.modify index _)[index]? = some after ∧ _
        rw [List.getElem?_modify_eq, found]
        exact ⟨_, _, rfl, .asked started waiting _, entriesOf_push_own rfl⟩
    | receiveStatus found' started asking =>
        rcases Option.some.inj (found.symm.trans found') with rfl
        rw [receiveStatus_submissions, List.getElem?_modify_eq, found]
        exact ⟨_, _, rfl, .told started asking _ _,
          entriesOf_push_own (receiveStatus_chronicle service world index before _ _)⟩
    | leave found' cancelled _ =>
        rcases Option.some.inj (found.symm.trans found') with rfl
        change ∃ after exchange, (world.submissions.modify index _)[index]? = some after ∧ _
        rw [List.getElem?_modify_eq, found]
        exact ⟨_, none, rfl, .left cancelled, (List.append_nil _).symm⟩
  · have foreign : ∀ action, event ≠ .act index action := fun action same => own ⟨action, same⟩
    have bound := (List.getElem?_eq_some_iff.mp found).1
    rcases occur_withdrawn service foreign found with ⟨after, foundAfter, withdrawn⟩
    refine ⟨after, none, foundAfter, .withdrawn withdrawn, ?_⟩
    rw [entriesOf_occur_of_foreign service foreign (Or.inl bound)]
    exact (List.append_nil _).symm

end World

end AuditReports
