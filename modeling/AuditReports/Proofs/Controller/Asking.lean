import AuditReports.Proofs.Controller.Effects

/-!
# What the service is asked

A controller asks for a job only with the payload of a submission, and a submission has the payload
of a request that has passed its check, for as long as it exists. So what every such call keeps, and
every status request and download with it, is kept by all that a controller does.
-/

namespace AuditReports

variable {σ : Type}

/-- What the service is asked for a payload of the given kind keeps the state of the service as it
should be, and so do all other calls. -/
structure ReportService.Keeps (service : ReportService σ) (ours : Payload → Prop)
    (holds : σ → Prop) : Prop where
  create : ∀ payload state, ours payload → holds state → holds (service.create payload state).2
  status : ∀ jobId state, holds state → holds (service.status jobId state).2
  download : ∀ jobId state, holds state → holds (service.download jobId state).2

namespace World

/-- Everything that is asked for is of the given kind, and the service is as it should be. -/
structure AsksFor (ours : Payload → Prop) (holds : σ → Prop) (world : World σ) : Prop where
  service : holds world.service
  payloads : ∀ submission ∈ world.submissions, ours submission.payload

variable {service : ReportService σ}

/-- A submission keeps its payload, and a new one has that of a request that has passed. -/
theorem payload_occur {world : World σ} {event : Event} {submission : Submission}
    (listed : submission ∈ (world.occur service event).submissions) :
    (∃ before ∈ world.submissions, submission.payload = before.payload) ∨
      ∃ request, event = .submit request ∧ request.check = .ok submission.payload := by
  rcases List.mem_iff_getElem?.mp listed with ⟨index, found⟩
  cases earlier : world.submissions[index]? with
  | some before =>
      refine .inl ⟨before, List.mem_iff_getElem?.mpr ⟨index, earlier⟩, ?_⟩
      by_cases own : ∃ action, event = .act index action
      · rcases own with ⟨action, rfl⟩
        rcases exists_modify_of_act service world index action with ⟨change, submissions, kept⟩
        rw [submissions, List.getElem?_modify_eq, earlier] at found
        rcases Option.some.inj found with rfl
        exact (kept before).1
      · rcases occur_withdrawn service (fun action same => own ⟨action, same⟩) earlier with
          ⟨after, there, withdrawn⟩
        rcases Option.some.inj (there.symm.trans found) with rfl
        exact withdrawn.payload
  | none =>
      refine .inr ?_
      have beyond := List.getElem?_eq_none_iff.mp earlier
      rcases length_occur_or_accepted service world event with
        length | ⟨payload, accepted, request, rfl, claimed⟩
      · rw [List.getElem?_eq_none (Nat.le_trans (Nat.le_of_eq length) beyond)] at found
        cases found
      · rcases claim_ok_iff.mp claimed with ⟨checked, valid, _, same⟩
        rw [accepted, same] at found
        rcases getElem?_accept found with still | ⟨_, rfl⟩
        · rw [List.getElem?_eq_none ((emptySlot_length world).symm ▸ beyond)] at still
          cases still
        · exact ⟨request, rfl, valid⟩

/-- What happens leads to one call at most. -/
theorem service_occur (service : ReportService σ) (world : World σ) (event : Event) :
    (world.occur service event).service = world.service ∨
      (∃ submission ∈ world.submissions, (world.occur service event).service =
        (service.create submission.payload world.service).2) ∨
      (∃ jobId, (world.occur service event).service = (service.status jobId world.service).2) ∨
      ∃ jobId, (world.occur service event).service = (service.download jobId world.service).2 := by
  have transition := transition_occur service world event
  generalize world.occur service event = next at transition ⊢
  cases transition with
  | idle => exact .inl rfl
  | receiveCreate found _ =>
      exact .inr (.inl ⟨_, List.mem_of_getElem? found, receiveCreate_service service world _ _⟩)
  | askStatus => exact .inl rfl
  | receiveStatus _ _ _ =>
      exact .inr (.inr (.inl ⟨_, receiveStatus_service service world _ _ _ _⟩))
  | leave => exact .inl rfl
  | pass => exact .inl rfl
  | reject => exact .inl rfl
  | accept _ _ => exact .inl (emptySlot_surroundings world).service
  | halt => exact .inl (halt_surroundings world).service
  | clear => exact .inl (emptySlot_surroundings world).service
  | download jobId => exact .inr (.inr (.inr ⟨jobId, download_service service world jobId⟩))
  | allow => exact .inl rfl
  | abandonCall index => exact .inl (abandonCall_surroundings world index).service
  | shut => exact .inl (shut_surroundings world).service

variable {ours : Payload → Prop} {holds : σ → Prop} {world : World σ}
  (keeps : service.Keeps ours holds)

include keeps

theorem AsksFor.occur (asks : world.AsksFor ours holds) {event : Event}
    (passes : ∀ request payload, event = .submit request → request.check = .ok payload →
      ours payload) : (world.occur service event).AsksFor ours holds where
  service := by
    rcases service_occur service world event with
      same | ⟨submission, listed, created⟩ | ⟨jobId, asked⟩ | ⟨jobId, fetched⟩
    · exact same ▸ asks.service
    · exact created ▸ keeps.create _ _ (asks.payloads submission listed) asks.service
    · exact asked ▸ keeps.status jobId _ asks.service
    · exact fetched ▸ keeps.download jobId _ asks.service
  payloads := by
    intro submission listed
    rcases payload_occur listed with ⟨before, earlier, same⟩ | ⟨request, submitted, valid⟩
    · exact same ▸ asks.payloads before earlier
    · exact passes request _ submitted valid

theorem AsksFor.run (asks : world.AsksFor ours holds) {events : List Event}
    (passes : ∀ request payload, .submit request ∈ events → request.check = .ok payload →
      ours payload) : (world.run service events).AsksFor ours holds := by
  induction events generalizing world with
  | nil => exact asks
  | cons event events ih =>
      refine ih (asks.occur keeps ?_) fun request payload listed =>
        passes request payload (List.mem_cons_of_mem _ listed)
      rintro request payload rfl
      exact passes request payload List.mem_cons_self

theorem AsksFor.halt (asks : world.AsksFor ours holds) : world.halt.AsksFor ours holds := by
  have halted : (world.occur service .stopPolling).AsksFor ours holds :=
    asks.occur keeps (by rintro _ _ ⟨⟩)
  exact halted

theorem AsksFor.download (asks : world.AsksFor ours holds) (jobId : String) :
    (world.download service jobId).1.AsksFor ours holds := by
  have fetched : (world.occur service (.download jobId)).AsksFor ours holds :=
    asks.occur keeps (by rintro _ _ ⟨⟩)
  exact fetched

theorem AsksFor.claim {request : ReportRequest} {next : World σ} (asks : world.AsksFor ours holds)
    (passes : ∀ payload, request.check = .ok payload → ours payload)
    (claimed : world.claim request = .ok next) : next.AsksFor ours holds := by
  have occurs : world.occur service (.submit request) = next := by
    simp only [World.occur, claimed]
  have accepted : (world.occur service (.submit request)).AsksFor ours holds := by
    refine asks.occur keeps ?_
    rintro _ payload ⟨⟩
    exact passes payload
  rwa [occurs] at accepted

end World

end AuditReports
