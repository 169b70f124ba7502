import AuditReports.Proofs.Controller.Ownership

/-!
# What a snapshot shows in each phase

Every change of a snapshot overwrites some of its fields and counts on what the phase before has
left in the others. So the fields fit the phase only because each change comes in the phase that it
is meant for: the answer to a create call while the controller waits for a job, and an answer about
a job while it polls. That they come at no other time follows from the coherence of the world.

An answer about a job that is failed, or completed and ready, ends the polling. Whatever else ends
it, the job that is still shown then is not ready, so a report can be downloaded in the phase
`completed` and in no other, as long as the service does not say so of a job that goes on.
-/

namespace AuditReports

namespace Job

/-- The job is completed, and its report can be downloaded. -/
def IsReady (job : Job) : Prop :=
  job.status = .completed ∧ job.downloadReady = true

end Job

namespace Snapshot

/-- The snapshots that can be seen, one form for each phase. A download may have left any error and
any last download in each of them. -/
inductive WellFormed : Snapshot → Prop where
  | idle (address error : Option String) (lastDownload : Option CompletedDownload) :
      WellFormed ⟨.idle, none, address, none, none, none, error, lastDownload⟩
  | submitting (address progress : String) (error : Option String)
      (lastDownload : Option CompletedDownload) :
      WellFormed ⟨.submitting, none, some address, none, some progress, none, error, lastDownload⟩
  | polling (jobId address progress : String) (job : Option Job) (error : Option String)
      (lastDownload : Option CompletedDownload)
      (goesOn : ∀ shown, job = some shown → outcome shown = .goOn) :
      WellFormed
        ⟨.polling, some jobId, some address, job, some progress, none, error, lastDownload⟩
  | completed (jobId address : String) (job : Job) (error : Option String)
      (lastDownload : Option CompletedDownload) (ready : job.IsReady) :
      WellFormed
        ⟨.completed, some jobId, some address, some job, none, some completionNotice, error,
          lastDownload⟩
  | failed (jobId address : String) (job : Option Job) (error : Option String)
      (lastDownload : Option CompletedDownload)
      (unready : ∀ shown, job = some shown → ¬shown.IsReady) :
      WellFormed ⟨.failed, some jobId, some address, job, none, none, error, lastDownload⟩

theorem outcome_eq_goOn_iff {job : Job} :
    outcome job = .goOn ↔ job.status ≠ .failed ∧ ¬job.IsReady := by
  cases status : job.status with
  | completed => cases ready : job.downloadReady <;> simp [outcome, Job.IsReady, status, ready]
  | _ => simp [outcome, Job.IsReady, status]

theorem wellFormed_initial : initial.WellFormed :=
  .idle none none none

theorem wellFormed_submitting (address : String) : (submitting address).WellFormed :=
  .submitting address queuedProgress none none

namespace WellFormed

variable {snapshot : Snapshot}

/-- A download may come in every phase. -/
theorem afterAnyDownload (wellFormed : snapshot.WellFormed) (error : Option String)
    (lastDownload : Option CompletedDownload) :
    { snapshot with error := error, lastDownload := lastDownload }.WellFormed := by
  cases wellFormed with
  | idle address => exact .idle address error lastDownload
  | submitting address progress => exact .submitting address progress error lastDownload
  | polling jobId address progress job _ _ goesOn =>
      exact .polling jobId address progress job error lastDownload goesOn
  | completed jobId address job _ _ ready =>
      exact .completed jobId address job error lastDownload ready
  | failed jobId address job _ _ unready =>
      exact .failed jobId address job error lastDownload unready

theorem afterCreate (wellFormed : snapshot.WellFormed) (waiting : snapshot.phase = .submitting)
    (answer : Except CallError String) : (snapshot.afterCreate answer).WellFormed := by
  cases wellFormed with
  | submitting address progress error lastDownload =>
      cases answer with
      | error failure => exact .idle (some address) (some failure.message) lastDownload
      | ok jobId =>
          exact .polling jobId address progress none error lastDownload (by simp)
  | _ => cases waiting

/-- Polling that ends without a report leaves the last job that was shown, which goes on. -/
theorem givenUp (wellFormed : snapshot.WellFormed) (polling : snapshot.phase = .polling)
    (message : String) : (snapshot.givenUp message).WellFormed := by
  cases wellFormed with
  | polling jobId address progress job error lastDownload goesOn =>
      exact .failed jobId address job (some message) lastDownload
        fun shown same => (outcome_eq_goOn_iff.mp (goesOn shown same)).2
  | _ => cases polling

theorem reading {job : Job} {next : Snapshot} {verdict : Verdict}
    (wellFormed : snapshot.WellFormed) (polling : snapshot.phase = .polling)
    (reading : snapshot.Reading job next verdict) :
    next.WellFormed ∧ (verdict = .goOn → next.phase = .polling) := by
  cases wellFormed with
  | polling jobId address progress before error lastDownload goesOn =>
      cases reading with
      | failed status =>
          refine ⟨.failed jobId address (some job) _ lastDownload ?_, by simp⟩
          intro shown same
          rcases Option.some.inj same with rfl
          simp [Job.IsReady, status]
      | ready status downloadReady =>
          exact ⟨.completed jobId address job error none ⟨status, downloadReady⟩, by simp⟩
      | progress status notReady =>
          refine ⟨.polling jobId address job.progress (some job) error lastDownload ?_,
            fun _ => rfl⟩
          intro shown same
          rcases Option.some.inj same with rfl
          refine outcome_eq_goOn_iff.mpr ⟨status, ?_⟩
          rintro ⟨completed, ready⟩
          simp [notReady completed] at ready
  | _ => cases polling

/-- If the service says of completed jobs only that they are ready, then the report can be
downloaded exactly in the phase `completed`. -/
theorem downloadReady_iff (wellFormed : snapshot.WellFormed)
    (honest : ∀ job, snapshot.job = some job → job.downloadReady = true → job.status = .completed) :
    snapshot.downloadReady = true ↔ snapshot.phase = .completed := by
  have ready_of_shown : snapshot.downloadReady = true →
      ∃ job, snapshot.job = some job ∧ job.IsReady := by
    intro downloadReady
    rcases (Option.any_eq_true _ _).mp downloadReady with ⟨job, shown, ready⟩
    exact ⟨job, shown, honest job shown ready, ready⟩
  constructor
  · intro downloadReady
    rcases ready_of_shown downloadReady with ⟨job, shown, ready⟩
    cases wellFormed with
    | idle => cases shown
    | submitting => cases shown
    | polling _ _ _ _ _ _ goesOn => exact absurd ready (outcome_eq_goOn_iff.mp (goesOn job shown)).2
    | completed => rfl
    | failed _ _ _ _ _ unready => exact absurd ready (unready job shown)
  · intro completed
    cases wellFormed with
    | completed _ _ job _ _ ready => simpa [downloadReady] using ready.2
    | _ => cases completed

end WellFormed

end Snapshot

namespace World

variable {σ : Type} (service : ReportService σ)

theorem Receipt.wellFormed {world : World σ} {deadline : Option Nat}
    {answer : Except CallError Job} {snapshot : Snapshot} {verdict : Verdict}
    (receipt : world.Receipt deadline answer snapshot verdict)
    (wellFormed : world.snapshot.WellFormed) (polling : world.snapshot.phase = .polling) :
    snapshot.WellFormed := by
  cases receipt with
  | lost error => exact wellFormed.givenUp polling error.message
  | ended reading => exact (wellFormed.reading polling reading).1
  | overdue reading _ =>
      have read := wellFormed.reading polling reading
      exact read.1.givenUp (read.2 rfl) _
  | inTime reading _ => exact (wellFormed.reading polling reading).1

/-- An answer is folded into the snapshot only in the phase that it is meant for. -/
theorem wellFormed_occur {world : World σ} (coherent : world.Coherent)
    (wellFormed : world.snapshot.WellFormed) (event : Event) :
    (world.occur service event).snapshot.WellFormed := by
  have transition := transition_occur service world event
  generalize world.occur service event = next at transition ⊢
  cases transition with
  | idle _ => exact wellFormed
  | @receiveCreate index submission found creating =>
      rw [receiveCreate_snapshot]
      split
      · exact wellFormed
      · rename_i held
        have told := (coherent.told index submission found (by simpa using held)).creating creating
        exact wellFormed.afterCreate told.1 _
  | askStatus _ _ _ _ => exact wellFormed
  | @receiveStatus index submission pollLoop next found started asking =>
      rw [receiveStatus_snapshot]
      split
      · exact wellFormed
      · rename_i held
        have running : pollLoop.isFinished = false := by simp [PollLoop.isFinished, asking]
        have told := (coherent.told index submission found (by simpa using held)).polling pollLoop
          started running
        exact (world.receipt pollLoop.deadline _).wellFormed wellFormed told.1
  | leave _ _ _ => exact wellFormed
  | pass span => exact wellFormed
  | reject _ => exact wellFormed
  | @accept _ payload _ _ => exact Snapshot.wellFormed_submitting payload.address
  | halt =>
      rw [halt_snapshot]
      split
      · exact Snapshot.wellFormed_initial
      · exact wellFormed
  | clear => exact Snapshot.wellFormed_initial
  | download jobId =>
      rcases download_snapshot service world jobId with ⟨error, lastDownload, snapshot⟩
      rw [snapshot]
      exact wellFormed.afterAnyDownload error lastDownload
  | allow count => exact wellFormed
  | abandonCall index =>
      rcases world.abandonCall_snapshot index with same | emptied
      · rwa [same]
      · rw [emptied]
        exact Snapshot.wellFormed_initial
  | shut =>
      rcases world.shut_snapshot with same | emptied
      · rwa [same]
      · rw [emptied]
        exact Snapshot.wellFormed_initial

/-! ## Where a job comes from -/

/-- The service has told of the job in an answer to a status request. -/
def HasTold (world : World σ) (job : Job) : Prop :=
  ∃ entry ∈ world.chronicle, ∃ jobId, entry.exchange = .statusAnswered jobId (.ok job)

/-- What has passed between the controller and the service is never forgotten. -/
theorem mem_chronicle_occur {world : World σ} {entry : Entry} (listed : entry ∈ world.chronicle)
    (event : Event) : entry ∈ (world.occur service event).chronicle := by
  have transition := transition_occur service world event
  generalize world.occur service event = next at transition ⊢
  cases transition with
  | receiveCreate _ _ =>
      rw [receiveCreate_chronicle]
      exact Array.mem_push_of_mem _ listed
  | askStatus _ _ _ _ => exact Array.mem_push_of_mem _ listed
  | receiveStatus _ _ _ =>
      rw [receiveStatus_chronicle]
      exact Array.mem_push_of_mem _ listed
  | accept _ _ =>
      apply Array.mem_push_of_mem
      exact (emptySlot_surroundings world).chronicle ▸ listed
  | halt => exact (halt_surroundings world).chronicle ▸ listed
  | clear => exact (emptySlot_surroundings world).chronicle ▸ listed
  | download jobId =>
      rw [download_chronicle]
      exact Array.mem_push_of_mem _ (Array.mem_push_of_mem _ listed)
  | abandonCall index => exact (abandonCall_surroundings world index).chronicle ▸ listed
  | shut => exact (shut_surroundings world).chronicle ▸ listed
  | _ => exact listed

/-- The job that is shown comes from the service. -/
def ShowsToldJob (world : World σ) : Prop :=
  ∀ job, world.snapshot.job = some job → world.HasTold job

theorem ShowsToldJob.of_snapshot {before after : World σ} (told : before.ShowsToldJob)
    (listed : ∀ entry ∈ before.chronicle, entry ∈ after.chronicle)
    (job : after.snapshot.job = before.snapshot.job ∨ after.snapshot.job = none) :
    after.ShowsToldJob := by
  intro shown same
  rcases job with kept | nothing
  · rcases told shown (kept.symm.trans same) with ⟨entry, earlier, jobId, exchange⟩
    exact ⟨entry, listed entry earlier, jobId, exchange⟩
  · simp [nothing] at same

theorem ShowsToldJob.occur {world : World σ} (told : world.ShowsToldJob) (event : Event) :
    (world.occur service event).ShowsToldJob := by
  have listed : ∀ entry ∈ world.chronicle, entry ∈ (world.occur service event).chronicle :=
    fun _ earlier => mem_chronicle_occur service earlier event
  have transition := transition_occur service world event
  generalize world.occur service event = next at transition listed ⊢
  cases transition with
  | receiveCreate _ _ =>
      refine told.of_snapshot listed ?_
      rw [receiveCreate_snapshot]
      split
      · exact Or.inl rfl
      · cases (service.create _ world.service).1 with
        | error error => exact Or.inr rfl
        | ok jobId => exact Or.inl rfl
  | @receiveStatus index submission pollLoop due _ _ _ =>
      have receipt := world.receipt pollLoop.deadline
        (service.status pollLoop.jobId world.service).1
      cases answer : (service.status pollLoop.jobId world.service).1 with
      | error error =>
          refine told.of_snapshot listed (Or.inl ?_)
          rw [receiveStatus_snapshot, answer]
          split <;> rfl
      | ok job =>
          cases held : submission.cancelled with
          | true =>
              refine told.of_snapshot listed (Or.inl ?_)
              rw [receiveStatus_snapshot, if_pos held]
          | false =>
              intro shown same
              simp only [receiveStatus_snapshot, held, Bool.false_eq_true, if_false, answer]
                at same
              rw [answer] at receipt
              rcases Option.some.inj (receipt.job.symm.trans same) with rfl
              refine ⟨⟨world.now, some index, .statusAnswered pollLoop.jobId (.ok job)⟩, ?_,
                pollLoop.jobId, rfl⟩
              rw [receiveStatus_chronicle, answer]
              exact Array.mem_push_self
  | accept _ _ => exact told.of_snapshot listed (Or.inr rfl)
  | halt =>
      refine told.of_snapshot listed ?_
      rw [halt_snapshot]
      split
      · exact Or.inr rfl
      · exact Or.inl rfl
  | clear => exact told.of_snapshot listed (Or.inr rfl)
  | download jobId =>
      refine told.of_snapshot listed (Or.inl ?_)
      rcases download_snapshot service world jobId with ⟨error, lastDownload, snapshot⟩
      rw [snapshot]
  | abandonCall index =>
      refine told.of_snapshot listed ?_
      rcases world.abandonCall_snapshot index with same | emptied
      · exact Or.inl (congrArg Snapshot.job same)
      · exact Or.inr (congrArg Snapshot.job emptied)
  | shut =>
      refine told.of_snapshot listed ?_
      rcases world.shut_snapshot with same | emptied
      · exact Or.inl (congrArg Snapshot.job same)
      · exact Or.inr (congrArg Snapshot.job emptied)
  | _ => exact told.of_snapshot listed (Or.inl rfl)

/-! ## Main result -/

variable (policy : Policy) (createDelay : Nat) (gate : Option Nat) (state : σ)

theorem wellFormed_run (events : List Event) :
    ((start policy createDelay gate state).run service events).snapshot.WellFormed ∧
      ((start policy createDelay gate state).run service events).ShowsToldJob := by
  refine (run_invariant service (fun world => world.Coherent ∧ world.snapshot.WellFormed ∧
    world.ShowsToldJob) ?_ _ events ?_).2
  · rintro world event ⟨coherent, wellFormed, told⟩
    exact ⟨coherent.occur service event, wellFormed_occur service coherent wellFormed event,
      told.occur service event⟩
  · refine ⟨coherent_start policy createDelay gate state, Snapshot.wellFormed_initial, ?_⟩
    intro job shown
    cases shown

/-- In whatever order things happen, the fields of the snapshot fit its phase. An idle controller
shows nothing of a job, and one that waits for a job shows only the address. While a job is polled
the snapshot names it, and a job that is shown goes on; after that, either the report is ready or
the polling has failed. There is progress to tell exactly while a job is created or polled. And if
the service has called only completed jobs ready, the report can be downloaded exactly in the phase
`completed`. -/
theorem snapshot_fits_phase (events : List Event) :
    let world := (start policy createDelay gate state).run service events
    let snapshot := world.snapshot
    (snapshot.phase = .idle →
      snapshot.jobId = none ∧ snapshot.job = none ∧ snapshot.progress = none ∧
        snapshot.notice = none) ∧
    (snapshot.phase = .submitting →
      snapshot.jobId = none ∧ snapshot.job = none ∧ snapshot.notice = none ∧
        ∃ address, snapshot.address = some address) ∧
    (snapshot.phase = .polling →
      (∃ jobId, snapshot.jobId = some jobId) ∧ (∃ address, snapshot.address = some address) ∧
        snapshot.notice = none ∧
        ∀ job, snapshot.job = some job →
          job.status ≠ .failed ∧ ¬(job.status = .completed ∧ job.downloadReady = true)) ∧
    (snapshot.phase = .completed →
      (∃ jobId, snapshot.jobId = some jobId) ∧ (∃ address, snapshot.address = some address) ∧
        (∃ job, snapshot.job = some job ∧ job.status = .completed ∧ job.downloadReady = true) ∧
        snapshot.notice = some "Report ready for download.") ∧
    (snapshot.phase = .failed →
      (∃ jobId, snapshot.jobId = some jobId) ∧ (∃ address, snapshot.address = some address) ∧
        snapshot.notice = none) ∧
    ((∃ progress, snapshot.progress = some progress) ↔
      snapshot.phase = .submitting ∨ snapshot.phase = .polling) ∧
    ((∀ job, world.HasTold job → job.downloadReady = true → job.status = .completed) →
      (snapshot.downloadReady = true ↔ snapshot.phase = .completed)) := by
  intro world snapshot
  rcases wellFormed_run service policy createDelay gate state events with ⟨wellFormed, told⟩
  change snapshot.WellFormed at wellFormed
  have ready : (∀ job, world.HasTold job → job.downloadReady = true → job.status = .completed) →
      (snapshot.downloadReady = true ↔ snapshot.phase = .completed) :=
    fun honest => wellFormed.downloadReady_iff fun job shown => honest job (told job shown)
  clear_value snapshot
  refine ⟨?_, ?_, ?_, ?_, ?_, ?_, ready⟩
  · intro idle
    cases wellFormed with
    | idle => exact ⟨rfl, rfl, rfl, rfl⟩
    | _ => cases idle
  · intro submitting
    cases wellFormed with
    | submitting address => exact ⟨rfl, rfl, rfl, address, rfl⟩
    | _ => cases submitting
  · intro polling
    cases wellFormed with
    | polling jobId address _ _ _ _ goesOn =>
        exact ⟨⟨jobId, rfl⟩, ⟨address, rfl⟩, rfl,
          fun job shown => Snapshot.outcome_eq_goOn_iff.mp (goesOn job shown)⟩
    | _ => cases polling
  · intro completed
    cases wellFormed with
    | completed jobId address job _ _ delivered =>
        exact ⟨⟨jobId, rfl⟩, ⟨address, rfl⟩, ⟨job, rfl, delivered⟩, rfl⟩
    | _ => cases completed
  · intro failed
    cases wellFormed with
    | failed jobId address => exact ⟨⟨jobId, rfl⟩, ⟨address, rfl⟩, rfl⟩
    | _ => cases failed
  · cases wellFormed <;> simp

/-- A job that is completed and ready when it is first asked for. -/
def readyScript : Script where
  creates := [.ok "first"]
  statuses := [.ok { Job.bare "" .completed with downloadReady := true }]
  downloads := []

/-- A download fails after the job is ready, and the report can still be downloaded. -/
theorem snapshot_fits_phase_of_readyScript :
    let world := (start ⟨5000, none⟩ 0 none readyScript).run Script.service
      [.submit sampleRequest, .act 0 .receiveCreate, .act 0 .askStatus, .act 0 .receiveStatus,
        .download "first"]
    (∀ job, world.HasTold job → job.downloadReady = true → job.status = .completed) ∧
      world.snapshot.downloadReady = true ∧
      world.snapshot.notice = some "Report ready for download." ∧
      world.snapshot.error = some "Network error: no scripted download response" := by
  intro world
  have fits := snapshot_fits_phase Script.service ⟨5000, none⟩ 0 none readyScript
    [.submit sampleRequest, .act 0 .receiveCreate, .act 0 .askStatus, .act 0 .receiveStatus,
      .download "first"]
  have completed : world.snapshot.phase = .completed := rfl
  have honest : ∀ job, world.HasTold job → job.downloadReady = true → job.status = .completed := by
    rintro job ⟨entry, listed, jobId, exchange⟩ _
    have entries : world.chronicle.toList.all (fun entry =>
        match entry.exchange with
        | .statusAnswered _ (.ok job) => job.status == .completed
        | _ => true) = true := rfl
    have fitting := List.all_eq_true.mp entries entry (Array.mem_toList_iff.mpr listed)
    simpa [exchange] using fitting
  rcases fits.2.2.2.1 completed with ⟨_, _, _, notice⟩
  exact ⟨honest, (fits.2.2.2.2.2.2 honest).mpr completed, notice, rfl⟩

end World

end AuditReports
