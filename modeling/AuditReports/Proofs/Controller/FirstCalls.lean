import AuditReports.Proofs.Controller.Diary
import AuditReports.Proofs.Controller.Entries
import AuditReports.Proofs.Settings

/-!
# The first status call

Settings that are accepted have an interval, so only a limit can keep a loop from working: one that
lies beyond what the clock can tell. Nobody looks for that when the settings are read. A loop with
such a limit ends before its first call, the call that made the submission returns its job all the
same, and the phase stays `polling`.

The proof follows a submission by its entries in the chronicle. They show how far it has come, as
long as nobody cancels it: it waits for its job, or it has none, or the first tick of its loop is
due, or its loop has made a call, or its loop was stillborn. In a settled world no tick is due.
-/

namespace AuditReports

/-! ## How far a submission has come -/

/-- How far a loop has come that was started at the time `time`. -/
inductive PollLoop.Begins (policy : Policy) (now time : Nat) (entries : List Entry)
    (pollLoop : PollLoop) : Prop where
  /-- Its first tick is due. -/
  | due {tick : Nat} (canPoll : policy.canPoll time = true)
      (waiting : pollLoop.state = .waiting tick) (reached : tick ≤ now)
      (quiet : ∀ entry ∈ entries, entry.exchange.asksStatus = false)
  | called {entry : Entry} (canPoll : policy.canPoll time = true) (listed : entry ∈ entries)
      (asks : entry.exchange = .statusAsked pollLoop.jobId)
  | stillborn (cannotPoll : policy.canPoll time = false) (finished : pollLoop.state = .finished)
      (quiet : ∀ entry ∈ entries, entry.exchange.asksStatus = false)

/-- Nothing has passed but requests for a job. -/
def Unanswered (entries : List Entry) : Prop :=
  ∀ entry ∈ entries, ∃ payload, entry.exchange = .createAsked payload

theorem Unanswered.quiet {entries : List Entry} (unanswered : Unanswered entries) {entry : Entry}
    (listed : entry ∈ entries) : entry.exchange.asksStatus = false := by
  rcases unanswered entry listed with ⟨payload, asked⟩
  rw [asked]
  rfl

theorem Unanswered.ne {entries : List Entry} (unanswered : Unanswered entries) {entry : Entry}
    (listed : entry ∈ entries) (answer : Except CallError String) :
    entry.exchange ≠ .createAnswered answer := by
  rcases unanswered entry listed with ⟨payload, asked⟩
  simp [asked]

/-- How far a submission has come that has not been cancelled, by what has passed for it. -/
inductive Attended (policy : Policy) (now : Nat) (entries : List Entry) (submission : Submission) :
    Prop where
  | waiting (creating : submission.stage.isCreating = true) (loopless : submission.pollLoop = none)
      (unanswered : Unanswered entries)
  /-- Its create call has brought no job, or was given up. -/
  | refused (created : submission.stage.isCreating = false) (loopless : submission.pollLoop = none)
      (refused : ∀ entry ∈ entries, ∀ jobId, entry.exchange ≠ .createAnswered (.ok jobId))
  | polled {pollLoop : PollLoop} {time : Nat} (created : submission.stage.isCreating = false)
      (started : submission.pollLoop = some pollLoop)
      (answered : ∀ entry ∈ entries, ∀ jobId, entry.exchange = .createAnswered (.ok jobId) →
        entry.time = time ∧ jobId = pollLoop.jobId)
      (begins : pollLoop.Begins policy now time entries)

namespace PollLoop.Begins

variable {policy : Policy} {now time : Nat} {entries : List Entry} {pollLoop : PollLoop}

theorem later (begins : pollLoop.Begins policy now time entries) {later : Nat} (le : now ≤ later) :
    pollLoop.Begins policy later time entries := by
  cases begins with
  | due canPoll waiting reached quiet =>
      exact .due canPoll waiting (Nat.le_trans reached le) quiet
  | called canPoll listed asks => exact .called canPoll listed asks
  | stillborn cannotPoll finished quiet => exact .stillborn cannotPoll finished quiet

theorem canPoll_of_running (begins : pollLoop.Begins policy now time entries)
    (running : pollLoop.isFinished = false) : policy.canPoll time = true := by
  cases begins with
  | due canPoll _ _ _ => exact canPoll
  | called canPoll _ _ => exact canPoll
  | stillborn _ finished _ => simp [isFinished, finished] at running

theorem exists_call_of_asking (begins : pollLoop.Begins policy now time entries) {next : Nat}
    (asking : pollLoop.state = .asking next) :
    ∃ entry ∈ entries, entry.exchange = .statusAsked pollLoop.jobId := by
  cases begins with
  | due _ waiting _ _ => cases asking.symm.trans waiting
  | called _ listed asks => exact ⟨_, listed, asks⟩
  | stillborn _ finished _ => cases asking.symm.trans finished

end PollLoop.Begins

namespace Attended

variable {policy : Policy} {now : Nat} {entries : List Entry} {before after : Submission}

theorem later (attended : Attended policy now entries before) {later : Nat} (le : now ≤ later) :
    Attended policy later entries before := by
  cases attended with
  | waiting creating loopless unanswered => exact .waiting creating loopless unanswered
  | refused created loopless refused => exact .refused created loopless refused
  | polled created started answered begins =>
      exact .polled created started answered (begins.later le)

theorem withdraw (attended : Attended policy now entries before)
    (withdrawn : before.Withdrawn after) : Attended policy now entries after := by
  cases attended with
  | waiting creating loopless unanswered =>
      have loopless := withdrawn.pollLoop.trans loopless
      rcases withdrawn.stage with same | ⟨_, abandoned⟩
      · exact .waiting (same ▸ creating) loopless unanswered
      · exact .refused (by simp [abandoned, Stage.isCreating]) loopless
          fun entry listed jobId => unanswered.ne listed (.ok jobId)
  | refused created loopless refused =>
      exact .refused (withdrawn.isCreating_eq_false created) (withdrawn.pollLoop.trans loopless)
        refused
  | polled created started answered begins =>
      exact .polled (withdrawn.isCreating_eq_false created) (withdrawn.pollLoop.trans started)
        answered begins

theorem answer (attended : Attended policy now entries before)
    (creating : before.stage.isCreating = true) {answer : Except CallError String}
    (creation : World.Creation policy now before answer after) (held : after.cancelled = false)
    (index : Nat) :
    Attended policy now (entries ++ [⟨now, some index, .createAnswered answer⟩]) after := by
  cases attended with
  | refused created _ _ => cases created.symm.trans creating
  | polled created _ _ _ => cases created.symm.trans creating
  | waiting _ loopless unanswered =>
      -- The answer is the first one, so whatever was answered was answered just now.
      have only : ∀ entry ∈ entries ++ [⟨now, some index, .createAnswered answer⟩], ∀ jobId,
          entry.exchange = .createAnswered (.ok jobId) → entry.time = now ∧ answer = .ok jobId := by
        intro entry listed jobId answered
        rcases List.mem_append.mp listed with earlier | last
        · exact absurd answered (unanswered.ne earlier (.ok jobId))
        · rcases List.mem_singleton.mp last with rfl
          exact ⟨rfl, Exchange.createAnswered.inj answered⟩
      have quiet : ∀ entry ∈ entries ++ [⟨now, some index, .createAnswered answer⟩],
          entry.exchange.asksStatus = false := by
        intro entry listed
        rcases List.mem_append.mp listed with earlier | last
        · exact unanswered.quiet earlier
        · rcases List.mem_singleton.mp last with rfl
          rfl
      have named : ∀ jobId, answer = .ok jobId → ∀ entry ∈
          entries ++ [⟨now, some index, .createAnswered answer⟩], ∀ other,
            entry.exchange = .createAnswered (.ok other) → entry.time = now ∧ other = jobId := by
        intro jobId same entry listed other answered
        rcases only entry listed other answered with ⟨time, answer⟩
        exact ⟨time, Except.ok.inj (answer.symm.trans same)⟩
      cases creation with
      | refused error =>
          refine .refused rfl loopless ?_
          intro entry listed jobId answered
          cases (only entry listed jobId answered).2
      | unfollowed jobId cancelled => cases cancelled.symm.trans held
      | followed jobId _ canPoll =>
          exact .polled rfl rfl (named jobId rfl) (.due canPoll rfl (Nat.le_refl now) quiet)
      | stillborn jobId _ cannotPoll =>
          exact .polled rfl rfl (named jobId rfl) (.stillborn cannotPoll rfl quiet)

theorem proceed (attended : Attended policy now entries before) {pollLoop : PollLoop}
    (started : before.pollLoop = some pollLoop) (running : pollLoop.isFinished = false)
    {exchange : Exchange} {state : LoopState} (index : Nat)
    (called : ∃ entry ∈ entries ++ [⟨now, some index, exchange⟩],
      entry.exchange = .statusAsked pollLoop.jobId)
    (unrelated : ∀ jobId, exchange ≠ .createAnswered (.ok jobId))
    (created : after.stage.isCreating = before.stage.isCreating)
    (continued : after.pollLoop = some { pollLoop with state := state }) :
    Attended policy now (entries ++ [⟨now, some index, exchange⟩]) after := by
  cases attended with
  | waiting _ loopless _ => cases loopless.symm.trans started
  | refused _ loopless _ => cases loopless.symm.trans started
  | polled notCreating started' answered begins =>
      rcases Option.some.inj (started'.symm.trans started) with rfl
      rcases called with ⟨entry, listed, asks⟩
      refine .polled (created.trans notCreating) continued ?_
        (.called (begins.canPoll_of_running running) listed asks)
      intro entry listed jobId answer
      rcases List.mem_append.mp listed with earlier | last
      · exact answered entry earlier jobId answer
      · rcases List.mem_singleton.mp last with rfl
        exact absurd answer (unrelated jobId)

theorem exists_call_of_asking (attended : Attended policy now entries before)
    {pollLoop : PollLoop} (started : before.pollLoop = some pollLoop) {next : Nat}
    (asking : pollLoop.state = .asking next) :
    ∃ entry ∈ entries, entry.exchange = .statusAsked pollLoop.jobId := by
  cases attended with
  | waiting _ loopless _ => cases loopless.symm.trans started
  | refused _ loopless _ => cases loopless.symm.trans started
  | polled _ started' _ begins =>
      rcases Option.some.inj (started'.symm.trans started) with rfl
      exact begins.exists_call_of_asking asking

theorem turn (attended : Attended policy now entries before) {exchange : Option Exchange}
    (turn : before.Turn policy now exchange after) (held : after.cancelled = false) (index : Nat) :
    Attended policy now (entries ++ (exchange.map (⟨now, some index, ·⟩)).toList) after := by
  cases turn with
  | withdrawn withdrawn =>
      rw [Option.map_none, Option.toList_none, List.append_nil]
      exact attended.withdraw withdrawn
  | answered creating creation => exact attended.answer creating creation held index
  | asked started waiting next =>
      exact attended.proceed started (by simp [PollLoop.isFinished, waiting]) index
        ⟨_, List.mem_append_right _ (List.mem_singleton_self _), rfl⟩ (by simp) rfl
        (Submission.withLoopState_pollLoop (.asking next) started)
  | told started asking answer state =>
      rcases attended.exists_call_of_asking started asking with ⟨entry, listed, asks⟩
      exact attended.proceed started (by simp [PollLoop.isFinished, asking]) index
        ⟨entry, List.mem_append_left _ listed, asks⟩ (by simp)
        (World.proceed_isCreating before state) (World.proceed_pollLoop state started)
  | left cancelled => cases cancelled.symm.trans held

end Attended

namespace World

variable {σ : Type} (service : ReportService σ)

/-- What has passed for a submission shows how far it has come, unless it has been cancelled; and
nothing has passed for one that is still missing. -/
def Attends (world : World σ) (index : Nat) : Prop :=
  match world.submissions[index]? with
  | none => world.entriesOf index = []
  | some submission => submission.cancelled = false →
      Attended world.policy world.now (world.entriesOf index) submission

theorem Attends.attended {world : World σ} {index : Nat} {submission : Submission}
    (attends : world.Attends index) (found : world.submissions[index]? = some submission)
    (held : submission.cancelled = false) :
    Attended world.policy world.now (world.entriesOf index) submission := by
  unfold Attends at attends
  rw [found] at attends
  exact attends held

theorem attends_of_missing {world : World σ} {index : Nat}
    (missing : world.submissions[index]? = none) (blank : world.entriesOf index = [])
    (event : Event) : (world.occur service event).Attends index := by
  unfold Attends
  cases found : (world.occur service event).submissions[index]? with
  | none =>
      by_cases own : ∃ action, event = .act index action
      · rcases own with ⟨action, rfl⟩
        simpa [occur, missing] using blank
      · exact (entriesOf_occur_of_foreign service (fun action same => own ⟨action, same⟩)
          (Or.inr found)).trans blank
  | some submission =>
      intro _
      have newcomer := occur_newcomer service missing found
      refine .waiting newcomer.2.2 newcomer.1 ?_
      have beyond : world.submissions.length ≤ index := List.getElem?_eq_none_iff.mp missing
      have bound := (List.getElem?_eq_some_iff.mp found).1
      rcases length_occur_or_accepted service world event with same | ⟨payload, accepted, _⟩
      · omega
      · rw [accepted, length_accept] at bound
        rcases Nat.le_antisymm beyond (Nat.le_of_lt_succ bound) with rfl
        rw [accepted, entriesOf_push_own (accept_chronicle world payload), blank]
        simp [Unanswered]

theorem Attends.occur {world : World σ} {index : Nat} (attends : world.Attends index)
    (event : Event) : (world.occur service event).Attends index := by
  cases found : world.submissions[index]? with
  | none =>
      apply attends_of_missing service found
      unfold Attends at attends
      rwa [found] at attends
  | some before =>
      rcases turn_occur service found event with ⟨after, exchange, foundAfter, turn, entries⟩
      unfold Attends
      rw [foundAfter]
      intro held
      rw [entries, occur_policy]
      exact ((attends.attended found (turn.held held)).turn turn held index).later
        (le_occur_now service world event)

/-! ## What the snapshot says -/

/-- What another submission does of its own accord leaves the snapshot alone. -/
theorem Coherent.snapshot_occur_act {world : World σ} (coherent : world.Coherent) {index : Nat}
    {submission : Submission} (found : world.submissions[index]? = some submission)
    (held : submission.cancelled = false) {other : Nat} (different : other ≠ index)
    (action : Action) : (world.occur service (.act other action)).snapshot = world.snapshot := by
  cases foundOther : world.submissions[other]? with
  | none => simp [World.occur, foundOther]
  | some rival =>
      refine snapshot_occur_act_of_isCancelled service ⟨rival, foundOther, ?_⟩ action
      by_contra uncancelled
      exact different
        (coherent.eq_of_uncancelled foundOther found (by simpa using uncancelled) held)

/-- Whatever others do to a submission, the phase stays `polling` unless they cancel it. -/
theorem Coherent.phase_occur {world : World σ} (coherent : world.Coherent) {index : Nat}
    {before after : Submission} {event : Event} (foreign : ∀ action, event ≠ .act index action)
    (found : world.submissions[index]? = some before)
    (foundAfter : (world.occur service event).submissions[index]? = some after)
    (held : before.cancelled = false) (heldAfter : after.cancelled = false)
    (polling : world.snapshot.phase = .polling) :
    (world.occur service event).snapshot.phase = .polling := by
  have kept : ¬world.Revokes index event := by
    intro revokes
    rcases isCancelled_of_revokes service coherent found revokes with ⟨other, foundOther, cancelled⟩
    rcases Option.some.inj (foundAfter.symm.trans foundOther) with rfl
    cases cancelled.symm.trans heldAfter
  cases event with
  | act other action =>
      have different : other ≠ index := by
        rintro rfl
        exact foreign action rfl
      rw [coherent.snapshot_occur_act service found held different]
      exact polling
  | pass span => exact polling
  | submit request =>
      cases claimed : world.claim request with
      | error error => simpa [World.occur, claimed] using polling
      | ok next => exact absurd ⟨next, claimed⟩ kept
  | stopPolling => exact absurd trivial kept
  | reset => exact absurd trivial kept
  | download jobId =>
      rcases download_snapshot service world jobId with ⟨error, lastDownload, snapshot⟩
      change (world.download service jobId).1.snapshot.phase = .polling
      rw [snapshot]
      exact polling
  | permit count => exact polling
  | abandon other =>
      change (world.abandonCall other).snapshot.phase = .polling
      rw [abandonCall_snapshot_of_ne (by simp [polling])]
      exact polling
  | close => exact absurd trivial kept

/-- As long as no status call has been made for a job, and nobody has cancelled its submission, the
phase is `polling`. -/
def Announces (world : World σ) (index : Nat) : Prop :=
  ∀ submission pollLoop, world.submissions[index]? = some submission →
    submission.cancelled = false → submission.pollLoop = some pollLoop →
      world.statusCalls index = [] → world.snapshot.phase = .polling

theorem Announces.act {world : World σ} {index : Nat} (announces : world.Announces index)
    (coherent : world.Coherent) (attends : world.Attends index) (action : Action) :
    (world.occur service (.act index action)).Announces index := by
  intro after pollLoop foundAfter held started uncalled
  have transition := transition_act service world index action
  generalize world.occur service (.act index action) = next at transition foundAfter uncalled ⊢
  cases transition with
  | idle _ => exact announces after pollLoop foundAfter held started uncalled
  | @receiveCreate _ before found creating =>
      rw [receiveCreate_submissions, List.getElem?_modify_eq, found] at foundAfter
      rcases Option.some.inj foundAfter with rfl
      have creation := creation world.policy world.now
        (service.create before.payload world.service).1 before
      have answer := creation.answer_eq (coherent.loopless index before found creating) started
      rw [receiveCreate_snapshot, if_neg (by simp [← creation.cancelled, held]), answer]
      rfl
  | askStatus _ _ _ _ =>
      -- This is a status call.
      rw [statusCalls_eq_nil_iff, entriesOf_push_own rfl] at uncalled
      cases uncalled _ (List.mem_append_right _ (List.mem_singleton_self _))
  | @receiveStatus _ before loop _ found startedBefore asking =>
      -- An answer is owed only to a loop that has made a status call.
      rw [receiveStatus_submissions, List.getElem?_modify_eq, found] at foundAfter
      rcases Option.some.inj foundAfter with rfl
      rw [statusCalls_eq_nil_iff, entriesOf_push_own
        (receiveStatus_chronicle service world index before loop _)] at uncalled
      rcases (attends.attended found held).exists_call_of_asking startedBefore asking with
        ⟨entry, listed, asks⟩
      have quiet := uncalled entry (List.mem_append_left _ listed)
      rw [asks] at quiet
      cases quiet
  | @leave _ before found cancelled _ =>
      change (world.submissions.modify index _)[index]? = _ at foundAfter
      rw [List.getElem?_modify_eq, found] at foundAfter
      rcases Option.some.inj foundAfter with rfl
      cases cancelled.symm.trans held

theorem Announces.occur {world : World σ} {index : Nat} (announces : world.Announces index)
    (coherent : world.Coherent) (attends : world.Attends index) (event : Event) :
    (world.occur service event).Announces index := by
  by_cases own : ∃ action, event = .act index action
  · rcases own with ⟨action, rfl⟩
    exact announces.act service coherent attends action
  · have foreign : ∀ action, event ≠ .act index action := fun action same => own ⟨action, same⟩
    intro after pollLoop foundAfter heldAfter started uncalled
    cases found : world.submissions[index]? with
    | none => simp [(occur_newcomer service found foundAfter).1] at started
    | some before =>
        rcases occur_withdrawn service foreign found with ⟨other, foundOther, withdrawn⟩
        rcases Option.some.inj (foundAfter.symm.trans foundOther) with rfl
        have held : before.cancelled = false := withdrawn.held heldAfter
        rw [statusCalls_occur service (foreign .askStatus)] at uncalled
        exact coherent.phase_occur service foreign found foundAfter held heldAfter
          (announces before pollLoop found held (withdrawn.pollLoop ▸ started) uncalled)

/-! ## Every world that can be reached -/

/-- Every submission is where its entries show it to be, and the snapshot knows of it. -/
structure Tended (world : World σ) : Prop where
  coherent : world.Coherent
  attends : ∀ index, world.Attends index
  announces : ∀ index, world.Announces index

theorem tended_start (policy : Policy) (createDelay : Nat) (gate : Option Nat) (state : σ) :
    (start policy createDelay gate state).Tended where
  coherent := coherent_start policy createDelay gate state
  attends := by simp [Attends, start, entriesOf]
  announces := by simp [Announces, start]

theorem Tended.occur {world : World σ} (tended : world.Tended) (event : Event) :
    (world.occur service event).Tended where
  coherent := tended.coherent.occur service event
  attends index := (tended.attends index).occur service event
  announces index :=
    (tended.announces index).occur service tended.coherent (tended.attends index) event

theorem Tended.run {world : World σ} (tended : world.Tended) (events : List Event) :
    (world.run service events).Tended :=
  run_invariant service Tended (fun _ event tended => tended.occur service event) world events
    tended

/-- The service has been asked for the status of the job, for a submission. -/
def HasCalled (world : World σ) (index : Nat) (jobId : String) : Prop :=
  ∃ time, ⟨time, some index, .statusAsked jobId⟩ ∈ world.chronicle

theorem HasCalled.statusCalls_ne_nil {world : World σ} {index : Nat} {jobId : String}
    (called : world.HasCalled index jobId) : world.statusCalls index ≠ [] := by
  rcases called with ⟨time, listed⟩
  intro uncalled
  cases statusCalls_eq_nil_iff.mp uncalled _ (mem_entriesOf_iff.mpr ⟨listed, rfl⟩)

/-- In a settled world, a job that was created for a submission that nobody has cancelled has been
called for if its loop could work; and if not, nothing has been called for, and the phase is
`polling` all the same. -/
theorem Tended.called {world : World σ} (tended : world.Tended) (settled : world.Settled)
    {index time : Nat} {submission : Submission} {jobId : String}
    (found : world.submissions[index]? = some submission) (held : submission.cancelled = false)
    (created : ⟨time, some index, .createAnswered (.ok jobId)⟩ ∈ world.chronicle) :
    (world.policy.canPoll time = true ∧ world.HasCalled index jobId) ∨
      world.policy.canPoll time = false ∧ world.statusCalls index = [] ∧
        world.snapshot.phase = .polling ∧ world.polls = false := by
  have listed := mem_entriesOf_iff.mpr ⟨created, rfl⟩
  cases (tended.attends index).attended found held with
  | waiting _ _ unanswered => exact absurd rfl (unanswered.ne listed (.ok jobId))
  | refused _ _ refused => exact absurd rfl (refused _ listed jobId)
  | @polled pollLoop _ notCreating started answered begins =>
      rcases answered _ listed jobId rfl with ⟨rfl, rfl⟩
      cases begins with
      | @due tick _ waiting reached _ =>
          have rests := settled submission (List.mem_of_getElem? found)
          simp [Submission.action?_of_started _ _ notCreating started, waiting, held, reached]
            at rests
      | @called entry canPoll listed asks =>
          rcases mem_entriesOf_iff.mp listed with ⟨member, own⟩
          refine Or.inl ⟨canPoll, entry.time, ?_⟩
          rw [← own, ← asks]
          exact member
      | stillborn cannotPoll finished quiet =>
          have uncalled := statusCalls_eq_nil_iff.mpr quiet
          refine Or.inr ⟨cannotPoll, uncalled,
            tended.announces index submission pollLoop found held started uncalled, ?_⟩
          by_contra polls
          rcases tended.coherent.polls_iff.mp (by simpa using polls) with
            ⟨other, rival, foundRival, polling, heldRival⟩
          rcases tended.coherent.eq_of_uncancelled found foundRival held heldRival with rfl
          rcases Option.some.inj (found.symm.trans foundRival) with rfl
          simp [Submission.isPolling, started, PollLoop.isFinished, finished] at polling

end World

/-! ## Main result -/

namespace Settings

variable {σ : Type}

/-- The clock can tell the end of the limit of a loop that is started at the time `time`. -/
def InReach (settings : Settings) (time : Nat) : Prop :=
  ∀ limit, settings.pollTimeoutSecs = some limit → time / 1000 + limit ≤ Policy.lastSecond

theorem canPoll_policy_iff {environment : Environment} {settings : Settings}
    (accepted : ofEnvironment environment = .ok settings) (time : Nat) :
    settings.policy.canPoll time = true ↔ settings.InReach time := by
  have paced := interval_ne_zero (ofEnvironment_eq_ok_iff.mp accepted).1
  have seconds : ∀ limit, (time + 1000 * limit) / 1000 = time / 1000 + limit :=
    fun limit => Nat.add_mul_div_left time limit (by decide)
  simp [World.canPoll_iff, policy, InReach, paced, seconds]

/-- A job that was created for a submission that nobody has cancelled is called for, exactly if the
clock can tell the end of its limit. If not, no call is made for the submission at all, and no loop
runs, but the phase is `polling`. -/
def CallsInReach (settings : Settings) (world : World σ) : Prop :=
  ∀ (index time : Nat) (submission : Submission) (jobId : String),
    world.submissions[index]? = some submission → submission.cancelled = false →
      ⟨time, some index, .createAnswered (.ok jobId)⟩ ∈ world.chronicle →
        (world.HasCalled index jobId ↔ settings.InReach time) ∧
          (¬settings.InReach time → world.statusCalls index = [] ∧ world.polls = false ∧
            world.snapshot.phase = .polling)

/-- Accepted settings make a controller call for every job at least once, except that a limit which
the clock cannot tell kills the loop before its first call. That is so in every run, as soon as
nothing more can happen at the moment, and in a session after every step. -/
theorem calls_exactly_in_reach {environment : Environment} {settings : Settings}
    (accepted : ofEnvironment environment = .ok settings) (service : ReportService σ)
    (createDelay : Nat) (gate : Option Nat) (state : σ) :
    let initial := World.start settings.policy createDelay gate state
    (∀ events, (initial.run service events).Settled →
      settings.CallsInReach (initial.run service events)) ∧
    ∀ steps, settings.CallsInReach ((Session.start initial).after service steps).world := by
  intro initial
  have main : ∀ events, (initial.run service events).Settled →
      settings.CallsInReach (initial.run service events) := by
    intro events settled index time submission jobId found held created
    have policy : (initial.run service events).policy = settings.policy :=
      World.run_invariant service (fun world => world.policy = settings.policy)
        (fun world event same => (World.occur_policy service world event).trans same) initial
        events rfl
    have tended := (World.tended_start settings.policy createDelay gate state).run service events
    have called := tended.called settled found held created
    rw [policy, canPoll_policy_iff accepted, ← Bool.not_eq_true, canPoll_policy_iff accepted]
      at called
    rcases called with ⟨inReach, called⟩ | ⟨beyond, uncalled, polling, still⟩
    · exact ⟨⟨fun _ => inReach, fun _ => called⟩, fun beyond => absurd inReach beyond⟩
    · exact ⟨⟨fun called => absurd uncalled called.statusCalls_ne_nil,
        fun inReach => absurd inReach beyond⟩, fun _ => ⟨uncalled, still, polling⟩⟩
  refine ⟨main, ?_⟩
  intro steps
  have rest : (Session.start initial).world.AtRest :=
    Session.atRest_start settings.policy createDelay gate state
  have spec := Session.after_spec service rest steps
  rcases spec.2 with ⟨events, last, _⟩
  have settled := spec.1.settled
  rw [last] at settled ⊢
  exact main events settled

/-- A limit of so many seconds, and the defaults. -/
def limited (seconds : Nat) : Settings :=
  ⟨"http://localhost:8080", Mount.standardPath, Policy.standard.interval, some seconds⟩

/-- The first call is made as soon as the job exists, in a run and in a session, while the service
still owes its answer to it. -/
theorem calls_within_a_minute :
    let environment : Environment := ⟨some "http://localhost:8080", none, none, some "60"⟩
    let initial := World.start (limited 60).policy 0 (some 0) World.sampleScript
    let called := initial.run Script.service
      [.submit World.sampleRequest, .act 0 .receiveCreate, .act 0 .askStatus]
    let session := (Session.start initial).after Script.service [.submit World.sampleRequest]
    ofEnvironment environment = .ok (limited 60) ∧ (limited 60).InReach 0 ∧
      called.HasCalled 0 "first" ∧ session.world.HasCalled 0 "first" := by
  have accepted : ofEnvironment ⟨some "http://localhost:8080", none, none, some "60"⟩ =
      .ok (limited 60) := by decide +kernel
  have inReach : (limited 60).InReach 0 := by
    intro limit same
    rcases Option.some.inj same with rfl
    decide
  have main := calls_exactly_in_reach accepted Script.service 0 (some 0) World.sampleScript
  refine ⟨accepted, inReach, (main.1 _ ?_ 0 0 _ "first" rfl rfl ?_).1.mpr inReach,
    (main.2 _ 0 0 _ "first" rfl rfl ?_).1.mpr inReach⟩
  · intro submission listed
    rcases List.mem_singleton.mp listed with rfl
    rfl
  · exact Array.mem_of_getElem? (i := 1) rfl
  · exact Array.mem_of_getElem? (i := 1) rfl

/-- The largest limit is accepted. The job is created, the call returns it, and nobody cancels
anything; but however long one waits, no call is made, no loop runs, and the phase is `polling`. -/
theorem accepted_without_calls :
    let environment : Environment :=
      ⟨some "http://localhost:8080", none, none, some "18446744073709551615"⟩
    let created := (World.start (limited largest).policy 0 none World.sampleScript).run
      Script.service [.submit World.sampleRequest, .act 0 .receiveCreate]
    ofEnvironment environment = .ok (limited largest) ∧
      created.submissions.map Submission.cancelled = [false] ∧
      Session.result? created 0 = some (.ok "first") ∧
      ∀ span, (created.occur Script.service (.pass span)).Settled ∧
        (created.occur Script.service (.pass span)).statusCalls 0 = [] ∧
        (created.occur Script.service (.pass span)).polls = false ∧
        (created.occur Script.service (.pass span)).snapshot.phase = .polling := by
  refine ⟨by decide +kernel, rfl, rfl, fun span => ⟨?_, rfl, rfl, rfl⟩⟩
  intro submission listed
  rcases List.mem_singleton.mp listed with rfl
  rfl

end Settings

end AuditReports
