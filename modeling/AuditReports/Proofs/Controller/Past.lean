import AuditReports.Proofs.Controller.Lockstep

/-!
# The past of a controller

What is left of the past of a controller are its earlier submissions, the number of notifications
and the record of what has passed between it and the service. Once all of these submissions are
over, nothing depends on the past any more: every operation only counts on from there, and so a
controller does the same with a past as without one.
-/

namespace AuditReports

namespace Submission

/-- The submission has been cancelled, its call has ended, and so has its loop. -/
structure IsOver (submission : Submission) : Prop where
  cancelled : submission.cancelled = true
  ended : submission.stage.isPending = false
  stopped : submission.isPolling = false

theorem not_creating_of_ended {submission : Submission}
    (ended : submission.stage.isPending = false) : submission.stage.isCreating = false := by
  cases stage : submission.stage <;> simp [stage, Stage.isPending, Stage.isCreating] at ended ⊢

theorem finished_of_stopped {submission : Submission} (stopped : submission.isPolling = false)
    {pollLoop : PollLoop} (started : submission.pollLoop = some pollLoop) :
    pollLoop.state = .finished := by
  simpa [isPolling, started, PollLoop.isFinished] using stopped

theorem IsOver.action? {submission : Submission} (isOver : submission.IsOver) (now : Nat)
    (free : Bool) : submission.action? now free = none := by
  have created := not_creating_of_ended isOver.ended
  cases started : submission.pollLoop with
  | none => exact action?_of_loopless now free created started
  | some pollLoop =>
      rw [action?_of_started now free created started, finished_of_stopped isOver.stopped started]

theorem IsOver.wake? {submission : Submission} (isOver : submission.IsOver) :
    submission.wake? = none := by
  have created := not_creating_of_ended isOver.ended
  cases started : submission.pollLoop with
  | none => exact wake?_of_loopless created started
  | some pollLoop =>
      rw [wake?_of_started created started, finished_of_stopped isOver.stopped started]

theorem IsOver.work {submission : Submission} (isOver : submission.IsOver) (now : Nat) :
    submission.work now = 0 := by
  have created := not_creating_of_ended isOver.ended
  cases started : submission.pollLoop with
  | none =>
      cases stage : submission.stage <;>
        simp [Submission.work, stage, started, Stage.isCreating] at created ⊢
  | some pollLoop =>
      rw [work_of_started now created started, finished_of_stopped isOver.stopped started]

end Submission

namespace Entry

/-- The same entry, with the submissions counted on from `ahead`. -/
def countedOn (ahead : Nat) (entry : Entry) : Entry :=
  { entry with submission := entry.submission.map (ahead + ·) }

end Entry

/-- What is left of everything that a controller has done. -/
structure Past where
  submissions : List Submission
  notifications : Nat
  chronicle : Array Entry

namespace Past

def length (past : Past) : Nat :=
  past.submissions.length

def IsOver (past : Past) : Prop :=
  ∀ submission ∈ past.submissions, submission.IsOver

end Past

theorem modify_append_left {α : Type} {first : List α} (second : List α) {index : Nat}
    (within : index < first.length) (change : α → α) :
    (first ++ second).modify index change = first.modify index change ++ second := by
  induction first generalizing index with
  | nil => simp at within
  | cons head tail ih =>
      cases index with
      | zero => rfl
      | succ index => simpa using ih (by simpa using within)

theorem modify_append_right {α : Type} (first second : List α) (index : Nat) (change : α → α) :
    (first ++ second).modify (first.length + index) change =
      first ++ second.modify index change :=
  List.modifyTailIdx_add (List.modifyHead change) index first second

namespace World

variable {σ : Type}

/-! ## A world with a past -/

/-- The world counted on from a past. -/
def withPast (world : World σ) (past : Past) : World σ :=
  { world with
    notifications := past.notifications + world.notifications
    slot := world.slot.map (past.length + ·)
    submissions := past.submissions ++ world.submissions
    chronicle := past.chronicle ++ world.chronicle.map (·.countedOn past.length) }

section Operations

variable (world : World σ) (past : Past)

theorem length_withPast : (world.withPast past).submissions.length =
    past.length + world.submissions.length :=
  List.length_append

theorem getElem?_withPast (index : Nat) :
    (world.withPast past).submissions[past.length + index]? = world.submissions[index]? := by
  simp only [withPast, Past.length]
  rw [List.getElem?_append_right (Nat.le_add_right _ _), Nat.add_sub_cancel_left]

theorem getElem?_withPast_of_lt {index : Nat} (early : index < past.length) :
    (world.withPast past).submissions[index]? = past.submissions[index]? :=
  List.getElem?_append_left early

theorem withPast_update (index : Nat) (change : Submission → Submission) :
    (world.withPast past).update (past.length + index) change =
      (world.update index change).withPast past := by
  simp [update, withPast, Past.length, modify_append_right]

theorem withPast_publish (snapshot : Snapshot) :
    (world.withPast past).publish snapshot = (world.publish snapshot).withPast past := rfl

theorem withPast_record (submission : Option Nat) (exchange : Exchange) :
    (world.withPast past).record (submission.map (past.length + ·)) exchange =
      (world.record submission exchange).withPast past := by
  simp [record, withPast, Entry.countedOn]

theorem withPast_emptySlot :
    (world.withPast past).emptySlot = world.emptySlot.withPast past := by
  cases slot : world.slot with
  | none => simp [emptySlot, withPast, slot]
  | some index =>
      have cancelled := withPast_update world past index fun submission =>
        { submission with cancelled := true }
      have held : (world.withPast past).slot = some (past.length + index) := by
        simp [withPast, slot]
      simp only [emptySlot, slot, held, cancel, cancelled]
      rfl

theorem withPast_polls : (world.withPast past).polls = world.polls := by
  cases slot : world.slot with
  | none => simp [polls, withPast, slot]
  | some index =>
      have held : (world.withPast past).slot = some (past.length + index) := by
        simp [withPast, slot]
      simp only [polls, slot, held, Option.bind_some, getElem?_withPast]

/-! ### What a submission does of its own accord -/

variable (service : ReportService σ) (index : Nat) (submission : Submission)
  (pollLoop : PollLoop)

theorem withPast_receiveCreate :
    (world.withPast past).receiveCreate service (past.length + index) submission =
      (world.receiveCreate service index submission).withPast past := by
  rcases answered : service.create submission.payload world.service with ⟨answer, state⟩
  have recorded := withPast_record { world with service := state } past (some index)
    (.createAnswered answer)
  have updated := withPast_update
    ({ world with service := state }.record (some index) (.createAnswered answer)) past index
    (World.answered world.policy world.now answer)
  rw [← recorded] at updated
  have same : service.create submission.payload (world.withPast past).service =
      (answer, state) := answered
  simp only [receiveCreate, same, answered]
  cases submission.cancelled with
  | true => exact updated
  | false => exact congrArg (publish · (world.snapshot.afterCreate answer)) updated

theorem withPast_askStatus (due : Nat) :
    (world.withPast past).askStatus (past.length + index) pollLoop due =
      (world.askStatus index pollLoop due).withPast past := by
  rw [askStatus, askStatus, ← withPast_update, ← withPast_record]
  rfl

theorem withPast_leave :
    (world.withPast past).leave (past.length + index) = (world.leave index).withPast past :=
  withPast_update world past index _

theorem withPast_receiveStatus (next : Nat) :
    (world.withPast past).receiveStatus service (past.length + index) submission pollLoop next =
      (world.receiveStatus service index submission pollLoop next).withPast past := by
  rcases answered : service.status pollLoop.jobId world.service with ⟨answer, state⟩
  have same : service.status pollLoop.jobId (world.withPast past).service =
      (answer, state) := answered
  have recorded := withPast_record
    { world with service := state, gate := world.gate.map (· - 1) } past (some index)
    (.statusAnswered pollLoop.jobId answer)
  simp only [receiveStatus, same, answered]
  cases submission.cancelled with
  | true =>
      simp only [if_true, ← withPast_leave, ← recorded]
      rfl
  | false =>
      simp only [Bool.false_eq_true, if_false, ← withPast_update, ← withPast_publish, ← recorded]
      rfl

theorem withPast_perform (action : Action) :
    (world.withPast past).perform service (past.length + index) action =
      (world.perform service index action).withPast past := by
  simp only [perform, getElem?_withPast]
  cases world.submissions[index]? with
  | none => rfl
  | some submission =>
      dsimp only
      cases action with
      | receiveCreate => exact withPast_receiveCreate world past service index submission
      | leave => exact withPast_leave world past index
      | askStatus =>
          cases submission.pollLoop with
          | none => rfl
          | some pollLoop =>
              dsimp only
              cases pollLoop.state with
              | waiting due => exact withPast_askStatus world past index pollLoop due
              | _ => rfl
      | receiveStatus =>
          cases submission.pollLoop with
          | none => rfl
          | some pollLoop =>
              dsimp only
              cases pollLoop.state with
              | asking next =>
                  exact withPast_receiveStatus world past service index submission pollLoop next
              | _ => rfl

/-! ### What is done to the controller -/

theorem withPast_accept (payload : Payload) :
    (world.withPast past).accept payload = (world.accept payload).withPast past := by
  rw [accept, accept, withPast_emptySlot]
  generalize world.emptySlot = emptied
  simp only [length_withPast]
  rw [← withPast_record, ← withPast_publish]
  simp [withPast, List.append_assoc]

theorem withPast_clear : (world.withPast past).clear = world.clear.withPast past := by
  rw [clear, clear, withPast_emptySlot, withPast_publish]

theorem withPast_halt : (world.withPast past).halt = world.halt.withPast past := by
  simp only [halt, withPast_emptySlot]
  rw [apply_ite (withPast · past)]
  rfl

theorem withPast_download (jobId : String) :
    (world.withPast past).download service jobId =
      ((world.download service jobId).1.withPast past, (world.download service jobId).2) := by
  rcases answered : service.download jobId world.service with ⟨answer, state⟩
  have same : service.download jobId (world.withPast past).service = (answer, state) := answered
  have asked := withPast_record { world with service := state } past none (.downloadAsked jobId)
  have recorded := withPast_record
    ({ world with service := state }.record none (.downloadAsked jobId)) past none
    (.downloadAnswered jobId answer)
  rw [← asked] at recorded
  simp only [download, same, answered]
  cases answer with
  | error error =>
      simp only [← withPast_publish, ← recorded]
      rfl
  | ok download =>
      simp only [← withPast_publish, ← recorded]
      rfl

theorem withPast_abandonCall :
    (world.withPast past).abandonCall (past.length + index) =
      (world.abandonCall index).withPast past := by
  simp only [abandonCall, getElem?_withPast]
  cases world.submissions[index]? with
  | none => rfl
  | some submission =>
      dsimp only
      cases submission.stage with
      | creating answerAt =>
          simp only [cancel, withPast_update]
          rw [apply_ite (withPast · past)]
          rfl
      | firstPoll jobId => exact withPast_update world past index _
      | _ => rfl

theorem withPast_foldl_abandonCall (indices : List Nat) :
    (indices.map (past.length + ·)).foldl abandonCall (world.withPast past) =
      (indices.foldl abandonCall world).withPast past := by
  induction indices generalizing world with
  | nil => rfl
  | cons index indices ih =>
      rw [List.map_cons, List.foldl_cons, List.foldl_cons, withPast_abandonCall, ih]

end Operations

theorem firstAction?_add (now : Nat) (free : Bool) (ahead start : Nat)
    (submissions : List Submission) :
    firstAction? now free (ahead + start) submissions =
      (firstAction? now free start submissions).map fun next => (ahead + next.1, next.2) := by
  induction submissions generalizing start with
  | nil => rfl
  | cons submission submissions ih =>
      simp only [firstAction?]
      split
      · rfl
      · exact ih (start + 1)

theorem firstAction?_append {now : Nat} {free : Bool} {first : List Submission}
    (rests : ∀ submission ∈ first, submission.action? now free = none) (start : Nat)
    (second : List Submission) :
    firstAction? now free start (first ++ second) =
      firstAction? now free (start + first.length) second := by
  induction first generalizing start with
  | nil => rfl
  | cons submission first ih =>
      rw [List.cons_append, firstAction?, rests submission List.mem_cons_self]
      simp only
      rw [ih fun later listed => rests later (List.mem_cons_of_mem _ listed), List.length_cons,
        Nat.add_assoc, Nat.add_comm 1]

section Over

variable {past : Past} (isOver : past.IsOver) (world : World σ)

include isOver

/-- A call of the past cannot be given up any more. -/
theorem abandonCall_of_past {index : Nat} (early : index < past.length) :
    (world.withPast past).abandonCall index = world.withPast past := by
  have given := (world.withPast past).abandonment index
  have ended : ∀ submission, (world.withPast past).submissions[index]? = some submission →
      submission.stage.isPending = false := by
    intro submission found
    rw [getElem?_withPast_of_lt world past early] at found
    exact (isOver submission (List.mem_of_getElem? found)).ended
  generalize (world.withPast past).abandonCall index = next at given ⊢
  cases given with
  | settled _ => rfl
  | late found creating _ =>
      have created := Submission.not_creating_of_ended (ended _ found)
      simp [created] at creating
  | inCharge found creating _ _ =>
      have created := Submission.not_creating_of_ended (ended _ found)
      simp [created] at creating
  | firstPoll found pending _ => simp [ended _ found] at pending

theorem withPast_shut : (world.withPast past).shut = world.shut.withPast past := by
  have unchanged : ∀ indices : List Nat, (∀ index ∈ indices, index < past.length) →
      indices.foldl abandonCall (world.withPast past) = world.withPast past := by
    intro indices early
    induction indices with
    | nil => rfl
    | cons index indices ih =>
        rw [List.foldl_cons, abandonCall_of_past isOver world (early index List.mem_cons_self)]
        exact ih fun later listed => early later (List.mem_cons_of_mem _ listed)
  rw [shut, shut, length_withPast, List.range_add, List.foldl_append,
    unchanged _ fun _ listed => List.mem_range.mp listed, withPast_foldl_abandonCall,
    withPast_emptySlot]

theorem withPast_settled (settled : world.Settled) :
    (world.withPast past).Settled := by
  intro submission listed
  rcases List.mem_append.mp listed with earlier | later
  · exact (isOver submission earlier).action? _ _
  · exact settled submission later

theorem withPast_pendingWork : (world.withPast past).pendingWork = world.pendingWork := by
  have idle : ∀ submissions : List Submission, (∀ submission ∈ submissions, submission.IsOver) →
      submissions.foldr (fun submission rest => submission.work world.now + rest)
        world.pendingWork = world.pendingWork := by
    intro submissions allOver
    induction submissions with
    | nil => rfl
    | cons submission submissions ih =>
        rw [List.foldr_cons, ih fun later listed => allOver later (List.mem_cons_of_mem _ listed),
          (allOver submission List.mem_cons_self).work, Nat.zero_add]
  exact List.foldr_append.trans (idle past.submissions isOver)

theorem withPast_nextAction? :
    (world.withPast past).nextAction? =
      world.nextAction?.map fun next => (past.length + next.1, next.2) := by
  have skipped : ∀ submission ∈ past.submissions,
      submission.action? world.now world.isFree = none :=
    fun submission listed => (isOver submission listed).action? _ _
  calc (world.withPast past).nextAction?
      = firstAction? world.now world.isFree (0 + past.length) world.submissions :=
        firstAction?_append skipped 0 world.submissions
    _ = firstAction? world.now world.isFree (past.length + 0) world.submissions := by
        rw [Nat.add_comm]
    _ = _ := firstAction?_add world.now world.isFree past.length 0 world.submissions

theorem withPast_nextWake? : (world.withPast past).nextWake? = world.nextWake? := by
  have none : past.submissions.filterMap Submission.wake? = [] :=
    List.filterMap_eq_nil_iff.mpr fun submission listed => (isOver submission listed).wake?
  have wakes : (world.withPast past).submissions.filterMap Submission.wake? =
      world.submissions.filterMap Submission.wake? := by
    simp only [withPast, List.filterMap_append, none, List.nil_append]
  rw [nextWake?, nextWake?, wakes]

omit world in
/-- With its past behind it a controller does what it would do without. -/
theorem lockstep_withPast (service : ReportService σ) :
    Lockstep service past.length fun left right : World σ => left = right.withPast past where
  now := by
    rintro _ right rfl
    rfl
  pendingWork := by
    rintro _ right rfl
    exact withPast_pendingWork isOver right
  nextAction? := by
    rintro _ right rfl
    exact withPast_nextAction? isOver right
  nextWake? := by
    rintro _ right rfl
    exact withPast_nextWake? isOver right
  perform := by
    rintro _ right rfl index action
    exact withPast_perform right past service index action
  moveTo := by
    rintro _ right rfl moment
    rfl

theorem withPast_settle (service : ReportService σ) :
    settle service (world.withPast past) = (settle service world).withPast past :=
  (lockstep_withPast isOver service).settle rfl

end Over

theorem result?_withPast (past : Past) (world : World σ) (index : Nat) :
    Session.result? (world.withPast past) (past.length + index) =
      Session.result? world index := by
  simp only [Session.result?, getElem?_withPast]

theorem calls_withPast (past : Past) (world : World σ) :
    (world.withPast past).calls =
      (past.chronicle.toList.filter (·.exchange.isRequest)).map
        (fun entry => (entry.time, entry.exchange)) ++ world.calls := by
  simp only [calls, withPast, Array.toList_append, Array.toList_map, List.filter_append,
    List.map_append, List.filter_map, List.map_map]
  rfl

theorem askedBetween_withPast (past : Past) (before after : World σ) :
    Session.askedBetween (before.withPast past) (after.withPast past) =
      Session.askedBetween before after := by
  have later : (after.withPast past).chronicle.extract (before.withPast past).chronicle.size
      (after.withPast past).chronicle.size =
        (after.chronicle.extract before.chronicle.size after.chronicle.size).map
          (·.countedOn past.length) := by
    simp [withPast, Array.extract_append, Array.map_extract, Array.extract_eq_empty_of_le]
  simp only [Session.askedBetween, later, Array.toList_map, List.map_map]
  rfl

end World

/-! ## Sessions with a past -/

namespace Session

variable {σ : Type}

/-- The session on the left does what the one on the right does, but with a past behind it, in which
it gave away the numbers of `old`. On the right nothing was submitted under these numbers. -/
structure Continues (past : Past) (old : List (Option Nat)) (left right : Session σ) : Prop where
  world : left.world = right.world.withPast past
  submits : ∃ recent, left.submits = old ++ recent.map (Option.map (past.length + ·)) ∧
    right.submits = List.replicate old.length none ++ recent
  isOpen : left.isOpen = right.isOpen
  requests : left.requests = right.requests

/-- After a step two sessions tell the same, and one of them still does what the other does. -/
def Alike (past : Past) (old : List (Option Nat)) (left right : Session σ × Observation) : Prop :=
  left.1.Continues past old right.1 ∧ left.2 = right.2

section Continues

variable {past : Past} {old : List (Option Nat)}
  (early : ∀ index, some index ∈ old → index < past.length)

include early

/-- Of its earlier submissions a session tells nothing any more. -/
theorem finishedBetween_withPast (before after : World σ) (recent : List (Option Nat)) :
    finishedBetween (before.withPast past) (after.withPast past) 0
        (old ++ recent.map (Option.map (past.length + ·))) =
      finishedBetween before after 0 (List.replicate old.length none ++ recent) := by
  have earlier : finishedBetween (before.withPast past) (after.withPast past) 0 old = [] := by
    refine finishedBetween_eq_nil (fun index listed => ?_) 0
    simp only [result?, World.getElem?_withPast_of_lt _ past (early index listed)]
  rw [finishedBetween_append, finishedBetween_append, earlier, finishedBetween_blank,
    List.length_replicate, finishedBetween_congr (World.result?_withPast past before)
      (World.result?_withPast past after)]

variable {left right : Session σ} (together : left.Continues past old right)

include together

theorem Continues.observe (world : World σ) (more : List (Option Nat)) (isOpen : Bool)
    (download : Option (Except ReportError Artifact)) :
    Alike past old
      (left.observe (world.withPast past)
        (left.submits ++ more.map (Option.map (past.length + ·))) isOpen download)
      (right.observe world (right.submits ++ more) isOpen download) := by
  rcases together with ⟨same, ⟨recent, submits, submitsRight⟩, _, requests⟩
  have asked := World.askedBetween_withPast past right.world world
  have finished := finishedBetween_withPast early right.world world (recent ++ more)
  rw [List.map_append, ← List.append_assoc, ← List.append_assoc] at finished
  have changed : ((right.world.withPast past).notifications !=
      (world.withPast past).notifications) =
        (right.world.notifications != world.notifications) := by
    rw [Bool.eq_iff_iff]
    simp [World.withPast]
  have polls := world.withPast_polls past
  refine ⟨⟨rfl, ⟨recent ++ more, ?_, ?_⟩, rfl, ?_⟩, ?_⟩
  · simp [Session.observe, submits]
  · simp [Session.observe, submitsRight]
  · simp only [Session.observe, same, asked, requests]
  · simp only [Session.observe, same, asked, requests, submits, submitsRight, finished, changed,
      polls]
    rfl

theorem Continues.observe_same (world : World σ) (isOpen : Bool)
    (download : Option (Except ReportError Artifact)) :
    Alike past old (left.observe (world.withPast past) left.submits isOpen download)
      (right.observe world right.submits isOpen download) := by
  simpa using together.observe early world [] isOpen download

theorem Continues.refuse : Alike past old left.refuse right.refuse := by
  have alike := together.observe_same early right.world right.isOpen none
  rw [← together.world] at alike
  refine ⟨?_, ?_⟩
  · simpa only [Session.refuse, together.isOpen] using alike.1
  · simp only [Session.refuse, together.isOpen]
    rw [alike.2]

omit early in
theorem Continues.length : left.submits.length = right.submits.length := by
  rcases together.submits with ⟨recent, submits, submitsRight⟩
  simp [submits, submitsRight]

/-- A number names the same submission on both sides, unless it names an earlier one. -/
theorem Continues.submission? (number : Nat) :
    left.submission? number = (right.submission? number).map (past.length + ·) ∨
      right.submission? number = none ∧
        ∃ index < past.length, left.submission? number = some index := by
  rcases together.submits with ⟨recent, submits, submitsRight⟩
  simp only [Session.submission?, submits, submitsRight]
  by_cases recently : old.length ≤ number
  · left
    rw [List.getElem?_append_right recently, List.getElem?_append_right (by simpa using recently),
      List.length_replicate, List.getElem?_map]
    rcases recent[number - old.length]? with _ | _ | index <;> rfl
  · have blank : (List.replicate old.length (none : Option Nat))[number]? = some none := by
      rw [List.getElem?_replicate, if_pos (by omega)]
    rw [List.getElem?_append_left (by omega), List.getElem?_append_left (by simpa using recently),
      blank]
    cases place : old[number]?.join with
    | none => exact Or.inl rfl
    | some index =>
        have listed := List.mem_of_getElem? (Option.join_eq_some_iff.mp place)
        exact Or.inr ⟨rfl, index, early index listed, rfl⟩

variable (service : ReportService σ) (isOver : past.IsOver)

include isOver

theorem Continues.abandon (settled : right.world.Settled) (number : Nat) :
    Alike past old (left.perform service (.abandon number))
      (right.perform service (.abandon number)) := by
  have same := fun world => together.observe_same early world right.isOpen none
  simp only [Session.perform, together.isOpen]
  rcases together.submission? early number with recent | ⟨blank, index, before, earlier⟩
  · rw [recent]
    cases right.submission? number with
    | none => exact together.world ▸ same right.world
    | some index =>
        have abandoned := (World.lockstep_withPast isOver service).settle
          (World.withPast_abandonCall right.world past index)
        simp only [Option.map_some, World.abandon, together.world]
        exact abandoned ▸ same (World.settle service (right.world.abandonCall index))
  · -- The call that is named belongs to the past and has ended.
    have kept : (right.world.withPast past).abandon service index =
        right.world.withPast past := by
      rw [World.abandon, World.abandonCall_of_past isOver right.world before]
      exact World.settle_of_settled service (World.withPast_settled isOver right.world settled)
    simp only [blank, earlier, together.world, kept]
    exact same right.world

theorem Continues.submit (request : ReportRequest) :
    Alike past old (left.submit service request) (right.submit service request) := by
  have phase : (right.world.withPast past).snapshot.phase = right.world.snapshot.phase := rfl
  simp only [Session.submit, World.submit, together.world]
  rcases World.claim_alike phase request with ⟨error, claimed, claimedRight⟩ |
    ⟨payload, claimed, claimedRight⟩
  · have alike : Alike past old
        (left.observe (right.world.withPast past) (left.submits ++ [none]) true none)
        (right.observe right.world (right.submits ++ [none]) true none) :=
      together.observe early right.world [none] true none
    simp only [claimed, claimedRight, Except.map, together.length]
    exact ⟨alike.1, by rw [alike.2]⟩
  · rw [World.withPast_accept] at claimed
    have alike := together.observe early (World.settle service (right.world.accept payload))
      [some right.world.submissions.length] true none
    rw [← World.withPast_settle isOver] at alike
    simp only [claimed, claimedRight, Except.map, World.length_withPast]
    exact alike

/-- Every step tells the same with a past as without one, also a step that names an earlier
submission, since there is nothing left of it to give up. -/
theorem Continues.perform (rest : right.world.AtRest) (step : Step) :
    Alike past old (left.perform service step) (right.perform service step) := by
  have settles := fun world => World.withPast_settle isOver world service
  have same := fun world => together.observe_same early world
  have refused := together.refuse early
  cases step with
  | advance span =>
      have advanced := (World.lockstep_withPast isOver service).advance together.world span
      simp only [Session.perform, advanced, together.isOpen]
      exact same _ _ _
  | permit count =>
      have permitted := settles (right.world.allow count)
      simp only [Session.perform, World.permit, together.world, together.isOpen]
      exact permitted ▸ same _ _ _
  | close =>
      have closed := settles right.world.shut
      simp only [Session.perform, World.close, together.world, World.withPast_shut isOver]
      exact closed ▸ same _ _ _
  | abandon number => exact together.abandon early service isOver rest.settled number
  | submit request =>
      simp only [Session.perform, together.isOpen, performOpen]
      split
      · exact together.submit early service isOver request
      · exact refused
  | stopPolling =>
      have stopped := settles right.world.halt
      simp only [Session.perform, together.isOpen, performOpen, World.stopPolling, together.world,
        World.withPast_halt]
      split
      · exact stopped ▸ same _ _ _
      · exact refused
  | reset =>
      have cleared := settles right.world.clear
      simp only [Session.perform, together.isOpen, performOpen, World.reset, together.world,
        World.withPast_clear]
      split
      · exact cleared ▸ same _ _ _
      · exact refused
  | download jobId =>
      simp only [Session.perform, together.isOpen, performOpen, together.world,
        World.withPast_download]
      split
      · exact same _ _ _
      · exact refused

/-- A whole session tells the same with a past as without one. -/
theorem Continues.run (rest : right.world.AtRest) (steps : List Step) :
    left.run service steps = right.run service steps ∧
      (left.after service steps).Continues past old (right.after service steps) := by
  induction steps generalizing left right with
  | nil => exact ⟨rfl, together⟩
  | cons step steps ih =>
      rcases together.perform early service isOver rest step with ⟨next, told⟩
      rcases ih next (perform_spec service rest step).1 with ⟨later, last⟩
      exact ⟨congrArg₂ List.cons told later, last⟩

end Continues

end Session

end AuditReports
