import Mathlib.Data.ENat.Lattice
import AuditReports.Proofs.Controller.Ownership
import AuditReports.Proofs.Controller.Sessions

/-!
# The course of a job

A new controller takes one request and is then left alone. The poll loop, its timer, the deadline
and the answers of the service leave no choice in what happens: the calls and the snapshot at any
time are given here in closed form, as a fold over the answers that have arrived.

The course of a job is what the closed form depends on. The invariant says that exactly `count`
status calls have been made and answered; one tick takes it from `count` to `count + 1`, and between
two ticks nothing changes but the time. -/

namespace AuditReports

/-- What a loop does next if its submission has not been cancelled and the service is free. -/
def LoopState.action? (now : Nat) : LoopState → Option World.Action
  | .finished => none
  | .waiting due => if due ≤ now then some .askStatus else none
  | .asking _ => some .receiveStatus

/-- What decides the course of a job: the policy, how long the job takes to be created, its id, and
the answers to the status calls, of which the last one repeats. -/
structure Course where
  policy : Policy
  delay : Nat
  jobId : String
  statuses : List (Except CallError Job)

namespace Course

variable (course : Course)

/-- A new controller with a service that creates the job and then answers as the course says. -/
def start (more : List (Except CallError String)) (downloads : List (Except CallError Download)) :
    World Script :=
  World.start course.policy course.delay none
    ⟨.ok course.jobId :: more, course.statuses, downloads⟩

/-- The answer to status call number `index`. -/
def answer (index : Nat) : Except CallError Job :=
  (course.statuses[min index (course.statuses.length - 1)]?.getD
    (.error (.network "no scripted status response"))).map fun job =>
      { job with id := course.jobId }

/-- When status call number `index` is made, counted from the first one. -/
def elapsed (index : Nat) : Nat :=
  index * course.policy.interval

/-- The polling ends with answer number `index`: the request failed, or the job has come to its end,
or the time is up. -/
def ends (index : Nat) : Bool :=
  (match course.answer index with
    | .error _ => true
    | .ok job => Snapshot.outcome job == .stop) ||
    course.policy.timeout.any (· ≤ course.elapsed index)

/-- The snapshot after answer number `index`. -/
def applied (snapshot : Snapshot) (index : Nat) : Snapshot :=
  match course.answer index with
  | .error error => snapshot.givenUp error.message
  | .ok job =>
      match Snapshot.outcome job, course.policy.timeout with
      | .goOn, some limit =>
          if limit ≤ course.elapsed index then (snapshot.afterStatus job).overdue limit
          else snapshot.afterStatus job
      | _, _ => snapshot.afterStatus job

/-- How many status calls there are in all; without an end it is infinite. -/
noncomputable def lifetime : ℕ∞ :=
  ⨅ (index : Nat) (_ : course.ends index = true), ((index + 1 : Nat) : ℕ∞)

/-- Status call number `index` as it is recorded. -/
def call (index : Nat) : Entry :=
  ⟨course.delay + course.elapsed index, some 0, .statusAsked course.jobId⟩

/-- The snapshot after the first `count` answers. -/
def shown (address : String) (count : Nat) : Snapshot :=
  (List.range count).foldl course.applied ((Snapshot.submitting address).tracking course.jobId)

/-- Whether the polling has ended after the first `count` answers. -/
def ended : Nat → Bool
  | 0 => false
  | index + 1 => course.ends index

/-- What the poll loop waits for after the first `count` answers. -/
def state (count : Nat) : LoopState :=
  if course.ended count then .finished else .waiting (course.delay + course.elapsed count)

def pollLoop (state : LoopState) : PollLoop :=
  ⟨course.jobId, course.policy.timeout.map (course.delay + ·), state⟩

theorem elapsed_succ (index : Nat) :
    course.elapsed (index + 1) = course.elapsed index + course.policy.interval :=
  Nat.succ_mul index course.policy.interval

theorem shown_succ (address : String) (count : Nat) :
    course.shown address (count + 1) = course.applied (course.shown address count) count := by
  simp [shown, List.range_succ]

theorem take_statuses (index : Nat) :
    Script.take "status" (course.statuses.drop (min index (course.statuses.length - 1))) =
      (course.statuses[min index (course.statuses.length - 1)]?.getD
          (.error (.network "no scripted status response")),
        course.statuses.drop (min (index + 1) (course.statuses.length - 1))) := by
  generalize course.statuses = statuses
  rcases Nat.eq_zero_or_pos statuses.length with empty | nonempty
  · simp only [List.length_eq_zero_iff.mp empty, Script.take, List.drop_nil, List.getElem?_nil,
      Option.getD_none]
    rfl
  · rcases Nat.lt_or_ge (index + 1) statuses.length with early | last
    · have place : min index (statuses.length - 1) = index := by omega
      have next : min (index + 1) (statuses.length - 1) = index + 1 := by omega
      rw [place, next, List.drop_eq_getElem_cons (by omega), List.drop_eq_getElem_cons early,
        List.getElem?_eq_getElem (by omega)]
      rfl
    · have place : min index (statuses.length - 1) = statuses.length - 1 := by omega
      have next : min (index + 1) (statuses.length - 1) = statuses.length - 1 := by omega
      rw [place, next, List.drop_eq_getElem_cons (by omega), List.drop_eq_nil_of_le (by omega),
        List.getElem?_eq_getElem (by omega)]
      rfl

theorem status_answer {script : Script} {index : Nat}
    (left : script.statuses = course.statuses.drop (min index (course.statuses.length - 1))) :
    (Script.service.status course.jobId script).1 = course.answer index ∧
      (Script.service.status course.jobId script).2.statuses =
        course.statuses.drop (min (index + 1) (course.statuses.length - 1)) := by
  have taken := course.take_statuses index
  simp only [Script.service, left, taken]
  exact ⟨rfl, trivial⟩

theorem afterAnswer_eq {σ : Type} {world : World σ} {index : Nat}
    (policy : world.policy = course.policy)
    (now : world.now = course.delay + course.elapsed index) :
    world.afterAnswer (course.policy.timeout.map (course.delay + ·)) (course.answer index) =
      (course.applied world.snapshot index, if course.ends index then .stop else .goOn) := by
  unfold World.afterAnswer applied ends
  cases course.answer index with
  | error error => rfl
  | ok job =>
      cases verdict : Snapshot.outcome job with
      | stop => simp [verdict]
      | goOn =>
          cases timeout : course.policy.timeout with
          | none => simp [verdict]
          | some limit =>
              by_cases late : limit ≤ course.elapsed index
              · simp [verdict, policy, now, timeout, late]
              · simp [verdict, now, late]

/-- So many status calls have been made and so many of them answered, and the loop is in a certain
state. -/
structure Follows (address : String) (calls answers : Nat) (state : LoopState)
    (world : World Script) : Prop where
  coherent : world.Coherent
  paced : world.Paced
  policy : world.policy = course.policy
  gate : world.gate = none
  left : world.service.statuses =
    course.statuses.drop (min answers (course.statuses.length - 1))
  called : world.chronicle.toList.filter (·.exchange.asksStatus) =
    (List.range calls).map course.call
  snapshot : world.snapshot = course.shown address answers
  slot : world.slot = some 0
  single : ∃ submission, world.submissions = [submission] ∧ submission.cancelled = false ∧
    submission.stage.isCreating = false ∧ submission.pollLoop = some (course.pollLoop state)
  reached : ∀ index < calls, course.delay + course.elapsed index ≤ world.now
  ongoing : ∀ index, index + 1 < calls → course.ends index = false

variable {course} {address : String} {count : Nat} {world : World Script}

theorem Follows.nextAction? {calls : Nat} {state : LoopState}
    (follows : course.Follows address calls count state world) :
    world.nextAction? = (state.action? world.now).map (0, ·) := by
  rcases follows.single with ⟨submission, single, held, created, started⟩
  rw [World.nextAction?_of_single single, Submission.action?_of_started _ _ created started]
  cases state with
  | finished => rfl
  | waiting due => simp [pollLoop, held, LoopState.action?]
  | asking next => simp [pollLoop, held, World.isFree, follows.gate, LoopState.action?]

theorem Follows.ask (follows : course.Follows address count count (course.state count) world)
    (ongoing : course.ended count = false)
    (now : world.now = course.delay + course.elapsed count) :
    ∃ next, world.occur Script.service (.act 0 .askStatus) = next ∧ next.now = world.now ∧
      course.Follows address (count + 1) count
        (.asking (course.delay + course.elapsed (count + 1))) next := by
  rcases follows.single with ⟨submission, single, held, created, started⟩
  have found : world.submissions[0]? = some submission := by simp [single]
  have waiting : (course.pollLoop (course.state count)).state = .waiting world.now := by
    simp [pollLoop, Course.state, ongoing, now]
  have asked := World.occur_askStatus Script.service found started waiting (Nat.le_refl _)
  have following : world.policy.following world.now world.now =
      course.delay + course.elapsed (count + 1) := by
    simp [Policy.following, follows.policy, now, elapsed_succ, Nat.add_assoc]
  refine ⟨_, asked, rfl, ?_⟩
  constructor
  · exact follows.coherent.askStatus found started waiting
  · rw [← asked]
    exact follows.paced.occur Script.service follows.coherent _
  · exact follows.policy
  · exact follows.gate
  · exact follows.left
  · have pushed : (world.askStatus 0 (course.pollLoop (course.state count)) world.now).chronicle =
        world.chronicle.push (course.call count) := by
      rw [call, ← now]
      rfl
    rw [pushed, Array.toList_push, List.filter_append, follows.called, List.range_succ,
      List.map_append]
    rfl
  · exact follows.snapshot
  · exact follows.slot
  · refine ⟨submission.withLoopState (.asking (course.delay + course.elapsed (count + 1))), ?_,
      held, created, ?_⟩
    · simp [World.askStatus, World.update, World.record, single, following]
    · exact Submission.withLoopState_pollLoop _ started
  · intro index bound
    rcases Nat.lt_succ_iff_lt_or_eq.mp bound with earlier | rfl
    · exact follows.reached index earlier
    · exact Nat.le_of_eq now.symm
  · intro index bound
    cases count with
    | zero => omega
    | succ before =>
        rcases Nat.lt_succ_iff_lt_or_eq.mp bound with earlier | same
        · exact follows.ongoing index earlier
        · rw [Nat.succ.inj same]
          exact ongoing

theorem Follows.receive
    (follows : course.Follows address (count + 1) count
      (.asking (course.delay + course.elapsed (count + 1))) world)
    (now : world.now = course.delay + course.elapsed count) :
    ∃ next, world.occur Script.service (.act 0 .receiveStatus) = next ∧ next.now = world.now ∧
      course.Follows address (count + 1) (count + 1) (course.state (count + 1)) next := by
  rcases follows.single with ⟨submission, single, held, created, started⟩
  have found : world.submissions[0]? = some submission := by simp [single]
  have received := World.occur_receiveStatus Script.service found started rfl
  have told := course.status_answer follows.left
  have answer : (Script.service.status
      (course.pollLoop (.asking (course.delay + course.elapsed (count + 1)))).jobId
      world.service).1 = course.answer count := told.1
  have applied : world.afterAnswer
      (course.pollLoop (.asking (course.delay + course.elapsed (count + 1)))).deadline
      (course.answer count) = _ := course.afterAnswer_eq follows.policy now
  have verdict : LoopState.afterVerdict (course.delay + course.elapsed (count + 1))
      (if course.ends count then Verdict.stop else Verdict.goOn) = course.state (count + 1) := by
    cases ends : course.ends count <;> simp [Course.state, ended, ends, LoopState.afterVerdict]
  refine ⟨_, received, World.receiveStatus_now Script.service world 0 submission _ _, ?_⟩
  constructor
  · exact follows.coherent.receiveStatus Script.service found started rfl
  · rw [← received]
    exact follows.paced.occur Script.service follows.coherent _
  · rw [← received, World.occur_policy]
    exact follows.policy
  · rw [World.receiveStatus_gate, follows.gate]
    rfl
  · rw [World.receiveStatus_service]
    exact told.2
  · rw [World.receiveStatus_chronicle, Array.toList_push, List.filter_append, follows.called]
    exact List.append_nil _
  · rw [World.receiveStatus_snapshot, held, answer, applied, follows.snapshot, shown_succ]
    rfl
  · rw [World.receiveStatus_slot]
    exact follows.slot
  · refine ⟨submission.proceed (course.state (count + 1)), ?_, held, by simpa using created,
      World.proceed_pollLoop _ started⟩
    rw [World.receiveStatus_submissions, single, held, answer, applied, ← verdict]
    rfl
  · rw [World.receiveStatus_now]
    exact follows.reached
  · exact follows.ongoing

/-- Every tick that has fallen due has been reacted to. -/
def IsCurrent (course : Course) (count now : Nat) : Prop :=
  course.ended count = false → now < course.delay + course.elapsed count

theorem Follows.settled (follows : course.Follows address count count (course.state count) world)
    (current : course.IsCurrent count world.now) : world.Settled := by
  apply World.nextAction?_eq_none_iff.mp
  simp only [follows.nextAction?]
  cases ended : course.ended count with
  | true => simp [Course.state, ended, LoopState.action?]
  | false =>
      have early : world.now < course.delay + course.elapsed count := current ended
      simpa [Course.state, ended, LoopState.action?] using early

/-- When a tick falls due, a status call is made and answered, and then everything is settled. -/
theorem Follows.tick (paced : course.policy.interval ≠ 0)
    (follows : course.Follows address count count (course.state count) world)
    (ongoing : course.ended count = false)
    (now : world.now = course.delay + course.elapsed count) :
    course.Follows address (count + 1) (count + 1) (course.state (count + 1))
        (World.settle Script.service world) ∧
      course.IsCurrent (count + 1) world.now := by
  rcases follows.ask ongoing now with ⟨asked, asks, nowAsked, followsAsked⟩
  rcases followsAsked.receive (nowAsked.trans now) with ⟨received, receives, nowReceived, last⟩
  have current : course.IsCurrent (count + 1) world.now := by
    intro _
    rw [elapsed_succ]
    omega
  have first : world.nextAction? = some (0, .askStatus) := by
    simp only [follows.nextAction?]
    simp [Course.state, ongoing, now, LoopState.action?]
  have settledLast : received.Settled := by
    apply last.settled
    rw [nowReceived, nowAsked]
    exact current
  refine ⟨?_, current⟩
  rw [World.settle_of_next Script.service follows.coherent follows.paced first, asks,
    World.settle_of_next Script.service followsAsked.coherent followsAsked.paced
      followsAsked.nextAction?, receives, World.settle_of_settled Script.service settledLast]
  exact last

theorem Follows.later (follows : course.Follows address count count (course.state count) world)
    {later : Nat} (ahead : world.now ≤ later) :
    course.Follows address count count (course.state count) { world with now := later } where
  coherent := follows.coherent.pass later
  paced := follows.paced
  policy := follows.policy
  gate := follows.gate
  left := follows.left
  called := follows.called
  snapshot := follows.snapshot
  slot := follows.slot
  single := follows.single
  reached := fun index bound => Nat.le_trans (follows.reached index bound) ahead
  ongoing := follows.ongoing

theorem Follows.nextWake?
    (follows : course.Follows address count count (course.state count) world) :
    world.nextWake? =
      if course.ended count then none else some (course.delay + course.elapsed count) := by
  rcases follows.single with ⟨submission, single, _, created, started⟩
  have wake := Submission.wake?_of_started created started
  cases ended : course.ended count <;>
    simp [World.nextWake?, single, wake, pollLoop, Course.state, ended]

/-- While time passes, the ticks fall due one after the other. -/
theorem Follows.passTo (paced : course.policy.interval ≠ 0) (target budget : Nat)
    (follows : course.Follows address count count (course.state count) world)
    (current : course.IsCurrent count world.now) (ahead : world.now ≤ target)
    (enough : target - world.now < budget) :
    ∃ last, course.Follows address last last (course.state last)
        (World.passTo Script.service target budget world) ∧
      course.IsCurrent last target := by
  induction budget generalizing world count with
  | zero => omega
  | succ budget ih =>
      simp only [World.passTo]
      simp only [follows.nextWake?]
      cases ended : course.ended count with
      | true => exact ⟨count, follows.later ahead, by simp [IsCurrent, ended]⟩
      | false =>
          have early := current ended
          simp only [Bool.false_eq_true, if_false]
          split
          · rename_i reached
            rw [Nat.max_eq_right (Nat.le_of_lt early)]
            rcases (follows.later (Nat.le_of_lt early)).tick paced ended rfl with
              ⟨followsNext, currentNext⟩
            refine ih followsNext ?_ ?_ ?_
            · rw [World.settle, World.drain_now]
              exact currentNext
            · rw [World.settle, World.drain_now]
              exact reached
            · rw [World.settle, World.drain_now]
              simp only
              omega
          · rename_i distant
            exact ⟨count, follows.later ahead, fun _ => Nat.lt_of_not_le distant⟩

/-- The job is still being created. -/
structure Awaits (course : Course) (payload : Payload) (world : World Script) : Prop where
  coherent : world.Coherent
  policy : world.policy = course.policy
  gate : world.gate = none
  created : ∃ more, world.service.creates = .ok course.jobId :: more
  left : world.service.statuses = course.statuses
  called : world.chronicle.toList.filter (·.exchange.asksStatus) = []
  snapshot : world.snapshot = .submitting payload.address
  slot : world.slot = some 0
  single : world.submissions = [⟨payload, false, .creating course.delay, none⟩]

variable {payload : Payload}

theorem Awaits.paced (awaits : course.Awaits payload world) : world.Paced := by
  intro index submission found polling
  rw [awaits.single] at found
  rcases List.mem_singleton.mp (List.mem_of_getElem? found) with rfl
  cases polling

theorem Awaits.later (awaits : course.Awaits payload world) (later : Nat) :
    course.Awaits payload { world with now := later } where
  coherent := awaits.coherent.pass later
  policy := awaits.policy
  gate := awaits.gate
  created := awaits.created
  left := awaits.left
  called := awaits.called
  snapshot := awaits.snapshot
  slot := awaits.slot
  single := awaits.single

theorem Awaits.nextAction? (awaits : course.Awaits payload world) :
    world.nextAction? = if course.delay ≤ world.now then some (0, .receiveCreate) else none := by
  rw [World.nextAction?_of_single awaits.single, Submission.action?_of_creating _ _ rfl]
  split <;> rfl

theorem Awaits.create (awaits : course.Awaits payload world)
    (canPoll : course.policy.canPoll course.delay = true) (now : world.now = course.delay) :
    ∃ next, world.occur Script.service (.act 0 .receiveCreate) = next ∧ next.now = world.now ∧
      course.Follows payload.address 0 0 (course.state 0) next := by
  have found : world.submissions[0]? = some ⟨payload, false, .creating course.delay, none⟩ := by
    simp [awaits.single]
  have received := World.occur_receiveCreate Script.service found rfl
  rcases awaits.created with ⟨more, creates⟩
  have answer : (Script.service.create payload world.service).1 = .ok course.jobId := by
    simp only [Script.service, creates]
    cases more <;> rfl
  refine ⟨_, received, World.receiveCreate_now Script.service world 0 _, ?_⟩
  constructor
  · exact awaits.coherent.receiveCreate Script.service found rfl
  · rw [← received]
    exact awaits.paced.occur Script.service awaits.coherent _
  · rw [← received, World.occur_policy]
    exact awaits.policy
  · rw [World.receiveCreate_gate]
    exact awaits.gate
  · rw [World.receiveCreate_service, Nat.zero_min, List.drop_zero, ← awaits.left]
    rfl
  · rw [World.receiveCreate_chronicle, Array.toList_push, List.filter_append, awaits.called]
    rfl
  · rw [World.receiveCreate_snapshot, answer, awaits.snapshot]
    rfl
  · rw [World.receiveCreate_slot]
    exact awaits.slot
  · have loop : course.pollLoop (course.state 0) =
        ⟨course.jobId, course.policy.timeout.map (course.delay + ·), .waiting course.delay⟩ := by
      simp [pollLoop, Course.state, ended, elapsed]
    rw [World.receiveCreate_submissions, awaits.single, answer, awaits.policy, now, loop]
    refine ⟨_, rfl, ?_⟩
    simp [World.answered, World.polled, canPoll, Stage.isCreating]
  · intro index bound
    omega
  · intro index bound
    omega

/-- As soon as the job is created it is polled for the first time. -/
theorem Awaits.first (awaits : course.Awaits payload world)
    (canPoll : course.policy.canPoll course.delay = true) (now : world.now = course.delay) :
    course.Follows payload.address 1 1 (course.state 1) (World.settle Script.service world) ∧
      course.IsCurrent 1 world.now := by
  rcases awaits.create canPoll now with ⟨next, creates, nowNext, follows⟩
  have paced : course.policy.interval ≠ 0 := by
    have parts := canPoll
    simp only [Policy.canPoll, Bool.and_eq_true, bne_iff_ne] at parts
    exact parts.1
  have first : world.nextAction? = some (0, .receiveCreate) := by
    rw [awaits.nextAction?, if_pos (Nat.le_of_eq now.symm)]
  have ticked := follows.tick paced rfl (by simp [nowNext, now, elapsed])
  rw [World.settle_of_next Script.service awaits.coherent awaits.paced first, creates, ← nowNext]
  exact ticked

/-- The world is where the course says it is. -/
def Reaches (course : Course) (payload : Payload) (world : World Script) : Prop :=
  (world.now < course.delay ∧ course.Awaits payload world) ∨
    (course.delay ≤ world.now ∧ ∃ count,
      course.Follows payload.address count count (course.state count) world ∧
        course.IsCurrent count world.now)

theorem Reaches.atRest (reaches : course.Reaches payload world) : world.AtRest := by
  rcases reaches with ⟨early, awaits⟩ | ⟨_, count, follows, current⟩
  · refine ⟨awaits.coherent, awaits.paced, World.nextAction?_eq_none_iff.mp ?_⟩
    rw [awaits.nextAction?, if_neg (by omega)]
  · exact ⟨follows.coherent, follows.paced, follows.settled current⟩

theorem Reaches.advance (canPoll : course.policy.canPoll course.delay = true)
    (paced : course.policy.interval ≠ 0) (reaches : course.Reaches payload world) (span : Nat) :
    course.Reaches payload (World.advance Script.service world span) := by
  have now := (World.advance_spec Script.service reaches.atRest span).2.1
  have place : ∀ count,
      course.Follows payload.address count count (course.state count)
          (World.advance Script.service world span) →
        course.IsCurrent count (world.now + span) → course.delay ≤ world.now + span →
          course.Reaches payload (World.advance Script.service world span) := by
    intro count follows current started
    rw [← now] at current started
    exact Or.inr ⟨started, count, follows, current⟩
  rcases reaches with ⟨early, awaits⟩ | ⟨started, count, follows, current⟩
  · have wake : world.nextWake? = some course.delay := by
      simp [World.nextWake?, awaits.single, Submission.wake?]
    rcases Nat.lt_or_ge (world.now + span) course.delay with short | long
    · left
      have waits : World.advance Script.service world span =
          { world with now := world.now + span } := by
        rw [World.advance, World.passTo, wake]
        exact if_neg (by omega)
      rw [waits]
      exact ⟨short, awaits.later _⟩
    · have created := (awaits.later course.delay).first canPoll rfl
      have passes : World.advance Script.service world span =
          World.passTo Script.service (world.now + span) span
            (World.settle Script.service { world with now := course.delay }) := by
        rw [World.advance, World.passTo, wake]
        simp only
        rw [if_pos long, Nat.max_eq_right (Nat.le_of_lt early)]
      have nowCreated : (World.settle Script.service { world with now := course.delay }).now =
          course.delay := World.drain_now Script.service _ _
      have currentCreated : course.IsCurrent 1
          (World.settle Script.service { world with now := course.delay }).now := by
        rw [nowCreated]
        exact created.2
      rcases created.1.passTo paced (world.now + span) span currentCreated (by omega)
        (by omega) with ⟨last, followsLast, currentLast⟩
      rw [← passes] at followsLast
      exact place last followsLast currentLast long
  · rcases follows.passTo paced (world.now + span) (span + 1) current (by omega)
      (by omega) with ⟨last, followsLast, currentLast⟩
    exact place last followsLast currentLast (by omega)

theorem lifetime_le {index : Nat} (ends : course.ends index = true) :
    course.lifetime ≤ ((index + 1 : ℕ) : ℕ∞) :=
  iInf₂_le index ends

/-- How many calls have been made at a time, and whether the polling goes on, follow from the
invariant. -/
theorem Follows.count_eq (paced : course.policy.interval ≠ 0)
    (follows : course.Follows address count count (course.state count) world)
    (current : course.IsCurrent count world.now) (started : course.delay ≤ world.now) :
    (count : ℕ∞) =
        min (((world.now - course.delay) / course.policy.interval + 1 : ℕ) : ℕ∞) course.lifetime ∧
      (course.ended count = false ↔ (count : ℕ∞) < course.lifetime) := by
  have positive : 0 < course.policy.interval := Nat.pos_of_ne_zero paced
  have in_time : count ≤ (world.now - course.delay) / course.policy.interval + 1 := by
    cases count with
    | zero => exact Nat.zero_le _
    | succ before =>
        have reached := follows.reached before (Nat.lt_succ_self before)
        apply Nat.succ_le_succ
        rw [Nat.le_div_iff_mul_le positive]
        simp only [elapsed] at reached
        omega
  have alive : (count : ℕ∞) ≤ course.lifetime := by
    apply le_iInf₂
    intro index ends
    apply Nat.cast_le.mpr
    by_contra later
    have goesOn := follows.ongoing index (Nat.lt_of_not_le later)
    simp [goesOn] at ends
  cases ended : course.ended count with
  | true =>
      cases count with
      | zero => cases ended
      | succ last =>
          have same := le_antisymm alive (lifetime_le ended)
          refine ⟨?_, by simp [same]⟩
          rw [← same, min_eq_right (Nat.cast_le.mpr in_time)]
  | false =>
      have early := current ended
      have late : (world.now - course.delay) / course.policy.interval < count := by
        rw [Nat.div_lt_iff_lt_mul positive]
        simp only [elapsed] at early
        omega
      have last : count = (world.now - course.delay) / course.policy.interval + 1 := by omega
      have more : ((count + 1 : ℕ) : ℕ∞) ≤ course.lifetime := by
        apply le_iInf₂
        intro index ends
        apply Nat.cast_le.mpr
        by_contra later
        rcases Nat.lt_or_ge (index + 1) count with earlier | same
        · have goesOn := follows.ongoing index earlier
          simp [goesOn] at ends
        · have place : count = index + 1 := by omega
          simp only [place] at ended
          simp only [Course.ended, ends] at ended
          cases ended
      constructor
      · rw [← last, min_eq_left alive]
      · simp only [true_iff]
        exact lt_of_lt_of_le (Nat.cast_lt.mpr (Nat.lt_succ_self count)) more

theorem Follows.polls_iff
    (follows : course.Follows address count count (course.state count) world) :
    world.polls = true ↔ course.ended count = false := by
  rcases follows.single with ⟨submission, single, held, _, started⟩
  cases ended : course.ended count <;>
    simp [World.polls, follows.slot, single, held, started, pollLoop, Course.state, ended,
      PollLoop.isFinished]

theorem awaits_accept (more : List (Except CallError String))
    (downloads : List (Except CallError Download)) :
    course.Awaits payload ((course.start more downloads).accept payload) where
  coherent := (World.coherent_start _ _ _ _).accept payload
  policy := rfl
  gate := rfl
  created := ⟨more, rfl⟩
  left := rfl
  called := rfl
  snapshot := rfl
  slot := rfl
  single := by
    simp [start, World.accept, World.start, World.emptySlot, World.publish, World.record]

theorem reaches_submitted (more : List (Except CallError String))
    (downloads : List (Except CallError Download))
    (canPoll : course.policy.canPoll course.delay = true) {request : ReportRequest}
    (valid : request.check = .ok payload) :
    ∃ submitted, (course.start more downloads).submit Script.service request = .ok submitted ∧
      submitted.now = 0 ∧ course.Reaches payload submitted := by
  have awaits : course.Awaits payload ((course.start more downloads).accept payload) :=
    awaits_accept more downloads
  have submit : (course.start more downloads).submit Script.service request =
      .ok (World.settle Script.service ((course.start more downloads).accept payload)) := by
    simp [World.submit, World.claim, valid, start, World.start, Snapshot.initial, Except.map]
  have now : ((course.start more downloads).accept payload).now = 0 := rfl
  refine ⟨_, submit, (World.drain_now Script.service _ _).trans now, ?_⟩
  rcases Nat.eq_zero_or_pos course.delay with immediate | later
  · have first := awaits.first canPoll (now.trans immediate.symm)
    refine Or.inr ⟨by omega, 1, first.1, ?_⟩
    rw [World.settle, World.drain_now]
    exact first.2
  · have quiet : ((course.start more downloads).accept payload).Settled := by
      apply World.nextAction?_eq_none_iff.mp
      rw [awaits.nextAction?, if_neg (by omega)]
    rw [World.settle_of_settled Script.service quiet]
    exact Or.inl ⟨by omega, awaits⟩

theorem Reaches.foldl_advance (canPoll : course.policy.canPoll course.delay = true)
    (paced : course.policy.interval ≠ 0) (reaches : course.Reaches payload world)
    (spans : List Nat) :
    course.Reaches payload (spans.foldl (World.advance Script.service) world) ∧
      (spans.foldl (World.advance Script.service) world).now = world.now + spans.sum := by
  induction spans generalizing world with
  | nil => exact ⟨reaches, rfl⟩
  | cons span spans ih =>
      have now := (World.advance_spec Script.service reaches.atRest span).2.1
      rcases ih (reaches.advance canPoll paced span) with ⟨last, nowLast⟩
      refine ⟨last, ?_⟩
      rw [List.foldl_cons, nowLast, now, List.sum_cons, Nat.add_assoc]

/-- The course of a job, in closed form. A new controller takes a valid request, and then time
passes in any portions. Once the job has been created, the status calls that have been made are one
at once and one after every interval, but no more than there are in all; each is recorded at its
time and for the job that was created. The snapshot is the one of the new job with all answers so
far folded in. And the controller polls exactly as long as there are calls to come. Any number of
milliseconds that fits into 64 bits is within what the clock can tell. -/
theorem timeline (course : Course) {request : ReportRequest} {payload : Payload}
    (valid : request.check = .ok payload) (paced : course.policy.interval ≠ 0)
    (inRange : ∀ limit, course.policy.timeout = some limit →
      (course.delay + limit) / 1000 ≤ Policy.lastSecond)
    (more : List (Except CallError String)) (downloads : List (Except CallError Download)) :
    ∃ submitted, (course.start more downloads).submit Script.service request = .ok submitted ∧
      ∀ spans : List Nat, course.delay ≤ spans.sum →
        let world := spans.foldl (World.advance Script.service) submitted
        ∃ count : ℕ,
          (count : ℕ∞) = min (((spans.sum - course.delay) / course.policy.interval + 1 : ℕ) : ℕ∞)
            course.lifetime ∧
          world.chronicle.toList.filter (·.exchange.asksStatus) =
            (List.range count).map course.call ∧
          world.snapshot = (List.range count).foldl course.applied
            ((Snapshot.submitting payload.address).tracking course.jobId) ∧
          (world.polls = true ↔ (count : ℕ∞) < course.lifetime) := by
  have canPoll : course.policy.canPoll course.delay = true := by
    simp only [Policy.canPoll, Bool.and_eq_true, bne_iff_ne]
    refine ⟨paced, ?_⟩
    cases limit : course.policy.timeout with
    | none => rfl
    | some limit' => simpa using inRange limit' limit
  rcases reaches_submitted more downloads canPoll valid with ⟨submitted, submit, now, reaches⟩
  refine ⟨submitted, submit, ?_⟩
  intro spans started
  rcases reaches.foldl_advance canPoll paced spans with ⟨last, nowLast⟩
  rw [now, Nat.zero_add] at nowLast
  intro world
  rcases last with ⟨early, _⟩ | ⟨_, count, follows, current⟩
  · omega
  · have counted := follows.count_eq paced current (by omega)
    rw [nowLast] at counted
    exact ⟨count, counted.1, follows.called, follows.snapshot, follows.polls_iff.trans counted.2⟩

theorem in_range_of_lt {delay limit : Nat} (early : delay < 2 ^ 64) (short : limit < 2 ^ 64) :
    (delay + limit) / 1000 ≤ Policy.lastSecond := by
  have seconds : Policy.lastSecond = 2 ^ 63 - 1 := rfl
  rw [seconds]
  omega

/-- A job that stays queued is polled every second and given up after two and a half. -/
def overdueCourse : Course :=
  ⟨⟨1000, some 2500⟩, 300, "first", [.ok (Job.bare "" .queued)]⟩

theorem timeline_of_overdueCourse :
    overdueCourse.lifetime = 4 ∧
      ∃ submitted, (overdueCourse.start [] []).submit Script.service World.sampleRequest =
          .ok submitted ∧
        let world := [200, 9800].foldl (World.advance Script.service) submitted
        world.chronicle.toList.filter (·.exchange.asksStatus) =
          (List.range 4).map overdueCourse.call ∧
        world.snapshot.error = some "Report generation timed out after 2 seconds" ∧
        world.polls = false := by
  have lifetime : overdueCourse.lifetime = 4 := by
    apply le_antisymm
    · have fourth : overdueCourse.ends 3 = true := rfl
      exact lifetime_le fourth
    · apply le_iInf₂
      intro index ends
      match index with
      | 0 => cases ends
      | 1 => cases ends
      | 2 => cases ends
      | later + 3 => exact Nat.cast_le.mpr (Nat.le_add_left 4 later)
  have valid : World.sampleRequest.check = .ok (World.sampleRequest.payload none) := rfl
  rcases overdueCourse.timeline valid (by decide)
    (fun limit same => in_range_of_lt (by decide) (Option.some.inj same ▸ by decide)) [] [] with
    ⟨submitted, submit, follows⟩
  rcases follows [200, 9800] (by decide) with ⟨count, counted, called, shown, polls⟩
  have four : count = 4 := by
    simp only [lifetime] at counted
    exact Nat.cast_injective counted
  subst four
  refine ⟨lifetime, submitted, submit, called, ?_, ?_⟩
  · simp only [shown]
    rfl
  · simp only [lifetime] at polls
    apply Bool.eq_false_iff.mpr
    intro polling
    exact lt_irrefl _ (polls.mp polling)

end Course

end AuditReports
