import Mathlib.Data.List.Induction
import Mathlib.Data.List.Infix
import AuditReports.Controller.LoopHandle

/-!
# Handles and what has happened to them

A handle is judged by two flags that have two owners: the token is set by whoever cancels, and the
loop says of itself that it has come to its end. The token is never taken back and a loop that has
ended never goes on, so both flags tell what has happened so far, in whatever order it did. A
cancelled loop comes to its end only when it has its turn. By then the token has been cancelled, so
nobody who asks the handle can tell whether the loop has noticed.

`Records` says what the fields of a handle tell of the events before. Every event keeps it, and so
it holds of every handle.
-/

namespace AuditReports.LoopHandle

namespace Event

/-- The time that passes with an event. -/
def milliseconds : Event → Nat
  | .advance milliseconds => milliseconds
  | _ => 0

end Event

/-- The time that has passed in all. -/
def passed : List Event → Nat
  | [] => 0
  | event :: rest => event.milliseconds + passed rest

/-- A handle after all that has happened since its loop was started. -/
def after (span : Option Nat) (past : List Event) : LoopHandle :=
  past.foldl perform (start span)

/-- Somebody has cancelled the token; giving up the handle does so too. -/
def Stopped (past : List Event) : Prop :=
  .cancel ∈ past ∨ .cancelToken ∈ past ∨ .drop ∈ past

/-- The fields of a handle tell what has happened. -/
structure Records (span : Option Nat) (past : List Event) (handle : LoopHandle) : Prop where
  span : handle.span = span
  elapsed : handle.elapsed = passed past
  held : handle.held = true ↔ .drop ∉ past
  cancelled : handle.cancelled = true ↔ Stopped past
  /-- The loop has had its turn since its time was over. -/
  finished : handle.isOver = true → handle.finished = true
  /-- A loop ends for one of two reasons. -/
  reason : handle.finished = true → handle.cancelled = true ∨ handle.isOver = true

theorem passed_append (past future : List Event) :
    passed (past ++ future) = passed past + passed future := by
  induction past with
  | nil => simp [passed]
  | cons event past ih => rw [List.cons_append, passed, passed, ih, Nat.add_assoc]

theorem passed_concat (past : List Event) (event : Event) :
    passed (past ++ [event]) = passed past + event.milliseconds :=
  passed_append past [event]

theorem after_append (span : Option Nat) (past future : List Event) :
    after span (past ++ future) = future.foldl perform (after span past) :=
  List.foldl_append

theorem after_concat (span : Option Nat) (past : List Event) (event : Event) :
    after span (past ++ [event]) = (after span past).perform event :=
  after_append span past [event]

/-! ## What one event does -/

theorem finished_turn {handle : LoopHandle} :
    handle.turn.finished = true ↔
      handle.finished = true ∨ handle.cancelled = true ∨ handle.isOver = true := by
  simp [turn, or_assoc]

namespace Records

variable {span : Option Nat} {past : List Event} {handle : LoopHandle}

/-- The loop does not look at the clock when it is cancelled, and need not: no time has passed. -/
theorem perform_cancel (records : Records span past handle) :
    Records span (past ++ [.cancel]) (handle.perform .cancel) := by
  have elapsed : handle.elapsed = passed (past ++ [.cancel]) := by
    rw [passed_concat]
    exact records.elapsed
  cases held : handle.held with
  | true =>
      have kept : .drop ∉ past := records.held.mp held
      have next : handle.perform .cancel = { handle with cancelled := true } := if_pos held
      rw [next]
      refine ⟨records.span, elapsed, ?_, ?_, records.finished, fun _ => .inl rfl⟩
      · simp [held, kept]
      · simp [Stopped]
  | false =>
      have dropped : .drop ∈ past := by
        by_contra kept
        rw [records.held.mpr kept] at held
        cases held
      have next : handle.perform .cancel = handle := if_neg (by simp [held])
      rw [next]
      refine ⟨records.span, elapsed, ?_, ?_, records.finished, records.reason⟩
      · simp [held, dropped]
      · rw [records.cancelled]
        simp [Stopped, dropped]

theorem perform (records : Records span past handle) (event : Event) :
    Records span (past ++ [event]) (handle.perform event) := by
  have elapsed := passed_concat past event
  rw [← records.elapsed] at elapsed
  cases event with
  | cancel => exact records.perform_cancel
  | cancelToken =>
      refine ⟨records.span, elapsed.symm, ?_, ?_, records.finished, fun _ => .inl rfl⟩
      · simpa [LoopHandle.perform] using records.held
      · simp [LoopHandle.perform, Stopped]
  | advance milliseconds =>
      refine ⟨records.span, elapsed.symm, ?_, ?_, ?_, ?_⟩
      · simpa [LoopHandle.perform, turn] using records.held
      · simpa [LoopHandle.perform, turn, Stopped] using records.cancelled
      · intro ended
        exact finished_turn.mpr (.inr (.inr ended))
      · intro finished
        rcases finished_turn.mp finished with before | cancelled | ended
        · rcases records.reason before with cancelled | ended
          · exact .inl cancelled
          · -- A time that is over stays over.
            refine .inr ?_
            rw [isOver, Option.any_eq_true] at ended ⊢
            rcases ended with ⟨limit, ends, reached⟩
            refine ⟨limit, ends, ?_⟩
            simp only [decide_eq_true_eq] at reached ⊢
            exact Nat.le_trans reached (Nat.le_add_right _ _)
        · exact .inl cancelled
        · exact .inr ended
  | drop =>
      refine ⟨records.span, elapsed.symm, ?_, ?_, records.finished, fun _ => .inl rfl⟩
      · simp [LoopHandle.perform]
      · simp [LoopHandle.perform, Stopped]

end Records

/-! ## What any events do -/

theorem records_start (span : Option Nat) : Records span [] (start span) where
  span := rfl
  elapsed := rfl
  held := by simp [start, turn]
  cancelled := by simp [start, turn, Stopped]
  finished := fun ended => finished_turn.mpr (.inr (.inr ended))
  reason := by
    intro finished
    rcases finished_turn.mp finished with before | reason
    · cases before
    · exact reason

theorem records_after (span : Option Nat) (past : List Event) :
    Records span past (after span past) := by
  induction past using List.reverseRecOn with
  | nil => exact records_start span
  | append_singleton past event ih =>
      rw [after_concat]
      exact ih.perform event

/-- The states that a handle goes through are those after the first events, after one more, and so
on. -/
theorem run_eq (handle : LoopHandle) (events : List Event) :
    handle.run events = events.inits.tail.map (List.foldl LoopHandle.perform handle) := by
  induction events generalizing handle with
  | nil => rfl
  | cons event rest ih =>
      have parts : rest.inits = [] :: rest.inits.tail := by cases rest <;> rfl
      rw [run, ih, List.inits_cons, List.tail_cons, parts]
      simp [Function.comp_def]

section Live

variable {span : Option Nat} {past : List Event} {handle : LoopHandle}

theorem isOver_iff (records : Records span past handle) :
    handle.isOver = true ↔ ∃ limit ∈ span, limit ≤ passed past := by
  rw [isOver, records.span, records.elapsed, Option.any_eq_true]
  simp

/-- The loop's own end and a cancellation are looked at together, so it does not matter which of
them the loop has noticed. -/
theorem isLive?_eq_some_true_iff (records : Records span past handle) :
    handle.isLive? = some true ↔ .drop ∉ past ∧ ¬Stopped past ∧ ¬handle.isOver = true := by
  have live : handle.isLive? = some true ↔
      handle.held = true ∧ ¬handle.cancelled = true ∧ ¬handle.finished = true := by
    rw [isLive?]
    split <;> simp_all
  rw [live, records.held, records.cancelled]
  refine and_congr_right fun _ => and_congr_right fun running => not_congr ?_
  constructor
  · intro finished
    exact (records.reason finished).resolve_left fun cancelled =>
      running (records.cancelled.mp cancelled)
  · exact records.finished

theorem isLive?_eq_none_iff (records : Records span past handle) :
    handle.isLive? = none ↔ .drop ∈ past := by
  have held := records.held
  rw [isLive?]
  split <;> simp_all

theorem isLive?_turn (records : Records span past handle) :
    handle.turn.isLive? = handle.isLive? := by
  cases cancelled : handle.cancelled with
  | true => simp [isLive?, turn, cancelled]
  | false =>
      have same : handle.turn.finished = handle.finished := by
        rw [Bool.eq_iff_iff, finished_turn]
        constructor
        · rintro (finished | stopped | ended)
          · exact finished
          · rw [cancelled] at stopped
            cases stopped
          · exact records.finished ended
        · exact .inl
      rw [isLive?, isLive?, same]
      rfl

end Live

/-- As long as a handle is held, it is live if and only if neither it nor the token has been
cancelled so far and the loop has not had its time; the token is cancelled if and only if somebody
has cancelled it or the handle has been given up. It makes no difference whether the loop has
noticed, a handle that is live has been so all along, and a cancelled token can be cancelled again
without any change. -/
theorem live_until_cancelled_or_over (span : Option Nat) (past future : List Event) :
    (start span).run past = past.inits.tail.map (after span) ∧
      ((after span past).isLive? = none ↔ .drop ∈ past) ∧
      ((after span past).isLive? = some true ↔ .drop ∉ past ∧ .cancel ∉ past ∧
        .cancelToken ∉ past ∧ ∀ limit ∈ span, passed past < limit) ∧
      ((after span past).cancelled = true ↔
        .cancel ∈ past ∨ .cancelToken ∈ past ∨ .drop ∈ past) ∧
      (after span past).turn.isLive? = (after span past).isLive? ∧
      ((after span (past ++ future)).isLive? = some true →
        (after span past).isLive? = some true) ∧
      ∀ again ∈ [Event.cancel, .cancelToken], (after span past).cancelled = true →
        (after span past).perform again = after span past := by
  have records := records_after span past
  have live : ∀ past, (after span past).isLive? = some true ↔ .drop ∉ past ∧ .cancel ∉ past ∧
      .cancelToken ∉ past ∧ ∀ limit ∈ span, passed past < limit := by
    intro past
    have records := records_after span past
    rw [isLive?_eq_some_true_iff records, isOver_iff records]
    simp only [Stopped, not_or, not_exists, not_and, Nat.not_le]
    tauto
  refine ⟨run_eq (start span) past, isLive?_eq_none_iff records, live past, records.cancelled,
    isLive?_turn records, ?_, ?_⟩
  · rw [live, live]
    rintro ⟨kept, unstopped, uncancelled, early⟩
    have less : passed past ≤ passed (past ++ future) := by
      rw [passed_append]
      exact Nat.le_add_right _ _
    refine ⟨?_, ?_, ?_, fun limit ends => Nat.lt_of_le_of_lt less (early limit ends)⟩
    · exact fun earlier => kept (List.mem_append_left future earlier)
    · exact fun earlier => unstopped (List.mem_append_left future earlier)
    · exact fun earlier => uncancelled (List.mem_append_left future earlier)
  · intro again cancels cancelled
    simp only [List.mem_cons, List.not_mem_nil, or_false] at cancels
    rcases cancels with rfl | rfl <;> simp [LoopHandle.perform, ← cancelled]

/-- A loop of seven milliseconds is cancelled in the last one, and cancelled again after its time. -/
theorem live_until_cancelled_in_time :
    (after (some 7) ([.advance 3] ++ [.advance 3])).isLive? = some true ∧
      (after (some 7) [.advance 3]).isLive? = some true ∧
      (after (some 7) [.advance 6, .cancel, .advance 1]).cancelled = true ∧
      (after (some 7) [.advance 6, .cancel, .advance 1]).perform .cancelToken =
        after (some 7) [.advance 6, .cancel, .advance 1] := by
  rcases live_until_cancelled_or_over (some 7) [.advance 3] [.advance 3] with
    ⟨_, _, _, _, _, liveBefore, _⟩
  rcases live_until_cancelled_or_over (some 7) [.advance 6, .cancel, .advance 1] [] with
    ⟨_, _, _, _, _, _, unchanged⟩
  exact ⟨by decide, liveBefore (by decide), by decide,
    unchanged .cancelToken (by simp) (by decide)⟩

end AuditReports.LoopHandle
