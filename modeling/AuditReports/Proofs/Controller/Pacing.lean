import Mathlib.Data.List.Chain
import Mathlib.Data.List.Forall2
import Mathlib.Data.List.Induction
import AuditReports.Proofs.Controller.Landings
import AuditReports.Proofs.Controller.Reasons

/-!
# The pace of a poll loop

A poll loop waits either for a tick or for an answer, never for both. So it calls again only after
its last call has been answered, and since a loop that drops an answer ends with it, the answer has
landed as well.

That the calls keep their distance needs the ticks as well. While a loop waits for a tick, this tick
is due almost one interval after the last call: a call that is more than five milliseconds late
moves the following tick to a whole interval after itself, and one that is less late loses no more
than its own lateness. However long an answer takes, the ticks that it misses are not made up for,
because the tick that follows a call is fixed when the call is made.
-/

namespace AuditReports

/-- The answer that landed is one to this call. -/
structure Entry.AnsweredBy (call : Entry) (landing : Landing) : Prop where
  exchange : call.exchange = .statusAsked landing.jobId
  submission : call.submission = some landing.submission
  inTime : call.time ≤ landing.time

namespace Policy

/-- The second call comes an interval after the first one, apart from what a tick may be late. -/
def KeepsApart (policy : Policy) (first second : Entry) : Prop :=
  first.time + policy.interval ≤ second.time + tolerance

theorem le_following (policy : Policy) (now due : Nat) :
    now + policy.interval ≤ policy.following now due + tolerance := by
  simp only [following]
  split <;> omega

end Policy

namespace World

open Policy

/-- The calls of a loop, the answers that have landed and what the loop waits for fit together. -/
inductive Regular (policy : Policy) (index now : Nat) :
    Option PollLoop → List Entry → List Landing → Prop where
  | unstarted : Regular policy index now none [] []
  | waiting {jobId : String} {deadline : Option Nat} {due : Nat} {calls : List Entry}
      {landings : List Landing} (apart : calls.IsChain policy.KeepsApart)
      (answered : List.Forall₂ Entry.AnsweredBy calls landings)
      (ahead : ∀ call ∈ calls.getLast?, call.time + policy.interval ≤ due + tolerance) :
      Regular policy index now (some ⟨jobId, deadline, .waiting due⟩) calls landings
  | asking {jobId : String} {deadline : Option Nat} {next time : Nat} {calls : List Entry}
      {landings : List Landing}
      (apart : (calls ++ [Entry.mk time (some index) (.statusAsked jobId)]).IsChain
        policy.KeepsApart)
      (answered : List.Forall₂ Entry.AnsweredBy calls landings) (past : time ≤ now)
      (ahead : time + policy.interval ≤ next + tolerance) :
      Regular policy index now (some ⟨jobId, deadline, .asking next⟩)
        (calls ++ [⟨time, some index, .statusAsked jobId⟩]) landings
  | finished {jobId : String} {deadline : Option Nat} {calls : List Entry}
      {landings : List Landing} (apart : calls.IsChain policy.KeepsApart) :
      Regular policy index now (some ⟨jobId, deadline, .finished⟩) calls landings

namespace Regular

variable {policy : Policy} {index now : Nat} {pollLoop : Option PollLoop} {calls : List Entry}
  {landings : List Landing}

theorem apart (regular : Regular policy index now pollLoop calls landings) :
    calls.IsChain policy.KeepsApart := by
  cases regular with
  | unstarted => exact .nil
  | waiting apart _ _ => exact apart
  | asking apart _ _ _ => exact apart
  | finished apart => exact apart

theorem later (regular : Regular policy index now pollLoop calls landings) {moment : Nat}
    (later : now ≤ moment) : Regular policy index moment pollLoop calls landings := by
  cases regular with
  | unstarted => exact .unstarted
  | waiting apart answered ahead => exact .waiting apart answered ahead
  | asking apart answered past ahead =>
      exact .asking apart answered (Nat.le_trans past later) ahead
  | finished apart => exact .finished apart

end Regular

variable {σ : Type} (service : ReportService σ)

theorem Regular.step {world : World σ} {index : Nat} {before after : Option PollLoop}
    {calls made : List Entry} {landings : List Landing} {landed : Option Landing}
    (regular : Regular world.policy index world.now before calls landings)
    (step : world.LoopStep service index before after made landed) :
    Regular world.policy index world.now after (calls ++ made) (landings ++ landed.toList) := by
  cases step with
  | kept => simpa using regular
  | started jobId fresh =>
      cases regular
      rcases fresh with rfl | rfl
      · exact .waiting .nil .nil (by simp)
      · exact .finished .nil
  | @asked jobId deadline due reached =>
      rcases regular with _ | ⟨apart, answered, ahead⟩
      simp only [Option.toList_none, List.append_nil]
      refine .asking ?_ answered (Nat.le_refl _) (le_following world.policy world.now due)
      refine List.isChain_append.mpr ⟨apart, List.isChain_singleton _, ?_⟩
      -- The tick was due almost an interval after the last call, and it does not come early.
      intro last listed call first
      rcases Option.some.inj first with rfl
      exact Nat.le_trans (ahead last listed) (Nat.add_le_add_right reached _)
  | @landed jobId deadline next answer answered =>
      rcases regular with _ | _ | ⟨apart, answeredBefore, past, ahead⟩
      rw [List.append_nil]
      cases (world.afterAnswer deadline answer).2 with
      | goOn =>
          refine .waiting apart (List.rel_append answeredBefore (.cons ⟨rfl, rfl, past⟩ .nil)) ?_
          simpa using ahead
      | stop => exact .finished apart
  | ended cancelled =>
      rw [List.append_nil]
      exact .finished regular.apart

/-- A loop that makes a call has had all of its calls answered. -/
theorem Regular.answered_of_called {world : World σ} {index : Nat}
    {before after : Option PollLoop} {calls made : List Entry} {landings : List Landing}
    {landed : Option Landing}
    (regular : Regular world.policy index world.now before calls landings)
    (step : world.LoopStep service index before after made landed) (called : made ≠ []) :
    List.Forall₂ Entry.AnsweredBy calls landings ∧
      ∃ jobId, made = [⟨world.now, some index, .statusAsked jobId⟩] := by
  cases step with
  | @asked jobId =>
      rcases regular with _ | ⟨_, answered, _⟩
      exact ⟨answered, jobId, rfl⟩
  | kept => exact absurd rfl called
  | started jobId fresh => exact absurd rfl called
  | landed answered => exact absurd rfl called
  | ended cancelled => exact absurd rfl called

theorem regular_run (policy : Policy) (createDelay : Nat) (gate : Option Nat) (state : σ)
    (events : List Event) (index : Nat) :
    let initial := start policy createDelay gate state
    let last := initial.run service events
    Regular last.policy index last.now (last.loop? index) (last.statusCalls index)
      (initial.landingsOf service index events) := by
  intro initial
  induction events using List.reverseRecOn with
  | nil => exact .unstarted
  | append_singleton events event ih =>
      have coherent := coherent_run service policy createDelay gate state events
      rcases loopStep_occur service coherent index event with ⟨calls, made, step⟩
      simp only [run_append, run_cons, run_nil, occur_policy]
      rw [landingsOf_concat, made]
      exact (Regular.step service ih step).later (le_occur_now service _ event)

/-! ## Main result -/

variable (policy : Policy) (createDelay : Nat) (gate : Option Nat) (state : σ)

/-- Polls never overlap and never burst. In every run, for every submission and so for its poll
loop, two successive status calls are an interval apart but for five milliseconds, so that with a
longer interval no two of them are made at the same time. Whenever a status call is made, every
earlier one has been answered and its answer has landed, one landing for one call in their order.
And what is said to have landed was told by the service at that time and folded into the
snapshot. -/
theorem polls_keep_apart :
    let initial := start policy createDelay gate state
    ∀ (events : List Event) (index : Nat),
      let last := initial.run service events
      let calls := last.statusCalls index
      let landed := initial.landingsOf service index events
      calls.IsChain (fun first second => first.time + policy.interval ≤ second.time + 5) ∧
      (5 < policy.interval → calls.Pairwise fun first second => first.time < second.time) ∧
      (∀ event, (last.occur service event).statusCalls index ≠ calls →
        List.Forall₂ Entry.AnsweredBy calls landed ∧
          ∃ jobId, (last.occur service event).statusCalls index =
            calls ++ [⟨last.now, some index, .statusAsked jobId⟩]) ∧
      ∀ landing ∈ landed, ∃ earlier event later, events = earlier ++ event :: later ∧
        let before := initial.run service earlier
        landing.time = before.now ∧
          (service.status landing.jobId before.service).1 = landing.answer ∧
          ∃ pollLoop, before.loop? index = some pollLoop ∧
            (before.occur service event).snapshot =
              (before.afterAnswer pollLoop.deadline landing.answer).1 := by
  intro initial events index last calls landed
  have samePolicy : last.policy = policy := run_policy service initial events
  have regular := regular_run service policy createDelay gate state events index
  change Regular last.policy index last.now (last.loop? index) calls landed at regular
  have apart : calls.IsChain policy.KeepsApart := samePolicy ▸ regular.apart
  refine ⟨apart, ?_, ?_, ?_⟩
  · intro wide
    refine (apart.imp ?_).pairwise
    intro first second apart
    simp only [KeepsApart, tolerance] at apart
    omega
  · intro event called
    have coherent := coherent_run service policy createDelay gate state events
    rcases loopStep_occur service coherent index event with ⟨made, extended, step⟩
    have new : made ≠ [] := by
      rintro rfl
      exact called (extended.trans (List.append_nil _))
    rcases regular.answered_of_called service step new with ⟨answered, jobId, rfl⟩
    exact ⟨answered, jobId, extended⟩
  · intro landing listed
    rcases List.mem_filter.mp listed with ⟨member, own⟩
    rcases exists_of_mem_landings service member with ⟨earlier, event, later, split, lands⟩
    rcases eq_of_beq own with rfl
    exact ⟨earlier, event, later, split, lands.time, lands.answer, lands.snapshot⟩

/-- The first answer takes three ticks and a half, and the third call is three milliseconds late. -/
def slowAnswers : List Event :=
  firstRequest ++
    [.pass 350, .act 0 .receiveStatus, .act 0 .askStatus, .pass 103, .act 0 .receiveStatus,
      .act 0 .askStatus, .pass 97, .act 0 .receiveStatus]

/-- The ticks that were missed are not made up for, and the fourth call comes as close to the third
one as the lateness of that one allows. -/
theorem polls_keep_apart_after_slow_answers :
    let initial := start ⟨100, none⟩ 0 none sampleScript
    let last := initial.run Script.service slowAnswers
    let next := initial.run Script.service (slowAnswers ++ [.act 0 .askStatus])
    (next.statusCalls 0).map (·.time) = [0, 350, 453, 550] ∧
      (next.statusCalls 0).Pairwise (fun first second => first.time < second.time) ∧
      List.Forall₂ Entry.AnsweredBy (last.statusCalls 0)
        (initial.landingsOf Script.service 0 slowAnswers) ∧
      (initial.landingsOf Script.service 0 slowAnswers).map (·.time) = [350, 453, 550] ∧
      ∃ earlier event later, slowAnswers = earlier ++ event :: later ∧
        (initial.run Script.service earlier).now = 350 := by
  intro initial last next
  have main := polls_keep_apart Script.service ⟨100, none⟩ 0 none sampleScript
  have calls : (next.statusCalls 0).map (·.time) = [0, 350, 453, 550] := by decide +kernel
  have landings : (initial.landingsOf Script.service 0 slowAnswers).map (·.time) =
      [350, 453, 550] := by decide +kernel
  have called :
      (last.occur Script.service (.act 0 .askStatus)).statusCalls 0 ≠ last.statusCalls 0 := by
    apply ne_of_apply_ne List.length
    decide +kernel
  rcases List.exists_of_mem_map (landings ▸ List.mem_cons_self) with ⟨landing, listed, time⟩
  rcases (main slowAnswers 0).2.2.2 landing listed with ⟨earlier, event, later, split, now, _⟩
  have rising := (main (slowAnswers ++ [.act 0 .askStatus]) 0).2.1 (by decide)
  have answered := ((main slowAnswers 0).2.2.1 (.act 0 .askStatus) called).1
  exact ⟨calls, rising, answered, landings, earlier, event, later, split, now.symm.trans time⟩

end World

end AuditReports
