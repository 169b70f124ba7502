import AuditReports.CommandLine.Watch
import AuditReports.Proofs.Controller.Tracking
import AuditReports.Proofs.Controller.Watchers

/-!
# Watching a controller

What happens to the controller of a command is not up to the command: it happens before its turns.
A command that nobody interrupts therefore leaves its controller where a part of its turns has
brought it, and all that it decides is when to stop looking. It stops at the first look at a final
phase. Since every change of the snapshot is notified, a final phase is looked at if there is one at
the end of the turns, no matter how many changes there have been in one turn and whether any of them
came before the watching began.
-/

namespace AuditReports

namespace World

open CommandLine

variable {σ : Type} {service : ReportService σ} {policy : Policy} {payload : Payload} {state : σ}
  {world : World σ}

theorem Tracks.occur_incident (tracks : world.Tracks service policy payload state)
    (incident : Incident) :
    (world.occur service incident.event).Tracks service policy payload state := by
  cases incident with
  | act action => exact tracks.act action
  | pass span => exact tracks.pass span

theorem Tracks.run_incidents (tracks : world.Tracks service policy payload state)
    (incidents : List Incident) :
    (world.run service (incidents.map Incident.event)).Tracks service policy payload state := by
  induction incidents generalizing world with
  | nil => exact tracks
  | cons incident later ih => exact ih (tracks.occur_incident incident)

/-- What has been told stays, and an answer adds to it. -/
theorem answers_occur_incident (service : ReportService σ) (world : World σ)
    (incident : Incident) :
    ∃ added, (world.occur service incident.event).answers = world.answers ++ added ∧
      added.length ≤ [incident].count (.act .receiveStatus) := by
  cases incident with
  | pass span => exact ⟨[], (List.append_nil _).symm, Nat.zero_le _⟩
  | act action =>
      have transition := transition_act service world 0 action
      simp only [Incident.event]
      generalize world.occur service (.act 0 action) = next at transition ⊢
      cases transition with
      | idle _ => exact ⟨[], (List.append_nil _).symm, Nat.zero_le _⟩
      | receiveCreate _ _ =>
          exact ⟨[], by simp [answers, receiveCreate_chronicle, Entry.landing?], Nat.zero_le _⟩
      | askStatus _ _ _ _ =>
          exact ⟨[], by simp [answers, askStatus, update, record, Entry.landing?], Nat.zero_le _⟩
      | receiveStatus _ _ _ =>
          refine ⟨_, by simp [answers, receiveStatus_chronicle]; rfl, ?_⟩
          simp [Entry.landing?]
      | leave _ _ _ => exact ⟨[], (List.append_nil _).symm, Nat.zero_le _⟩

theorem answers_run_incidents (service : ReportService σ) (world : World σ)
    (incidents : List Incident) :
    ∃ added, (world.run service (incidents.map Incident.event)).answers = world.answers ++ added ∧
      added.length ≤ incidents.count (.act .receiveStatus) := by
  induction incidents generalizing world with
  | nil => exact ⟨[], (List.append_nil _).symm, Nat.zero_le _⟩
  | cons incident later ih =>
      rcases answers_occur_incident service world incident with ⟨first, told, few⟩
      rcases ih (world.occur service incident.event) with ⟨rest, toldLater, fewLater⟩
      refine ⟨first ++ rest, ?_, ?_⟩
      · rw [← List.append_assoc, ← told]
        exact toldLater
      · rw [List.length_append, ← List.singleton_append, List.count_append]
        exact Nat.add_le_add few fewLater

/-- Nothing but the time changes any more once a submission is over. -/
theorem run_of_over {submission : Submission} (single : world.submissions = [submission])
    (isOver : submission.isLive = false) (service : ReportService σ) (incidents : List Incident) :
    ∃ now, world.run service (incidents.map Incident.event) = { world with now := now } := by
  induction incidents generalizing world with
  | nil => exact ⟨world.now, rfl⟩
  | cons incident later ih =>
      cases incident with
      | act action =>
          rcases ih single with ⟨now, same⟩
          refine ⟨now, ?_⟩
          rw [List.map_cons, run_cons, Incident.event, occur_act_of_over single isOver]
          exact same
      | pass span =>
          have still : { world with now := world.now + span }.submissions = [submission] := single
          exact ih still

end World

namespace CommandLine

open World

namespace Turns

theorem events_append (first second : Turns) :
    events (first ++ second) = events first ++ events second := by
  simp [events]

theorem events_cons (incidents : List Incident) (later : Turns) :
    events (incidents :: later) = incidents.map Incident.event ++ events later := by
  simp [events]

end Turns

section Watch

variable {τ : Type} {transport : Transport τ} {context : Context}

theorem letHappen_eq (uninterrupted : ∀ state, transport.interrupts state = false)
    (world : World τ) (incidents : List Incident) :
    letHappen transport context world incidents =
      (world.run (context.service transport) (incidents.map Incident.event), false) := by
  induction incidents generalizing world with
  | nil => rfl
  | cons incident later ih =>
      have goesOn : isInterrupted transport world incident = false := by
        simp [isInterrupted, uninterrupted]
      rw [letHappen, goesOn]
      exact ih _

/-- Whether the watcher has been notified or not, it holds the snapshot of the controller. -/
theorem await_cons (uninterrupted : ∀ state, transport.interrupts state = false)
    (world : World τ) (incidents : List Incident) (later : Turns) (last : Option String) :
    let next := world.run (context.service transport) (incidents.map Incident.event)
    await transport context world.watch world (incidents :: later) last =
      if next.notifications = world.notifications then
        await transport context next.watch next later last
      else look context last next.watch next (await transport context next.watch next later) := by
  intro next
  have looked : world.watch.look next = next.watch :=
    Watcher.look_watch (announced_run (context.service transport) world _)
  have happens : letHappen transport context world incidents = (next, false) :=
    letHappen_eq uninterrupted world incidents
  have seen : world.watch.seen = world.notifications := rfl
  rw [await, happens]
  by_cases same : next.notifications = world.notifications
  · have holds : world.watch = next.watch :=
      (if_pos (same.trans seen.symm)).symm.trans looked
    simp only [← holds, same, seen, if_true]
  · simp only [looked, same, seen, if_false]

/-- How watching ends if nobody interrupts it: with a look at a final phase, or with the turns. -/
inductive WatchesUntil (service : ReportService τ) (world : World τ) (turns : Turns) :
    Watched τ → Prop where
  | settled {lines : List Line} (count : Nat)
      (final : (world.run service (Turns.events (turns.take count))).snapshot.phase.isFinal =
        true) :
      WatchesUntil service world turns
        ⟨lines, .settled, (world.run service (Turns.events (turns.take count))).snapshot,
          world.run service (Turns.events (turns.take count))⟩
  | unfinished {lines : List Line}
      (ongoing : (world.run service turns.events).snapshot.phase.isFinal = false) :
      WatchesUntil service world turns
        ⟨lines, .unfinished, (world.run service turns.events).snapshot,
          world.run service turns.events⟩

/-- A turn that has passed counts. -/
theorem WatchesUntil.cons {service : ReportService τ} {world : World τ} {incidents : List Incident}
    {later : Turns} {watched : Watched τ}
    (watches : WatchesUntil service (world.run service (incidents.map Incident.event)) later
      watched) : WatchesUntil service world (incidents :: later) watched := by
  cases watches with
  | settled count final =>
      rw [← run_append, ← Turns.events_cons] at final ⊢
      exact .settled (count + 1) final
  | unfinished ongoing =>
      rw [← run_append, ← Turns.events_cons] at ongoing ⊢
      exact .unfinished ongoing

theorem WatchesUntil.after {service : ReportService τ} {world : World τ} {turns : Turns}
    {watched : Watched τ} (watches : WatchesUntil service world turns watched)
    (lines : List Line) : WatchesUntil service world turns (watched.after lines) := by
  cases watches with
  | settled count final => exact .settled count final
  | unfinished ongoing => exact .unfinished ongoing

theorem watchesUntil_look {world : World τ} {turns : Turns} {service : ReportService τ}
    {wait : Option String → Watched τ}
    (waits : world.snapshot.phase.isFinal = false → ∀ last, WatchesUntil service world turns
      (wait last)) (last : Option String) :
    WatchesUntil service world turns (look context last world.watch world wait) := by
  have shown : world.watch.shown = world.snapshot := rfl
  rw [look, shown]
  cases final : world.snapshot.phase.isFinal with
  | true => exact .settled 0 final
  | false => exact (waits final _).after _

theorem watchesUntil_await (uninterrupted : ∀ state, transport.interrupts state = false)
    (turns : Turns) {world : World τ} (ongoing : world.snapshot.phase.isFinal = false)
    (last : Option String) :
    WatchesUntil (context.service transport) world turns
      (await transport context world.watch world turns last) := by
  induction turns generalizing world last with
  | nil => exact .unfinished ongoing
  | cons incidents later ih =>
      rw [await_cons uninterrupted]
      apply WatchesUntil.cons
      split
      · next same =>
          -- Without a notification the snapshot is the same.
          have still := (announced_run (context.service transport) world _).snapshot same
          exact ih (by rw [still]; exact ongoing) last
      · exact watchesUntil_look (fun goesOn last => ih goesOn last) last

theorem watchesUntil_watch (transport : Transport τ) (context : Context)
    (uninterrupted : ∀ state, transport.interrupts state = false)
    (world : World τ) (turns : Turns) :
    WatchesUntil (context.service transport) world turns (watch transport context world turns) :=
  watchesUntil_look (fun ongoing last => watchesUntil_await uninterrupted turns ongoing last) none

/-- The call that makes the submission takes some of the turns, and all if it does not return. -/
theorem awaitResult_spec (transport : Transport τ) (context : Context) (turns : Turns)
    (world : World τ) :
    ∃ count,
      let after := world.run (context.service transport) (Turns.events (turns.take count))
      awaitResult transport context world turns =
          (Session.result? after 0, after, turns.drop count) ∧
        (Session.result? after 0 = none → turns.take count = turns) := by
  induction turns generalizing world with
  | nil => exact ⟨0, rfl, fun _ => rfl⟩
  | cons incidents later ih =>
      rw [awaitResult]
      split
      · next result returned =>
          refine ⟨0, by rw [← returned]; rfl, fun pending => ?_⟩
          cases returned.symm.trans pending
      · next pending =>
          rcases ih (world.run (context.service transport) (incidents.map Incident.event)) with
            ⟨count, rest, all⟩
          refine ⟨count + 1, ?_⟩
          rw [← run_append, ← Turns.events_cons] at rest all
          exact ⟨rest, fun pending => congrArg (List.cons incidents) (all pending)⟩

end Watch

end CommandLine

end AuditReports
