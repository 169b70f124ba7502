import Mathlib.Data.List.Destutter
import AuditReports.Proofs.CommandLine.Submitting

/-!
# What is printed of the progress

The job is asked about by the controller, and what it says is printed by the command that watches
the controller. The two are not synchronized: the first answer has arrived before anybody watches,
and the last one takes the progress away. Still, every answer is looked at as long as the command
has a turn between any two of them. The watching sees the snapshot once before it waits and once
whenever it has been notified, and it is notified of each answer and of nothing else; a job that has
come to its end before the watching starts is seen at the first look.

So the watching takes in the answers in their order. An answer that goes on has a message, and the
message is printed unless it is the one that was printed last; the answer that stops has none. What
is printed is therefore the list of all messages without its repetitions in place.
-/

namespace AuditReports

namespace World.Tracks

variable {σ : Type} {service : ReportService σ} {policy : Policy} {payload : Payload} {state : σ}
  {world : World σ}

/-- Watchers are notified of each answer, and before the first of the submission and its job. -/
theorem notifications_of_answers (tracks : world.Tracks service policy payload state)
    (answers : world.answers ≠ []) : world.notifications = 2 + world.answers.length := by
  have notified := tracks.notifications
  cases tracks with
  | creating stands => exact absurd stands.answers answers
  | refused _ stands => exact absurd stands.answers answers
  | unpolled _ _ stands => exact absurd stands.answers answers
  | ongoing polled _ _ => simpa [polled.stands.created] using notified
  | ended polled _ _ => simpa [polled.stands.created] using notified

end World.Tracks

namespace CommandLine

/-- The command has a turn between any two answers about its job. -/
def Turns.AreSpaced (turns : Turns) : Prop :=
  ∀ incidents ∈ turns, incidents.count (.act .receiveStatus) ≤ 1

/-- The messages that have not been shown yet when they come, where `shown` was shown last. -/
def unseen (shown : Option String) : List String → List String
  | [] => []
  | message :: later =>
      if shown = some message then unseen shown later
      else message :: unseen (some message) later

theorem destutter'_eq_unseen (shown : String) (messages : List String) :
    messages.destutter' (· ≠ ·) shown = shown :: unseen (some shown) messages := by
  induction messages generalizing shown with
  | nil => rfl
  | cons message later ih =>
      by_cases same : shown = message
      · rw [List.destutter'_cons_neg _ (not_not.mpr same), ih, unseen, if_pos (by rw [same])]
      · rw [List.destutter'_cons_pos _ same, ih, unseen, if_neg (by simpa using same)]

/-- To leave out what was shown last is to leave out repetitions. -/
theorem unseen_none (messages : List String) :
    unseen none messages = messages.destutter (· ≠ ·) := by
  cases messages with
  | nil => rfl
  | cons message later =>
      rw [List.destutter_cons', destutter'_eq_unseen, unseen, if_neg (Option.some_ne_none _).symm]

/-- The messages of the answers that tell of a job. -/
def messages (answers : List Landing) : List String :=
  answers.filterMap Landing.message?

section Watch

open World

variable {τ : Type} {transport : Transport τ} {context : Context} (loud : context.quiet = false)

theorem progressLine_of_none (last : Option String) {snapshot : Snapshot}
    (progress : snapshot.progress = none) : progressLine context last snapshot = [] := by
  rw [progressLine, progress]

include loud

theorem remark_of_loud (text : String) : context.remark text = [.remark text] := by
  rw [Context.remark, loud]
  rfl

theorem progressLine_append {snapshot : Snapshot} {message : String}
    (progress : snapshot.progress = some message) (last : Option String) (later : List String) :
    progressLine context last snapshot ++
        (unseen (snapshot.progress.or last) later).map Line.remark =
      (unseen last (message :: later)).map Line.remark := by
  rw [progressLine, progress]
  by_cases same : last = some message <;> simp [unseen, same, remark_of_loud loud]

variable {service : ReportService τ} {policy : Policy} {payload : Payload} {state : τ}

/-- A look at an answer prints its message, and then come those of the answers before the one at
which the watching ends. -/
theorem lines_of_look {world : World τ} (tracks : world.Tracks service policy payload state)
    {before : List Landing} {told : Landing} (answers : world.answers = before ++ [told])
    {wait : Option String → Watched τ} (last : Option String)
    (waits : world.snapshot.phase.isFinal = false → ∀ last, (wait last).ending = .settled →
      ∃ more final, (wait last).world.answers = world.answers ++ more ++ [final] ∧
        (wait last).lines = (unseen last (messages more)).map Line.remark)
    (settles : (look context last world.watch world wait).ending = .settled) :
    ∃ more final,
      (look context last world.watch world wait).world.answers = before ++ more ++ [final] ∧
        (look context last world.watch world wait).lines =
          (unseen last (messages more)).map Line.remark := by
  have shown : world.watch.shown = world.snapshot := rfl
  rw [look, shown] at settles ⊢
  cases final : world.snapshot.phase.isFinal with
  | true =>
      rcases tracks.isFinal_iff.mp final with ⟨_, _, _, finished⟩
      simp only [if_true, progressLine_of_none last finished.progress]
      exact ⟨[], told, by rw [answers, List.append_nil], rfl⟩
  | false =>
      rw [final] at settles
      rcases tracks.progress_of_not_isFinal answers final with ⟨message, is, progress⟩
      rcases waits final _ settles with ⟨more, ending, later, lines⟩
      refine ⟨told :: more, ending, ?_, ?_⟩
      · simp only [Bool.false_eq_true, if_false, Watched.after]
        rw [later, answers]
        simp
      · simp only [Bool.false_eq_true, if_false, Watched.after]
        rw [lines, progressLine_append loud progress]
        simp [messages, is]

/-- Waiting prints the messages of the answers that come, each unless it was printed last. -/
theorem lines_of_await (uninterrupted : ∀ state, transport.interrupts state = false)
    (turns : Turns) (spaced : turns.AreSpaced) {world : World τ}
    (tracks : world.Tracks (context.service transport) policy payload state)
    (told : world.answers ≠ []) (ongoing : world.snapshot.phase.isFinal = false)
    (last : Option String)
    (settles : (await transport context world.watch world turns last).ending = .settled) :
    ∃ more final,
      (await transport context world.watch world turns last).world.answers =
          world.answers ++ more ++ [final] ∧
        (await transport context world.watch world turns last).lines =
          (unseen last (messages more)).map Line.remark := by
  induction turns generalizing world last with
  | nil => cases settles
  | cons incidents later ih =>
      have spacedLater : Turns.AreSpaced later :=
        fun turn listed => spaced turn (List.mem_cons_of_mem _ listed)
      rw [await_cons uninterrupted] at settles ⊢
      have next := tracks.run_incidents incidents
      rcases answers_run_incidents (context.service transport) world incidents with
        ⟨added, grown, few⟩
      have one := Nat.le_trans few (spaced incidents List.mem_cons_self)
      have still := (announced_run (context.service transport) world
        (incidents.map Incident.event)).snapshot
      generalize world.run (context.service transport) (incidents.map Incident.event) = after
        at settles next grown still ⊢
      have toldAfter : after.answers ≠ [] := by
        rw [grown]
        exact List.append_ne_nil_of_left_ne_nil told _
      -- The watcher has been notified exactly if an answer has come, and then of that alone.
      have notified := next.notifications_of_answers toldAfter
      rw [grown, List.length_append, ← Nat.add_assoc, ← tracks.notifications_of_answers told]
        at notified
      rcases added with _ | ⟨answer, _ | ⟨second, others⟩⟩
      · have same : after.notifications = world.notifications := notified
        rw [List.append_nil] at grown
        rw [if_pos same] at settles ⊢
        rw [← grown]
        exact ih spacedLater next toldAfter (by rw [still same]; exact ongoing) last settles
      · have different : ¬after.notifications = world.notifications := by
          rw [notified]
          simp
        rw [if_neg different] at settles ⊢
        exact lines_of_look loud next grown last
          (fun goesOn last => ih spacedLater next toldAfter goesOn last) settles
      · simp at one

/-- So does watching from the first answer on. -/
theorem lines_of_watch (uninterrupted : ∀ state, transport.interrupts state = false)
    (turns : Turns) (spaced : turns.AreSpaced) {world : World τ}
    (tracks : world.Tracks (context.service transport) policy payload state)
    {first : Landing} (told : world.answers = [first])
    (settles : (watch transport context world turns).ending = .settled) :
    ∃ before last, (watch transport context world turns).world.answers = before ++ [last] ∧
      (watch transport context world turns).lines =
        ((messages before).destutter (· ≠ ·)).map Line.remark := by
  have looks := lines_of_look loud tracks (told.trans (List.nil_append _).symm) none
    (fun goesOn last => lines_of_await loud uninterrupted turns spaced tracks (by simp [told])
      goesOn last) settles
  simp only [List.nil_append, unseen_none] at looks
  exact looks

omit loud in
/-- When the call that makes the submission returns, at most one answer has come. -/
theorem length_answers_awaitResult (transport : Transport τ) (context : Context) (turns : Turns)
    (spaced : turns.AreSpaced) {world : World τ}
    (tracks : world.Tracks (context.service transport) policy payload state)
    (few : world.answers.length ≤ 1) :
    (awaitResult transport context world turns).2.1.answers.length ≤ 1 := by
  induction turns generalizing world with
  | nil => exact few
  | cons incidents later ih =>
      rw [awaitResult]
      split
      · exact few
      · next pending =>
          have untold : world.answers = [] := by
            by_contra told
            rcases tracks.result?_of_answers told with ⟨jobId, returned⟩
            cases pending.symm.trans returned
          rcases answers_run_incidents (context.service transport) world incidents with
            ⟨added, grown, fewer⟩
          refine ih (fun turn listed => spaced turn (List.mem_cons_of_mem _ listed))
            (tracks.run_incidents incidents) ?_
          rw [grown, untold]
          exact Nat.le_trans fewer (spaced incidents List.mem_cons_self)

end Watch

/-- The call has returned a job, and the command watches it from then on. -/
inductive WatchesJob {τ : Type} (transport : Transport τ) (context : Context) (claimed : World τ)
    (turns : Turns) : String → Watched τ → Prop where
  | intro {jobId : String} {begun : World τ} {later : Turns}
      (returned : awaitResult transport context claimed turns = (some (.ok jobId), begun, later)) :
      WatchesJob transport context claimed turns jobId (watch transport context begun later)

theorem WatchesJob.returned {τ : Type} {transport : Transport τ} {context : Context}
    {claimed : World τ} {turns : Turns} {jobId : String} {watched : Watched τ}
    (watches : WatchesJob transport context claimed turns jobId watched) :
    (awaitResult transport context claimed turns).1 = some (.ok jobId) := by
  cases watches with
  | intro returned => rw [returned]

section Submit

open World

variable {τ : Type} {transport : Transport τ} {settings : Settings} {turns : Turns}
  {payload : Payload} {state : τ}

/-- Once the submission is over, the remaining turns bring nothing but the time. -/
theorem controllerAfter_of_over {count : Nat} {submission : Submission}
    (single : (controllerAfter transport settings turns state payload count).submissions =
      [submission])
    (isOver : submission.isLive = false) :
    ∃ now, controllerAfter transport settings turns state payload turns.length =
      { controllerAfter transport settings turns state payload count with now := now } := by
  rcases run_of_over single isOver (Client.service transport settings.mount)
    (turns.drop count).flatten with ⟨now, same⟩
  exact ⟨now, (run_drop_controllerAfter transport settings turns state payload count).symm.trans
    same⟩

/-- Once the phase is final, what the remaining turns bring is of no consequence. -/
theorem controllerAfter_of_isFinal {count : Nat}
    (final : (controllerAfter transport settings turns state payload count).snapshot.phase.isFinal =
      true) :
    let last := controllerAfter transport settings turns state payload turns.length
    last.snapshot = (controllerAfter transport settings turns state payload count).snapshot ∧
      last.answers = (controllerAfter transport settings turns state payload count).answers := by
  rcases (tracks_controllerAfter transport settings turns state payload count).over_of_isFinal
    final with ⟨submission, single, isOver⟩
  rcases controllerAfter_of_over single isOver with ⟨now, same⟩
  rw [same]
  exact ⟨rfl, rfl⟩

variable {jobId : String} {before : List Landing} {last : Landing}
  (finished : (controllerAfter transport settings turns state payload turns.length).Finished
    (Client.service transport settings.mount) payload state jobId before last)

include finished

/-- The call returns a job that comes to its end, and by then something has been told of it. -/
theorem returns_of_finished (quiet : Bool) :
    ∃ count,
      let begun := controllerAfter transport settings turns state payload count
      awaitResult transport ⟨settings, quiet⟩ (taken payload state settings.policy) turns =
          (some (.ok jobId), begun, turns.drop count) ∧
        begun.answers ≠ [] := by
  rcases awaitResult_taken transport ⟨settings, quiet⟩ turns state payload with
    ⟨count, awaited, all⟩
  have tracks := tracks_controllerAfter transport settings turns state payload count
  have accepted := finished.accepted
  have told := finished.answers
  have result := finished.result
  refine ⟨count, ?_⟩
  cases returned : Session.result? (controllerAfter transport settings turns state payload count) 0
    with
  | none =>
      -- All turns have come, and the call has returned by then.
      have everything : turns.take count = turns := all returned
      rw [controllerAfter, everything] at returned
      rw [controllerAfter, List.take_length] at result
      cases returned.symm.trans result
  | some answer =>
      cases answer with
      | error error =>
          rcases tracks.refused_of_result returned with ⟨cause, refused, -⟩
          cases refused.symm.trans accepted
      | ok other =>
          rcases Except.ok.inj ((tracks.accepted_of_result returned).symm.trans accepted) with rfl
          rw [returned] at awaited
          refine ⟨awaited, fun untold => ?_⟩
          rcases tracks.over_of_result returned untold with ⟨submission, single, isOver⟩
          rcases controllerAfter_of_over single isOver with ⟨now, same⟩
          rw [same] at told
          exact absurd (untold.symm.trans told) (by simp)

/-- It is watched to its end, whenever the command has its turns. -/
theorem settles_of_finished (uninterrupted : ∀ state, transport.interrupts state = false)
    (quiet : Bool) (count : Nat) :
    let ended := controllerAfter transport settings turns state payload turns.length
    let watched := watch transport ⟨settings, quiet⟩
      (controllerAfter transport settings turns state payload count) (turns.drop count)
    watched.ending = .settled ∧ watched.snapshot = ended.snapshot ∧
      watched.world.answers = ended.answers := by
  intro ended watched
  rcases watch_controllerAfter transport ⟨settings, quiet⟩ turns state payload count
    uninterrupted with ⟨_, reached, final, settled⟩ | ⟨_, ongoing, -⟩
  · rcases controllerAfter_of_isFinal final with ⟨snapshot, answers⟩
    rw [show watched = _ from settled]
    exact ⟨rfl, snapshot.symm, answers.symm⟩
  · cases finished.isFinal.symm.trans ongoing

end Submit

/-! ## What the command prints -/

theorem printed_append (quiet : Bool) (lines later : List Line) :
    printed quiet (lines ++ later) = printed quiet lines ++ printed quiet later := by
  simp [printed, Line.shown, String.join_append]

/-- If nobody wants quiet, remarks are printed. -/
theorem printed_remarks (texts : List String) :
    printed false (texts.map Line.remark) = String.join (texts.map (· ++ "\n")) := by
  simp [printed, Line.shown, Line.isShown, Line.remark, Function.comp_def, List.filter_map]

theorem printed_remark (settings : Settings) (text : String) :
    printed false (Context.remark ⟨settings, false⟩ text) = text ++ "\n" := by
  simp [printed, Context.remark, Line.shown, Line.isShown, Line.remark]

theorem printed_heading (settings : Settings) (text : String) :
    printed false (Context.heading ⟨settings, false⟩ text) = "\n" ++ text ++ "\n" := by
  simp [printed, Context.heading, Line.shown, Line.isShown, Line.remark, String.append_assoc]

theorem follow_lines_of_settled {τ : Type} {transport : Transport τ} {context : Context}
    {turns : Turns} {arguments : SubmitArguments} {jobId : String} {world : World τ}
    (settled : (watch transport context world turns).ending = .settled) (tree : Files.Tree) :
    let watched := watch transport context world turns
    (follow transport context turns arguments jobId world tree).lines =
      watched.lines ++ if watched.snapshot.phase = .failed then []
        else (complete transport context arguments jobId watched.snapshot watched.world
          tree).lines := by
  intro watched
  simp only [follow, settled, Outcome.after, beq_iff_eq, watched]
  split <;> rfl

open World in
/-- The progress of a job is printed after the line that says that the job has been created: the
messages of the answers before the one that stops the polling, in order, each unless it repeats the
one before it. This is so whatever the answers are, whatever time they take, and even if the first
of them is the last, if nobody wants quiet and the command has a turn between any two answers. What
else is printed is what follows if the job is completed. And whenever the command has its turns, the
watching ends, and it ends with the snapshot that the last answer has left behind. -/
theorem progress_is_printed_once {environment : Environment} {settings : Settings}
    (configured : Settings.ofEnvironment environment = .ok settings) {τ : Type}
    {transport : Transport τ} (uninterrupted : ∀ state, transport.interrupts state = false)
    {arguments : SubmitArguments} {payload : Payload}
    (valid : arguments.request.check = .ok payload) (schedule : Schedule) (tree : Files.Tree)
    (state : τ) {before : List Landing} {last : Landing} :
    let turns := schedule.turns settings.policy
    let ended := controllerAfter transport settings turns state payload turns.length
    ended.answers = before ++ [last] → last.stops ended.deadline? = true →
      let outcome := (Command.submit arguments).run transport environment false schedule tree state
      let progress := (messages before).destutter (· ≠ ·)
      (∀ earlier ∈ before, earlier.stops ended.deadline? = false) ∧
      ∃ jobId watched,
        WatchesJob transport ⟨settings, false⟩ (taken payload state settings.policy) turns jobId
          watched ∧
        watched.ending = .settled ∧ watched.snapshot = ended.snapshot ∧
        ended.snapshot.phase.isFinal = true ∧
        ended.snapshot = ended.policy.snapshotAfterAll ended.deadline?
          ((Snapshot.submitting payload.address).tracking jobId) (before ++ [last]) ∧
        (turns.AreSpaced →
          (Printout.ofOutcome outcome).output =
            s!"\nGenerating report for {Text.trim arguments.request.address}\n" ++
              s!"Job {jobId} created\n" ++ String.join (progress.map (· ++ "\n")) ++
              printed false (if watched.snapshot.phase = .failed then []
                else (complete transport ⟨settings, false⟩ arguments jobId watched.snapshot
                  watched.world tree).lines)) := by
  intro turns ended answers stops outcome progress
  have tracks := tracks_controllerAfter transport settings turns state payload turns.length
  rcases tracks.finished_of_stops answers stops with ⟨jobId, finished⟩
  rcases returns_of_finished finished false with ⟨count, returned, told⟩
  rcases settles_of_finished finished uninterrupted false count with ⟨settled, snapshot, seen⟩
  refine ⟨finished.ongoing, jobId, _, .intro returned, settled, snapshot, finished.isFinal,
    finished.shown, fun spaced => ?_⟩
  -- The first answer has come when the watching starts, and the later ones come while it lasts.
  have begun := tracks_controllerAfter transport settings turns state payload count
  have few := length_answers_awaitResult transport ⟨settings, false⟩ turns
    spaced (tracks_taken (Client.service transport settings.mount) payload state
      settings.policy) (Nat.zero_le 1)
  rw [returned] at few
  obtain ⟨first, one⟩ : ∃ first, (controllerAfter transport settings turns state payload
      count).answers = [first] :=
    List.length_eq_one_iff.mp (Nat.le_antisymm few (List.length_pos_of_ne_nil told))
  have loud : (Context.mk settings false).quiet = false := rfl
  rcases lines_of_watch loud uninterrupted (turns.drop count)
    (fun turn listed => spaced turn (List.mem_of_mem_drop listed)) begun one settled with
    ⟨shown, final, all, lines⟩
  rw [seen, answers] at all
  rcases List.append_inj' all rfl with ⟨rfl, -⟩
  have carried : outcome = submit transport ⟨settings, false⟩ turns arguments tree state := by
    change (Command.submit arguments).run transport environment false schedule tree state = _
    rw [Command.run, configured]
    rfl
  rw [Printout.output_ofOutcome, carried, submit_of_ok valid returned, Outcome.after,
    follow_lines_of_settled settled, lines]
  rw [printed_append, printed_append, printed_append, printed_heading, printed_remark,
    printed_remarks]
  simp only [String.append_assoc]
  rfl

/-- What a server says of a job that goes back into the queue. -/
def hesitation (count : Nat) : Delivery :=
  let body := match count with
    | 0 => "\x7b\"status\":\"queued\",\"job_id\":\"3f2a-91\"\x7d"
    | 1 | 2 => "\x7b\"job_id\":\"3f2a-91\",\"status\":\"queued\"\x7d"
    | 3 => "\x7b\"job_id\":\"3f2a-91\",\"status\":\"processing\"\x7d"
    | 4 => "\x7b\"job_id\":\"3f2a-91\",\"status\":\"queued\"\x7d"
    | _ => "\x7b\"job_id\":\"3f2a-91\",\"status\":\"failed\"\x7d"
  .answered ⟨200, [], Text.Utf8.encode body.toList, true⟩

def hesitant : Transport Nat where
  send _ count := (hesitation count, count + 1)
  interrupts _ := false
  charsets := .basic

/-- Answers take three seconds, and the job goes back into the queue once. -/
def slowly : Schedule where
  turns policy :=
    [.pass 3000, .act .receiveCreate] ::
      List.replicate 5 [.pass policy.interval, .act .askStatus, .pass 3000, .act .receiveStatus]

open World in
theorem progress_of_hesitant_job :
    let settings : Settings := ⟨"http://localhost:8080", Mount.standardPath, 5000, none⟩
    let payload := elmStreet.request.payload none
    let turns := slowly.turns settings.policy
    let ended := controllerAfter hesitant settings turns 0 payload turns.length
    let queued := "Report queued for generation (selected audits)…"
    let processing := "Report generation in progress (selected audits)…"
    Settings.ofEnvironment localhost = .ok settings ∧
      (∀ state, hesitant.interrupts state = false) ∧ elmStreet.request.check = .ok payload ∧
      turns.AreSpaced ∧
      ∃ before last, ended.answers = before ++ [last] ∧ last.stops ended.deadline? = true ∧
        messages before = [queued, queued, processing, queued] ∧
        (Printout.ofOutcome ((Command.submit elmStreet).run hesitant localhost false slowly .empty
          0)).output =
          "\nGenerating report for 12 Elm St\nJob 3f2a-91 created\n" ++
            String.join ([queued, processing, queued].map (· ++ "\n")) := by
  intro settings payload turns ended queued processing
  have configured : Settings.ofEnvironment localhost = .ok settings := rfl
  have uninterrupted : ∀ state, hesitant.interrupts state = false := fun _ => rfl
  have valid : elmStreet.request.check = .ok payload := by decide +kernel
  have spaced : turns.AreSpaced := by
    unfold Turns.AreSpaced
    decide +kernel
  have told : ended.answers.getLast?.any (·.stops ended.deadline?) = true ∧
      messages ended.answers.dropLast = [queued, queued, processing, queued] ∧
      ended.snapshot.phase = .failed ∧
      (awaitResult hesitant ⟨settings, false⟩ (taken payload 0 settings.policy) turns).1 =
        some (.ok "3f2a-91") := by
    decide +kernel
  rcases told with ⟨ends, said, failed, returned⟩
  rcases (Option.any_eq_true _ _).mp ends with ⟨last, isLast, stops⟩
  rcases List.getLast?_eq_some_iff.mp isLast with ⟨before, answers⟩
  rw [answers, List.dropLast_concat] at said
  refine ⟨configured, uninterrupted, valid, spaced, before, last, answers, stops, said, ?_⟩
  rcases progress_is_printed_once configured uninterrupted valid slowly .empty 0 answers stops with
    ⟨-, jobId, watched, watches, -, snapshot, -, -, prints⟩
  rcases Except.ok.inj (Option.some.inj (watches.returned.symm.trans returned)) with rfl
  rw [prints spaced, said, snapshot, if_pos failed]
  decide +kernel

end CommandLine

end AuditReports
