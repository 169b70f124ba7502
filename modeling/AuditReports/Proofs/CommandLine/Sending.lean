import AuditReports.CommandLine.Run
import AuditReports.Proofs.Api.Calls
import AuditReports.Proofs.Controller.Asking

/-!
# What a command sends

A command that submits a report sends nothing but the request for the job and requests that only
read. This is so however the job fares, whether or not the operator interrupts, and whatever happens
before the turns of the command. So what all of these requests keep, the command keeps.
-/

namespace AuditReports

namespace Client

variable {τ : Type} {transport : Transport τ} {mount : Mount} {ours : Payload → Prop}
  {holds : τ → Prop}

/-- A request that only reads, or the one for the job of a certain kind of payload. -/
inductive Sends (mount : Mount) (ours : Payload → Prop) (request : HttpRequest) : Prop where
  | reads (method : request.method = .get)
  | creates {payload : Payload} (kind : ours payload)
      (found : (Call.createJob payload).request? mount = some request)

section Keeps

variable (sends : ∀ request state, Sends mount ours request → holds state →
  holds (transport.send request state).2)

include sends

theorem holds_call {α : Type} {request : Option HttpRequest}
    (read : Text.Charset.Library → HttpResponse → Except CallError α) {state : τ}
    (allowed : ∀ sent, request = some sent → Sends mount ours sent) (before : holds state) :
    holds (call transport request read state).2 := by
  cases request with
  | none => exact before
  | some request =>
      have left : (call transport (some request) read state).2 =
          (transport.send request state).2 := by
        rcases sent : transport.send request state with ⟨_ | response, after⟩ <;>
          simp only [call, send, sent]
      rw [left]
      exact sends request state (allowed request rfl) before

theorem holds_get {α : Type} {path : String} (accept : String)
    (read : Text.Charset.Library → HttpResponse → Except CallError α) {state : τ}
    (before : holds state) :
    holds (call transport ((target? mount path).map (get · accept)) read state).2 := by
  refine holds_call sends read (fun sent found => ?_) before
  rcases Option.map_eq_some_iff.mp found with ⟨target, _, rfl⟩
  exact .reads rfl

theorem service_keeps : (service transport mount).Keeps ours holds := by
  refine ⟨?_, ?_, ?_⟩
  · intro payload state kind before
    have answered : ((service transport mount).create payload state).2 =
        (createJob transport mount payload state).2 := rfl
    have requested : (Call.createJob payload).request? mount =
        (target? mount "/reports").map fun target => withBody .post target payload.node := rfl
    rw [answered, createJob, ← requested]
    split
    · exact before
    · exact holds_call sends _ (fun _ found => .creates kind found) before
  · intro jobId state before
    have asked : (service transport mount).status jobId state =
        job transport mount jobId state := by simp only [service]
    rw [asked, job]
    exact holds_get sends acceptJson _ before
  · intro jobId state before
    have asked : (service transport mount).download jobId state =
        report transport mount jobId state := by simp only [service]
    rw [asked, report]
    exact holds_get sends acceptArtifact _ before

end Keeps

end Client

namespace CommandLine

theorem saveReport_state {τ : Type} (context : Context) (directory : String)
    (artifact : Artifact) (tree : Files.Tree) (state : τ) :
    (saveReport context directory artifact tree state).state = state := by
  rw [saveReport]
  rcases Files.save tree directory artifact with ⟨after, error | path⟩ <;> rfl

section Keeps

variable {τ : Type} {transport : Transport τ} {context : Context} {ours : Payload → Prop}
  {holds : τ → Prop} (keeps : (context.service transport).Keeps ours holds)

include keeps

theorem asksFor_interrupt {world : World τ} (asks : world.AsksFor ours holds) :
    (interrupt transport context world).AsksFor ours holds := by
  rw [interrupt]
  generalize context.service transport = service at keeps
  exact World.AsksFor.halt keeps ⟨keeps.status _ _ asks.service, asks.payloads⟩

theorem asksFor_incident {world : World τ} (asks : world.AsksFor ours holds)
    (incident : Incident) :
    (world.occur (context.service transport) incident.event).AsksFor ours holds := by
  refine asks.occur keeps fun request payload submitted => ?_
  cases incident <;> cases submitted

theorem asksFor_letHappen (incidents : List Incident) {world : World τ}
    (asks : world.AsksFor ours holds) :
    (letHappen transport context world incidents).1.AsksFor ours holds := by
  induction incidents generalizing world with
  | nil => exact asks
  | cons incident later ih =>
      rw [letHappen]
      split
      · exact asksFor_interrupt keeps asks
      · exact ih (asksFor_incident keeps asks incident)

omit keeps in
theorem asksFor_look {watcher : Watcher} {world : World τ} {wait : Option String → Watched τ}
    (asks : world.AsksFor ours holds) (waits : ∀ last, (wait last).world.AsksFor ours holds)
    (last : Option String) :
    (look context last watcher world wait).world.AsksFor ours holds := by
  rw [look]
  split
  · exact asks
  · exact waits _

theorem asksFor_await (turns : Turns) (watcher : Watcher) {world : World τ}
    (asks : world.AsksFor ours holds) (last : Option String) :
    (await transport context watcher world turns last).world.AsksFor ours holds := by
  induction turns generalizing watcher world last with
  | nil => exact asks
  | cons incidents later ih =>
      have happened := asksFor_letHappen keeps incidents asks
      rw [await]
      split
      · next interrupted =>
          rw [interrupted] at happened
          exact happened
      · next goesOn =>
          rw [goesOn] at happened
          split
          · exact ih watcher happened last
          · exact asksFor_look happened (ih _ happened) last

theorem asksFor_watch (turns : Turns) {world : World τ} (asks : world.AsksFor ours holds) :
    (watch transport context world turns).world.AsksFor ours holds :=
  asksFor_look asks (asksFor_await keeps turns _ asks) none

theorem asksFor_awaitResult (turns : Turns) {world : World τ} (asks : world.AsksFor ours holds) :
    (awaitResult transport context world turns).2.1.AsksFor ours holds := by
  induction turns generalizing world with
  | nil => exact asks
  | cons incidents later ih =>
      rw [awaitResult]
      split
      · exact asks
      · refine ih (asks.run keeps fun request payload listed => ?_)
        rcases List.mem_map.mp listed with ⟨incident, -, submitted⟩
        cases incident <;> cases submitted

theorem holds_complete (arguments : SubmitArguments) (jobId : String) (settled : Snapshot)
    {world : World τ} (asks : world.AsksFor ours holds) (tree : Files.Tree) :
    holds (complete transport context arguments jobId settled world tree).state := by
  have fetched := asks.download keeps jobId
  simp only [complete]
  split
  · exact asks.service
  · split
    · next next error failed =>
        rw [failed] at fetched
        exact fetched.service
    · next next artifact arrived =>
        rw [arrived] at fetched
        rw [Outcome.after, saveReport_state]
        exact fetched.service

theorem holds_follow (turns : Turns) (arguments : SubmitArguments) (jobId : String)
    {world : World τ} (asks : world.AsksFor ours holds) (tree : Files.Tree) :
    holds (follow transport context turns arguments jobId world tree).state := by
  have watched := asksFor_watch keeps turns asks
  simp only [follow, Outcome.after]
  split
  · exact watched.service
  · exact watched.service
  · split
    · exact watched.service
    · exact holds_complete keeps arguments jobId _ watched tree

/-- What the calls keep, the command keeps. -/
theorem holds_submit (turns : Turns) (arguments : SubmitArguments)
    (passes : ∀ payload, arguments.request.check = .ok payload → ours payload) (tree : Files.Tree)
    {state : τ} (before : holds state) :
    holds (submit transport context turns arguments tree state).state := by
  have start : (World.start context.policy 0 none state).AsksFor ours holds :=
    ⟨before, fun _ listed => by cases listed⟩
  simp only [submit, Outcome.after]
  split
  · exact before
  · next world claimed =>
      have asks := asksFor_awaitResult keeps turns (start.claim keeps passes claimed)
      split
      · next ended =>
          rw [ended] at asks
          exact asks.service
      · next ended =>
          rw [ended] at asks
          exact asks.service
      · next ended =>
          rw [ended] at asks
          exact holds_follow keeps _ arguments _ asks tree

end Keeps

end CommandLine

end AuditReports
