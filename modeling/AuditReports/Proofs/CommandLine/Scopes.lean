import AuditReports.Proofs.CommandLine.Submitting
import AuditReports.Proofs.Report.Payloads

/-!
# What a submission asks for

However the watching goes, and whether or not it is interrupted, the only call of the command that
posts anything is the one for the job, and what it posts is the payload of the request that was put
together from the command line. The visits on the command line and those in the body of the request
are therefore the same, up to white space: no selection is lost on the way, so a report that was to
draw on some visits is not asked for on all.
-/

namespace AuditReports

namespace Traffic

/-- All that has been posted is a request for the job of a certain kind of payload. -/
def PostsOnly (mount : Mount) (ours : Payload → Prop) (traffic : Traffic) : Prop :=
  ∀ sent ∈ traffic, sent.1.method = .post →
    ∃ payload, ours payload ∧ (Call.createJob payload).request? mount = some sent.1

theorem PostsOnly.concat {mount : Mount} {ours : Payload → Prop} {traffic : Traffic}
    (before : traffic.PostsOnly mount ours) {request : HttpRequest}
    (sends : Client.Sends mount ours request) (delivery : Delivery) :
    PostsOnly mount ours (traffic ++ [(request, delivery)]) := by
  intro sent listed post
  rcases List.mem_append.mp listed with earlier | last
  · exact before sent earlier post
  · rcases List.mem_singleton.mp last with rfl
    cases sends with
    | reads method => cases method.symm.trans post
    | creates kind found => exact ⟨_, kind, found⟩

end Traffic

namespace CommandLine

/-- Every post of the command asks for the job of the payload that the command line stands for. -/
theorem postsOnly_submit {τ : Type} (transport : Transport τ) {environment : Environment}
    {settings : Settings} (configured : Settings.ofEnvironment environment = .ok settings)
    (arguments : SubmitArguments) (schedule : Schedule) (quiet : Bool) (tree : Files.Tree)
    (state : τ) :
    Traffic.PostsOnly settings.mount (fun payload => arguments.request.check = .ok payload)
      ((Command.submit arguments).run transport.recorded environment quiet schedule tree
        (state, [])).state.2 := by
  have keeps : (Context.service ⟨settings, quiet⟩ transport.recorded).Keeps
      (fun payload => arguments.request.check = .ok payload)
      fun state => state.2.PostsOnly settings.mount
        fun payload => arguments.request.check = .ok payload :=
    Client.service_keeps fun request state sends before => before.concat sends _
  have started : Traffic.PostsOnly settings.mount
      (fun payload => arguments.request.check = .ok payload) [] := fun _ listed => by cases listed
  rw [Command.run, configured]
  exact holds_submit keeps _ arguments (fun _ passes => passes) tree started

namespace SubmitArguments

/-- The visits on a command line that name one, trimmed. -/
def keptVisits (arguments : SubmitArguments) : List String :=
  (arguments.visits.map Text.trim).filter (· ≠ "")

theorem sent_visits (arguments : SubmitArguments) :
    arguments.request.visits.sent =
      if arguments.visits = [] then none else some arguments.keptVisits := by
  rw [request, keptVisits]
  cases arguments.visits <;> rfl

variable {arguments : SubmitArguments} {payload : Payload}
  (passes : arguments.request.check = .ok payload)

include passes

theorem visitIds_of_check :
    payload.visitIds = if arguments.visits = [] then none else some arguments.keptVisits := by
  rcases ReportRequest.check_eq_ok_iff.mp passes with ⟨_, rfl⟩
  exact arguments.sent_visits

/-- A selection of which nothing is left does not pass. -/
theorem keptVisits_ne_nil_of_check (given : arguments.visits ≠ []) : arguments.keptVisits ≠ [] := by
  rcases ReportRequest.check_eq_ok_iff.mp passes with ⟨valid, _⟩
  have nonempty := valid.visits.sent_ne
  rw [sent_visits, if_neg given] at nonempty
  exact fun none => nonempty (congrArg some none)

theorem deficiencyOnly_of_check :
    payload.deficiencyOnly = if arguments.deficiencyOnly then some true else none := by
  rcases ReportRequest.check_eq_ok_iff.mp passes with ⟨_, rfl⟩
  rfl

end SubmitArguments

open Json in
/-- The scope of a report is the same on the command line and in the body of the request, whatever
the service answers and however the command ends. Visits are named in the body exactly if some are
given on the command line; those that are blank are left out, and if all of them are, nothing is
sent. -/
theorem submit_keeps_scope {τ : Type} (transport : Transport τ) (environment : Environment)
    (arguments : SubmitArguments) (schedule : Schedule) (quiet : Bool) (tree : Files.Tree)
    (state : τ) :
    let outcome := (Command.submit arguments).run transport.recorded environment quiet schedule
      tree (state, [])
    let kept := (arguments.visits.map Text.trim).filter (· ≠ "")
    ∀ request delivery, (request, delivery) ∈ outcome.state.2 → request.method = .post →
      ∃ body members, request.body = some body ∧ Node.parse? body = some (.ofMembers members) ∧
        (∀ node, ("visit_ids", node) ∈ members ↔
          arguments.visits ≠ [] ∧ node = .array (kept.map .ofText)) ∧
        (arguments.visits ≠ [] → kept ≠ []) ∧
        (∀ node, ("deficiency_only", node) ∈ members ↔
          arguments.deficiencyOnly = true ∧ node = .boolean true) ∧
        (∀ member ∈ members, Text.trim member.1 = member.1 ∧ member.1 ≠ "") ∧
        (∀ text, (Node.string text).Occurs (.ofMembers members) →
          ∃ content, text = some content ∧ Text.trim content = content ∧ content ≠ "") ∧
        ¬ Node.null.Occurs (.ofMembers members) := by
  intro outcome kept request delivery listed post
  cases configured : Settings.ofEnvironment environment with
  | error error =>
      have unsent : outcome.state.2 = [] := by
        change ((Command.submit arguments).run transport.recorded environment quiet schedule tree
          (state, [])).state.2 = []
        rw [Command.run, configured]
      rw [unsent] at listed
      cases listed
  | ok settings =>
      rcases postsOnly_submit transport configured arguments schedule quiet tree state _ listed
        post with
        ⟨payload, passes, found⟩
      rcases Option.map_eq_some_iff.mp found with ⟨target, _, sent⟩
      have body : request.body = some payload.node.text := congrArg HttpRequest.body sent.symm
      refine ⟨_, payload.members, body, payload.parse?_text_node, fun node => ?_,
        SubmitArguments.keptVisits_ne_nil_of_check passes, fun node => ?_, fun member listed => ?_,
        fun text occurs => ?_, Payload.not_occurs_null_node⟩
      · rw [Payload.visit_ids_mem_members, SubmitArguments.visitIds_of_check passes]
        by_cases none : arguments.visits = [] <;>
          simp [none, kept, SubmitArguments.keptVisits]
      · rw [Payload.deficiency_only_mem_members, SubmitArguments.deficiencyOnly_of_check passes]
        cases arguments.deficiencyOnly <;> simp
      · have named : ∀ name ∈ Payload.names, Text.trim name = name ∧ name ≠ "" := by
          decide +kernel
        exact named member.1 (Payload.mem_names listed)
      · rcases Payload.occurs_string_node occurs with ⟨content, inside, rfl⟩
        rcases ReportRequest.check_eq_ok_iff.mp passes with ⟨valid, rfl⟩
        exact ⟨content, rfl, valid.trimmed inside⟩

/-- The list of the deficiencies of two visits. -/
def twoVisits : SubmitArguments :=
  { elmStreet with visits := [" v-2 ", "", "v-1"], deficiencyOnly := true }

open Json in
theorem two_visits_are_sent :
    let outcome := (Command.submit twoVisits).run Transport.offline.recorded localhost false
      (.prompt 5) .empty ((), [])
    ∃ request delivery body members, (request, delivery) ∈ outcome.state.2 ∧
      request.method = .post ∧ request.body = some body ∧
      Node.parse? body = some (.ofMembers members) ∧
      ("visit_ids", .array [.ofText "v-2", .ofText "v-1"]) ∈ members ∧
      ("deficiency_only", .boolean true) ∈ members := by
  intro outcome
  have methods : outcome.state.2.map (·.1.method) = [.post] := by decide +kernel
  rcases List.map_eq_cons_iff.mp methods with ⟨⟨request, delivery⟩, rest, traffic, post, _⟩
  have listed : (request, delivery) ∈ outcome.state.2 := traffic ▸ List.mem_cons_self
  rcases submit_keeps_scope Transport.offline localhost twoVisits (.prompt 5) false .empty ()
    request delivery listed post with ⟨body, members, carried, read, visits, _, flag, _⟩
  have kept : (twoVisits.visits.map Text.trim).filter (· ≠ "") = ["v-2", "v-1"] := by
    decide +kernel
  rw [kept] at visits
  exact ⟨request, delivery, body, members, listed, post, carried, read,
    (visits _).mpr ⟨by decide, rfl⟩, (flag _).mpr ⟨rfl, rfl⟩⟩

end CommandLine

end AuditReports
