import AuditReports.Proofs.Api.Contents

/-!
# Answers and their members

Each kind of answer has a shape, and it is read by a reader of that shape: every field is read by a
reader of its own shape, and nothing else of the document is looked at. So an answer depends on the
members that it is written with and on nothing else about it. Each reader is also a faithful one:
what is written for a field is what the field holds, in the records within an answer too. Three
records are open: a location, its overview and the header of an audit. They keep what is not
declared, so their fields and what they have collected account for every member.
-/

namespace AuditReports

open Json

/-! ## The shapes of the records -/

/-- A record of single values that collects nothing. -/
def Json.Shape.flat (declared : List String) : Shape :=
  .record false declared fun _ => .plain

def LocationPage.shape : Shape :=
  .record false LocationPage.declared fun
    | "items" => .list (.flat LocationEntry.declared)
    | _ => .plain

def LocationOverview.shape : Shape :=
  .record true LocationOverview.declared fun _ => .plain

def Location.shape : Shape :=
  .record true Location.declared fun
    | "summary" => LocationOverview.shape
    | "visits" => .list (.flat Visit.declared)
    | "reports" => .list (.flat IssuedReport.declared)
    | "deficiency_reports" => .list (.flat IssuedReport.declared)
    | _ => .plain

def AuditHeader.shape : Shape :=
  .record true AuditHeader.declared fun _ => .plain

def Audit.shape : Shape :=
  .record false Audit.declared fun
    | "audit" => AuditHeader.shape
    | "deficiencies" => .list (.flat Deficiency.declared)
    | "photos" => .list .plain
    | _ => .plain

/-! ## The readers of the shapes -/

namespace Json.Shape.ReadBy

theorem job : (flat Job.declared).ReadBy Job.ofNode? := by
  refine .record fun agree => ?_
  simp (disch := decide) only [agree.required _ .text?, agree.required _ (.map .text? _),
    agree.optional _ .text?, agree.defaulted _ .boolean?, agree.optional _ .size?,
    agree.optional _ .integer?, agree.optional _ .count?]

theorem jobCreated : (flat JobCreated.declared).ReadBy JobCreated.ofNode? := by
  refine .record fun agree => ?_
  simp (disch := decide) only [agree.required _ .text?, agree.optional _ .text?]

theorem locationEntry : (flat LocationEntry.declared).ReadBy LocationEntry.ofNode? := by
  refine .record fun agree => ?_
  simp (disch := decide) only [agree.required _ .text?, agree.optional _ .text?,
    agree.optional _ .integer?, agree.defaulted _ .count?]

theorem locationPage : LocationPage.shape.ReadBy LocationPage.ofNode? := by
  refine .record fun agree => ?_
  simp (disch := decide) only [agree.required _ .count?, agree.required _ .size?,
    agree.required "items" (.list? .locationEntry)]

theorem locationOverview (levels : Nat) :
    LocationOverview.shape.ReadBy (LocationOverview.ofNode? levels) := by
  refine .openRecord fun agree extra => ?_
  simp (disch := decide) only [agree.required _ .text?, agree.optional _ .text?,
    agree.optional _ .integer?, agree.defaulted _ .count?]

theorem visit : (flat Visit.declared).ReadBy Visit.ofNode? := by
  refine .record fun agree => ?_
  simp (disch := decide) only [agree.optional _ .text?, agree.defaulted _ .count?]

theorem issuedReport : (flat IssuedReport.declared).ReadBy IssuedReport.ofNode? := by
  refine .record fun agree => ?_
  simp (disch := decide) only [agree.required _ .text?, agree.optional _ .text?,
    agree.optional _ .integer?, agree.optional _ .size?, agree.optional _ .boolean?,
    agree.optional _ .count?]

theorem location : Location.shape.ReadBy Location.ofNode? := by
  refine .openRecord fun agree extra => ?_
  simp (disch := decide) only [agree.required "summary" (.locationOverview _),
    agree.defaulted "visits" (.list? .visit), agree.defaulted "reports" (.list? .issuedReport),
    agree.defaulted "deficiency_reports" (.list? .issuedReport)]

theorem auditHeader (levels : Nat) : AuditHeader.shape.ReadBy (AuditHeader.ofNode? levels) := by
  refine .openRecord fun agree extra => ?_
  simp (disch := decide) only [agree.required _ .text?, agree.optional _ .text?]

theorem deficiency : (flat Deficiency.declared).ReadBy Deficiency.ofNode? := by
  refine .record fun agree => ?_
  simp (disch := decide) only [agree.optional _ .text?, agree.optional _ .integer?]

theorem audit : Audit.shape.ReadBy Audit.ofNode? := by
  refine .record fun agree => ?_
  simp (disch := decide) only [agree.required "audit" (.auditHeader _),
    agree.defaulted "deficiencies" (.list? .deficiency),
    agree.defaulted "photos" (.list? (.value? _))]

theorem deficiencyChange : (flat DeficiencyChange.declared).ReadBy DeficiencyChange.ofNode? := by
  refine .record fun agree => ?_
  simp (disch := decide) only [agree.required _ .text?, agree.required _ .boolean?,
    agree.optional _ .text?]

end Json.Shape.ReadBy

/-! ## Answers -/

/-- The kinds of answers that are read into records. -/
inductive Answer where
  | job
  | jobCreated
  | locationPage
  | location
  | audit
  | deficiencyChange

namespace Answer

def Content : Answer → Type
  | .job => Job
  | .jobCreated => JobCreated
  | .locationPage => LocationPage
  | .location => Location
  | .audit => Audit
  | .deficiencyChange => DeficiencyChange

def ofNode? : (answer : Answer) → Node → Option answer.Content
  | .job => Job.ofNode?
  | .jobCreated => JobCreated.ofNode?
  | .locationPage => LocationPage.ofNode?
  | .location => Location.ofNode?
  | .audit => Audit.ofNode?
  | .deficiencyChange => DeficiencyChange.ofNode?

def shape : Answer → Shape
  | .job => .flat Job.declared
  | .jobCreated => .flat JobCreated.declared
  | .locationPage => LocationPage.shape
  | .location => Location.shape
  | .audit => Audit.shape
  | .deficiencyChange => .flat DeficiencyChange.declared

theorem readBy_shape (answer : Answer) : answer.shape.ReadBy answer.ofNode? :=
  match answer with
  | .job => .job
  | .jobCreated => .jobCreated
  | .locationPage => .locationPage
  | .location => .location
  | .audit => .audit
  | .deficiencyChange => .deficiencyChange

/-- What an answer that is read has been written with. -/
def Tells : (answer : Answer) → Node → answer.Content → Prop
  | .job => Record.Tells Job.fields
  | .jobCreated => Record.Tells JobCreated.fields
  | .locationPage => Record.Tells LocationPage.fields
  | .location => Location.Tells
  | .audit => Record.Tells Audit.fields
  | .deficiencyChange => Record.Tells DeficiencyChange.fields

theorem faithful (answer : Answer) : Faithful answer.ofNode? answer.Tells :=
  match answer with
  | .job => .job
  | .jobCreated => .jobCreated
  | .locationPage => .locationPage
  | .location => .location
  | .audit => .audit
  | .deficiencyChange => .deficiencyChange

end Answer

/-! ## The members of open records -/

/-- The members of a location are accounted for, and so are those of its overview. -/
theorem Location.Tells.accounts {members : List (Option String × Node)} {location : Location}
    (tells : Tells (.object members) location) :
    Record.Accounts fields (nestingLimit - 1) members location location.extra ∧
      ∃ inner, (some "summary", .object inner) ∈ members ∧
        Record.Accounts LocationOverview.fields (nestingLimit - 2) inner location.summary
          location.summary.extra := by
  rcases tells with ⟨_, ⟨⟩, tells, accounts⟩
  rcases tells.exists_of_required (List.mem_cons_self ..) with ⟨node, listed, inner, rfl, _, within⟩
  exact ⟨accounts, inner, listed, within⟩

theorem Audit.accounts_of_tells {members : List (Option String × Node)} {audit : Audit}
    (tells : Record.Tells fields (.object members) audit) :
    ∃ inner, (some "audit", .object inner) ∈ members ∧
      Record.Accounts AuditHeader.fields (nestingLimit - 2) inner audit.audit
        audit.audit.extra := by
  rcases tells.exists_of_required (List.mem_cons_self ..) with ⟨node, listed, inner, rfl, _, within⟩
  exact ⟨inner, listed, within⟩

namespace Answer

/-- An answer depends on its members only, and loses none that it should keep. In whatever order
the members come, at any depth, it reads as the same answer or as none, and members that are not
declared change nothing for a record that is not an open one. Of an answer that is read, each
declared field holds what is written for it, in the records within it too. In an open record each
member is told by a declared field or has been collected with its value, and nothing else has. -/
theorem read_from_members :
    (∀ (answer : Answer) (node other : Node), node.DistinctNames →
      Node.Alike answer.shape node other → answer.ofNode? other = answer.ofNode? node) ∧
    (∀ (answer : Answer) (node : Node) (content : answer.Content), node.DistinctNames →
      answer.ofNode? node = some content → answer.Tells node content) ∧
    (∀ (members : List (Option String × Node)) (location : Location),
      (Node.object members).DistinctNames → Location.ofNode? (.object members) = some location →
      Record.Accounts Location.fields (nestingLimit - 1) members location location.extra ∧
        ∃ inner, (some "summary", .object inner) ∈ members ∧
          Record.Accounts LocationOverview.fields (nestingLimit - 2) inner location.summary
            location.summary.extra) ∧
    ∀ (members : List (Option String × Node)) (audit : Audit),
      (Node.object members).DistinctNames → Audit.ofNode? (.object members) = some audit →
      ∃ inner, (some "audit", .object inner) ∈ members ∧
        Record.Accounts AuditHeader.fields (nestingLimit - 2) inner audit.audit
          audit.audit.extra :=
  ⟨fun answer => answer.readBy_shape, fun answer => answer.faithful,
    fun _ _ distinct read => (Faithful.location _ _ distinct read).accounts,
    fun _ _ distinct read => Audit.accounts_of_tells (Faithful.audit _ _ distinct read)⟩

/-! A location with a visit, in two versions, and an audit. -/

def visit : List (String × Node) :=
  [("visit_id", .ofText "v1"), ("audit_count", .ofInt 2)]

def overview : List (String × Node) :=
  [("address", .ofText "1 Elm"), ("codes", .ofMembers [("A1", .ofInt 3)])]

def told : List (Option String × Node) :=
  [(some "summary", .ofMembers overview), (some "visits", .array [.ofMembers visit]),
    (some "risk", .ofText "low")]

def toldAgain : List (Option String × Node) :=
  [(some "risk", .ofText "low"), (some "summary", .ofMembers overview.reverse),
    (some "visits", .array [.ofMembers (("weather", .null) :: visit.reverse)])]

def header : List (String × Node) :=
  [("height", .ofInt 12), ("audit_uuid", .ofText "a-1")]

theorem distinctNames_text (text : Option String) : (Node.string text).DistinctNames :=
  Node.distinctNames_of_not_compound nofun nofun

theorem distinctNames_number (literal : Literal) : (Node.number literal).DistinctNames :=
  Node.distinctNames_of_not_compound nofun nofun

theorem distinctNames_told : (Node.object told).DistinctNames := by
  simp [told, overview, visit, Node.ofMembers, Node.ofText, Node.ofInt, distinctNames_text,
    distinctNames_number, Node.distinctNames_object_iff, Node.distinctNames_array_iff]

theorem alike_told : Node.Alike Location.shape (.object told) (.object toldAgain) := by
  have summary : Node.Alike LocationOverview.shape (.ofMembers overview)
      (.ofMembers overview.reverse) :=
    .reordered (.object [(some "address", .ofText "1 Elm", .ofText "1 Elm"),
      (some "codes", .ofMembers [("A1", .ofInt 3)], .ofMembers [("A1", .ofInt 3)])] rfl
      (List.reverse_perm [(some "address", Node.ofText "1 Elm"),
        (some "codes", Node.ofMembers [("A1", .ofInt 3)])])
      (by simpa using ⟨.same _, .same _⟩))
  have visits : Node.Alike (.flat Visit.declared) (.ofMembers visit)
      (.ofMembers (("weather", .null) :: visit.reverse)) :=
    .record [(some "visit_id", .ofText "v1", .ofText "v1"),
      (some "audit_count", .ofInt 2, .ofInt 2)] [("weather", .null)] rfl
      (List.reverse_perm [(some "visit_id", Node.ofText "v1"), (some "audit_count", Node.ofInt 2),
        (some "weather", Node.null)])
      (by decide) nofun (by simpa using ⟨.reordered (.same _), .reordered (.same _)⟩)
  refine .record [(some "summary", .ofMembers overview, .ofMembers overview.reverse),
    (some "visits", .array [.ofMembers visit],
      .array [.ofMembers (("weather", .null) :: visit.reverse)]),
    (some "risk", .ofText "low", .ofText "low")] [] rfl
    (List.perm_append_singleton _ [_, _]).symm (by simp) (fun _ => rfl) ?_
  simp only [List.forall_mem_cons, List.not_mem_nil, false_implies, implies_true, and_true]
  exact ⟨summary, .list [(_, _)] rfl rfl (List.forall_mem_singleton.mpr visits),
    .reordered (.same _)⟩

/-- A location told again in another order, with a remark on the visit, is the same location, and
it is told by what is written. What is not declared of it, of its overview or of an audit is found
among what has been collected. -/
theorem read_from_members_when_told_again :
    (∃ location, Location.ofNode? (.object told) = some location ∧
      Location.ofNode? (.object toldAgain) = some location ∧
      Location.Tells (.object told) location ∧
      ("risk", .string "low") ∈ location.extra ∧
      ("codes", .object [("A1", .number (.integer 3))]) ∈ location.summary.extra) ∧
    ∃ audit, Audit.ofNode? (.object [(some "audit", .ofMembers header)]) = some audit ∧
      ("height", .number (.integer 12)) ∈ audit.audit.extra := by
  constructor
  · have read : ∃ location, Location.ofNode? (.object told) = some location := ⟨_, rfl⟩
    rcases read with ⟨location, read⟩
    have again := read_from_members.1 .location _ _ distinctNames_told alike_told
    have tells := read_from_members.2.1 .location _ location distinctNames_told read
    rcases read_from_members.2.2.1 told location distinctNames_told read with
      ⟨extra, inner, listed, summary⟩
    have inside : inner = overview.map fun member => (some member.1, member.2) := by
      simpa [told, Node.ofMembers] using listed
    refine ⟨location, read, again.trans read, tells, ?_, ?_⟩
    · exact (extra.mem_iff _ _).mpr ⟨by decide, .ofText "low", by simp [told], rfl⟩
    · exact (summary.mem_iff _ _).mpr
        ⟨by decide, .ofMembers [("A1", .ofInt 3)], by simp [inside, overview], rfl⟩
  · have read : ∃ audit, Audit.ofNode? (.object [(some "audit", .ofMembers header)]) = some audit :=
      ⟨_, rfl⟩
    have distinct : (Node.object [(some "audit", .ofMembers header)]).DistinctNames := by
      simp [header, Node.ofMembers, Node.ofText, Node.ofInt, distinctNames_text,
        distinctNames_number, Node.distinctNames_object_iff]
    rcases read with ⟨audit, read⟩
    rcases read_from_members.2.2.2 _ audit distinct read with ⟨inner, listed, extra⟩
    have inside : inner = header.map fun member => (some member.1, member.2) := by
      simpa [Node.ofMembers] using listed
    exact ⟨audit, read,
      (extra.mem_iff _ _).mpr ⟨by decide, .ofInt 12, by simp [inside, header], rfl⟩⟩

end Answer

end AuditReports
