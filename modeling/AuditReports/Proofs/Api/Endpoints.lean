import Mathlib.Algebra.Group.Int.Defs
import Mathlib.Algebra.Group.Nat.Defs
import AuditReports.Proofs.Api.Slashes
import AuditReports.Proofs.Text.RoundTrips

/-!
# Addresses of what has an id

Four calls name what they are about by an id: the status of a job, its download, an audit, and one
of the deficiencies of an audit. The id is encoded so that the rewriting of slashes finds nothing to
rewrite in it. So the address is the front of the client followed by the path of the call as it is,
and the call can be told from its address: no two addresses are the same, whatever the ids.

An id must not be empty, since two slashes would then meet.
-/

namespace AuditReports

/-- What a call names by an id. -/
inductive Endpoint where
  | status (jobId : String)
  | download (jobId : String)
  | audit (auditId : String)
  | deficiency (auditId : String) (deficiencyId : Int)
  deriving DecidableEq, Repr

namespace Endpoint

def path : Endpoint → String
  | status jobId => Mount.pathOfReport jobId
  | download jobId => Mount.pathOfDownload jobId
  | audit auditId => Mount.pathOfAudit auditId
  | deficiency auditId deficiencyId => Mount.pathOfDeficiency auditId deficiencyId

def id : Endpoint → String
  | status jobId => jobId
  | download jobId => jobId
  | audit auditId => auditId
  | deficiency auditId _ => auditId

/-- The segment before the id. -/
def collection : Endpoint → String
  | status _ => "reports"
  | download _ => "reports"
  | audit _ => "audits"
  | deficiency _ _ => "audits"

/-- The segments after the id. -/
def trailing : Endpoint → List String
  | status _ => []
  | download _ => ["download"]
  | audit _ => []
  | deficiency _ deficiencyId => ["deficiencies", toString deficiencyId]

def segments (endpoint : Endpoint) : List (List Char) :=
  endpoint.collection.toList :: Text.Percent.encodeList endpoint.id.toList ::
    endpoint.trailing.map String.toList

/-- The number of a deficiency has sixty-four bits, one of them for the sign. -/
def InRange : Endpoint → Prop
  | deficiency _ deficiencyId => -2 ^ 63 ≤ deficiencyId ∧ deficiencyId ≤ 2 ^ 63 - 1
  | _ => True

theorem toList_path (endpoint : Endpoint) :
    endpoint.path.toList = endpoint.segments.flatMap ('/' :: ·) := by
  cases endpoint <;>
    simp [path, Mount.pathOfDeficiency, Mount.pathOfAudit, Mount.pathOfDownload,
      Mount.pathOfReport, Text.Percent.encode, segments, collection, trailing, id]

/-- Before the id there is a word. After it there is nothing, or a word, or a word and a number. -/
theorem mem_segments {endpoint : Endpoint} {segment : List Char}
    (listed : segment ∈ endpoint.segments) :
    segment ∈ ["reports", "audits", "download", "deficiencies"].map String.toList ∨
      segment = Text.Percent.encodeList endpoint.id.toList ∨
      ∃ number : Int, segment = (toString number).toList := by
  rcases List.mem_cons.mp listed with rfl | listed
  · left
    cases endpoint with
    | status | download => exact List.mem_cons_self
    | audit | deficiency => exact List.mem_cons_of_mem _ List.mem_cons_self
  rcases List.mem_cons.mp listed with rfl | listed
  · exact Or.inr (Or.inl rfl)
  rcases List.mem_map.mp listed with ⟨word, after, rfl⟩
  cases endpoint with
  | status jobId => cases after
  | download jobId =>
      rcases List.mem_singleton.mp after with rfl
      exact Or.inl (by decide)
  | audit auditId => cases after
  | deficiency auditId deficiencyId =>
      rcases List.mem_cons.mp after with rfl | after
      · exact Or.inl (by decide)
      · rcases List.mem_singleton.mp after with rfl
        exact Or.inr (Or.inr ⟨deficiencyId, rfl⟩)

/-- Nothing in a path has a meaning of its own but the slashes between the segments. -/
theorem subset_plain {endpoint : Endpoint} {segment : List Char}
    (listed : segment ∈ endpoint.segments) : segment ⊆ Text.Percent.plain := by
  have words : ∀ word ∈ ["reports", "audits", "download", "deficiencies"].map String.toList,
      word ⊆ Text.Percent.plain := by decide
  rcases mem_segments listed with word | rfl | ⟨number, rfl⟩
  · exact words segment word
  · exact Text.Percent.encodeList_subset_plain endpoint.id.toList
  · exact Text.toString_subset_plain number

theorem ne_nil_of_mem_segments {endpoint : Endpoint} (named : endpoint.id ≠ "")
    {segment : List Char} (listed : segment ∈ endpoint.segments) : segment ≠ [] := by
  have words : ∀ word ∈ ["reports", "audits", "download", "deficiencies"].map String.toList,
      word ≠ [] := by decide
  rcases mem_segments listed with word | rfl | ⟨number, rfl⟩
  · exact words segment word
  · exact Text.Percent.encodeList_ne_nil (by simpa using named)
  · exact Text.toList_toString_ne_nil number

theorem solid_of_plain : ∀ character ∈ Text.Percent.plain, character ≠ '/' ∧ character ≠ ':' :=
  List.all_iff_forall_prop.mp (by decide)

/-- The address is the front of the client and the path of the call as it is. -/
theorem toList_address (mount : Mount) {endpoint : Endpoint} (named : endpoint.id ≠ "") :
    (mount.address endpoint.path).toList = mount.front ++ endpoint.path.toList :=
  mount.toList_address_of_segments endpoint.toList_path (List.cons_ne_nil _ _)
    fun _ listed => ⟨ne_nil_of_mem_segments named listed,
      fun _ within => solid_of_plain _ (subset_plain listed within)⟩

/-! ## Reading a path back -/

def idOf? (segment : List Char) : Option String :=
  (Text.Percent.decode? segment).map String.ofList

def integerOf? (segment : List Char) : Option Int :=
  (Text.integer (2 ^ 63 - 1) segment).toOption

/-- Tells a call from its path. -/
def ofPath? (path : List Char) : Option Endpoint :=
  match Text.fields '/' path with
  | [_, collection, segment] =>
      if collection = "reports".toList then (idOf? segment).map status
      else if collection = "audits".toList then (idOf? segment).map audit
      else none
  | [_, collection, segment, detail] =>
      if collection = "reports".toList ∧ detail = "download".toList then
        (idOf? segment).map download
      else none
  | [_, collection, segment, detail, number] =>
      if collection = "audits".toList ∧ detail = "deficiencies".toList then
        (idOf? segment).bind fun auditId => (integerOf? number).map (deficiency auditId)
      else none
  | _ => none

theorem idOf?_encodeList (id : String) : idOf? (Text.Percent.encodeList id.toList) = some id := by
  rw [idOf?, Text.Percent.decode?_encodeList, Option.map_some, String.ofList_toList]

theorem integerOf?_toString {number : Int} (low : -2 ^ 63 ≤ number) (high : number ≤ 2 ^ 63 - 1) :
    integerOf? (toString number).toList = some number := by
  rw [integerOf?, Text.integer_toString (by omega) (by omega)]
  rfl

/-- A call can be told from its path. -/
theorem ofPath?_path {endpoint : Endpoint} (inRange : endpoint.InRange) :
    ofPath? endpoint.path.toList = some endpoint := by
  have solid : '/' ∉ Text.Percent.plain := by decide
  have cut : Text.fields '/' ([] ++ endpoint.segments.flatMap ('/' :: ·)) =
      [] :: endpoint.segments := by
    apply Text.fields_append_flatMap
    intro segment listed slash
    rcases List.mem_cons.mp listed with rfl | listed
    · cases slash
    · exact solid (subset_plain listed slash)
  rw [List.nil_append, ← toList_path] at cut
  simp only [ofPath?, cut, segments]
  cases endpoint with
  | status jobId => simp [collection, trailing, idOf?_encodeList, id]
  | download jobId => simp [collection, trailing, idOf?_encodeList, id]
  | audit auditId => simp [collection, trailing, idOf?_encodeList, id]
  | deficiency auditId deficiencyId =>
      simp only [collection, trailing, id, List.map_cons, List.map_nil, idOf?_encodeList,
        integerOf?_toString inRange.1 inRange.2, and_self, if_true, Option.bind_some,
        Option.map_some]

/-- Addresses and calls determine each other. For every client, whatever its base and its prefix,
the address of a call is what all its addresses begin with, followed by the path of the call, in
which the encoded id stands as it is. Cutting off the front and reading the rest gives the call with
its ids again. So different calls have different addresses. The id of a job or of an audit is any
text that is not empty, and the number of a deficiency any that has sixty-four bits. -/
theorem addresses_tell_calls_apart (mount : Mount) :
    (∀ endpoint : Endpoint, endpoint.id ≠ "" → endpoint.InRange →
      (mount.address endpoint.path).toList =
          mount.front ++ endpoint.segments.flatMap ('/' :: ·) ∧
        ofPath? ((mount.address endpoint.path).toList.drop mount.front.length) = some endpoint) ∧
      (∀ first second : Endpoint, first.id ≠ "" → first.InRange → second.id ≠ "" →
        second.InRange → mount.address first.path = mount.address second.path → first = second) ∧
      ∀ id : String, Text.Percent.decode? (Text.Percent.encode id).toList = some id.toList := by
  have recovered : ∀ endpoint : Endpoint, endpoint.id ≠ "" → endpoint.InRange →
      ofPath? ((mount.address endpoint.path).toList.drop mount.front.length) = some endpoint := by
    intro endpoint named inRange
    rw [toList_address mount named, List.drop_left, ofPath?_path inRange]
  refine ⟨?_, ?_, ?_⟩
  · intro endpoint named inRange
    refine ⟨?_, recovered endpoint named inRange⟩
    rw [toList_address mount named, toList_path]
  · intro first second namedFirst inRangeFirst namedSecond inRangeSecond same
    have read := recovered first namedFirst inRangeFirst
    rw [same, recovered second namedSecond inRangeSecond] at read
    exact (Option.some.inj read).symm
  · intro id
    rw [Text.Percent.encode, String.toList_ofList, Text.Percent.decode?_encodeList]

/-- An id full of what means something in an address, on a client whose base has a path. -/
def crowded : Endpoint :=
  .deficiency "a/../b?c#d%2e ä" (-7)

theorem crowded_tells_itself :
    let mount := (Mount.ofBase "https://audits.example.com/v1:/").under "/api//"
    (mount.address crowded.path =
        "https://audits.example.com/v1:/api/audits/a%2F..%2Fb%3Fc%23d%252e%20%C3%A4/deficiencies/-7") ∧
      ofPath? ((mount.address crowded.path).toList.drop mount.front.length) = some crowded := by
  intro mount
  have inRange : crowded.InRange := ⟨by decide, by decide⟩
  exact ⟨by decide +kernel, ((addresses_tell_calls_apart mount).1 crowded (by decide) inRange).2⟩

end Endpoint

end AuditReports
