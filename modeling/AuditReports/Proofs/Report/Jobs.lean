import Mathlib.Algebra.Group.Int.Defs
import Mathlib.Algebra.Group.Nat.Defs
import AuditReports.Proofs.Json.Documents
import AuditReports.Proofs.Json.Records
import AuditReports.Report.Job

/-!
# Jobs as documents

A job is written with all of its fields, and what is not known is written as `null`. The state of a
job is written as its word. A word may be any text, but a job of which the word is known has to be
in the state of that word, or reading would turn it into another job. The numbers of a job have to
lie within the bounds of their fields. Under these conditions, and no others, a job is read back
from its text as it was. A job that has been read satisfies them, so the word that the server told
is never lost, whether it is known or not.
-/

namespace AuditReports

open Json

namespace JobStatus

/-- The words with a meaning of their own. -/
def knownWords : List String :=
  ["queued", "processing", "completed", "failed"]

theorem word_ofWord (word : String) : (ofWord word).word = word := by
  fun_cases ofWord word <;> simp_all [JobStatus.word]

theorem ofWord_of_not_known {word : String} (unknown : word ∉ knownWords) :
    ofWord word = .other word := by
  simp_all [ofWord, knownWords]

/-- A state is told from its word, unless it claims a known word for another state. -/
theorem ofWord_word_iff {status : JobStatus} :
    ofWord status.word = status ↔ ∀ word, status = .other word → word ∉ knownWords := by
  cases status with
  | other word =>
      constructor
      · rintro same _ ⟨⟩ known
        simp only [knownWords, List.mem_cons, List.not_mem_nil, or_false] at known
        rcases known with rfl | rfl | rfl | rfl <;> cases same
      · exact fun unknown => ofWord_of_not_known (unknown word rfl)
  | _ => exact iff_of_true rfl fun _ other => by cases other

end JobStatus

namespace Job

/-- The numbers of a job lie within the bounds of their fields. -/
structure Fits (job : Job) : Prop where
  artifactSize : ∀ size ∈ job.artifactSize, size < 2 ^ 64
  version : ∀ version ∈ job.version, -2 ^ 63 ≤ version ∧ version < 2 ^ 63
  selectedAuditCount : ∀ count ∈ job.selectedAuditCount, count < 2 ^ 32

/-- Each field of a job is what is read from the field of its name. -/
structure ReadFrom (job : Job) (fields : Fields) : Prop where
  id : fields.required "job_id" Node.text? = some job.id
  status : (fields.required "status" fun node => node.text?.map JobStatus.ofWord) = some job.status
  address : fields.optional "address" Node.text? = some job.address
  createdAt : fields.optional "created_at" Node.text? = some job.createdAt
  startedAt : fields.optional "started_at" Node.text? = some job.startedAt
  completedAt : fields.optional "completed_at" Node.text? = some job.completedAt
  error : fields.optional "error" Node.text? = some job.error
  downloadReady : fields.defaulted "download_ready" false Node.boolean? = some job.downloadReady
  deficiencyOnly :
    fields.defaulted "deficiency_only" false Node.boolean? = some job.deficiencyOnly
  includeAll : fields.defaulted "include_all" false Node.boolean? = some job.includeAll
  locationId : fields.optional "location_id" Node.text? = some job.locationId
  artifactFilename : fields.optional "artifact_filename" Node.text? = some job.artifactFilename
  artifactSize : fields.optional "artifact_size" Node.size? = some job.artifactSize
  version : fields.optional "version" Node.integer? = some job.version
  downloadUrl : fields.optional "download_url" Node.text? = some job.downloadUrl
  selectedAuditCount :
    fields.optional "selected_audit_count" Node.count? = some job.selectedAuditCount

theorem ofNode?_eq_some_iff {node : Node} {job : Job} :
    ofNode? node = some job ↔
      ∃ fields, Record.fields? declared node = some fields ∧ job.ReadFrom fields := by
  -- Field by field, because the simplifier would go through the later fields again for each one.
  constructor
  · intro read
    rcases Option.bind_eq_some_iff.mp read with ⟨fields, opened, read⟩
    rcases Option.bind_eq_some_iff.mp read with ⟨_, id, read⟩
    rcases Option.bind_eq_some_iff.mp read with ⟨_, status, read⟩
    rcases Option.bind_eq_some_iff.mp read with ⟨_, address, read⟩
    rcases Option.bind_eq_some_iff.mp read with ⟨_, createdAt, read⟩
    rcases Option.bind_eq_some_iff.mp read with ⟨_, startedAt, read⟩
    rcases Option.bind_eq_some_iff.mp read with ⟨_, completedAt, read⟩
    rcases Option.bind_eq_some_iff.mp read with ⟨_, error, read⟩
    rcases Option.bind_eq_some_iff.mp read with ⟨_, downloadReady, read⟩
    rcases Option.bind_eq_some_iff.mp read with ⟨_, deficiencyOnly, read⟩
    rcases Option.bind_eq_some_iff.mp read with ⟨_, includeAll, read⟩
    rcases Option.bind_eq_some_iff.mp read with ⟨_, locationId, read⟩
    rcases Option.bind_eq_some_iff.mp read with ⟨_, artifactFilename, read⟩
    rcases Option.bind_eq_some_iff.mp read with ⟨_, artifactSize, read⟩
    rcases Option.bind_eq_some_iff.mp read with ⟨_, version, read⟩
    rcases Option.bind_eq_some_iff.mp read with ⟨_, downloadUrl, read⟩
    rcases Option.bind_eq_some_iff.mp read with ⟨_, selectedAuditCount, read⟩
    rcases Option.some.inj read with rfl
    exact ⟨fields, opened, id, status, address, createdAt, startedAt, completedAt, error,
      downloadReady, deficiencyOnly, includeAll, locationId, artifactFilename, artifactSize,
      version, downloadUrl, selectedAuditCount⟩
  · rintro ⟨fields, opened, read⟩
    refine Option.bind_eq_some_iff.mpr ⟨fields, opened, ?_⟩
    refine Option.bind_eq_some_iff.mpr ⟨_, read.id, ?_⟩
    refine Option.bind_eq_some_iff.mpr ⟨_, read.status, ?_⟩
    refine Option.bind_eq_some_iff.mpr ⟨_, read.address, ?_⟩
    refine Option.bind_eq_some_iff.mpr ⟨_, read.createdAt, ?_⟩
    refine Option.bind_eq_some_iff.mpr ⟨_, read.startedAt, ?_⟩
    refine Option.bind_eq_some_iff.mpr ⟨_, read.completedAt, ?_⟩
    refine Option.bind_eq_some_iff.mpr ⟨_, read.error, ?_⟩
    refine Option.bind_eq_some_iff.mpr ⟨_, read.downloadReady, ?_⟩
    refine Option.bind_eq_some_iff.mpr ⟨_, read.deficiencyOnly, ?_⟩
    refine Option.bind_eq_some_iff.mpr ⟨_, read.includeAll, ?_⟩
    refine Option.bind_eq_some_iff.mpr ⟨_, read.locationId, ?_⟩
    refine Option.bind_eq_some_iff.mpr ⟨_, read.artifactFilename, ?_⟩
    refine Option.bind_eq_some_iff.mpr ⟨_, read.artifactSize, ?_⟩
    refine Option.bind_eq_some_iff.mpr ⟨_, read.version, ?_⟩
    refine Option.bind_eq_some_iff.mpr ⟨_, read.downloadUrl, ?_⟩
    refine Option.bind_eq_some_iff.mpr ⟨_, read.selectedAuditCount, ?_⟩
    rfl

variable {job : Job}

theorem ReadFrom.fits {fields : Fields} (read : job.ReadFrom fields) : job.Fits where
  artifactSize size known := by
    rcases Fields.exists_of_optional (read.artifactSize.trans (congrArg some known)) with
      ⟨_, _, number⟩
    have bound := Node.le_of_natural? number
    simp at bound
    omega
  version version known := by
    rcases Fields.exists_of_optional (read.version.trans (congrArg some known)) with
      ⟨_, _, number⟩
    have bounds := Node.bounds_of_between? number
    simp at bounds
    omega
  selectedAuditCount count known := by
    rcases Fields.exists_of_optional (read.selectedAuditCount.trans (congrArg some known)) with
      ⟨_, _, number⟩
    have bound := Node.le_of_natural? number
    simp at bound
    omega

theorem ReadFrom.status_word {fields : Fields} (read : job.ReadFrom fields) :
    fields "status" = some (.ofText job.status.word) ∧
      JobStatus.ofWord job.status.word = job.status := by
  rcases Option.bind_eq_some_iff.mp read.status with ⟨node, found, text⟩
  rcases Option.map_eq_some_iff.mp text with ⟨word, text, status⟩
  rw [← status, JobStatus.word_ofWord, found]
  cases node <;> cases text
  exact ⟨rfl, rfl⟩

/-- What a job is written with is what it is read from. -/
theorem fields?_node (job : Job) :
    ∃ fields, Record.fields? declared job.node = some fields ∧
      (job.Fits → JobStatus.ofWord job.status.word = job.status → job.ReadFrom fields) := by
  refine ⟨_, rfl, fun fits status => ?_⟩
  have size : ∀ size ∈ job.artifactSize, size ≤ Nat.pow 2 64 - 1 := fun size known =>
    Nat.le_pred_of_lt (fits.artifactSize size known)
  have count : ∀ count ∈ job.selectedAuditCount, count ≤ Nat.pow 2 32 - 1 := fun count known =>
    Nat.le_pred_of_lt (fits.selectedAuditCount count known)
  have version : ∀ version ∈ job.version,
      -(Nat.pow 2 63 : Int) ≤ version ∧ version ≤ Nat.pow 2 63 - 1 := fun version known => by
    have bounds := fits.version version known
    simp only [Nat.pow_eq, Int.natCast_pow, Int.cast_ofNat_Int]
    omega
  exact {
    id := rfl
    status := congrArg some status
    address := Fields.optional_text?_ofOption rfl
    createdAt := Fields.optional_text?_ofOption rfl
    startedAt := Fields.optional_text?_ofOption rfl
    completedAt := Fields.optional_text?_ofOption rfl
    error := Fields.optional_text?_ofOption rfl
    downloadReady := rfl
    deficiencyOnly := rfl
    includeAll := rfl
    locationId := Fields.optional_text?_ofOption rfl
    artifactFilename := Fields.optional_text?_ofOption rfl
    artifactSize := Fields.optional_natural?_ofOption rfl size
    version := Fields.optional_between?_ofOption rfl version
    downloadUrl := Fields.optional_text?_ofOption rfl
    selectedAuditCount := Fields.optional_natural?_ofOption rfl count }

theorem legible_node (job : Job) : job.node.Legible := by
  refine .ofMembers ?_
  simp only [List.forall_mem_cons, Node.Legible.ofText, Node.Legible.boolean,
    Node.Legible.ofOption Node.Legible.ofText, Node.Legible.ofOption Node.Legible.ofInt,
    Node.Legible.ofOption fun count : Nat => Node.Legible.ofInt count,
    List.not_mem_nil, false_implies, implies_true, and_self]

theorem parse?_text_node (job : Job) :
    (Node.parse? job.node.text).bind ofNode? = ofNode? job.node := by
  rw [Node.parse?_text job.legible_node, Option.bind_some]

theorem ofNode?_node_iff :
    ofNode? job.node = some job ↔ job.Fits ∧ JobStatus.ofWord job.status.word = job.status := by
  rcases job.fields?_node with ⟨fields, opened, back⟩
  rw [ofNode?_eq_some_iff]
  constructor
  · rintro ⟨_, _, read⟩
    exact ⟨read.fits, read.status_word.2⟩
  · rintro ⟨fits, status⟩
    exact ⟨fields, opened, back fits status⟩

/-! ## The word for the state -/

/-- A document states a word for the state of a job: an object by its name, an array by its place
in the order of the fields. -/
inductive StatesStatus (word : String) : Node → Prop
  | named {members : List (Option String × Node)}
      (listed : (some "status", .ofText word) ∈ members) : StatesStatus word (.object members)
  | placed {items : List Node} (second : items[1]? = some (.ofText word)) :
      StatesStatus word (.array items)

theorem statesStatus_iff {node : Node} {fields : Fields} {word : String}
    (opened : Record.fields? declared node = some fields) :
    StatesStatus word node ↔ fields "status" = some (.ofText word) := by
  cases node with
  | object members =>
      rcases Record.fields?_object_eq_some_iff.mp opened with ⟨named, all, distinct, rfl⟩
      rw [Record.lookup_eq_some_iff_mem distinct (by simp [declared])]
      have listed : (some "status", .ofText word) ∈ members ↔ ("status", .ofText word) ∈ named := by
        simp [Record.named?_eq_some_iff.mp all]
      rw [← listed]
      constructor
      · intro states
        cases states with
        | named listed => exact listed
      · exact .named
  | array items =>
      have second : fields "status" = items[1]? := by
        rw [Record.fields?, Option.ite_none_right_eq_some] at opened
        rcases opened with ⟨_, ⟨⟩⟩
        rcases items with _ | ⟨_, _ | _⟩ <;> rfl
      rw [second]
      constructor
      · intro states
        cases states with
        | placed second => exact second
      · exact .placed
  | _ => cases opened

theorem statesStatus_node_iff {word : String} :
    StatesStatus word job.node ↔ word = job.status.word := by
  rcases job.fields?_node with ⟨fields, opened, _⟩
  rw [statesStatus_iff opened]
  cases opened
  change some (Node.ofText job.status.word) = some (.ofText word) ↔ _
  simp [Node.ofText, eq_comm]

/-- A job is read back from its text exactly if its numbers fit and its state does not claim a known
word for another state. A job that has been read is read back, and it has the word that its document
stated and writes that word and no other; a word that is not known is kept and ends nothing. -/
theorem survives_document :
    (∀ job : Job, (Node.parse? job.node.text).bind ofNode? = some job ↔
      job.Fits ∧ ∀ word, job.status = .other word → word ∉ JobStatus.knownWords) ∧
    ∀ (node : Node) (job : Job), ofNode? node = some job →
      (Node.parse? job.node.text).bind ofNode? = some job ∧
      ∀ word, StatesStatus word node ↔
        job.status.word = word ∧ (∀ other, StatesStatus other job.node ↔ other = word) ∧
        (word ∉ JobStatus.knownWords → job.status = .other word ∧ job.status.isFinal = false) := by
  simp only [parse?_text_node, ofNode?_node_iff, JobStatus.ofWord_word_iff, implies_true, true_and]
  intro node job read
  rcases ofNode?_eq_some_iff.mp read with ⟨fields, opened, read⟩
  rcases read.status_word with ⟨stated, told⟩
  refine ⟨⟨read.fits, JobStatus.ofWord_word_iff.mp told⟩, fun word => ?_⟩
  rw [statesStatus_iff opened, stated]
  constructor
  · rintro ⟨⟩
    refine ⟨rfl, fun other => statesStatus_node_iff, fun unknown => ?_⟩
    have other := told.symm.trans (JobStatus.ofWord_of_not_known unknown)
    refine ⟨other, ?_⟩
    rw [other]
    rfl
  · rintro ⟨rfl, _⟩
    rfl

/-- A job that uses every field, three of them up to their bounds. -/
def crowded : Job where
  id := "job-7"
  status := .other "rendering"
  address := some "1 Elm \"Court\""
  createdAt := some "2026-01-02T03:04:05Z"
  startedAt := some ""
  completedAt := none
  error := some "null"
  downloadReady := true
  deficiencyOnly := false
  includeAll := true
  locationId := some "Straße 7"
  artifactFilename := some "report.pdf"
  artifactSize := some 18446744073709551615
  version := some (-9223372036854775808)
  downloadUrl := some "/reports/job-7/download"
  selectedAuditCount := some 4294967295

/-- A document that tells of a job no more than it has to. -/
def terse : Node :=
  .ofMembers [("status", .ofText "rendering"), ("job_id", .ofText "abc")]

/-- A state that is not known comes back with a job that uses every field, and with one of which
nothing else is told. -/
theorem survives_document_when_unknown :
    (Node.parse? crowded.node.text).bind ofNode? = some crowded ∧
      ofNode? terse = some (bare "abc" (.other "rendering")) ∧
      StatesStatus "rendering" terse ∧
      (bare "abc" (.other "rendering")).status.isFinal = false ∧
      (Node.parse? (bare "abc" (.other "rendering")).node.text).bind ofNode? =
        some (bare "abc" (.other "rendering")) := by
  have fits : crowded.Fits := ⟨by decide, by decide, by decide⟩
  have unknown : "rendering" ∉ JobStatus.knownWords := by decide
  have read : ofNode? terse = some (bare "abc" (.other "rendering")) := rfl
  have states : StatesStatus "rendering" terse := .named (List.mem_cons_self ..)
  rcases survives_document.2 _ _ read with ⟨back, word⟩
  refine ⟨(survives_document.1 crowded).mpr ⟨fits, ?_⟩, read, states, ?_, back⟩
  · rintro _ ⟨⟩
    exact unknown
  · exact (((word "rendering").mp states).2.2 unknown).2

end Job

end AuditReports
