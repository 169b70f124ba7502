import AuditReports.Audit
import AuditReports.Location
import AuditReports.Proofs.Json.Contents
import AuditReports.Proofs.Report.Jobs

/-!
# What the records of the service hold

For each record there is a list of its fields: the name that the service writes, what may be written
there, and what of the record it tells. The list has the declared names, in their order, so no
declared member is without a field. The readers of the records are faithful to these lists, from
single values to the records that others are part of.
-/

namespace AuditReports

open Json Json.Node

/-! ## The fields of the records -/

/-- A state is told by its word, and a known word tells no other state. -/
def JobStatus.Tells (node : Node) (status : JobStatus) : Prop :=
  node.TellsText status.word ∧ ∀ word, status = .other word → word ∉ knownWords

def Job.fields : List (RecordField Job) := [
  .required "job_id" TellsText (·.id),
  .required "status" JobStatus.Tells (·.status),
  .optional "address" TellsText (·.address),
  .optional "created_at" TellsText (·.createdAt),
  .optional "started_at" TellsText (·.startedAt),
  .optional "completed_at" TellsText (·.completedAt),
  .optional "error" TellsText (·.error),
  .defaulted "download_ready" TellsBoolean false (·.downloadReady),
  .defaulted "deficiency_only" TellsBoolean false (·.deficiencyOnly),
  .defaulted "include_all" TellsBoolean false (·.includeAll),
  .optional "location_id" TellsText (·.locationId),
  .optional "artifact_filename" TellsText (·.artifactFilename),
  .optional "artifact_size" TellsCount (·.artifactSize),
  .optional "version" TellsInteger (·.version),
  .optional "download_url" TellsText (·.downloadUrl),
  .optional "selected_audit_count" TellsCount (·.selectedAuditCount)]

def JobCreated.fields : List (RecordField JobCreated) := [
  .required "status" TellsText (·.status),
  .required "job_id" TellsText (·.jobId),
  .optional "address" TellsText (·.address)]

def LocationEntry.fields : List (RecordField LocationEntry) := [
  .optional "location_code" TellsText (·.locationCode),
  .optional "location_row_id" TellsInteger (·.locationRowId),
  .required "address" TellsText (·.address),
  .optional "formatted_address" TellsText (·.formattedAddress),
  .optional "site_name" TellsText (·.siteName),
  .optional "city" TellsText (·.city),
  .optional "state" TellsText (·.state),
  .optional "building_owner" TellsText (·.buildingOwner),
  .optional "vendor_name" TellsText (·.vendorName),
  .defaulted "device_count" TellsCount 0 (·.deviceCount),
  .defaulted "open_deficiencies" TellsCount 0 (·.openDeficiencies)]

def LocationPage.fields : List (RecordField LocationPage) := [
  .required "page" TellsCount (·.page),
  .required "page_size" TellsCount (·.pageSize),
  .required "total" TellsCount (·.total),
  .required "items" (TellsList (Record.Tells LocationEntry.fields)) (·.items)]

def LocationOverview.fields : List (RecordField LocationOverview) := [
  .required "address" TellsText (·.address),
  .optional "location_row_id" TellsInteger (·.locationRowId),
  .optional "site_name" TellsText (·.siteName),
  .optional "street" TellsText (·.street),
  .optional "city" TellsText (·.city),
  .optional "state" TellsText (·.state),
  .optional "zip" TellsText (·.zip),
  .optional "building_owner" TellsText (·.buildingOwner),
  .defaulted "device_count" TellsCount 0 (·.deviceCount),
  .defaulted "audit_count" TellsCount 0 (·.auditCount),
  .defaulted "total_deficiencies" TellsCount 0 (·.totalDeficiencies),
  .defaulted "open_deficiencies" TellsCount 0 (·.openDeficiencies)]

def LocationOverview.Tells : Nat → Node → LocationOverview → Prop :=
  Record.TellsAll fields (·.extra)

def Visit.fields : List (RecordField Visit) := [
  .optional "visit_id" TellsText (·.visitId),
  .optional "label" TellsText (·.label),
  .optional "started_at" TellsText (·.startedAt),
  .optional "completed_at" TellsText (·.completedAt),
  .defaulted "audit_count" TellsCount 0 (·.auditCount),
  .defaulted "device_count" TellsCount 0 (·.deviceCount),
  .defaulted "open_deficiencies" TellsCount 0 (·.openDeficiencies)]

def IssuedReport.fields : List (RecordField IssuedReport) := [
  .required "job_id" TellsText (·.jobId),
  .optional "version" TellsInteger (·.version),
  .optional "created_at" TellsText (·.createdAt),
  .optional "completed_at" TellsText (·.completedAt),
  .optional "filename" TellsText (·.filename),
  .optional "size_bytes" TellsCount (·.sizeBytes),
  .optional "download_url" TellsText (·.downloadUrl),
  .optional "include_all" TellsBoolean (·.includeAll),
  .optional "selected_count" TellsCount (·.selectedCount)]

def Location.fields : List (RecordField Location) := [
  .required "summary" (LocationOverview.Tells (nestingLimit - 2)) (·.summary),
  .defaulted "visits" (TellsList (Record.Tells Visit.fields)) [] (·.visits),
  .defaulted "reports" (TellsList (Record.Tells IssuedReport.fields)) [] (·.reports),
  .defaulted "deficiency_reports" (TellsList (Record.Tells IssuedReport.fields)) []
    (·.deficiencyReports)]

def Location.Tells : Node → Location → Prop :=
  Record.TellsAll fields (·.extra) (nestingLimit - 1)

def AuditHeader.fields : List (RecordField AuditHeader) := [
  .required "audit_uuid" TellsText (·.uuid),
  .optional "building_address" TellsText (·.buildingAddress),
  .optional "building_owner" TellsText (·.buildingOwner),
  .optional "device_type" TellsText (·.deviceType),
  .optional "bank_name" TellsText (·.bankName),
  .optional "submitted_on" TellsText (·.submittedOn)]

def AuditHeader.Tells : Nat → Node → AuditHeader → Prop :=
  Record.TellsAll fields (·.extra)

def Deficiency.fields : List (RecordField Deficiency) := [
  .optional "id" TellsInteger (·.id),
  .optional "equipment_code" TellsText (·.equipmentCode),
  .optional "condition_code" TellsText (·.conditionCode),
  .optional "violation_equipment" TellsText (·.violationEquipment),
  .optional "violation_condition" TellsText (·.violationCondition),
  .optional "violation_remedy" TellsText (·.violationRemedy),
  .optional "violation_note" TellsText (·.violationNote),
  .optional "resolved_at" TellsText (·.resolvedAt)]

def Audit.fields : List (RecordField Audit) := [
  .required "audit" (AuditHeader.Tells (nestingLimit - 2)) (·.audit),
  .defaulted "deficiencies" (TellsList (Record.Tells Deficiency.fields)) [] (·.deficiencies),
  .defaulted "photos" (TellsList (TellsValue (nestingLimit - 2))) [] (·.photos)]

def DeficiencyChange.fields : List (RecordField DeficiencyChange) := [
  .required "status" TellsText (·.status),
  .required "resolved" TellsBoolean (·.resolved),
  .optional "resolved_at" TellsText (·.resolvedAt)]

/-! ## The readers of the records -/

namespace Json.Faithful

theorem status : Faithful (fun node => node.text?.map JobStatus.ofWord) JobStatus.Tells := by
  intro node status distinct read
  rcases Option.map_eq_some_iff.mp read with ⟨word, told, rfl⟩
  have same := JobStatus.word_ofWord word
  refine ⟨?_, JobStatus.ofWord_word_iff.mp (congrArg JobStatus.ofWord same)⟩
  exact same.symm ▸ Faithful.text? node word distinct told

theorem job : Faithful Job.ofNode? (Record.Tells Job.fields) := by
  refine .record rfl (by decide) fun distinct read => ?_
  iterate 16 rcases Option.bind_eq_some_iff.mp read with ⟨_, _, read⟩
  cases read
  simp only [Job.fields, List.forall_mem_cons]
  exact ⟨distinct.required text? ‹_›, distinct.required status ‹_›, distinct.optional text? ‹_›,
    distinct.optional text? ‹_›, distinct.optional text? ‹_›, distinct.optional text? ‹_›,
    distinct.optional text? ‹_›, distinct.defaulted boolean? ‹_›, distinct.defaulted boolean? ‹_›,
    distinct.defaulted boolean? ‹_›, distinct.optional text? ‹_›, distinct.optional text? ‹_›,
    distinct.optional size? ‹_›, distinct.optional integer? ‹_›, distinct.optional text? ‹_›,
    distinct.optional count? ‹_›, nofun⟩

theorem jobCreated : Faithful JobCreated.ofNode? (Record.Tells JobCreated.fields) := by
  refine .record rfl (by decide) fun distinct read => ?_
  iterate 3 rcases Option.bind_eq_some_iff.mp read with ⟨_, _, read⟩
  cases read
  simp only [JobCreated.fields, List.forall_mem_cons]
  exact ⟨distinct.required text? ‹_›, distinct.required text? ‹_›, distinct.optional text? ‹_›,
    nofun⟩

theorem locationEntry : Faithful LocationEntry.ofNode? (Record.Tells LocationEntry.fields) := by
  refine .record rfl (by decide) fun distinct read => ?_
  iterate 11 rcases Option.bind_eq_some_iff.mp read with ⟨_, _, read⟩
  cases read
  simp only [LocationEntry.fields, List.forall_mem_cons]
  exact ⟨distinct.optional text? ‹_›, distinct.optional integer? ‹_›, distinct.required text? ‹_›,
    distinct.optional text? ‹_›, distinct.optional text? ‹_›, distinct.optional text? ‹_›,
    distinct.optional text? ‹_›, distinct.optional text? ‹_›, distinct.optional text? ‹_›,
    distinct.defaulted count? ‹_›, distinct.defaulted count? ‹_›, nofun⟩

theorem locationPage : Faithful LocationPage.ofNode? (Record.Tells LocationPage.fields) := by
  refine .record rfl (by decide) fun distinct read => ?_
  iterate 4 rcases Option.bind_eq_some_iff.mp read with ⟨_, _, read⟩
  cases read
  simp only [LocationPage.fields, List.forall_mem_cons]
  exact ⟨distinct.required count? ‹_›, distinct.required count? ‹_›, distinct.required size? ‹_›,
    distinct.required locationEntry.list? ‹_›, nofun⟩

theorem locationOverview (levels : Nat) :
    Faithful (LocationOverview.ofNode? levels) (LocationOverview.Tells levels) := by
  refine .openRecord rfl (by decide) fun distinct read => ?_
  iterate 12 rcases Option.bind_eq_some_iff.mp read with ⟨_, _, read⟩
  cases read
  refine ⟨rfl, ?_⟩
  simp only [LocationOverview.fields, List.forall_mem_cons]
  exact ⟨distinct.required text? ‹_›, distinct.optional integer? ‹_›,
    distinct.optional text? ‹_›, distinct.optional text? ‹_›, distinct.optional text? ‹_›,
    distinct.optional text? ‹_›, distinct.optional text? ‹_›, distinct.optional text? ‹_›,
    distinct.defaulted count? ‹_›, distinct.defaulted count? ‹_›, distinct.defaulted count? ‹_›,
    distinct.defaulted count? ‹_›, nofun⟩

theorem visit : Faithful Visit.ofNode? (Record.Tells Visit.fields) := by
  refine .record rfl (by decide) fun distinct read => ?_
  iterate 7 rcases Option.bind_eq_some_iff.mp read with ⟨_, _, read⟩
  cases read
  simp only [Visit.fields, List.forall_mem_cons]
  exact ⟨distinct.optional text? ‹_›, distinct.optional text? ‹_›, distinct.optional text? ‹_›,
    distinct.optional text? ‹_›, distinct.defaulted count? ‹_›, distinct.defaulted count? ‹_›,
    distinct.defaulted count? ‹_›, nofun⟩

theorem issuedReport : Faithful IssuedReport.ofNode? (Record.Tells IssuedReport.fields) := by
  refine .record rfl (by decide) fun distinct read => ?_
  iterate 9 rcases Option.bind_eq_some_iff.mp read with ⟨_, _, read⟩
  cases read
  simp only [IssuedReport.fields, List.forall_mem_cons]
  exact ⟨distinct.required text? ‹_›, distinct.optional integer? ‹_›, distinct.optional text? ‹_›,
    distinct.optional text? ‹_›, distinct.optional text? ‹_›, distinct.optional size? ‹_›,
    distinct.optional text? ‹_›, distinct.optional boolean? ‹_›, distinct.optional count? ‹_›,
    nofun⟩

theorem location : Faithful Location.ofNode? Location.Tells := by
  refine .openRecord rfl (by decide) fun distinct read => ?_
  iterate 4 rcases Option.bind_eq_some_iff.mp read with ⟨_, _, read⟩
  cases read
  refine ⟨rfl, ?_⟩
  simp only [Location.fields, List.forall_mem_cons]
  exact ⟨distinct.required (locationOverview _) ‹_›, distinct.defaulted visit.list? ‹_›,
    distinct.defaulted issuedReport.list? ‹_›, distinct.defaulted issuedReport.list? ‹_›, nofun⟩

theorem auditHeader (levels : Nat) :
    Faithful (AuditHeader.ofNode? levels) (AuditHeader.Tells levels) := by
  refine .openRecord rfl (by decide) fun distinct read => ?_
  iterate 6 rcases Option.bind_eq_some_iff.mp read with ⟨_, _, read⟩
  cases read
  refine ⟨rfl, ?_⟩
  simp only [AuditHeader.fields, List.forall_mem_cons]
  exact ⟨distinct.required text? ‹_›, distinct.optional text? ‹_›, distinct.optional text? ‹_›,
    distinct.optional text? ‹_›, distinct.optional text? ‹_›, distinct.optional text? ‹_›, nofun⟩

theorem deficiency : Faithful Deficiency.ofNode? (Record.Tells Deficiency.fields) := by
  refine .record rfl (by decide) fun distinct read => ?_
  iterate 8 rcases Option.bind_eq_some_iff.mp read with ⟨_, _, read⟩
  cases read
  simp only [Deficiency.fields, List.forall_mem_cons]
  exact ⟨distinct.optional integer? ‹_›, distinct.optional text? ‹_›, distinct.optional text? ‹_›,
    distinct.optional text? ‹_›, distinct.optional text? ‹_›, distinct.optional text? ‹_›,
    distinct.optional text? ‹_›, distinct.optional text? ‹_›, nofun⟩

theorem audit : Faithful Audit.ofNode? (Record.Tells Audit.fields) := by
  refine .record rfl (by decide) fun distinct read => ?_
  iterate 3 rcases Option.bind_eq_some_iff.mp read with ⟨_, _, read⟩
  cases read
  simp only [Audit.fields, List.forall_mem_cons]
  exact ⟨distinct.required (auditHeader _) ‹_›, distinct.defaulted deficiency.list? ‹_›,
    distinct.defaulted (value? _).list? ‹_›, nofun⟩

theorem deficiencyChange :
    Faithful DeficiencyChange.ofNode? (Record.Tells DeficiencyChange.fields) := by
  refine .record rfl (by decide) fun distinct read => ?_
  iterate 3 rcases Option.bind_eq_some_iff.mp read with ⟨_, _, read⟩
  cases read
  simp only [DeficiencyChange.fields, List.forall_mem_cons]
  exact ⟨distinct.required text? ‹_›, distinct.required boolean? ‹_›, distinct.optional text? ‹_›,
    nofun⟩

end Json.Faithful

end AuditReports
