import AuditReports.Json.Record

/-!
# Locations

The server lists locations page by page, and tells the details of one: its summary, the visits to it
and the reports that exist on it. The detail and its summary are open records, whose further members
are kept.
-/

namespace AuditReports

open Json

structure LocationEntry where
  locationCode : Option String
  locationRowId : Option Int
  address : String
  formattedAddress : Option String
  siteName : Option String
  city : Option String
  state : Option String
  buildingOwner : Option String
  vendorName : Option String
  deviceCount : Nat
  openDeficiencies : Nat
  deriving DecidableEq, Repr

namespace LocationEntry

def declared : List String :=
  ["location_code", "location_row_id", "address", "formatted_address", "site_name", "city",
    "state", "building_owner", "vendor_name", "device_count", "open_deficiencies"]

def ofNode? (node : Node) : Option LocationEntry := do
  let fields ← Record.fields? declared node
  return {
    locationCode := ← fields.optional "location_code" Node.text?
    locationRowId := ← fields.optional "location_row_id" Node.integer?
    address := ← fields.required "address" Node.text?
    formattedAddress := ← fields.optional "formatted_address" Node.text?
    siteName := ← fields.optional "site_name" Node.text?
    city := ← fields.optional "city" Node.text?
    state := ← fields.optional "state" Node.text?
    buildingOwner := ← fields.optional "building_owner" Node.text?
    vendorName := ← fields.optional "vendor_name" Node.text?
    deviceCount := ← fields.defaulted "device_count" 0 Node.count?
    openDeficiencies := ← fields.defaulted "open_deficiencies" 0 Node.count? }

end LocationEntry

structure LocationPage where
  page : Nat
  pageSize : Nat
  total : Nat
  items : List LocationEntry
  deriving DecidableEq, Repr

namespace LocationPage

def declared : List String :=
  ["page", "page_size", "total", "items"]

def ofNode? (node : Node) : Option LocationPage := do
  let fields ← Record.fields? declared node
  return {
    page := ← fields.required "page" Node.count?
    pageSize := ← fields.required "page_size" Node.count?
    total := ← fields.required "total" Node.size?
    items := ← fields.required "items" (Node.list? LocationEntry.ofNode?) }

end LocationPage

structure LocationOverview where
  address : String
  locationRowId : Option Int
  siteName : Option String
  street : Option String
  city : Option String
  state : Option String
  zip : Option String
  buildingOwner : Option String
  deviceCount : Nat
  auditCount : Nat
  totalDeficiencies : Nat
  openDeficiencies : Nat
  extra : Members

namespace LocationOverview

def declared : List String :=
  ["address", "location_row_id", "site_name", "street", "city", "state", "zip",
    "building_owner", "device_count", "audit_count", "total_deficiencies", "open_deficiencies"]

def ofNode? (levels : Nat) (node : Node) : Option LocationOverview := do
  let (fields, extra) ← Record.openFields? declared levels node
  return {
    address := ← fields.required "address" Node.text?
    locationRowId := ← fields.optional "location_row_id" Node.integer?
    siteName := ← fields.optional "site_name" Node.text?
    street := ← fields.optional "street" Node.text?
    city := ← fields.optional "city" Node.text?
    state := ← fields.optional "state" Node.text?
    zip := ← fields.optional "zip" Node.text?
    buildingOwner := ← fields.optional "building_owner" Node.text?
    deviceCount := ← fields.defaulted "device_count" 0 Node.count?
    auditCount := ← fields.defaulted "audit_count" 0 Node.count?
    totalDeficiencies := ← fields.defaulted "total_deficiencies" 0 Node.count?
    openDeficiencies := ← fields.defaulted "open_deficiencies" 0 Node.count?
    extra := extra }

end LocationOverview

/-- One visit to a location. -/
structure Visit where
  visitId : Option String
  label : Option String
  startedAt : Option String
  completedAt : Option String
  auditCount : Nat
  deviceCount : Nat
  openDeficiencies : Nat
  deriving DecidableEq, Repr

namespace Visit

def declared : List String :=
  ["visit_id", "label", "started_at", "completed_at", "audit_count", "device_count",
    "open_deficiencies"]

def ofNode? (node : Node) : Option Visit := do
  let fields ← Record.fields? declared node
  return {
    visitId := ← fields.optional "visit_id" Node.text?
    label := ← fields.optional "label" Node.text?
    startedAt := ← fields.optional "started_at" Node.text?
    completedAt := ← fields.optional "completed_at" Node.text?
    auditCount := ← fields.defaulted "audit_count" 0 Node.count?
    deviceCount := ← fields.defaulted "device_count" 0 Node.count?
    openDeficiencies := ← fields.defaulted "open_deficiencies" 0 Node.count? }

end Visit

/-- A report that exists on a location. -/
structure IssuedReport where
  jobId : String
  version : Option Int
  createdAt : Option String
  completedAt : Option String
  filename : Option String
  sizeBytes : Option Nat
  downloadUrl : Option String
  includeAll : Option Bool
  selectedCount : Option Nat
  deriving DecidableEq, Repr

namespace IssuedReport

def declared : List String :=
  ["job_id", "version", "created_at", "completed_at", "filename", "size_bytes", "download_url",
    "include_all", "selected_count"]

def ofNode? (node : Node) : Option IssuedReport := do
  let fields ← Record.fields? declared node
  return {
    jobId := ← fields.required "job_id" Node.text?
    version := ← fields.optional "version" Node.integer?
    createdAt := ← fields.optional "created_at" Node.text?
    completedAt := ← fields.optional "completed_at" Node.text?
    filename := ← fields.optional "filename" Node.text?
    sizeBytes := ← fields.optional "size_bytes" Node.size?
    downloadUrl := ← fields.optional "download_url" Node.text?
    includeAll := ← fields.optional "include_all" Node.boolean?
    selectedCount := ← fields.optional "selected_count" Node.count? }

end IssuedReport

structure Location where
  summary : LocationOverview
  visits : List Visit
  reports : List IssuedReport
  deficiencyReports : List IssuedReport
  extra : Members

namespace Location

def declared : List String :=
  ["summary", "visits", "reports", "deficiency_reports"]

/-- Reads the details. The record and its summary are a level of nesting each. -/
def ofNode? (node : Node) : Option Location := do
  let (fields, extra) ← Record.openFields? declared (nestingLimit - 1) node
  return {
    summary := ← fields.required "summary" (LocationOverview.ofNode? (nestingLimit - 2))
    visits := ← fields.defaulted "visits" [] (Node.list? Visit.ofNode?)
    reports := ← fields.defaulted "reports" [] (Node.list? IssuedReport.ofNode?)
    deficiencyReports :=
      ← fields.defaulted "deficiency_reports" [] (Node.list? IssuedReport.ofNode?)
    extra := extra }

end Location

end AuditReports
