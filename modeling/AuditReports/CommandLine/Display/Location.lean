import AuditReports.CommandLine.Context
import AuditReports.FileSize
import AuditReports.Location
import AuditReports.Timestamp

/-!
# Display of locations

A page of the list of locations is printed as a table, and a single location as its summary with a
table of the visits and a table for each kind of report.
-/

namespace AuditReports

namespace LocationEntry

/-- The address in the form that the server prefers to show, if it has one. -/
def shownAddress (entry : LocationEntry) : String :=
  match entry.formattedAddress with
  | some address => if Text.blank address then entry.address else address
  | none => entry.address

end LocationEntry

namespace LocationPage

/-- How many pages there are, at least one. -/
def pages (page : LocationPage) : Nat :=
  if page.pageSize == 0 then 1 else max 1 ((page.total + page.pageSize - 1) / page.pageSize)

end LocationPage

namespace CommandLine.Display

def locationRow (address owner devices openCount : String) : Line :=
  .essential (Text.padRight 44 address ++ " " ++ Text.padRight 20 owner ++ " " ++
    Text.padLeft 7 devices ++ " " ++ Text.padLeft 6 openCount)

def locationEntry (entry : LocationEntry) : Line :=
  locationRow (Text.abbreviate 44 entry.shownAddress)
    (Text.abbreviate 20 (Text.contentOrDash entry.buildingOwner)) (toString entry.deviceCount)
    (toString entry.openDeficiencies)

def locationPage (context : Context) (page : LocationPage) : List Line :=
  if page.items.isEmpty then context.remark "No locations found"
  else
    locationRow "Address" "Owner" "Devices" "Open" :: page.items.map locationEntry ++
      [.essential "",
        .essential s!"Page {page.page} of {page.pages} ({page.total} locations)"]

def visit (visit : Visit) : Line :=
  .essential ("  " ++ Text.padRight 24 (Text.contentOrDash visit.visitId) ++ " " ++
    Text.padRight 20 (Timestamp.text visit.startedAt) ++ " " ++
    Text.padLeft 3 (toString visit.auditCount) ++ " audits " ++
    Text.padLeft 3 (toString visit.openDeficiencies) ++ " open  " ++ Text.contentOrDash visit.label)

/-- A report that exists, with the time when it was completed, or else created. -/
def version (version : IssuedReport) : Line :=
  .essential ("  " ++
    Text.padRight 5 (version.version.elim "-" fun number => "v" ++ toString number) ++ " " ++
    Text.padRight 20 (Timestamp.text (version.completedAt.or version.createdAt)) ++ " " ++
    Text.padLeft 9 (version.sizeBytes.elim "-" FileSize.text) ++ "  " ++ version.jobId)

/-- A section with a line for each item, or with a note that there is none. -/
def listing (context : Context) (title absence : String) (items : List Line) : List Line :=
  context.heading title ++ if items.isEmpty then [.essential ("  " ++ absence)] else items

def locationDetail (context : Context) (detail : Location) : List Line :=
  context.heading detail.summary.address ++
    (detail.summary.siteName.map (Line.field "Site")).toList ++
    [.field "Owner" (Text.contentOrDash detail.summary.buildingOwner),
      .field "Devices" (toString detail.summary.deviceCount),
      .field "Audits" (toString detail.summary.auditCount),
      .field "Deficiencies"
        s!"{detail.summary.openDeficiencies} open of {detail.summary.totalDeficiencies}"] ++
    listing context "Visits" "No visits recorded" (detail.visits.map visit) ++
    listing context "Reports" "None generated yet" (detail.reports.map version) ++
    listing context "Deficiency lists" "None generated yet" (detail.deficiencyReports.map version)

end CommandLine.Display

end AuditReports
