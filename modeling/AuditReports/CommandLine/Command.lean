import AuditReports.Api.Client
import AuditReports.Report.Request

/-!
# Commands

What an operator can ask for: to have a report generated and to follow the work on it, to see the
status of a job, to download a report, to list locations, to show a location or an audit, and to
mark a deficiency as resolved or reopen it.
-/

namespace AuditReports.CommandLine

structure SubmitArguments where
  address : String
  locationId : Option Int
  owner : Option String
  street : Option String
  city : Option String
  state : Option String
  zip : Option String
  contactName : Option String
  contactEmail : Option String
  notes : Option String
  recommendations : Option String
  deficiencyOnly : Bool
  visits : List String
  directory : String
  noDownload : Bool
  deriving DecidableEq, Repr

namespace SubmitArguments

/-- The request that is made. Fields of the cover page that are not given are empty, and without any
visit given the report is on the whole history. -/
def request (arguments : SubmitArguments) : ReportRequest where
  address := arguments.address
  locationId := arguments.locationId
  cover := {
    buildingOwner := arguments.owner.getD ""
    street := arguments.street.getD ""
    city := arguments.city.getD ""
    state := arguments.state.getD ""
    zip := arguments.zip.getD ""
    contactName := arguments.contactName.getD ""
    contactEmail := arguments.contactEmail.getD "" }
  notes := arguments.notes
  recommendations := arguments.recommendations
  deficiencyOnly := arguments.deficiencyOnly
  visits := if arguments.visits.isEmpty then .all else .selected arguments.visits

end SubmitArguments

structure DownloadArguments where
  jobId : String
  /-- Names the file if the server gives it no name. -/
  address : Option String
  directory : String
  deriving DecidableEq, Repr

structure ListArguments where
  page : Nat
  pageSize : Option Nat
  search : Option String
  deriving DecidableEq, Repr

namespace ListArguments

def standardPageSize : Nat := 25

def query (arguments : ListArguments) : LocationQuery :=
  ⟨some arguments.page, some (arguments.pageSize.getD standardPageSize),
    arguments.search.filter (!Text.blank ·)⟩

end ListArguments

structure DeficiencyArguments where
  auditId : String
  deficiencyId : Int
  resolved : Bool
  reopened : Bool
  deriving DecidableEq, Repr

inductive Command where
  | submit (arguments : SubmitArguments)
  | status (jobId : String)
  | download (arguments : DownloadArguments)
  | locations (arguments : ListArguments)
  | location (key : LocationKey)
  | audit (auditId : String)
  | deficiency (arguments : DeficiencyArguments)
  deriving DecidableEq, Repr

end AuditReports.CommandLine
