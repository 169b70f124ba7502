import AuditReports.Json.Node
import AuditReports.Text.Blank
import AuditReports.Text.Email

/-!
# Report requests

A request names a location, fills in the cover page and says which visits the report draws on. It is
checked before anything is sent: the address, the seven fields of the cover page, the form of the
email address, and that a selection of visits selects something, in this order. What passes becomes
a payload in which every text is trimmed and none is blank.
-/

namespace AuditReports

open Json

/-- What is printed on the first page of a report. -/
structure CoverPage where
  buildingOwner : String
  street : String
  city : String
  state : String
  zip : String
  contactName : String
  contactEmail : String
  deriving DecidableEq, Repr

namespace CoverPage

/-- The fields with the names that an operator knows them by. -/
def fields (cover : CoverPage) : List (String × String) :=
  [("building owner", cover.buildingOwner), ("street", cover.street), ("city", cover.city),
    ("state", cover.state), ("zip", cover.zip), ("contact name", cover.contactName),
    ("contact email", cover.contactEmail)]

/-- The names of the fields that are blank. -/
def missing (cover : CoverPage) : List String :=
  (cover.fields.filter fun field => Text.blank field.2).map (·.1)

end CoverPage

/-- Which visits a report draws on. -/
inductive VisitSelection where
  | all
  | selected (ids : List String)
  deriving DecidableEq, Repr

/-- A request for a report, or for a list of deficiencies, on one location. -/
structure ReportRequest where
  address : String
  locationId : Option Int
  cover : CoverPage
  notes : Option String
  recommendations : Option String
  deficiencyOnly : Bool
  visits : VisitSelection
  deriving DecidableEq, Repr

inductive Rejection where
  | missingAddress
  | incompleteCoverPage (missing : List String)
  | invalidEmail
  | noVisitsSelected
  deriving DecidableEq, Repr

namespace Rejection

def message : Rejection → String
  | .missingAddress => "Address is required"
  | .incompleteCoverPage missing =>
      "Please complete all cover page fields (missing: " ++ ", ".intercalate missing ++ ")."
  | .invalidEmail => "Please provide a valid contact email address."
  | .noVisitsSelected => "Select at least one visit to include in the report."

end Rejection

/-- What is sent for a new report. -/
structure Payload where
  address : String
  locationId : Option Int
  coverBuildingOwner : Option String
  coverStreet : Option String
  coverCity : Option String
  coverState : Option String
  coverZip : Option String
  coverContactName : Option String
  coverContactEmail : Option String
  notes : Option String
  recommendations : Option String
  deficiencyOnly : Option Bool
  visitIds : Option (List String)
  deriving DecidableEq, Repr

namespace Payload

/-- A member that is left out when there is nothing to send. -/
def member {α : Type} (name : String) (encode : α → Node) (value : Option α) :
    List (String × Node) :=
  match value with
  | none => []
  | some content => [(name, encode content)]

/-- The members that are sent, in their order. -/
def members (payload : Payload) : List (String × Node) :=
  [("address", .ofText payload.address)] ++
    member "location_id" .ofInt payload.locationId ++
    member "cover_building_owner" .ofText payload.coverBuildingOwner ++
    member "cover_street" .ofText payload.coverStreet ++
    member "cover_city" .ofText payload.coverCity ++
    member "cover_state" .ofText payload.coverState ++
    member "cover_zip" .ofText payload.coverZip ++
    member "cover_contact_name" .ofText payload.coverContactName ++
    member "cover_contact_email" .ofText payload.coverContactEmail ++
    member "notes" .ofText payload.notes ++
    member "recommendations" .ofText payload.recommendations ++
    member "deficiency_only" .boolean payload.deficiencyOnly ++
    member "visit_ids" (fun ids => .array (ids.map .ofText)) payload.visitIds

def node (payload : Payload) : Node :=
  .ofMembers payload.members

end Payload

namespace ReportRequest

/-- The visits that are sent; all visits need no list. -/
def visitIds (request : ReportRequest) : Except Rejection (Option (List String)) :=
  match request.visits with
  | .all => .ok none
  | .selected ids =>
      match ids.filterMap Text.content? with
      | [] => .error .noVisitsSelected
      | kept => .ok (some kept)

/-- The payload of a request, once it is known which visits are sent. -/
def payload (request : ReportRequest) (visitIds : Option (List String)) : Payload where
  address := Text.trim request.address
  locationId := request.locationId
  coverBuildingOwner := some (Text.trim request.cover.buildingOwner)
  coverStreet := some (Text.trim request.cover.street)
  coverCity := some (Text.trim request.cover.city)
  coverState := some (Text.trim request.cover.state)
  coverZip := some (Text.trim request.cover.zip)
  coverContactName := some (Text.trim request.cover.contactName)
  coverContactEmail := some (Text.trim request.cover.contactEmail)
  notes := request.notes.bind Text.content?
  recommendations := request.recommendations.bind Text.content?
  deficiencyOnly := if request.deficiencyOnly then some true else none
  visitIds := visitIds

/-- Checks a request and makes the payload for it. -/
def check (request : ReportRequest) : Except Rejection Payload :=
  if Text.blank request.address then .error .missingAddress
  else if !request.cover.missing.isEmpty then
    .error (.incompleteCoverPage request.cover.missing)
  else if !Text.Email.wellFormed (Text.trim request.cover.contactEmail).toList then
    .error .invalidEmail
  else request.visitIds.map request.payload

end ReportRequest

end AuditReports
