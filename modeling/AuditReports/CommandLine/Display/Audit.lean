import AuditReports.Audit
import AuditReports.CommandLine.Context
import AuditReports.Timestamp

/-!
# Display of audits

An audit is printed with its deficiencies; those that have been resolved are ticked off.
-/

namespace AuditReports.CommandLine.Display

/-- A deficiency, and in a second line its remedy. -/
def deficiency (deficiency : Deficiency) : List Line :=
  .essential ("  " ++ (if deficiency.hasBeenResolved then "[x]" else "[ ]") ++ " " ++
      Text.padLeft 6 (deficiency.id.elim "-" toString) ++ "  " ++
      Text.contentOrDash deficiency.violationEquipment ++ ": " ++
      Text.contentOrDash deficiency.violationCondition) ::
    ((deficiency.violationRemedy.filter (· != "")).map fun remedy =>
      Line.essential (Text.spaces 13 ++ remedy)).toList

def auditDetail (context : Context) (detail : Audit) : List Line :=
  context.heading s!"Audit {detail.audit.uuid}" ++
    [.field "Address" (Text.contentOrDash detail.audit.buildingAddress),
      .field "Owner" (Text.contentOrDash detail.audit.buildingOwner),
      .field "Device" (Text.contentOrDash detail.audit.deviceType),
      .field "Bank" (Text.contentOrDash detail.audit.bankName),
      .field "Submitted" (Timestamp.text detail.audit.submittedOn),
      .field "Photos" (toString detail.photos.length)] ++
    context.heading s!"Deficiencies ({detail.openCount} open of {detail.deficiencies.length})" ++
    detail.deficiencies.flatMap deficiency

def deficiencyUpdate (context : Context) (deficiencyId : Int) (update : DeficiencyChange) :
    List Line :=
  if update.resolved then
    context.remark s!"Deficiency {deficiencyId} resolved ({Timestamp.text update.resolvedAt})"
  else context.remark s!"Deficiency {deficiencyId} reopened"

end AuditReports.CommandLine.Display
