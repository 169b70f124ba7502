import AuditReports.Json.Record

/-!
# Audits

An audit records what was found at a visit: the deficiencies, of which each is open until it has
been resolved, and photos, which are kept as they come. The record of the audit itself is an open
one.
-/

namespace AuditReports

open Json

structure AuditHeader where
  uuid : String
  buildingAddress : Option String
  buildingOwner : Option String
  deviceType : Option String
  bankName : Option String
  submittedOn : Option String
  extra : Members

namespace AuditHeader

def declared : List String :=
  ["audit_uuid", "building_address", "building_owner", "device_type", "bank_name",
    "submitted_on"]

def ofNode? (levels : Nat) (node : Node) : Option AuditHeader := do
  let (fields, extra) ← Record.openFields? declared levels node
  return {
    uuid := ← fields.required "audit_uuid" Node.text?
    buildingAddress := ← fields.optional "building_address" Node.text?
    buildingOwner := ← fields.optional "building_owner" Node.text?
    deviceType := ← fields.optional "device_type" Node.text?
    bankName := ← fields.optional "bank_name" Node.text?
    submittedOn := ← fields.optional "submitted_on" Node.text?
    extra := extra }

end AuditHeader

/-- Something that an audit found wanting. -/
structure Deficiency where
  id : Option Int
  equipmentCode : Option String
  conditionCode : Option String
  violationEquipment : Option String
  violationCondition : Option String
  violationRemedy : Option String
  violationNote : Option String
  resolvedAt : Option String
  deriving DecidableEq, Repr

namespace Deficiency

def declared : List String :=
  ["id", "equipment_code", "condition_code", "violation_equipment", "violation_condition",
    "violation_remedy", "violation_note", "resolved_at"]

def ofNode? (node : Node) : Option Deficiency := do
  let fields ← Record.fields? declared node
  return {
    id := ← fields.optional "id" Node.integer?
    equipmentCode := ← fields.optional "equipment_code" Node.text?
    conditionCode := ← fields.optional "condition_code" Node.text?
    violationEquipment := ← fields.optional "violation_equipment" Node.text?
    violationCondition := ← fields.optional "violation_condition" Node.text?
    violationRemedy := ← fields.optional "violation_remedy" Node.text?
    violationNote := ← fields.optional "violation_note" Node.text?
    resolvedAt := ← fields.optional "resolved_at" Node.text? }

def hasBeenResolved (deficiency : Deficiency) : Bool :=
  deficiency.resolvedAt.isSome

end Deficiency

structure Audit where
  audit : AuditHeader
  deficiencies : List Deficiency
  photos : List Value

namespace Audit

def declared : List String :=
  ["audit", "deficiencies", "photos"]

/-- Reads an audit. The record within and the list of photos are a level of nesting each. -/
def ofNode? (node : Node) : Option Audit := do
  let fields ← Record.fields? declared node
  return {
    audit := ← fields.required "audit" (AuditHeader.ofNode? (nestingLimit - 2))
    deficiencies := ← fields.defaulted "deficiencies" [] (Node.list? Deficiency.ofNode?)
    photos := ← fields.defaulted "photos" [] (Node.list? (Node.value? (nestingLimit - 2))) }

def openCount (detail : Audit) : Nat :=
  detail.deficiencies.countP fun deficiency => !deficiency.hasBeenResolved

end Audit

/-- The answer to a change of a deficiency. -/
structure DeficiencyChange where
  status : String
  resolved : Bool
  resolvedAt : Option String
  deriving DecidableEq, Repr

namespace DeficiencyChange

def declared : List String :=
  ["status", "resolved", "resolved_at"]

def ofNode? (node : Node) : Option DeficiencyChange := do
  let fields ← Record.fields? declared node
  return {
    status := ← fields.required "status" Node.text?
    resolved := ← fields.required "resolved" Node.boolean?
    resolvedAt := ← fields.optional "resolved_at" Node.text? }

end DeficiencyChange

end AuditReports
