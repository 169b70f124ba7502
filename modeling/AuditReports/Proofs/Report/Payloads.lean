import AuditReports.Proofs.Json.Documents
import AuditReports.Proofs.Report.Requests

/-!
# Payloads as documents

A payload is sent as an object with a member for every field that has a value, and no member at all
for one that has none. So the object has no `null` in it, and all of its strings are texts of the
payload.
-/

namespace AuditReports.Payload

open Json

theorem mem_member {α : Type} {name : String} {encode : α → Node} {value : Option α}
    {entry : String × Node} :
    entry ∈ member name encode value ↔ ∃ content, value = some content ∧
      entry = (name, encode content) := by
  cases value <;> simp [member]

variable {payload : Payload}

/-- Visits are named exactly if the payload has some. -/
theorem visit_ids_mem_members {node : Node} :
    ("visit_ids", node) ∈ payload.members ↔
      ∃ ids, payload.visitIds = some ids ∧ node = .array (ids.map .ofText) := by
  simp [members, mem_member]

theorem deficiency_only_mem_members {node : Node} :
    ("deficiency_only", node) ∈ payload.members ↔
      ∃ value, payload.deficiencyOnly = some value ∧ node = .boolean value := by
  simp [members, mem_member]

/-- What a member of the object may be. -/
inductive IsValue (payload : Payload) : Node → Prop
  | text {text : String} (listed : text ∈ payload.texts) : payload.IsValue (.ofText text)
  | integer (value : Int) : payload.IsValue (.ofInt value)
  | boolean (value : Bool) : payload.IsValue (.boolean value)
  | texts {ids : List String} (listed : ids ⊆ payload.texts) :
      payload.IsValue (.array (ids.map .ofText))

theorem isValue_of_mem_members {entry : String × Node} (listed : entry ∈ payload.members) :
    payload.IsValue entry.2 := by
  simp only [members, List.mem_append, List.mem_singleton, mem_member, or_assoc] at listed
  rcases listed with rfl | ⟨value, _, rfl⟩ | listed
  · exact .text (by simp [texts])
  · exact .integer value
  rcases listed with ⟨text, given, rfl⟩ | ⟨text, given, rfl⟩ | ⟨text, given, rfl⟩ |
    ⟨text, given, rfl⟩ | ⟨text, given, rfl⟩ | ⟨text, given, rfl⟩ | ⟨text, given, rfl⟩ |
    ⟨text, given, rfl⟩ | ⟨text, given, rfl⟩ | ⟨value, _, rfl⟩ | ⟨ids, given, rfl⟩
  -- Nine fields are texts; the last two are not.
  rotate_left 9
  · exact .boolean value
  · exact .texts fun id listed => by simp [texts, given, listed]
  all_goals exact .text (by simp [texts, List.reduceOption, given])

/-! ## All that is in the object -/

theorem IsValue.legible {node : Node} (isValue : payload.IsValue node) : node.Legible := by
  cases isValue with
  | text => exact .ofText _
  | integer value => exact .ofInt value
  | boolean value => exact .boolean value
  | texts listed =>
      refine .array fun item inside => ?_
      rcases List.mem_map.mp inside with ⟨text, _, rfl⟩
      exact .ofText text

theorem IsValue.occurs_string {node : Node} (isValue : payload.IsValue node)
    {text : Option String} (occurs : (Node.string text).Occurs node) :
    ∃ content ∈ payload.texts, text = some content := by
  cases isValue with
  | text listed =>
      cases occurs
      exact ⟨_, listed, rfl⟩
  | integer value => cases occurs
  | boolean value => cases occurs
  | texts listed =>
      cases occurs with
      | item inside occurs =>
          rcases List.mem_map.mp inside with ⟨id, among, rfl⟩
          cases occurs
          exact ⟨id, listed among, rfl⟩

theorem IsValue.not_occurs_null {node : Node} (isValue : payload.IsValue node) :
    ¬ Node.null.Occurs node := by
  intro occurs
  cases isValue with
  | text listed => cases occurs
  | integer value => cases occurs
  | boolean value => cases occurs
  | texts listed =>
      cases occurs with
      | item inside occurs =>
          rcases List.mem_map.mp inside with ⟨id, _, rfl⟩
          cases occurs

/-- A payload can be read off its text. -/
theorem parse?_text_node (payload : Payload) :
    Node.parse? payload.node.text = some payload.node :=
  Node.parse?_text (.ofMembers fun _ listed => (isValue_of_mem_members listed).legible)

theorem occurs_string_node {text : Option String}
    (occurs : (Node.string text).Occurs payload.node) :
    ∃ content ∈ payload.texts, text = some content := by
  rcases occurs.ofMembers (by rintro ⟨⟩) with ⟨member, listed, inside⟩
  exact (isValue_of_mem_members listed).occurs_string inside

theorem not_occurs_null_node : ¬ Node.null.Occurs payload.node := by
  intro occurs
  rcases occurs.ofMembers (by rintro ⟨⟩) with ⟨member, listed, inside⟩
  exact (isValue_of_mem_members listed).not_occurs_null inside

/-- The names that a member may have. -/
def names : List String :=
  ["address", "location_id", "cover_building_owner", "cover_street", "cover_city", "cover_state",
    "cover_zip", "cover_contact_name", "cover_contact_email", "notes", "recommendations",
    "deficiency_only", "visit_ids"]

theorem mem_names {entry : String × Node} (listed : entry ∈ payload.members) : entry.1 ∈ names := by
  simp only [members, List.mem_append, List.mem_singleton, mem_member, or_assoc] at listed
  rcases listed with rfl | ⟨_, _, rfl⟩ | ⟨_, _, rfl⟩ | ⟨_, _, rfl⟩ | ⟨_, _, rfl⟩ | ⟨_, _, rfl⟩ |
    ⟨_, _, rfl⟩ | ⟨_, _, rfl⟩ | ⟨_, _, rfl⟩ | ⟨_, _, rfl⟩ | ⟨_, _, rfl⟩ | ⟨_, _, rfl⟩ |
    ⟨_, _, rfl⟩ <;> simp [names]

end AuditReports.Payload
