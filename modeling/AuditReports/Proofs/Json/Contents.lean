import AuditReports.Proofs.Json.Shapes
import Mathlib.Data.List.Pairwise

/-!
# What documents tell

A reader is held to what is written. A document tells a text, a number or a list of contents if it
is written as one, and it tells a record if what is written for each declared field tells the
content of that field. This is a relation between documents and contents. The readers of records do
not occur in it; what is kept as it comes is told as the value that it is.

A reader is faithful if what it reads is told by the document that it was read from. The reader of a
record is faithful if the readers of its fields are; and if the record is an open one, then every
member of the object is told by a field or has been collected.
-/

namespace AuditReports.Json

variable {α ρ : Type}

namespace Node

/-! ## Single contents -/

def TellsText (node : Node) (text : String) : Prop :=
  node = .ofText text

def TellsBoolean (node : Node) (value : Bool) : Prop :=
  node = .boolean value

def TellsInteger (node : Node) (value : Int) : Prop :=
  ∃ literal, node = .number literal ∧ literal.integer? = some value

def TellsCount (node : Node) (count : Nat) : Prop :=
  node.TellsInteger count

def TellsValue (levels : Nat) (node : Node) (value : Value) : Prop :=
  node.value? levels = some value

/-- A list tells its contents one by one. -/
def TellsList (tells : Node → α → Prop) (node : Node) (contents : List α) : Prop :=
  ∃ items, node = .array items ∧ List.Forall₂ tells items contents

/-- What is written for a field that may be missing or `null`, and what it tells. -/
inductive TellsIfSet (tells : Node → α → Prop) : Option Node → Option α → Prop
  | missing : TellsIfSet tells none none
  | null : TellsIfSet tells (some .null) none
  | set {node : Node} {content : α} (told : tells node content) :
      TellsIfSet tells (some node) (some content)

/-- What is written for a field with a default, and what it tells. -/
inductive TellsUnlessMissing (tells : Node → α → Prop) (default : α) : Option Node → α → Prop
  | missing : TellsUnlessMissing tells default none default
  | written {node : Node} {content : α} (told : tells node content) :
      TellsUnlessMissing tells default (some node) content

end Node

open Node

/-! ## Records -/

/-- A declared field of a record: its name, and when what is written for it tells its content. -/
structure RecordField (ρ : Type) where
  name : String
  Tells : Option Node → ρ → Prop

namespace RecordField

variable (name : String) (tells : Node → α → Prop)

def required (content : ρ → α) : RecordField ρ where
  name := name
  Tells written record := ∃ node, written = some node ∧ tells node (content record)

def defaulted (default : α) (content : ρ → α) : RecordField ρ where
  name := name
  Tells written record := TellsUnlessMissing tells default written (content record)

def optional (content : ρ → Option α) : RecordField ρ where
  name := name
  Tells written record := TellsIfSet tells written (content record)

end RecordField

namespace Record

/-- What is written for the declared names: in an object it is the member of the name, and in an
array the item in its place. -/
inductive Written (declared : List String) : Node → Fields → Prop
  | object {members : List (Option String × Node)} {fields : Fields}
      (named : ∀ name ∈ declared, ∀ node, fields name = some node ↔ (some name, node) ∈ members) :
      Written declared (.object members) fields
  | array {items : List Node} {fields : Fields} (fits : items.length ≤ declared.length)
      (placed : ∀ (index : Nat) name, declared[index]? = some name → fields name = items[index]?) :
      Written declared (.array items) fields

/-- A document tells a record if what is written for each field tells what the field holds. -/
def Tells (declared : List (RecordField ρ)) (node : Node) (record : ρ) : Prop :=
  ∃ fields, Written (declared.map (·.name)) node fields ∧
    ∀ field ∈ declared, field.Tells (fields field.name) record

/-- Each member is told by a declared field, or it has been collected with its value; and what has
been collected is the members that are not declared. -/
structure Accounts (declared : List (RecordField ρ)) (levels : Nat)
    (members : List (Option String × Node)) (record : ρ) (extra : Members) : Prop
    extends Collects (declared.map (·.name)) levels members extra where
  accounts : ∀ member ∈ members,
    (∃ field ∈ declared, member.1 = some field.name ∧ field.Tells (some member.2) record) ∨
      ∃ name value, member.1 = some name ∧ member.2.value? levels = some value ∧
        (name, value) ∈ extra

/-- A document tells an open record if it is an object that tells the declared fields and of which
every member is accounted for. -/
def TellsAll (declared : List (RecordField ρ)) (extra : ρ → Members) (levels : Nat) (node : Node)
    (record : ρ) : Prop :=
  ∃ members, node = .object members ∧ Tells declared node record ∧
    Accounts declared levels members record (extra record)

end Record

/-! ## Faithful readers -/

/-- What is read from a document is told by it. -/
def Faithful (value? : Node → Option α) (tells : Node → α → Prop) : Prop :=
  ∀ node content, node.DistinctNames → value? node = some content → tells node content

namespace Faithful

theorem text? : Faithful Node.text? TellsText := by
  intro node text _ read
  cases node with
  | string text => exact congrArg Node.string read
  | _ => cases read

theorem boolean? : Faithful Node.boolean? TellsBoolean := by
  intro node value _ read
  cases node with
  | boolean value => exact congrArg Node.boolean (Option.some.inj read)
  | _ => cases read

theorem between? (low high : Int) : Faithful (Node.between? low high) TellsInteger := by
  intro node value _ read
  cases node with
  | number literal =>
      rcases Option.bind_eq_some_iff.mp read with ⟨whole, found, within⟩
      rcases Option.ite_none_right_eq_some.mp within with ⟨_, same⟩
      exact ⟨literal, rfl, found.trans same⟩
  | _ => cases read

theorem integer? : Faithful Node.integer? TellsInteger :=
  between? _ _

theorem natural? (high : Nat) : Faithful (Node.natural? high) TellsCount := by
  intro node count distinct read
  rcases Option.map_eq_some_iff.mp read with ⟨whole, found, rfl⟩
  have natural : (whole.toNat : Int) = whole := Int.toNat_of_nonneg (bounds_of_between? found).1
  rw [TellsCount, natural]
  exact between? _ _ node whole distinct found

theorem count? : Faithful Node.count? TellsCount :=
  natural? _

theorem size? : Faithful Node.size? TellsCount :=
  natural? _

theorem value? (levels : Nat) : Faithful (Node.value? levels) (TellsValue levels) :=
  fun _ _ _ read => read

theorem list? {item? : Node → Option α} {tells : Node → α → Prop}
    (faithful : Faithful item? tells) : Faithful (Node.list? item?) (TellsList tells) := by
  intro node contents distinct read
  cases node with
  | array items =>
      refine ⟨items, rfl, ?_⟩
      have each := List.forall₂_iff_get.mp (mapM_eq_some_iff.mp read)
      refine List.forall₂_iff_get.mpr ⟨each.1, fun index isItem isContent => ?_⟩
      exact faithful _ _ (distinct.item (items.get_mem _)) (each.2 index isItem isContent)
  | _ => cases read

end Faithful

/-! ## Fields that have been read -/

namespace Fields

variable {fields : Fields} {name : String} {value? : Node → Option α} {tells : Node → α → Prop}

/-- Whatever is written for a field has distinct names. -/
def DistinctNames (fields : Fields) : Prop :=
  ∀ name, ∀ node ∈ fields name, node.DistinctNames

theorem DistinctNames.required (distinct : fields.DistinctNames) (faithful : Faithful value? tells)
    {content : ρ → α} {record : ρ} (read : fields.required name value? = some (content record)) :
    (RecordField.required name tells content).Tells (fields name) record := by
  rcases Option.bind_eq_some_iff.mp read with ⟨node, written, read⟩
  exact ⟨node, written, faithful node _ (distinct name node written) read⟩

theorem DistinctNames.defaulted (distinct : fields.DistinctNames)
    (faithful : Faithful value? tells) {default : α} {content : ρ → α} {record : ρ}
    (read : fields.defaulted name default value? = some (content record)) :
    (RecordField.defaulted name tells default content).Tells (fields name) record := by
  simp only [RecordField.defaulted, Fields.defaulted] at read ⊢
  rcases written : fields name with _ | node <;> rw [written] at read
  · exact Option.some.inj read ▸ .missing
  · exact .written (faithful node _ (distinct name node written) read)

theorem DistinctNames.optional (distinct : fields.DistinctNames) (faithful : Faithful value? tells)
    {content : ρ → Option α} {record : ρ}
    (read : fields.optional name value? = some (content record)) :
    (RecordField.optional name tells content).Tells (fields name) record := by
  simp only [RecordField.optional]
  rcases written : fields name with _ | node
  · rw [Fields.optional, written] at read
    exact Option.some.inj read ▸ .missing
  by_cases unset : node = .null
  · rw [Fields.optional, written, unset] at read
    exact unset ▸ Option.some.inj read ▸ .null
  · rw [optional_of_ne_null written unset] at read
    rcases Option.map_eq_some_iff.mp read with ⟨value, read, same⟩
    exact same ▸ .set (faithful node value (distinct name node written) read)

end Fields

/-! ## Records that have been read -/

namespace Record

variable {names : List String} {node : Node} {fields : Fields}

/-- A name is found in its place. -/
theorem lookup_zip {items : List Node} (distinct : names.Nodup) {index : Nat} {name : String}
    (place : names[index]? = some name) : lookup (names.zip items) name = items[index]? := by
  induction names generalizing items index with
  | nil => cases place
  | cons first names ih =>
      rcases List.nodup_cons.mp distinct with ⟨fresh, distinct⟩
      cases items with
      | nil => rfl
      | cons item items =>
          cases index with
          | zero =>
              cases place
              simp [lookup]
          | succ index =>
              have other : (first == name) = false :=
                beq_false_of_ne fun same => fresh (same ▸ List.mem_of_getElem? place)
              rw [lookup, List.zip_cons_cons, List.find?_cons_of_neg (by simpa using other)]
              exact ih distinct place

theorem mem_of_lookup {named : List (String × Node)} {name : String} {node : Node}
    (found : lookup named name = some node) : (name, node) ∈ named := by
  rcases Option.map_eq_some_iff.mp found with ⟨member, first, rfl⟩
  have same : member.1 = name := by simpa using List.find?_some first
  exact same ▸ List.mem_of_find?_eq_some first

theorem written_of_fields? (distinct : names.Nodup) (opened : fields? names node = some fields) :
    Written names node fields := by
  cases node with
  | object members =>
      rcases fields?_object_eq_some_iff.mp opened with ⟨named, all, once, rfl⟩
      refine .object fun name isDeclared node => ?_
      rw [lookup_eq_some_iff_mem once isDeclared, mem_of_named? all]
  | array items =>
      rcases Option.ite_none_right_eq_some.mp opened with ⟨fits, ⟨⟩⟩
      exact .array fits fun _ _ => lookup_zip distinct
  | _ => cases opened

theorem distinctNames_of_fields? (distinct : node.DistinctNames)
    (opened : fields? names node = some fields) : fields.DistinctNames := by
  intro name field written
  cases node with
  | object members =>
      rcases fields?_object_eq_some_iff.mp opened with ⟨named, all, _, rfl⟩
      exact distinct.member ((mem_of_named? all).mp (mem_of_lookup written))
  | array items =>
      rcases Option.ite_none_right_eq_some.mp opened with ⟨_, ⟨⟩⟩
      exact distinct.item (List.of_mem_zip (mem_of_lookup written)).2
  | _ => cases opened

/-- What a field that has to be there holds is told by the member of its name. -/
theorem Tells.exists_of_required {declared : List (RecordField ρ)}
    {members : List (Option String × Node)} {record : ρ} {name : String} {tells : Node → α → Prop} {content : ρ → α}
    (told : Tells declared (.object members) record)
    (isDeclared : RecordField.required name tells content ∈ declared) :
    ∃ node, (some name, node) ∈ members ∧ tells node (content record) := by
  rcases told with ⟨fields, ⟨named⟩, each⟩
  rcases each _ isDeclared with ⟨node, written, told⟩
  exact ⟨node, (named name (List.mem_map_of_mem isDeclared) node).mp written, told⟩

/-- No two members have the same name. -/
theorem eq_of_mem {members : List (Option String × Node)} {name : String} {node other : Node}
    (distinct : (Node.object members).DistinctNames) (listed : (some name, node) ∈ members)
    (among : (some name, other) ∈ members) : node = other := by
  have apart := List.pairwise_filterMap.mp (distinct members .self)
  have same : members.Pairwise fun first second =>
      first.1 = some name → second.1 = some name → first.2 = second.2 :=
    apart.imp fun apart first second => absurd rfl (apart name first name second)
  exact @List.Pairwise.forall_of_forall _ _ _
    ⟨fun _ _ same second first => (same first second).symm⟩ (fun _ _ _ _ => rfl) same
    _ listed _ among rfl rfl

/-- Of an object that tells a record and whose other members have been collected, each member is
accounted for. -/
theorem accounts_of_tells {declared : List (RecordField ρ)} {levels : Nat}
    {members : List (Option String × Node)} {record : ρ} {extra : Members}
    (distinct : (Node.object members).DistinctNames)
    (collects : Collects (declared.map (·.name)) levels members extra)
    (tells : Tells declared (.object members) record) :
    Accounts declared levels members record extra := by
  refine ⟨collects, fun member listed => ?_⟩
  rcases tells with ⟨fields, ⟨named⟩, each⟩
  rcases member with ⟨name?, node⟩
  rcases collects.complete _ listed with ⟨name, rfl, isDeclared | ⟨value, collected⟩⟩
  · rcases List.mem_map.mp isDeclared with ⟨field, among, rfl⟩
    have written := (named field.name isDeclared node).mpr listed
    exact Or.inl ⟨field, among, rfl, written ▸ each field among⟩
  · rcases ((collects.mem_iff name value).mp collected).2 with ⟨other, among, read⟩
    exact Or.inr ⟨name, value, rfl, eq_of_mem distinct listed among ▸ read, collected⟩

end Record

namespace Faithful

variable {names : List String} {declared : List (RecordField ρ)}

/-- A reader of a record is faithful if it is for each of the fields. -/
theorem record {body : Fields → Option ρ} (same : declared.map (·.name) = names)
    (distinctFields : names.Nodup)
    (each : ∀ {fields record}, fields.DistinctNames → body fields = some record →
      ∀ field ∈ declared, field.Tells (fields field.name) record) :
    Faithful (fun node => (Record.fields? names node).bind body) (Record.Tells declared) := by
  intro node record distinct read
  rcases Option.bind_eq_some_iff.mp read with ⟨fields, opened, read⟩
  exact ⟨fields, same ▸ Record.written_of_fields? distinctFields opened,
    each (Record.distinctNames_of_fields? distinct opened) read⟩

/-- A reader of an open record is faithful if it keeps what has been collected. -/
theorem openRecord {levels : Nat} {extra : ρ → Members} {body : Fields × Members → Option ρ}
    (same : declared.map (·.name) = names) (distinctFields : names.Nodup)
    (each : ∀ {fields collected record}, fields.DistinctNames →
      body (fields, collected) = some record → extra record = collected ∧
        ∀ field ∈ declared, field.Tells (fields field.name) record) :
    Faithful (fun node => (Record.openFields? names levels node).bind body)
      (Record.TellsAll declared extra levels) := by
  intro node record distinct read
  rcases Option.bind_eq_some_iff.mp read with ⟨⟨fields, collected⟩, opened, read⟩
  have closed := Record.fields?_of_openFields? opened
  rcases each (Record.distinctNames_of_fields? distinct closed) read with ⟨kept, each⟩
  rcases Record.collects_of_openFields? distinct opened with ⟨members, rfl, collects⟩
  have tells : Record.Tells declared (.object members) record :=
    ⟨fields, same ▸ Record.written_of_fields? distinctFields closed, each⟩
  exact ⟨members, rfl, tells, Record.accounts_of_tells distinct (same ▸ kept ▸ collects) tells⟩

end Faithful

end AuditReports.Json
