import AuditReports.Json.Value

/-!
# Records

What the server sends is read into records with declared fields. A record is written as an object;
its members may come in any order, a declared field may occur only once, and members that are not
declared are passed over or, in an open record, collected. A record that collects nothing may also
be written as an array of its fields in their declared order, from which fields may be missing at
the end. A missing field is an error unless the field has a default, and `null` is a value only for
a field that may be unset.
-/

namespace AuditReports.Json

/-- How deeply a document may be nested where it is looked at; the record itself is one level. -/
def nestingLimit : Nat := 127

namespace Node

/-! ## Single values -/

def text? : Node → Option String
  | .string text => text
  | _ => none

def boolean? : Node → Option Bool
  | .boolean value => some value
  | _ => none

/-- A whole number between two bounds. -/
def between? (low high : Int) : Node → Option Int
  | .number literal =>
      literal.integer?.bind fun value => if low ≤ value && value ≤ high then some value else none
  | _ => none

/-- A whole number from zero to a bound. -/
def natural? (high : Nat) (node : Node) : Option Nat :=
  (node.between? 0 high).map Int.toNat

/-- A whole number of thirty-two bits. -/
def count? : Node → Option Nat :=
  natural? (Nat.pow 2 32 - 1)

/-- A whole number of sixty-four bits. -/
def size? : Node → Option Nat :=
  natural? (Nat.pow 2 64 - 1)

/-- A whole number of sixty-four bits, one of them for the sign. -/
def integer? : Node → Option Int :=
  between? (-(Nat.pow 2 63)) (Nat.pow 2 63 - 1)

def list? {α : Type} (item? : Node → Option α) : Node → Option (List α)
  | .array items => items.mapM item?
  | _ => none

end Node

/-! ## Fields -/

/-- The fields that a record was written with. -/
abbrev Fields := String → Option Node

namespace Fields

variable {α : Type}

/-- A field that has to be there. -/
def required (fields : Fields) (name : String) (value? : Node → Option α) : Option α :=
  (fields name).bind value?

/-- A field with a default for when it is missing. -/
def defaulted (fields : Fields) (name : String) (default : α) (value? : Node → Option α) :
    Option α :=
  match fields name with
  | none => some default
  | some node => value? node

/-- A field that may be missing or `null`. -/
def optional (fields : Fields) (name : String) (value? : Node → Option α) : Option (Option α) :=
  match fields name with
  | none => some none
  | some .null => some none
  | some node => (value? node).map some

end Fields

namespace Record

/-- The members of an object, if all their names are texts. -/
def named? (members : List (Option String × Node)) : Option (List (String × Node)) :=
  members.mapM fun (name, node) => name.map fun name => (name, node)

def lookup (members : List (String × Node)) : Fields :=
  fun name => (members.find? (·.1 == name)).map (·.2)

/-- No declared field occurs twice. -/
def distinct (declared : List String) (members : List (String × Node)) : Bool :=
  declared.all fun name => members.countP (·.1 == name) ≤ 1

/-- The fields of a record that collects nothing. -/
def fields? (declared : List String) : Node → Option Fields
  | .object members => do
      let members ← named? members
      if distinct declared members then some (lookup members) else none
  | .array items =>
      if items.length ≤ declared.length then some (lookup (declared.zip items)) else none
  | _ => none

/-- The fields of an open record and the other members, which may be nested `levels` deep. -/
def openFields? (declared : List String) (levels : Nat) : Node → Option (Fields × Members)
  | .object members => do
      let members ← named? members
      if distinct declared members then
        let others := members.filter fun (name, _) => !declared.contains name
        let values ← others.mapM fun (name, node) => (node.value? levels).map fun value =>
          (name, value)
        some (lookup members, Members.ofList values)
      else none
  | _ => none

end Record

end AuditReports.Json
