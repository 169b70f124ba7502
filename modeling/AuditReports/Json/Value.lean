import AuditReports.Json.Node

/-!
# Values that are kept without being asked for

Parts of a document that have no declared form are kept as values. In a value the members of an
object have distinct names in ascending order, the last of several members of one name being the one
that is kept, so two documents that differ in the order of members only have equal values. A value
can be taken from a document only if all its strings are texts, all its numbers can be represented,
and it is not nested more deeply than allowed.
-/

namespace AuditReports.Json

inductive Value where
  | null
  | boolean (value : Bool)
  | number (number : Number)
  | string (text : String)
  | array (items : List Value)
  | object (members : List (String × Value))
  deriving Inhabited

/-- Named values, with distinct names in ascending order. -/
abbrev Members := List (String × Value)

namespace Members

def insert (name : String) (value : Value) : Members → Members
  | [] => [(name, value)]
  | (other, kept) :: rest =>
      if name < other then (name, value) :: (other, kept) :: rest
      else if name == other then (name, value) :: rest
      else (other, kept) :: insert name value rest

/-- The named values of a list; of several with one name the last counts. -/
def ofList (members : List (String × Value)) : Members :=
  members.foldl (fun collected (name, value) => collected.insert name value) []

end Members

namespace Node

/-- The value of a document whose arrays and objects are nested at most `levels` deep. -/
def value? : (levels : Nat) → Node → Option Value
  | _, .null => some .null
  | _, .boolean value => some (.boolean value)
  | _, .number literal => literal.number?.map .number
  | _, .string text => text.map .string
  | levels + 1, .array items => (items.mapM (value? levels)).map .array
  | levels + 1, .object members =>
      (members.mapM fun (member : Option String × Node) => do
        let name ← member.1
        let value ← value? levels member.2
        return (name, value)).map fun named => .object (Members.ofList named)
  | 0, .array _ => none
  | 0, .object _ => none

end Node

namespace Value

mutual

def node : Value → Node
  | .null => .null
  | .boolean value => .boolean value
  | .number kept => .number kept.literal
  | .string text => .string (some text)
  | .array items => .array (nodes items)
  | .object members => .object (memberNodes members)

def nodes : List Value → List Node
  | [] => []
  | value :: rest => node value :: nodes rest

def memberNodes : List (String × Value) → List (Option String × Node)
  | [] => []
  | (name, value) :: rest => (some name, node value) :: memberNodes rest

end

end Value

end AuditReports.Json
