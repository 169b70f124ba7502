import AuditReports.Json.Number

/-!
# JSON documents

A document is kept as it is written: the members of an object stay in order, a name may occur more
than once, and numbers keep their spelling. Only strings are read, into text; a string with an
escape for half a surrogate pair stands for no text, and it depends on whether the string is looked
at whether that is an error.
-/

namespace AuditReports.Json

inductive Node where
  | null
  | boolean (value : Bool)
  | number (literal : Literal)
  | string (text : Option String)
  | array (items : List Node)
  | object (members : List (Option String × Node))
  deriving Inhabited

namespace Node

def ofText (text : String) : Node :=
  .string (some text)

def ofInt (value : Int) : Node :=
  .number (Literal.ofInt value)

/-- What is there, or `null`. -/
def ofOption {α : Type} (encode : α → Node) : Option α → Node
  | none => .null
  | some value => encode value

def ofMembers (members : List (String × Node)) : Node :=
  .object (members.map fun (name, node) => (some name, node))

end Node

end AuditReports.Json
