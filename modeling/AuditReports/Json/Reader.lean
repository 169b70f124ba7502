import AuditReports.Json.Node
import AuditReports.Json.Token

/-!
# Reading JSON

Tokens are put together to a document by a machine with a stack of the arrays and objects that are
open. It takes one step for every token, so documents may be nested to any depth.
-/

namespace AuditReports.Json

namespace Reader

/-- An array or an object that is open, with what it holds so far in reverse. An object that waits
for a value also holds the name of the value. -/
inductive Frame where
  | array (items : List Node)
  | object (members : List (Option String × Node))
  | member (members : List (Option String × Node)) (name : Option String)

/-- What may come next. -/
inductive Expected where
  | value
  | valueOrEnd
  | nameOrEnd
  | name
  | colon
  | commaOrEnd
  | nothing (document : Node)

structure State where
  stack : List Frame
  expected : Expected

/-- Hands a finished value to the innermost open array or object. -/
def supply (stack : List Frame) (node : Node) : Option State :=
  match stack with
  | [] => some ⟨[], .nothing node⟩
  | .array items :: rest => some ⟨.array (node :: items) :: rest, .commaOrEnd⟩
  | .member members name :: rest => some ⟨.object ((name, node) :: members) :: rest, .commaOrEnd⟩
  | .object _ :: _ => none

/-- Closes the innermost open array or object. -/
def close (stack : List Frame) (token : Token) : Option State :=
  match stack, token with
  | .array items :: rest, .closeArray => supply rest (.array items.reverse)
  | .object members :: rest, .closeObject => supply rest (.object members.reverse)
  | _, _ => none

/-- Starts a value. -/
def begin (stack : List Frame) (token : Token) : Option State :=
  match token with
  | .null => supply stack .null
  | .boolean value => supply stack (.boolean value)
  | .number literal => supply stack (.number literal)
  | .string text => supply stack (.string text)
  | .openArray => some ⟨.array [] :: stack, .valueOrEnd⟩
  | .openObject => some ⟨.object [] :: stack, .nameOrEnd⟩
  | _ => none

/-- Takes the name of a member. -/
def name (stack : List Frame) (token : Token) : Option State :=
  match stack, token with
  | .object members :: rest, .string text => some ⟨.member members text :: rest, .colon⟩
  | _, _ => none

def step (state : State) (token : Token) : Option State :=
  match state.expected with
  | .value => begin state.stack token
  | .valueOrEnd =>
      match token with
      | .closeArray => close state.stack token
      | _ => begin state.stack token
  | .nameOrEnd =>
      match token with
      | .closeObject => close state.stack token
      | _ => name state.stack token
  | .name => name state.stack token
  | .colon =>
      match token with
      | .colon => some ⟨state.stack, .value⟩
      | _ => none
  | .commaOrEnd =>
      match token, state.stack with
      | .comma, .array _ :: _ => some ⟨state.stack, .value⟩
      | .comma, .object _ :: _ => some ⟨state.stack, .name⟩
      | _, _ => close state.stack token
  | .nothing _ => none

def run (state : State) : List Token → Option State
  | [] => some state
  | token :: rest =>
      match step state token with
      | some next => run next rest
      | none => none

end Reader

namespace Node

def ofTokens? (tokens : List Token) : Option Node :=
  match Reader.run ⟨[], .value⟩ tokens with
  | some ⟨[], .nothing document⟩ => some document
  | _ => none

def parse? (text : String) : Option Node :=
  (Token.scan? text.toList).bind ofTokens?

end Node

end AuditReports.Json
