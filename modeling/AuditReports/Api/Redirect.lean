import AuditReports.Api.Exchange
import AuditReports.Api.Wire

/-!
# Redirects

An answer may send on whoever asked. What sends the requests of a client follows such answers by
itself, so a call sends one request and gets one answer, and what lies in between it does not see. A
connection carries single requests; the transport over it follows up to ten redirects in a row. One
more, or one to an address that is none for the web, and the request counts as lost.
-/

namespace AuditReports

/-- Where an answer leads. -/
inductive Route where
  /-- Nowhere; it is what was asked for. -/
  | final
  | onward (request : HttpRequest)
  /-- To something else than an address for the web. -/
  | astray
  deriving DecidableEq, Repr

/-- A way to send single requests, with a state of type `τ`. -/
structure Connection (τ : Type) where
  exchange : HttpRequest → τ → Delivery × τ
  route : HttpRequest → HttpResponse → Route
  interrupts : τ → Bool
  charsets : Text.Charset.Library

namespace Connection

variable {τ : Type} (connection : Connection τ)

/-- How many redirects are followed. -/
def patience : Nat := 10

/-- Sends a request and follows at most so many redirects. -/
def follow : Nat → HttpRequest → τ → Delivery × τ
  | left, request, state =>
      match connection.exchange request state with
      | (.lost, state) => (.lost, state)
      | (.answered response, state) =>
          match connection.route request response, left with
          | .final, _ => (.answered response, state)
          | .onward next, left + 1 => follow left next state
          | _, _ => (.lost, state)

def transport : Transport τ where
  send := connection.follow patience
  interrupts := connection.interrupts
  charsets := connection.charsets

end Connection

/-! ## Where an answer leads on the web

Which host answers does not matter here, so all addresses are taken to be on one. -/

namespace Target

/-- The reference begins with a scheme of its own. -/
def hasScheme (reference : List Char) : Bool :=
  match Text.cutFirst ':' reference with
  | (first :: rest, some _) =>
      first.isAlpha && rest.all fun character =>
        character.isAlphanum || "+-.".toList.contains character
  | _ => false

/-- The address that a reference stands for at a target. -/
def addressAt (base reference : List Char) : List Char :=
  let path := base.takeWhile (· != '?')
  if hasScheme reference then reference
  else if (reference.take 2).all isSlash && reference.length ≥ 2 then "http:".toList ++ reference
  else
    "http://localhost".toList ++
      match reference with
      | [] => base
      | '#' :: _ => base
      | '?' :: _ => path ++ reference
      | first :: _ =>
          if isSlash first then reference
          else (path.reverse.dropWhile (· != '/')).reverse ++ reference

end Target

namespace HttpRequest

/-- The request that is made at another target: the same one, or only what is found there. -/
def movedTo (request : HttpRequest) (target : Target) (isRepeated : Bool) : HttpRequest :=
  if isRepeated then { request with target := target.text }
  else { request with method := .get, target := target.text, contentType := none, body := none }

/-- Whether an answer with this status wants the same request to be made elsewhere. What has been
posted may be asked for instead, and after a 303 everything is. -/
def isRepeatedAfter (request : HttpRequest) (status : Nat) : Bool :=
  [307, 308].contains status || (status != 303 && request.method != .post)

/-- Answers that something is found elsewhere send on. One that does not say where is final. -/
def route (request : HttpRequest) (response : HttpResponse) : Route :=
  if [301, 302, 303, 307, 308].contains response.status then
    match response.header? "location" with
    | none => .final
    | some location =>
        let address := Target.addressAt request.target.toList (Target.clean location.toList)
        match Target.ofUrl? (String.ofList address) with
        | some target =>
            .onward (request.movedTo target (request.isRepeatedAfter response.status))
        | none => if (Target.afterScheme? address).isNone then .astray else .final
  else .final

end HttpRequest

end AuditReports
