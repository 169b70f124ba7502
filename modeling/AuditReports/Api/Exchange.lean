import AuditReports.Text.Charset

/-!
# Requests and answers

A call of the service is one request and, if all goes well, one answer. How they travel is left
open: a transport is a function that takes a request and the transport's own state to what became of
the request. A request may be lost, because there is no connection or because the connection closes
before an answer has come; and the body of an answer may break off before its announced end.
-/

namespace AuditReports

inductive Method where
  | get
  | post
  | patch
  deriving DecidableEq, Repr

namespace Method

def name : Method → String
  | .get => "GET"
  | .post => "POST"
  | .patch => "PATCH"

end Method

structure HttpRequest where
  method : Method
  target : String
  accept : String
  contentType : Option String
  body : Option String
  deriving DecidableEq, Repr

structure HttpResponse where
  status : Nat
  /-- Names and the bytes of the values. -/
  headers : List (String × List UInt8)
  body : List UInt8
  /-- The body has the length that was announced. -/
  complete : Bool
  deriving DecidableEq, Repr

inductive Delivery where
  | lost
  | answered (response : HttpResponse)
  deriving DecidableEq, Repr

/-- A way to send requests, with a state of type `τ`. -/
structure Transport (τ : Type) where
  send : HttpRequest → τ → Delivery × τ
  /-- The operator interrupts before the answer to the next request comes. -/
  interrupts : τ → Bool
  /-- What is known of character sets at this end. -/
  charsets : Text.Charset.Library

/-- There is no connection, and so every request is lost. -/
def Transport.offline : Transport Unit where
  send _ state := (.lost, state)
  interrupts _ := false
  charsets := .basic

namespace HttpResponse

def isSuccess (response : HttpResponse) : Bool :=
  200 ≤ response.status && response.status ≤ 299

/-- Visible characters of ASCII, the space and the tab. -/
def isHeaderByte (byte : UInt8) : Bool :=
  (0x20 ≤ byte && byte < 0x7F) || byte == 0x09

/-- The value of a header; one with other bytes in it counts as absent. -/
def header? (response : HttpResponse) (name : String) : Option String :=
  match response.headers.find? fun header =>
      header.1.toList.map Char.toLower == name.toList.map Char.toLower with
  | some (_, value) =>
      if value.all isHeaderByte then
        some (String.ofList (value.map fun byte => Char.ofNat byte.toNat))
      else none
  | none => none

/-- The body as a text, unless it breaks off. -/
def text? (charsets : Text.Charset.Library) (response : HttpResponse) : Option String :=
  if response.complete then
    some (String.ofList (charsets.read (response.header? "content-type") response.body))
  else none

end HttpResponse

end AuditReports
