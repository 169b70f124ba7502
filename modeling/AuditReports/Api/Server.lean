import AuditReports.Api.Redirect

/-!
# Scripted servers

A server that follows a script answers each request by the next answer prepared for it, and the last
one again and again. It keeps the requests that have reached it. It may also be out of reach: then
every connection is refused, and no request reaches it.
-/

namespace AuditReports

structure Reply where
  delivery : Delivery
  /-- The operator interrupts before this answer is sent. -/
  interrupted : Bool
  deriving DecidableEq, Repr

structure Server where
  reachable : Bool
  replies : List Reply
  /-- The requests that have reached the server, the last one first. -/
  received : List HttpRequest
  deriving DecidableEq, Repr

namespace Server

def start (reachable : Bool) (replies : List Reply) : Server :=
  ⟨reachable, replies, []⟩

/-- The requests in the order in which they came. -/
def requests (server : Server) : List HttpRequest :=
  server.received.reverse

/-- Takes the next reply; the last one stays, and without any the connection closes. -/
def take (replies : List Reply) : Reply × List Reply :=
  match replies with
  | [] => (⟨.lost, false⟩, [])
  | [last] => (last, [last])
  | reply :: rest => (reply, rest)

def answer (request : HttpRequest) (server : Server) : Delivery × Server :=
  if server.reachable then
    let (reply, rest) := take server.replies
    (reply.delivery, ⟨true, rest, request :: server.received⟩)
  else (.lost, server)

def connection : Connection Server where
  exchange := answer
  route := HttpRequest.route
  interrupts server := server.reachable && (take server.replies).1.interrupted
  charsets := .basic

def transport : Transport Server :=
  connection.transport

end Server

end AuditReports
