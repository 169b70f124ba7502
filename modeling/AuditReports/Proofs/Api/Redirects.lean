import AuditReports.Proofs.Api.Calls

/-!
# Requests and what goes over the wire

A call makes one request, and what becomes of it is the end of a chain: the request goes over the
wire, and as long as the answer leads onward, so does the request that it leads to. Where no answer
is a redirect, the chain is the request alone. Whoever makes some calls, one after the other, puts
their chains on the wire, one after the other, and nothing else.
-/

namespace AuditReports

namespace Connection

variable {τ : Type} (connection : Connection τ)

/-- What goes over the wire for a request, and what becomes of it in the end, if at most so many
redirects are followed. -/
inductive Chain : Nat → HttpRequest → Traffic → Delivery → Prop where
  | lost {left : Nat} {request : HttpRequest} : Chain left request [(request, .lost)] .lost
  | final {left : Nat} {request : HttpRequest} {response : HttpResponse}
      (final : connection.route request response = .final) :
      Chain left request [(request, .answered response)] (.answered response)
  | onward {left : Nat} {request next : HttpRequest} {response : HttpResponse} {wire : Traffic}
      {delivery : Delivery} (onward : connection.route request response = .onward next)
      (rest : Chain left next wire delivery) :
      Chain (left + 1) request ((request, .answered response) :: wire) delivery
  /-- There is one redirect too many, or one to nowhere. -/
  | stranded {left : Nat} {request : HttpRequest} {response : HttpResponse}
      (stuck : left = 0 ∨ connection.route request response = .astray)
      (redirected : connection.route request response ≠ .final) :
      Chain left request [(request, .answered response)] .lost

/-- What goes over the wire for some calls. -/
inductive Carries : Traffic → Traffic → Prop where
  | nothing : Carries [] []
  | next {calls wire chain : Traffic} {request : HttpRequest} {delivery : Delivery}
      (before : Carries calls wire) (carried : connection.Chain patience request chain delivery) :
      Carries (calls ++ [(request, delivery)]) (wire ++ chain)

end Connection

end AuditReports
