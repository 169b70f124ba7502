/-!
# Loop handles

Whoever starts a poll loop holds on to it by a handle. The loop and the handle share a token: once
the token is cancelled, by the handle, by anyone else who has it, or because the handle is given up,
the loop is to stop. A loop may also come to its end by itself after some time. This module is a
handle over time, from the moment at which the loop is started.

The loop is a task of its own. It looks at the token and at the clock when it has its turn, which is
once it has been started and whenever time passes; cancelling does not wait for it.
-/

namespace AuditReports

structure LoopHandle where
  /-- After how many milliseconds the loop ends by itself, if it does. -/
  span : Option Nat
  elapsed : Nat
  /-- The token that the handle shares with the loop. -/
  cancelled : Bool
  /-- The loop has come to its end. -/
  finished : Bool
  /-- The handle has not been given up. -/
  held : Bool
  deriving DecidableEq, Repr

namespace LoopHandle

/-- What happens to a handle and to its token. -/
inductive Event where
  | cancel
  | cancelToken
  | advance (milliseconds : Nat)
  | drop
  deriving DecidableEq, Repr

/-- The time of the loop is over. -/
def isOver (handle : LoopHandle) : Bool :=
  handle.span.any (· ≤ handle.elapsed)

/-- The loop has its turn: it ends if it has been cancelled or if its time is over. -/
def turn (handle : LoopHandle) : LoopHandle :=
  { handle with finished := handle.finished || handle.cancelled || handle.isOver }

def start (span : Option Nat) : LoopHandle :=
  turn ⟨span, 0, false, false, true⟩

/-- The loop has neither been cancelled nor come to its end; nothing can be asked of a handle that
has been given up. -/
def isLive? (handle : LoopHandle) : Option Bool :=
  if handle.held then some (!handle.cancelled && !handle.finished) else none

/-- Cancelling through a handle that has been given up does nothing; giving up a handle cancels. -/
def perform (handle : LoopHandle) : Event → LoopHandle
  | .cancel => if handle.held then { handle with cancelled := true } else handle
  | .cancelToken => { handle with cancelled := true }
  | .advance milliseconds => turn { handle with elapsed := handle.elapsed + milliseconds }
  | .drop => { handle with cancelled := true, held := false }

/-- The handle after each of some events. -/
def run (handle : LoopHandle) : List Event → List LoopHandle
  | [] => []
  | event :: rest => handle.perform event :: run (handle.perform event) rest

end LoopHandle

end AuditReports
