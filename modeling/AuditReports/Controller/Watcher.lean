import AuditReports.Controller.World

/-!
# Watchers

A watcher of a controller does not look at the snapshot all the time. It keeps the snapshot that it
has looked at last, and looks again when it has been notified. Notifications are only counted, and a
watcher that is slow finds several at once.
-/

namespace AuditReports

/-- What a watcher holds: a snapshot, and how many notifications it has taken note of. -/
structure Watcher where
  shown : Snapshot
  seen : Nat

/-- A new watcher, which has looked at the snapshot. -/
def World.watch {σ : Type} (world : World σ) : Watcher :=
  ⟨world.snapshot, world.notifications⟩

namespace Watcher

variable {σ : Type}

/-- The watcher looks at the snapshot again if it has been notified since it did so last. -/
def look (watcher : Watcher) (world : World σ) : Watcher :=
  if world.notifications = watcher.seen then watcher else world.watch

end Watcher

end AuditReports
