import Freshness.Coordinator.Basic
import Freshness.Status

/-!
# The report on a system's coordinator

* `System.status` : the report at this moment;
* `System.shown` : the text in diagnostics, while no timer is armed.
-/

namespace Freshness.System

variable {α : Type}

/-- The report at this moment. Intervals too long to be written in milliseconds are cut short. -/
def status (w : System α) : Status where
  name := w.name
  lastUpdateSuccess := w.standing.lastUpdateSuccess
  lastSuccessTime := w.standing.lastSuccessTime.map .ofMillis
  lastErrorKind := w.standing.lastFault.map (·.kind)
  lastError := w.standing.lastFault.map (·.text)
  hasData := w.standing.data.isSome
  listenerCount := w.roster.size
  updateIntervalMs := w.schedule.interval.map fun d => min d.inMillis Notice.maxMillis
  refreshArmed := w.schedule.isArmed
  shutdownRequested := w.shutDown

def shown (w : System α) : String :=
  Text.shownRecord "Coordinator"
    [("name", Text.quoted w.name), ("scheduler", w.schedule.shown),
      ("shutdown_requested", Text.shownBool w.shutDown)]

end Freshness.System
