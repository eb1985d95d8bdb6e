import Freshness.Policy
import Freshness.Refusal
import Freshness.Text.Blank

/-!
# Settings of a coordinator

* `Settings` : what can be set from outside, with the defaults;
* `Settings.refusal?` : why settings are not accepted; of several reasons the first in the order
  name, interval, range of the jitter;
* `Settings.isDefault` : nothing differs from the defaults.
-/

namespace Freshness

structure Settings where
  name : String := "cadence"
  /-- The seconds between two scheduled refreshes; without them none is scheduled. -/
  intervalSecs : Option Nat := some 30
  policy : Policy := {}
  /-- The range of the jitter, in milliseconds. -/
  jitterMinMs : Nat := 50
  jitterMaxMs : Nat := 500
  /-- How long requests are held back after a refresh, in milliseconds. -/
  cooldownMs : Nat := 10000
  /-- The first request of a burst does not wait. -/
  immediate : Bool := true
deriving DecidableEq, Repr, Inhabited

namespace Settings

def refusal? (s : Settings) : Option Refusal :=
  if Text.isBlankText s.name then
    some (.invalidConfig "coordinator name must not be empty")
  else if s.intervalSecs = some 0 then
    some (.invalidConfig
      "update_interval_secs must be greater than 0 (omit it to disable polling)")
  else if s.jitterMaxMs < s.jitterMinMs then
    some (.invalidConfig
      ("jitter min_ms (" ++ toString s.jitterMinMs ++ ") exceeds max_ms (" ++
        toString s.jitterMaxMs ++ ")"))
  else none

def isDefault (s : Settings) : Bool := s == {}

theorem refusal?_default : refusal? {} = none := by decide

end Settings

end Freshness
