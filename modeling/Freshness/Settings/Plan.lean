import Freshness.Coordinator.Plan
import Freshness.Settings.Basic

/-!
# Coordinators built from settings

* `Settings.plan` : the plan with all that the settings say, and the defaults otherwise.
-/

namespace Freshness.Settings

def plan {α : Type} (s : Settings) : Plan α where
  name := s.name
  interval := s.intervalSecs.map .ofSeconds
  jitterRange := (s.jitterMinMs, s.jitterMaxMs)
  policy := s.policy
  cooldown := .ofMillis s.cooldownMs
  immediate := s.immediate

end Freshness.Settings
