import Freshness.Coordinator.Basic
import Freshness.Text.Blank

/-!
# Plans for a coordinator

* `Plan` : the settings a coordinator is built from, with their defaults;
* `Plan.refusal?` : why a plan is not accepted; of several reasons the first in the order name,
  interval, range of the jitter;
* `Plan.build?` : a new system, `none` if no jitter can be drawn from the range.
-/

namespace Freshness

structure Plan (α : Type) where
  name : String
  interval : Option Duration := none
  /-- A fixed jitter, which is not drawn from the range. -/
  jitter : Option Duration := none
  /-- The range of the jitter, in milliseconds. -/
  jitterRange : Nat × Nat := (50, 500)
  policy : Policy := {}
  cooldown : Duration := .ofSeconds 10
  immediate : Bool := true
  source : Option (Source α) := none
  followed : Option HostName := none
  entry : Option Entry := none
  /-- The order in which the listeners are told. -/
  order : Roster.Order Callback String := default

namespace Plan

variable {α : Type}

def refusal? (p : Plan α) : Option Refusal :=
  let (low, high) := p.jitterRange
  if Text.isBlankText p.name then
    some (.invalidConfig "coordinator name must not be empty")
  else if p.interval = some .zero then
    some (.invalidConfig "update interval must be greater than zero")
  else if high < low then
    some (.invalidConfig
      ("jitter range " ++ toString low ++ ".." ++ toString high ++ "ms is empty"))
  else none

/-- A new system at a time in microseconds. The entry keeps a callback that shuts the coordinator
down. -/
def system (p : Plan α) (jitter : Duration) (now : Nat) : System α :=
  { name := p.name
    source := p.source
    policy := p.policy
    followed := p.followed
    entry := p.entry.map fun e => { e with unloadHook := !e.minimal }
    roster := { order := p.order }
    schedule := { name := p.name, jitter, origin := now, interval := p.interval }
    debounce := { name := p.name, cooldown := p.cooldown, immediate := p.immediate }
    timers := { now }
    journal := [.notice (.created p.name p.interval jitter)] }

/-- Builds a system at a time in microseconds, with `r` for the draw of the jitter. -/
def build? (p : Plan α) (now r : Nat) : Option (Except Refusal (System α)) :=
  match p.refusal? with
  | some refusal => some (.error refusal)
  | none => do
    let jitter ← p.jitter <|> drawJitter? p.jitterRange.1 p.jitterRange.2 r
    some (.ok (p.system jitter now))

end Plan

end Freshness
