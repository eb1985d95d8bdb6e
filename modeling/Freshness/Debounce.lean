import Freshness.Notice
import Freshness.Timers

/-!
# Requests, debounced

Requests in quick succession lead to at most two runs of an action: one at once, if the debouncer is
`immediate`, and one when the cooldown ends.

* `Debounce` : the debouncer without its action;
* `Debounce.startCooldown` : the cooldown timer. A cooldown that would last past the end of the clock
  is not started, and whoever starts it breaks off there, `Debounce.overruns`;
* `Debounce.request` : one request; `Debounce.Answer` says what became of it;
* `Debounce.endRun` : the end of a run;
* `Debounce.cooldownOver` : the end of a cooldown, which is true if the action is to run;
  `Debounce.detach` takes the timer off;
* `Debounce.tryRun` : the last look before a run begins, on a request and after a cooldown;
* `Debounce.cancel`, `Debounce.shutdown` : drop what is pending; the latter for good.
-/

namespace Freshness

structure Debounce.Armed where
  generation : Nat
  handle : TimerHandle
deriving DecidableEq, Repr

structure Debounce where
  name : String
  cooldown : Duration
  immediate : Bool
  armed : Option Debounce.Armed := none
  generation : Nat := 0
  /-- A run is due when the cooldown ends. -/
  pending : Bool := false
  shutDown : Bool := false
  running : Bool := false
deriving DecidableEq, Repr

inductive Debounce.Answer where
  | ignored
  /-- The run at the end of the cooldown covers it. -/
  | folded
  /-- A run is under way and fetches fresh data. -/
  | dropped
  /-- It started a cooldown, at whose end the action runs. -/
  | deferred
  /-- It was to start a cooldown, which the clock has no room for: the call breaks off. -/
  | brokenOff
  | run
  /-- A run or a cooldown began before it could. -/
  | overtaken
deriving DecidableEq, Repr

namespace Debounce

variable {ω : Type}

def overruns (d : Debounce) (now : Nat) : Bool := clockEnd ≤ now + d.cooldown.micros

/-- Starts a cooldown in place of any other; `job` is given its generation. True if it would overrun
the clock: the generation is used up then, and nothing else has been done. -/
def startCooldown (d : Debounce) (t : Timers ω) (job : Nat → ω) : Bool × Debounce × Timers ω :=
  if d.shutDown then (false, d, t)
  else
    let generation := d.generation + 1
    let d := { d with generation }
    if d.overruns t.now then (true, d, t)
    else
      let (handle, t) := t.schedule (t.now + d.cooldown.micros) (job generation)
      let t := match d.armed with
        | none => t
        | some previous => t.cancel previous.handle
      (false, { d with armed := some ⟨generation, handle⟩ }, t)

/-- Begins a run, unless one is under way or a cooldown has been started. -/
def tryRun (d : Debounce) : Bool × Debounce :=
  if d.running then (false, d)
  else if d.armed.isSome then (false, d)
  else (true, { d with running := true })

def request (d : Debounce) (t : Timers ω) (job : Nat → ω) : Answer × Debounce × Timers ω :=
  if d.shutDown then (.ignored, d, t)
  else if d.armed.isSome then (.folded, { d with pending := true }, t)
  else if d.running then (.dropped, d, t)
  else if !d.immediate then
    -- what is pending stays so when the call breaks off
    let (broken, d, t) := { d with pending := true }.startCooldown t job
    (if broken then .brokenOff else .deferred, d, t)
  else
    let (begun, d) := d.tryRun
    (if begun then .run else .overtaken, d, t)

def Answer.notice (name : String) : Answer → Option Notice
  | .ignored => some (.callIgnored name)
  | .dropped => some (.callDropped name)
  | _ => none

def endRun (d : Debounce) (t : Timers ω) (job : Nat → ω) : Bool × Debounce × Timers ω :=
  let (broken, d, t) := d.startCooldown t job
  (broken, { d with running := false }, t)

/-- The cooldown timer of that generation fires and takes itself off, if it is the armed one; true if
a run was pending. -/
def detach (d : Debounce) (generation : Nat) : Bool × Debounce :=
  if d.armed.any (·.generation == generation) then
    (d.pending, { d with armed := none, pending := false })
  else (false, d)

/-- The cooldown of that generation ends; true if the action is to run. -/
def cooldownOver (d : Debounce) (generation : Nat) : Bool × Debounce :=
  let (due, d) := d.detach generation
  if due then d.tryRun else (false, d)

/-- Drops the pending run; one under way goes on. -/
def cancel (d : Debounce) (t : Timers ω) : Debounce × Timers ω :=
  match d.armed with
  | none => ({ d with pending := false }, t)
  | some a => ({ d with pending := false, armed := none }, t.cancel a.handle)

def shutdown (d : Debounce) (t : Timers ω) : Debounce × Timers ω :=
  { d with shutDown := true }.cancel t

def isArmed (d : Debounce) : Bool := d.armed.isSome

def shown (d : Debounce) : String :=
  Text.shownRecord "Debouncer"
    [("name", Text.quoted d.name),
      ("config", Text.shownRecord "DebounceConfig"
        [("cooldown", d.cooldown.shown), ("immediate", Text.shownBool d.immediate)]),
      ("armed", Text.shownBool d.isArmed)]

end Debounce

end Freshness
