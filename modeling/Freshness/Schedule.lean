import Freshness.Notice
import Freshness.Text.Digits
import Freshness.Timers

/-!
# The refresh timer

* `Schedule` : the interval and jitter of a coordinator, the generation of its latest timer and, if
  one is armed, its deadline;
* `Schedule.gridPoint` : the last whole second, counted from the origin, at or before a time;
* `Schedule.arm` : replaces the armed timer by one at the grid point plus jitter plus interval, so
  the jitter does not build up; `Schedule.Arming` says what came of it;
* `Schedule.disarm`, `Schedule.takeFired` : a timer that fires takes itself off, if it is still the
  current one;
* `drawJitter?` : the jitter that a draw from a range gives, if the range fits into words.
-/

namespace Freshness

structure Schedule.Armed where
  generation : Nat
  deadline : Nat
  handle : TimerHandle
deriving DecidableEq, Repr

structure Schedule where
  name : String
  jitter : Duration
  /-- The time from which whole seconds are counted, in microseconds. -/
  origin : Nat
  interval : Option Duration
  generation : Nat := 0
  armed : Option Schedule.Armed := none
deriving DecidableEq, Repr

/-- What came of arming. -/
inductive Schedule.Arming where
  | armed (generation : Nat)
  | shutDown
  | pollingDisabled
  | noInterval
  | outOfRange (interval : Duration)
deriving DecidableEq, Repr

namespace Schedule

variable {ω : Type}

/-- The last whole second, counted from the origin, at or before `now`. -/
def gridPoint (s : Schedule) (now : Nat) : Nat :=
  s.origin + (now - s.origin) / 1000000 * 1000000

def deadlineAt (s : Schedule) (now : Nat) (interval : Duration) : Nat :=
  s.gridPoint now + (s.jitter.micros + interval.micros)

def disarm (s : Schedule) (t : Timers ω) : Schedule × Timers ω :=
  match s.armed with
  | none => (s, t)
  | some a => ({ s with armed := none }, t.cancel a.handle)

/-- Arms the timer in place of any armed one; `job` is given its generation. Nothing changes after
a shutdown, while polling is disabled or without an interval. An interval that leads past the end
of the clock leaves nothing armed. -/
def arm (s : Schedule) (t : Timers ω) (shutDown pollingDisabled : Bool) (job : Nat → ω) :
    Arming × Schedule × Timers ω :=
  if shutDown then (.shutDown, s, t)
  else if pollingDisabled then (.pollingDisabled, s, t)
  else
    match s.interval with
    | none => (.noInterval, s, t)
    | some interval =>
      let (s, t) := s.disarm t
      let generation := s.generation + 1
      let s := { s with generation }
      let deadline := s.deadlineAt t.now interval
      if clockEnd ≤ deadline then (.outOfRange interval, s, t)
      else
        let (handle, t) := t.schedule deadline (job generation)
        (.armed generation, { s with armed := some ⟨generation, deadline, handle⟩ }, t)

/-- What is logged when a timer is armed on a table that is `driven` or not. -/
def Arming.notice (name : String) (driven : Bool) : Arming → Option Notice
  | .armed _ => if driven then none else some .timerNotDriven
  | .pollingDisabled => some (.pollingDisabled name)
  | .outOfRange interval => some (.intervalOutOfRange name interval)
  | .shutDown | .noInterval => none

/-- The timer of that generation fires: true, and no longer armed, if it is the current one. -/
def takeFired (s : Schedule) (generation : Nat) : Bool × Schedule :=
  if s.armed.any (·.generation == generation) then (true, { s with armed := none })
  else (false, s)

def setInterval (s : Schedule) (interval : Option Duration) : Schedule := { s with interval }

def next? (s : Schedule) : Option Nat := s.armed.map (·.deadline)

def isArmed (s : Schedule) : Bool := s.armed.isSome

/-- The text in diagnostics while nothing is armed. -/
def shown (s : Schedule) : String :=
  Text.shownRecord "Scheduler"
    [("name", Text.quoted s.name), ("jitter", s.jitter.shown),
      ("interval", Duration.shownOptional s.interval),
      ("next_refresh", Duration.shownOptional (s.next?.map Duration.mk))]

end Schedule

/-! ## Drawing the jitter -/

/-- A bound in milliseconds as the draw takes it, in microseconds, if that fits into a word. -/
def drawBound? (ms : Nat) : Option Nat := if ms * 1000 < wordBound then some (ms * 1000) else none

/-- The jitter for the draw `r`, which counts from the smaller bound on; the bounds may come in
either order. -/
def drawJitter? (minMs maxMs r : Nat) : Option Duration := do
  let low ← drawBound? (min minMs maxMs)
  let high ← drawBound? (max minMs maxMs)
  some ⟨low + r % (high - low + 1)⟩

end Freshness
