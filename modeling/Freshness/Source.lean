import Freshness.Duration
import Freshness.Fault

/-!
# The source of values

* `Fetch` : one answer of the source, how long it takes, and the deadline it is given, if any;
* `Fetch.outcome` : what comes of it and when. The answer wins over a deadline that it meets, also
  at the last moment. Answer and deadline wait on one wheel that turns once a millisecond, and an
  answer meets every deadline that falls due in the same turn: so deadlines are rounded up. The jobs
  of `Timers` race with no answer, and the wheel would only put them off, so they are not;
* `Source`, `Source.next` : a source that answers from a list, of which the last answer repeats;
* `Fault.missingSource` : the fault of a fetch without a source.
-/

namespace Freshness

structure Fetch (α : Type) where
  result : Except Fault α
  delay : Duration := .zero
  deadline : Option Duration := none

namespace Fetch

variable {α : Type}

def expired (deadline : Duration) : Fault :=
  .timeout ("no response within " ++ toString deadline.inMillis ++ "ms")

def roundUp (d : Duration) : Duration := .ofMillis ((d.micros + 999) / 1000)

def outcome (f : Fetch α) : Duration × Except Fault α :=
  match f.deadline with
  | none => (f.delay, f.result)
  | some d =>
    if f.delay.micros ≤ (roundUp d).micros then (f.delay, f.result)
    else (roundUp d, .error (expired d))

end Fetch

abbrev Source (α : Type) := List (Fetch α)

/-- The next answer and the source after it. The last answer repeats, and a source without any
fails. -/
def Source.next {α : Type} : Source α → Fetch α × Source α
  | [] => ({ result := .error (.updateFailed "empty script") }, [])
  | [f] => (f, [f])
  | f :: fs => (f, fs)

def Fault.missingSource : Fault := .notImplemented "update method not implemented"

end Freshness
