import Freshness.Coordinator.Run

/-!
# Sessions with a coordinator

A session drives a system from outside, one step after the other. After each step everything due at
that moment is done.

* `Step` : a deed, calls that are waited for together, or the passing of time;
* `Session`, `Session.step?` : the system between steps, and one step, with what happened and how
  the calls were answered;
* `Tally` : fetches begun and ended, the most of them at once, and requests for credentials.
-/

namespace Freshness

inductive Step (α : Type) where
  | deed (deed : Deed α)
  /-- The calls begin in this order, and the step lasts until all have returned. -/
  | await (calls : List Call)
  | advance (span : Duration)

structure Tally where
  started : Nat := 0
  ended : Nat := 0
  peak : Nat := 0
  reauths : Nat := 0
deriving DecidableEq, Repr

namespace Tally

variable {α : Type}

def count (t : Tally) : Event α → Tally
  | .fetchStarted _ =>
    { t with started := t.started + 1, peak := max t.peak (t.started + 1 - t.ended) }
  | .fetchEnded _ => { t with ended := t.ended + 1 }
  | .reauthStarted => { t with reauths := t.reauths + 1 }
  | _ => t

end Tally

structure Session (α : Type) where
  system : System α
  tally : Tally := {}
  /-- The number of the next call that is waited for. -/
  nextCall : Nat := 0

/-- What came of a step: what happened, in order, and the answers to what was asked. -/
structure Session.Outcome (α : Type) where
  events : List (Event α)
  answers : List (Option Refusal)

namespace Session

variable {α : Type} [BEq α]

def answerTo? (events : List (Event α)) (number : Nat) : Option (Option Refusal) :=
  events.findSome? fun
    | .answered caller refusal => if caller = .main number then some refusal else none
    | _ => none

def hasBrokenOff (events : List (Event α)) (number : Nat) : Bool :=
  events.any fun
    | .brokeOff caller => caller = .main number
    | _ => false

def allEnded (first count : Nat) (w : System α) : Bool :=
  (List.range count).all fun i =>
    (answerTo? w.journal (first + i)).isSome || hasBrokenOff w.journal (first + i)

/-- Begins calls and waits for them. Without a handle there is nothing to call. -/
def await? (w : System α) (first : Nat) (calls : List Call) : Option (System α) := do
  let starts :=
    if w.held then calls.mapIdx fun i call => Task.start (.main (first + i)) call else []
  let w ← ({ w with agenda := starts } : System α).settle?
  let w ← w.run? (allEnded first starts.length) none
  w.settle?

def move? (w : System α) (first : Nat) : Step α → Option (System α)
  | .deed deed => ({ w with agenda := [.deed deed] } : System α).settle?
  | .await calls => await? w first calls
  | .advance span => w.advance? span

/-- The answers to what a step asked, given what happened. -/
def answers (w : System α) (first : Nat) (events : List (Event α)) :
    Step α → List (Option Refusal)
  | .deed deed => [w.refusal? deed]
  | .await calls => calls.mapIdx fun i _ => (answerTo? events (first + i)).join
  | .advance _ => []

/-- One step; `none` if the system does not come to rest. -/
def step? (s : Session α) (step : Step α) : Option (Session α × Outcome α) := do
  let w ← move? s.system s.nextCall step
  let events := w.journal.reverse
  let nextCall := match step with
    | .await calls => s.nextCall + calls.length
    | _ => s.nextCall
  some ({ system := { w with journal := [] }, tally := events.foldl Tally.count s.tally, nextCall },
    { events, answers := answers s.system s.nextCall events step })

end Session

end Freshness
