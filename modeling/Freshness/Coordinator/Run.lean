import Freshness.Coordinator.Cycle
import Freshness.Motion

/-!
# The system in motion

* `System.perform` : a task is done; what remains of it goes on the agenda or behind a timer;
* `System.step?` : the first task of the agenda or, when that is empty, the next timer that is due
  by a limit; the driving task goes on before time does. `none` at rest;
* `System.run?` : steps until a goal is reached or the system is at rest; `System.settle?` and
  `System.advance?` : what is due now, and the passing of time.
-/

namespace Freshness.System

variable {α : Type} [BEq α]

def perform (w : System α) : Task α → System α
  | .deed deed => w.carryOut deed
  | .hear callback => w.hear callback
  | .start caller call => w.start caller call
  | .enter cycle => w.enter cycle
  | .fetched cycle begun result => w.fetched cycle begun result
  | .conclude cycle outcome => w.conclude cycle outcome
  | .refreshDue generation => w.refreshDue generation
  | .cooldownOver generation => w.cooldownOver generation

/-- One step. Timers run while their deadline is at the limit or before. -/
def step? (w : System α) (limit : Option Nat) : Option (System α) :=
  match w.agenda with
  | task :: rest => some ({ w with agenda := rest }.perform task)
  | [] =>
    match w.timers.takeDue? (if w.resuming.isSome then some w.now else limit) with
    | some (task, timers) => some { w with timers, agenda := [task] }
    | none => w.resuming.map fun cycle =>
      { w with resuming := none, agenda := [.enter cycle] }

/-- Steps until the agenda is empty and the goal is reached, or nothing is due. -/
def run? (goal : System α → Bool) (limit : Option Nat) (w : System α) : Option (System α) :=
  Motion.run? (fun w => w.step? limit) (fun w => w.agenda.isEmpty && goal w) Motion.patience w

def settle? (w : System α) : Option (System α) := w.run? (fun _ => false) (some w.now)

def advance? (w : System α) (span : Duration) : Option (System α) := do
  let limit := w.now + span.micros
  let w ← w.run? (fun _ => false) (some limit)
  some { w with timers := w.timers.moveTo limit }

end Freshness.System
