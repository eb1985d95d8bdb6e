import Freshness.Schedule

/-!
# Scripts over a refresh timer

* `Fire` : what a timer does when it fires: it takes itself off its schedule if it `claims` to;
* `Stage` : a schedule with its timers and the flags it reads;
* `Step`, `Stage.step` : the operations of a script, and what each of them says.
-/

namespace Freshness.Schedule.Script

structure Fire where
  generation : Nat
  claims : Bool
deriving DecidableEq, Repr

/-- A timer that fired: when, which, and whether it was the current one. -/
structure Fired where
  time : Nat
  generation : Nat
  took : Bool
deriving DecidableEq, Repr

structure Stage where
  schedule : Schedule
  timers : Timers Fire
  shutDown : Bool := false
  /-- Whether the entry disables polling, if there is an entry. -/
  entry : Option Bool := none
  fired : List Fired := []
  notices : List Notice := []
deriving Repr

inductive Step where
  | arm (claims : Bool)
  | disarm
  | takeFired (generation : Nat)
  | setInterval (interval : Option Duration)
  | shutdown
  | setPolling (disabled : Bool)
  | advance (span : Duration)
deriving DecidableEq, Repr

inductive Reply where
  | none
  | armed (arming : Arming)
  | took (current : Bool)
deriving DecidableEq, Repr

namespace Stage

def fire (s : Stage) (jobs : List (Nat × Fire)) : Stage :=
  jobs.foldl (fun s (time, job) =>
    let (took, schedule) := if job.claims then s.schedule.takeFired job.generation
      else (false, s.schedule)
    { s with schedule, fired := s.fired ++ [⟨time, job.generation, took⟩] }) s

def settle (s : Stage) : Stage :=
  let (jobs, timers) := s.timers.drain s.timers.now
  { s with timers }.fire jobs

def perform (s : Stage) : Step → Reply × Stage
  | .arm claims =>
    let (arming, schedule, timers) :=
      s.schedule.arm s.timers s.shutDown (s.entry.getD false) fun g => ⟨g, claims⟩
    let notice := arming.notice schedule.name timers.driven
    (.armed arming, { s with schedule, timers, notices := s.notices ++ notice.toList })
  | .disarm =>
    let (schedule, timers) := s.schedule.disarm s.timers
    (.none, { s with schedule, timers })
  | .takeFired generation =>
    let (current, schedule) := s.schedule.takeFired generation
    (.took current, { s with schedule })
  | .setInterval interval => (.none, { s with schedule := s.schedule.setInterval interval })
  | .shutdown => (.none, { s with shutDown := true })
  | .setPolling disabled => (.none, { s with entry := s.entry.map fun _ => disabled })
  | .advance span =>
    let (jobs, timers) := s.timers.elapse span
    (.none, { s with timers }.fire jobs)

/-- One operation and everything due after it, from a stage on which nothing has been heard of
yet. -/
def step (s : Stage) (step : Step) : Reply × Stage :=
  let (reply, s) := { s with fired := [], notices := [] }.perform step
  (reply, s.settle)

end Stage

end Freshness.Schedule.Script
