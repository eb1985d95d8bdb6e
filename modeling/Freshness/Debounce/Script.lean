import Freshness.Caller
import Freshness.Debounce
import Freshness.Motion

/-!
# Scripts over a debouncer

A debouncer with an action that takes its time, may use the debouncer, and may fail.

* `Run` : one run of the action; the last of a list repeats;
* `Task` : what waits for its time; `Stage` : a debouncer in use;
* `Stage.perform` : a call begins, a run ends, a cooldown ends;
* `Step`, `Stage.step?` : the operations of a script, and everything due after each.
-/

namespace Freshness.Debounce.Script

/-- What a run of the action does to the debouncer before it ends. -/
inductive During where
  | cancel
  | shutdown
  | call
deriving DecidableEq, Repr

structure Run where
  delay : Duration := .zero
  during : Option During := none
  fault : Option Fault := none
deriving DecidableEq, Repr

def nextRun : List Run → Run × List Run
  | [] => ({}, [])
  | [r] => (r, [r])
  | r :: rs => (r, rs)

/-- What waits for its time. -/
inductive Task where
  | start (caller : Caller)
  /-- A run for a caller, or without one at the end of a cooldown, has taken its time. -/
  | endRun (caller : Option Caller) (run : Run)
  | cooldownOver (generation : Nat)
deriving DecidableEq, Repr

def Task.isStart : Task → Bool
  | .start _ => true
  | _ => false

structure Stage where
  debounce : Debounce
  timers : Timers Task := {}
  runs : List Run
  /-- Somebody outside holds the debouncer. -/
  held : Bool := true
  started : Nat := 0
  finished : Nat := 0
  nextCall : Nat := 0
  answers : List (Caller × Option Refusal) := []
  brokenOff : List Caller := []
  notices : List Notice := []
deriving Repr

namespace Stage

def alive (s : Stage) : Bool :=
  s.held || s.debounce.running || s.timers.waiting.any fun t => t.job.isStart

def logAny (s : Stage) (n : Option Notice) : Stage := { s with notices := s.notices ++ n.toList }

def answer (s : Stage) (caller : Caller) (refusal : Option Refusal) : Stage :=
  { s with answers := s.answers ++ [(caller, refusal)] }

def breakOff (s : Stage) (caller : Caller) : Stage :=
  { s with brokenOff := s.brokenOff ++ [caller] }

/-- What a run does to the debouncer, as long as somebody outside holds it. -/
def meddle (s : Stage) (during : During) : Stage :=
  match during with
  | .cancel =>
    let (debounce, timers) := s.debounce.cancel s.timers
    { s with debounce, timers }
  | .shutdown =>
    let (debounce, timers) := s.debounce.shutdown s.timers
    { s with debounce, timers }
  | .call =>
    let (answer, debounce, timers) := s.debounce.request s.timers .cooldownOver
    { s with debounce, timers }.logAny (answer.notice s.debounce.name)

def endRun (s : Stage) (caller : Option Caller) (run : Run) : Stage :=
  let s := match run.during with
    | some during => if s.held then s.meddle during else s
    | none => s
  let refusal := run.fault.map .fatal
  let s := { s with finished := s.finished + 1 }
  let s := match caller with
    | some _ => s
    | none => s.logAny (refusal.map (.trailingFailed s.debounce.name))
  let (broken, debounce, timers) := s.debounce.endRun s.timers .cooldownOver
  let s := { s with debounce, timers }
  match caller with
  | some caller => if broken then s.breakOff caller else s.answer caller refusal
  | none => s

def beginRun (s : Stage) (caller : Option Caller) : Stage :=
  let (run, runs) := nextRun s.runs
  let s := { s with runs, started := s.started + 1 }
  if run.delay.micros = 0 then s.endRun caller run
  else { s with timers := s.timers.spawn (s.timers.now + run.delay.micros) (.endRun caller run) }

def start (s : Stage) (caller : Caller) : Stage :=
  let (answer, debounce, timers) := s.debounce.request s.timers .cooldownOver
  let s := { s with debounce, timers }.logAny (answer.notice s.debounce.name)
  match answer with
  | .run => s.beginRun (some caller)
  | .brokenOff => s.breakOff caller
  | _ => s.answer caller none

def cooldownOver (s : Stage) (generation : Nat) : Stage :=
  if s.alive then
    let (due, debounce) := s.debounce.cooldownOver generation
    let s := { s with debounce }
    if due then s.beginRun none else s
  else s

def perform (s : Stage) : Task → Stage
  | .start caller => s.start caller
  | .endRun caller run => s.endRun caller run
  | .cooldownOver generation => s.cooldownOver generation

/-! ## Motion -/

def due? (limit : Option Nat) (s : Stage) : Option Stage :=
  (s.timers.takeDue? limit).map fun (task, timers) => { s with timers }.perform task

def run? (s : Stage) (goal : Stage → Bool) (limit : Option Nat) : Option Stage :=
  Motion.run? (due? limit) goal Motion.patience s

def settle? (s : Stage) : Option Stage := s.run? (fun _ => false) (some s.timers.now)

/-- The answers of the calls with numbers from `first` on, below `first + count`, as far as they
have returned. -/
def answersTo (s : Stage) (first count : Nat) : List (Option Refusal) :=
  (List.range count).filterMap fun i => s.answers.lookup (.main (first + i))

/-- Those calls have all returned or broken off. -/
def allEnded (s : Stage) (first count : Nat) : Bool :=
  (List.range count).all fun i =>
    (s.answers.lookup (.main (first + i))).isSome || s.brokenOff.contains (.main (first + i))

end Stage

inductive Step where
  /-- So many calls that begin in order and are waited for together. -/
  | await (count : Nat)
  | spawn (label : String)
  | cancel
  | shutdown
  | drop
  | advance (span : Duration)
deriving DecidableEq, Repr

namespace Stage

/-- An operation, up to the end of what it waits for. After `drop` only time passes. -/
def move? (s : Stage) (step : Step) : Option Stage :=
  match step with
  | .advance span => do
    let limit := s.timers.now + span.micros
    let s ← s.run? (fun _ => false) (some limit)
    some { s with timers := s.timers.moveTo limit }
  | .drop => some { s with held := false }
  | .cancel => some (if s.held then s.meddle .cancel else s)
  | .shutdown => some (if s.held then s.meddle .shutdown else s)
  | .spawn label =>
    some (if s.held then { s with timers := s.timers.spawn s.timers.now (.start (.task label)) }
      else s)
  | .await count =>
    if s.held then do
      let first := s.nextCall
      let begun := (List.range count).foldl (fun s i => s.start (.main (first + i))) s
      let s ← { begun with nextCall := first + count }.settle?
      s.run? (fun s => s.allEnded first count) none
    else some s

/-- One operation and everything due after it, from a stage on which nothing has been heard of yet;
`none` if it does not come to rest. -/
def step? (s : Stage) (step : Step) : Option Stage := do
  (← { s with answers := [], brokenOff := [], notices := [] }.move? step).settle?

end Stage

end Freshness.Debounce.Script
