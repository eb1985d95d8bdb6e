import Freshness.Caller
import Freshness.Debounce
import Freshness.Host
import Freshness.Policy
import Freshness.Roster
import Freshness.Schedule
import Freshness.Source
import Freshness.Standing

/-!
# A coordinator and its surroundings

A coordinator keeps the value of one source fresh: it polls while someone listens, answers requests
to refresh, and tells its listeners. Work that waits is data: a `Task` on the agenda or behind a
timer, or a `Cycle` in the queue for the lock.

* `Call`, `Origin`, `Cycle` : who asked for a cycle of fetching, and its place in line;
* `Deed` : what anyone may do with the coordinator or its surroundings without waiting;
* `Task` : the work that remains at a point where something waits;
* `Lock` : the lock that one cycle holds, and the cycles in line for it;
* `Event` : what happens, as seen from outside;
* `System` : the state of all.
-/

namespace Freshness

/-! ## Cycles -/

inductive Call where
  | refresh
  /-- Refresh through the debouncer. -/
  | request
  | first
  /-- What the refresh timer does. -/
  | interval
deriving DecidableEq, Repr, Inhabited

inductive Origin where
  | call (caller : Caller) (call : Call)
  /-- The refresh timer fired. -/
  | timer
  /-- A cooldown ended with a request pending. -/
  | cooldown
deriving DecidableEq, Repr, Inhabited

def Origin.manner : Origin → Manner
  | .call _ .refresh | .call _ .request | .cooldown => .requested
  | .call _ .first => .firstRefresh
  | .call _ .interval | .timer => .scheduled

/-- The driving task waits for the cycle; every other cycle belongs to a task of its own. -/
def Origin.isMain : Origin → Bool
  | .call caller _ => caller.isMain
  | .timer | .cooldown => false

structure Cycle where
  serial : Nat
  origin : Origin
deriving DecidableEq, Repr, Inhabited

structure Lock where
  holder : Option Cycle := none
  /-- The cycles in line, the next one first. -/
  waiting : List Cycle := []
deriving DecidableEq, Repr, Inhabited

structure Health where
  success : Bool
  fault : Option Fault
deriving DecidableEq, Repr, Inhabited

/-! ## Surroundings -/

structure HostName where
  number : Nat
deriving DecidableEq, Repr, Inhabited

structure Entry where
  id : String
  pollingDisabled : Bool := false
  /-- Polling is never disabled, and a callback for the unload is not kept. -/
  minimal : Bool := false
  /-- The coordinator's callback for the unload is kept. -/
  unloadHook : Bool := false
deriving DecidableEq, Repr, Inhabited

structure Callback where
  label : String
  key : Nat
deriving DecidableEq, Repr, Inhabited

/-- What is done without waiting. -/
inductive Deed (α : Type) where
  /-- The listener does what stands first in `conduct` when it is first called, and so on. When that
  is used up it only reads. -/
  | addListener (label : String) (context : Option String) (conduct : List (List (Deed α)))
  | unsubscribe (label : String)
  | setData (a : α)
  | setFault (f : Fault)
  | setInterval (interval : Option Duration)
  | shutdown
  | registerShutdown (host : HostName)
  | stopHost (host : HostName)
  | unload
  | setPolling (disabled : Bool)
  | spawn (label : String) (call : Call)
  /-- Gives up the handle; calls under way keep theirs. -/
  | drop

def Deed.needsHandle {α : Type} : Deed α → Bool
  | .addListener .. | .setData _ | .setFault _ | .setInterval _ | .shutdown
  | .registerShutdown _ | .spawn .. => true
  | .unsubscribe _ | .stopHost _ | .unload | .setPolling _ | .drop => false

inductive Task (α : Type) where
  | deed (deed : Deed α)
  | hear (callback : Callback)
  | start (caller : Caller) (call : Call)
  /-- The cycle has the lock. -/
  | enter (cycle : Cycle)
  /-- Its fetch, begun at that time, has ended. -/
  | fetched (cycle : Cycle) (begun : Nat) (result : Except Fault α)
  /-- Its listeners have heard. -/
  | conclude (cycle : Cycle) (outcome : Except Refusal Health)
  | refreshDue (generation : Nat)
  | cooldownOver (generation : Nat)

def Task.isStart {α : Type} : Task α → Bool
  | .start _ _ => true
  | _ => false

structure Sight (α : Type) where
  data : Option α
  success : Bool
  failure : Option Fault.Kind

inductive Event (α : Type) where
  | notice (notice : Notice)
  /-- A listener was called; it reads nothing if the handle has been given up. -/
  | heard (label : String) (sight : Option (Sight α))
  | answered (caller : Caller) (refusal : Option Refusal)
  /-- A call broke off and does not return. -/
  | brokeOff (caller : Caller)
  | fetchStarted (serial : Nat)
  | fetchEnded (serial : Nat)
  | reauthStarted

structure System (α : Type) where
  name : String
  source : Option (Source α)
  policy : Policy
  /-- The host whose stopping silences the timer; without one, none does. -/
  followed : Option HostName
  entry : Option Entry
  standing : Standing α := {}
  roster : Roster Callback String := {}
  schedule : Schedule
  debounce : Debounce
  shutDown : Bool := false
  /-- Where the coordinator's stop hook is. -/
  stopHook : Option (HostName × HookId) := none
  lock : Lock := {}
  /-- The number of the next cycle. -/
  serial : Nat := 0
  /-- What listeners will do at their next calls, by key. -/
  conducts : List (Nat × List (List (Deed α))) := []
  /-- Labels of listeners, the newest first. -/
  labels : List (String × ListenerId) := []
  /-- The hosts; one that was never touched runs and has no hooks. -/
  hosts : HostName → Host Unit := fun _ => {}
  /-- Somebody outside holds a handle. -/
  held : Bool := true
  timers : Timers (Task α)
  /-- What is done next, at this very moment. -/
  agenda : List (Task α) := []
  /-- A cycle of the driving task that another task has handed the lock to. The driving task goes on
  when nothing else is left to do at this moment. -/
  resuming : Option Cycle := none
  /-- What happened, the latest first. -/
  journal : List (Event α) := []

namespace System

variable {α : Type}

def now (w : System α) : Nat := w.timers.now

def host (w : System α) (name : HostName) : Host Unit := w.hosts name

def setHost (w : System α) (name : HostName) (host : Host Unit) : System α :=
  { w with hosts := fun n => if n = name then host else w.hosts n }

@[simp] theorem host_setHost (w : System α) (name n : HostName) (host : Host Unit) :
    (w.setHost name host).host n = if n = name then host else w.host n := rfl

def hostStopping (w : System α) : Bool := w.followed.any fun h => (w.host h).stopping

def pollingDisabled (w : System α) : Bool := w.entry.any (·.pollingDisabled)

def health (w : System α) : Health := ⟨w.standing.lastUpdateSuccess, w.standing.lastFault⟩

def sight (w : System α) : Option (Sight α) :=
  if w.held then
    some ⟨w.standing.data, w.standing.lastUpdateSuccess, w.standing.lastFault.map (·.kind)⟩
  else none

/-- Somebody holds the coordinator: there is a handle, or a call or a cycle is under way. Otherwise
it is gone, and its timers and hooks do nothing. -/
def alive (w : System α) : Bool :=
  w.held || w.lock.holder.isSome || !w.lock.waiting.isEmpty ||
    w.timers.waiting.any fun t => t.job.isStart

def record (w : System α) (e : Event α) : System α := { w with journal := e :: w.journal }

def log (w : System α) (n : Notice) : System α := w.record (.notice n)

def logAny (w : System α) (n : Option Notice) : System α :=
  match n with
  | none => w
  | some n => w.log n

/-- Puts work in front of the agenda. -/
def next (w : System α) (tasks : List (Task α)) : System α :=
  { w with agenda := tasks ++ w.agenda }

/-- Leaves work for when everything that waits at this moment has been done. -/
def later (w : System α) (task : Task α) : System α :=
  { w with timers := w.timers.spawn w.now task }

def answer (w : System α) (caller : Caller) (refusal : Option Refusal) : System α :=
  w.record (.answered caller refusal)

/-- A call breaks off. Nothing else does with it, since each call has a task of its own or guards
against the others that are waited for with it. -/
def breakOff (w : System α) (caller : Caller) : System α := w.record (.brokeOff caller)

end System

end Freshness
