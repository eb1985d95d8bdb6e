import Freshness.Coordinator.Basic

/-!
# What is done without waiting

* `System.standDown` : the refresh timer is disarmed and the pending request dropped;
* `System.scheduleRefresh` : the refresh timer is armed, if that is possible;
* `System.notify` : a round of notification is put on the agenda;
* `System.shutdown` : for good, and no matter how often;
* `System.addListener`, `System.unsubscribe`, `System.setData`, `System.setFault`,
  `System.registerShutdown`, `System.stopHost`, `System.unload` : the operations;
* `System.refusal?` : the operations that are refused, and why;
* `System.carryOut` : the operation that a deed names.
-/

namespace Freshness.System

variable {α : Type}

def standDown (w : System α) : System α :=
  let (schedule, timers) := w.schedule.disarm w.timers
  let (debounce, timers) := w.debounce.cancel timers
  { w with schedule, debounce, timers }

def scheduleRefresh (w : System α) : System α :=
  let (arming, schedule, timers) :=
    w.schedule.arm w.timers w.shutDown w.pollingDisabled .refreshDue
  { w with schedule, timers }.logAny (arming.notice w.schedule.name timers.driven)

def notify (w : System α) : System α := w.next (w.roster.snapshot.map .hear)

def removeHook (w : System α) (hook : Option (HostName × HookId)) : System α :=
  match hook with
  | none => w
  | some (h, id) => w.setHost h ((w.host h).remove id)

def shutdown (w : System α) : System α :=
  let (schedule, timers) := w.schedule.disarm w.timers
  let (debounce, timers) := w.debounce.shutdown timers
  let already := w.shutDown
  let w := { w with schedule, debounce, timers, shutDown := true, stopHook := none }.removeHook
    w.stopHook
  if already then w else w.log (.shutDown w.name)

def shutdownIfAlive (w : System α) : System α := if w.alive then w.shutdown else w

/-! ## Listeners -/

def addListener (w : System α) (label : String) (context : Option String)
    (conduct : List (List (Deed α))) : System α :=
  let first := w.roster.isEmpty
  let key := w.roster.freshId.number
  let (id, roster) := w.roster.add ⟨label, key⟩ context
  let w := { w with roster, labels := (label, id) :: w.labels
                    conducts := (key, conduct) :: w.conducts }
  if first then w.scheduleRefresh else w

/-- Removes a listener; the last removal leaves nothing armed or pending. -/
def unsubscribe (w : System α) (label : String) : System α :=
  match w.labels.lookup label with
  | none => w
  | some id =>
    if w.alive then
      let (emptied, roster) := w.roster.remove id
      let w := { w with roster }
      if emptied then w.standDown else w
    else w

def hear (w : System α) (k : Callback) : System α :=
  let conduct := (w.conducts.lookup k.key).getD []
  let w := w.record (.heard k.label w.sight)
  { w with conducts := (k.key, conduct.tail) :: w.conducts.filter (·.1 != k.key) }.next
    ((conduct.headD []).map .deed)

/-! ## Values and faults told from outside -/

def setData (w : System α) (a : α) : System α :=
  let w := w.standDown
  let standing := w.standing.injectData a (w.now / 1000 : Nat)
  let w := { w with standing }.log (.dataInjected w.name)
  let w := if w.roster.isEmpty then w else w.scheduleRefresh
  w.notify

/-- Stores a fault without a fetch; listeners are told if it opens an episode of failure. -/
def setFault (w : System α) (f : Fault) : System α :=
  let (standing, opened) := w.standing.injectFault f
  let w := { w with standing }
  if opened then (w.log (.faultInjected w.name f)).notify else w

/-! ## Hosts and the entry -/

/-- Has the coordinator shut down when the host stops, in place of any host before. A host that is
stopping shuts it down at once. -/
def registerShutdown (w : System α) (name : HostName) : System α :=
  let host := w.host name
  let (id, registered) := host.register ()
  let w := w.setHost name registered
  let w := if host.stopping then w.shutdown else w
  { w with stopHook := some (name, id) }.removeHook w.stopHook

def stopHost (w : System α) (name : HostName) : System α :=
  match (w.host name).stop with
  | none => w.log .alreadyStopping
  | some (hooks, host) =>
    hooks.foldl (fun w _ => w.shutdownIfAlive)
      ((w.setHost name host).log (.hostStopping hooks.length))

def unload (w : System α) : System α :=
  match w.entry with
  | some entry =>
    if entry.unloadHook then
      { w with entry := some { entry with unloadHook := false } }.shutdownIfAlive
    else w
  | none => w

def setPolling (w : System α) (disabled : Bool) : System α :=
  { w with entry := w.entry.map fun e =>
      if e.minimal then e else { e with pollingDisabled := disabled } }

/-! ## Deeds -/

def refusal? (w : System α) : Deed α → Option Refusal
  | .registerShutdown _ =>
    if w.held && w.entry.isSome then some (.entryBound w.name) else none
  | _ => none

/-- Does what the deed names. Without a handle, what needs one is left undone. -/
def carryOut (w : System α) (deed : Deed α) : System α :=
  if (deed.needsHandle && !w.held) || (w.refusal? deed).isSome then w
  else match deed with
    | .addListener label context conduct => w.addListener label context conduct
    | .unsubscribe label => w.unsubscribe label
    | .setData a => w.setData a
    | .setFault f => w.setFault f
    | .setInterval interval => { w with schedule := w.schedule.setInterval interval }
    | .shutdown => w.shutdown
    | .registerShutdown host => w.registerShutdown host
    | .stopHost host => w.stopHost host
    | .unload => w.unload
    | .setPolling disabled => w.setPolling disabled
    | .spawn label call => w.later (.start (.task label) call)
    | .drop => { w with held := false }

end Freshness.System
