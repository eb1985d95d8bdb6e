import Freshness.Coordinator.Operations

/-!
# One cycle

A cycle asks for the lock, fetches once, applies the result, draws its consequences and tells the
listeners; then it lets go of the lock and returns to whoever asked for it.

* `System.ask` : joins the line; `System.enter` : has the lock and begins the fetch, unless the
  coordinator is shut down, or the host is stopping and the timer asked;
* `System.fetched` : the fetch has ended, by `System.applyResult`, `System.logReport`,
  `System.askForCredentials` and `System.followUp`;
* `System.conclude` : the listeners have heard; `System.release` hands the lock to the next in line,
  which goes on by `System.resume`, and `System.returnTo` ends the call;
* `System.start`, `System.refreshDue`, `System.cooldownOver` : a call begins, a timer fires.
-/

namespace Freshness.System

variable {α : Type}

/-! ## The lock -/

def ask (w : System α) (origin : Origin) : System α :=
  let cycle : Cycle := ⟨w.serial, origin⟩
  let w := { w with serial := w.serial + 1 }
  match w.lock.holder with
  | none => { w with lock := { w.lock with holder := some cycle } }.next [.enter cycle]
  | some _ => { w with lock := { w.lock with waiting := w.lock.waiting ++ [cycle] } }

/-- A cycle that has been handed the lock goes on when it is the turn of its task. That is now if
the driving task handed the lock to itself, since it attends to all its calls in one turn. -/
def resume (w : System α) (cycle : Cycle) (releaser : Origin) : System α :=
  if !cycle.origin.isMain then w.later (.enter cycle)
  else if releaser.isMain then w.next [.enter cycle]
  else { w with resuming := some cycle }

def release (w : System α) (releaser : Origin) : System α :=
  match w.lock.waiting with
  | [] => { w with lock := { holder := none, waiting := [] } }
  | cycle :: waiting => { w with lock := { holder := some cycle, waiting } }.resume cycle releaser

/-! ## The fetch -/

def beginFetch (w : System α) (cycle : Cycle) : System α :=
  match w.source with
  | none => w.next [.fetched cycle w.now (.error .missingSource)]
  | some source =>
    let (fetch, source) := source.next
    let (wait, result) := fetch.outcome
    let w := { w with source := some source }.record (.fetchStarted cycle.serial)
    let task := Task.fetched cycle w.now result
    if wait.micros = 0 then w.next [task]
    else { w with timers := w.timers.spawn (w.now + wait.micros) task }

/-- The cycle has the lock: nothing stays armed or pending, and the fetch begins unless it is to be
skipped. -/
def enter (w : System α) (cycle : Cycle) : System α :=
  let w := w.standDown
  let manner := cycle.origin.manner
  if w.shutDown then
    (w.log (.refreshSkipped w.name manner.trigger)).next [.conclude cycle (.ok w.health)]
  else if manner.isScheduled && w.hostStopping then
    (w.log (.scheduledRefreshSkipped w.name)).next [.conclude cycle (.ok w.health)]
  else w.beginFetch cycle

/-! ## The result -/

def applyResult [BEq α] (w : System α) (cycle : Cycle) (result : Except Fault α) :
    System α × Report :=
  let w := if w.source.isSome then w.record (.fetchEnded cycle.serial) else w
  let (standing, report) := w.standing.apply result (w.now / 1000 : Nat)
  ({ w with standing }, report)

def logReport (w : System α) (manner : Manner) (report : Report) (fault : Option Fault) :
    System α :=
  let w := match fault with
    | some f => if report.shouldLog manner.logFailures then w.log (.fetchFailed w.name f) else w
    | none => w
  if report.closes then w.log (.recovered w.name) else w

def askForCredentials (w : System α) : System α :=
  match w.entry with
  | some entry => (w.log (.reauthStarted w.name entry.id)).record .reauthStarted
  | none => w.log (.reauthImpossible w.name)

def followUp (w : System α) (cycle : Cycle) (verdict : Verdict) (fault : Option Fault)
    (health : Health) : System α :=
  let w := if verdict.reschedule then w.scheduleRefresh else w
  match verdict.escalate, fault with
  | some escalation, some f => w.next [.conclude cycle (.error (.escalated escalation f))]
  | _, _ =>
    let w := w.next [.conclude cycle (.ok health)]
    if verdict.notify then w.notify else w

def faultOf? : Except Fault α → Option Fault
  | .error f => some f
  | .ok _ => none

def fetched [BEq α] (w : System α) (cycle : Cycle) (begun : Nat) (result : Except Fault α) :
    System α :=
  let manner := cycle.origin.manner
  let fault := faultOf? result
  let (w, report) := w.applyResult cycle result
  let health := w.health
  let w := w.logReport manner report fault
  let verdict := w.policy.judge report manner (!w.roster.isEmpty) w.hostStopping
  let w := if verdict.startReauth then w.askForCredentials else w
  let w := w.log (.fetchFinished w.name manner.trigger ⟨w.now - begun⟩ report.success)
  w.followUp cycle verdict fault health

/-! ## The end -/

def refusalOf? : Except Refusal Health → Option Refusal
  | .error r => some r
  | .ok _ => none

/-- The answer to a first refresh: the caller wants to know that there is data. -/
def firstAnswer (name : String) : Except Refusal Health → Option Refusal
  | .error r => some r
  | .ok health => if health.success then none else some (.notReady name health.fault)

/-- The run of the debounced action has ended; true if whoever ran it breaks off. -/
def endRun (w : System α) : Bool × System α :=
  let (broken, debounce, timers) := w.debounce.endRun w.timers .cooldownOver
  (broken, { w with debounce, timers })

def returnTo (w : System α) (outcome : Except Refusal Health) : Origin → System α
  | .call caller .request =>
    let (broken, w) := w.endRun
    if broken then w.breakOff caller else w.answer caller (refusalOf? outcome)
  | .call caller .first => w.answer caller (firstAnswer w.name outcome)
  | .call caller _ => w.answer caller (refusalOf? outcome)
  | .timer => w.logAny ((refusalOf? outcome).map (.scheduledRefreshFailed w.name))
  | .cooldown =>
    -- nobody waits for a run at the end of a cooldown
    (w.logAny ((refusalOf? outcome).map (.trailingFailed w.debounce.name))).endRun.2

def conclude (w : System α) (cycle : Cycle) (outcome : Except Refusal Health) : System α :=
  (w.release cycle.origin).returnTo outcome cycle.origin

/-! ## What starts a cycle -/

def start (w : System α) (caller : Caller) (call : Call) : System α :=
  match call with
  | .request =>
    let (answer, debounce, timers) := w.debounce.request w.timers .cooldownOver
    let w := { w with debounce, timers }.logAny (answer.notice w.debounce.name)
    match answer with
    | .run => w.ask (.call caller call)
    | .brokenOff => w.breakOff caller
    | _ => w.answer caller none
  | _ => w.ask (.call caller call)

def refreshDue (w : System α) (generation : Nat) : System α :=
  if w.alive then
    let (current, schedule) := w.schedule.takeFired generation
    let w := { w with schedule }
    if current then w.ask .timer else w
  else w

def cooldownOver (w : System α) (generation : Nat) : System α :=
  if w.alive then
    let (due, debounce) := w.debounce.cooldownOver generation
    let w := { w with debounce }
    if due then w.ask .cooldown else w
  else w

end Freshness.System
