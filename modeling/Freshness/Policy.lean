import Freshness.Refusal
import Freshness.Report
import Freshness.Trigger

/-!
# What follows from a cycle

* `Policy` : the two settings that bear on it;
* `Verdict` : who is notified, whether the timer is armed, whether credentials are asked for, and
  how the fault is passed on;
* `Policy.escalation`, `Policy.judge` : the verdict on a report.
-/

namespace Freshness

structure Policy where
  /-- Announce every successful cycle, also one that brought the same value. -/
  alwaysUpdate : Bool := true
  /-- Keep polling after credentials were rejected. -/
  rescheduleOnAuthFailure : Bool := true
deriving DecidableEq, Repr, Inhabited

structure Verdict where
  notify : Bool
  reschedule : Bool
  startReauth : Bool
  escalate : Option Escalation
deriving DecidableEq, Repr, Inhabited

namespace Policy

/-- How a fault of this class is passed on to the caller of a cycle run in manner `m`. -/
def escalation (m : Manner) : Option Fault.Kind → Option Escalation
  | some .notImplemented => some .fatal
  | some .configEntry => if m.raiseEntryError then some .configEntry else none
  | some .authFailed => if m.raiseAuthFailed then some .authFailed else none
  | _ => none

/-- The verdict on a cycle, given whether anyone listens and whether the host is stopping. -/
def judge (p : Policy) (r : Report) (m : Manner) (hasListeners hostStopping : Bool) : Verdict :=
  let escalate := escalation m r.failure
  let authFailed := r.failure == some .authFailed
  { notify := escalate.isNone && r.shouldNotify p.alwaysUpdate
    reschedule := hasListeners && !hostStopping && (!authFailed || p.rescheduleOnAuthFailure)
    startReauth := authFailed && escalate.isNone
    escalate }

end Policy

end Freshness
