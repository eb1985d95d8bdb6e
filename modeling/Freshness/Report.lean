import Freshness.Fault

/-!
# What one cycle did to the record

* `Report` : the health flag before and after a cycle, whether the value changed, and the class of
  the fault if there was one;
* `Report.opens`, `Report.closes`, `Report.stays` : the cycle begins, ends or continues an episode
  of failure;
* `Report.shouldNotify`, `Report.shouldLog` : who is to hear of it.
-/

namespace Freshness

structure Report where
  previousSuccess : Bool
  success : Bool
  dataChanged : Bool
  failure : Option Fault.Kind
deriving DecidableEq, Repr, Inhabited

namespace Report

def opens (r : Report) : Bool := r.previousSuccess && !r.success

def closes (r : Report) : Bool := !r.previousSuccess && r.success

def stays (r : Report) : Bool := !r.previousSuccess && !r.success

/-- Listeners are to hear of the cycle. Quiet faults and repeated failure are not announced; of the
rest every cycle is if `always`, and otherwise each that changed the health or the value. -/
def shouldNotify (r : Report) (always : Bool) : Bool :=
  !r.failure.any (·.isQuiet) && !r.stays &&
    (always || r.success != r.previousSuccess || r.dataChanged)

/-- The fault belongs in the log. An unforeseen one always does, a defect of the program never,
since it reaches the caller; of the rest the one that opens an episode, if `logFailures`. -/
def shouldLog (r : Report) (logFailures : Bool) : Bool :=
  match r.failure with
  | none | some .notImplemented => false
  | some .unknown => true
  | some _ => logFailures && r.opens

end Report

end Freshness
