/-!
# Why a cycle runs, and in what manner

* `Trigger` : what started a cycle;
* `Manner` : the flags of one cycle; `Manner.scheduled`, `Manner.requested` and
  `Manner.firstRefresh` are the three in use.
-/

namespace Freshness

inductive Trigger where
  | scheduled
  | requested
  | firstRefresh
deriving DecidableEq, Repr, Inhabited

namespace Trigger

def all : List Trigger := [scheduled, requested, firstRefresh]

def word : Trigger → String
  | scheduled => "scheduled"
  | requested => "requested"
  | firstRefresh => "first_refresh"

def shown : Trigger → String
  | scheduled => "Scheduled"
  | requested => "Requested"
  | firstRefresh => "FirstRefresh"

def ofWord? (w : String) : Option Trigger := all.find? (·.word == w)

theorem ofWord?_word (t : Trigger) : ofWord? t.word = some t := by cases t <;> decide

end Trigger

/-- The manner in which one cycle is run. -/
structure Manner where
  trigger : Trigger
  /-- Log the fault that opens a failure episode. -/
  logFailures : Bool
  /-- Pass rejected credentials on to the caller. -/
  raiseAuthFailed : Bool
  /-- Pass a broken configuration entry on to the caller. -/
  raiseEntryError : Bool
deriving DecidableEq, Repr, Inhabited

namespace Manner

def scheduled : Manner := ⟨.scheduled, true, false, false⟩

def requested : Manner := { scheduled with trigger := .requested }

/-- The first cycle, during set-up: the caller hears of trouble and the log does not. -/
def firstRefresh : Manner := ⟨.firstRefresh, false, true, true⟩

def isScheduled (m : Manner) : Bool := m.trigger == .scheduled

end Manner

end Freshness
