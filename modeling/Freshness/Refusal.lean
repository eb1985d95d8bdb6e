import Freshness.Fault

/-!
# What a caller is told when a call fails

* `Escalation` : the ways in which a fetch's fault is passed on to the caller;
* `Refusal` : everything a call may fail with, from a fault passed on to an invalid
  configuration; `Refusal.escalated` builds the first three;
* `Refusal.text` : the message; `Refusal.fault?` : the fault inside.
-/

namespace Freshness

inductive Escalation where
  | fatal
  | authFailed
  | configEntry
deriving DecidableEq, Repr, Inhabited

inductive Refusal where
  | fatal (fault : Fault)
  | authFailed (fault : Fault)
  | configEntry (fault : Fault)
  | notReady (name : String) (cause : Option Fault)
  | entryBound (name : String)
  | invalidConfig (detail : String)
  | loadFailed (detail : String)
  | saveFailed (detail : String)
deriving DecidableEq, Repr, Inhabited

namespace Refusal

def escalated : Escalation → Fault → Refusal
  | .fatal => fatal
  | .authFailed => authFailed
  | .configEntry => configEntry

/-- A configuration file that the operating system would not read. -/
def ofSystem (e : SystemError) : Refusal := loadFailed e.message

def fault? : Refusal → Option Fault
  | fatal f | authFailed f | configEntry f => some f
  | notReady _ cause => cause
  | _ => none

/-- A defect of the program. -/
def isFatal : Refusal → Bool
  | fatal _ => true
  | _ => false

def isConfigError : Refusal → Bool
  | invalidConfig _ | loadFailed _ | saveFailed _ => true
  | _ => false

def text : Refusal → String
  | fatal f => "Fatal error refreshing data: " ++ f.text
  | authFailed f => "Authentication failed: " ++ f.text
  | configEntry f => "Config entry failed: " ++ f.text
  | notReady name _ => "Coordinator " ++ name ++ " is not ready"
  | entryBound name =>
    "Coordinator " ++ name ++ " is bound to a config entry; it shuts down on unload"
  | invalidConfig d => "Invalid coordinator configuration: " ++ d
  | loadFailed d => "Failed to load config: " ++ d
  | saveFailed d => "Failed to save config: " ++ d

end Refusal

end Freshness
