import Freshness.Text.Quoted
import Freshness.Text.Shown

/-!
# What can go wrong in a fetch

* `Fault` : one failed fetch; `Fault.Kind` : its class, with the words used in logs and reports;
* `Cause` : the error behind an unforeseen fault, of which only the texts are known;
* `SystemError` : an error of the operating system, and `Fault.ofSystem`, the fault it amounts to;
* `Fault.text`, `Fault.shown` : the message for people and the text in diagnostics;
* `Kind.isFatal`, `Kind.isQuiet` : a fetch that is not implemented is a defect of the program and
  never retried in silence; rejected credentials are never announced to listeners.
-/

namespace Freshness

open Text

/-! ## Classes of faults -/

inductive Fault.Kind where
  | timeout
  | transport
  | updateFailed
  | configEntry
  | authFailed
  | notImplemented
  | unknown
deriving DecidableEq, Repr, Inhabited

namespace Fault.Kind

def all : List Kind :=
  [timeout, transport, updateFailed, configEntry, authFailed, notImplemented, unknown]

theorem mem_all (k : Kind) : k ∈ all := by cases k <;> decide

def word : Kind → String
  | timeout => "timeout"
  | transport => "transport"
  | updateFailed => "update_failed"
  | configEntry => "config_entry"
  | authFailed => "auth_failed"
  | notImplemented => "not_implemented"
  | unknown => "unknown"

def shown : Kind → String
  | timeout => "Timeout"
  | transport => "Transport"
  | updateFailed => "UpdateFailed"
  | configEntry => "ConfigEntry"
  | authFailed => "AuthFailed"
  | notImplemented => "NotImplemented"
  | unknown => "Unknown"

def ofWord? (w : String) : Option Kind := all.find? (·.word == w)

theorem ofWord?_word (k : Kind) : ofWord? k.word = some k := by cases k <;> decide

def isFatal (k : Kind) : Bool := k == notImplemented

def isQuiet (k : Kind) : Bool := k == authFailed

end Fault.Kind

/-! ## Faults -/

/-- An error of a kind not known here: its message and its text in diagnostics. -/
structure Cause where
  text : String
  shown : String
deriving DecidableEq, Repr, Inhabited

inductive Fault where
  | timeout (message : String)
  | transport (message : String)
  | updateFailed (message : String)
  | configEntry (message : String)
  | authFailed (message : String)
  | notImplemented (message : String)
  | unexpected (message : String) (cause : Option Cause)
deriving DecidableEq, Repr, Inhabited

namespace Fault

def kind : Fault → Kind
  | timeout _ => .timeout
  | transport _ => .transport
  | updateFailed _ => .updateFailed
  | configEntry _ => .configEntry
  | authFailed _ => .authFailed
  | notImplemented _ => .notImplemented
  | unexpected _ _ => .unknown

/-- An unforeseen fault that keeps the error behind it. -/
def ofCause (cause : Cause) : Fault := unexpected cause.text (some cause)

def text : Fault → String
  | timeout m => "Timeout: " ++ m
  | transport m => "Transport error: " ++ m
  | updateFailed m => "Update failed: " ++ m
  | configEntry m => "Config entry error: " ++ m
  | authFailed m => "Authentication failed: " ++ m
  | notImplemented m => "Not implemented: " ++ m
  | unexpected m _ => "Unexpected error: " ++ m

/-- The message of the error behind the fault. -/
def causeText : Fault → Option String
  | unexpected _ cause => cause.map (·.text)
  | _ => none

def shown : Fault → String
  | unexpected m cause =>
    shownRecord "Unexpected" [("message", quoted m), ("source", shownOption Cause.shown cause)]
  | timeout m => shownTuple "Timeout" (quoted m)
  | transport m => shownTuple "Transport" (quoted m)
  | updateFailed m => shownTuple "UpdateFailed" (quoted m)
  | configEntry m => shownTuple "ConfigEntry" (quoted m)
  | authFailed m => shownTuple "AuthFailed" (quoted m)
  | notImplemented m => shownTuple "NotImplemented" (quoted m)

def isFatal (f : Fault) : Bool := f.kind.isFatal

/-- The next scheduled cycle may simply try again. -/
def isTransient (f : Fault) : Bool := !f.isFatal

end Fault

/-! ## Errors of the operating system -/

/-- The conditions the operating system reports; only those that bear on a fetch have a name of
their own. -/
inductive SystemError.Condition where
  | timedOut
  | wouldBlock
  | connectionRefused
  | connectionReset
  | connectionAborted
  | notConnected
  | addrNotAvailable
  | brokenPipe
  | unexpectedEof
  | other (name : String)
deriving DecidableEq, Repr, Inhabited

def SystemError.Condition.ofName : String → Condition
  | "TimedOut" => timedOut
  | "WouldBlock" => wouldBlock
  | "ConnectionRefused" => connectionRefused
  | "ConnectionReset" => connectionReset
  | "ConnectionAborted" => connectionAborted
  | "NotConnected" => notConnected
  | "AddrNotAvailable" => addrNotAvailable
  | "BrokenPipe" => brokenPipe
  | "UnexpectedEof" => unexpectedEof
  | name => other name

structure SystemError where
  condition : SystemError.Condition
  message : String
deriving DecidableEq, Repr, Inhabited

/-- The fault an error of the operating system amounts to: running out of time is a timeout, a
broken connection a transport fault, all else is unforeseen and keeps the error. -/
def Fault.ofSystem (e : SystemError) : Fault :=
  match e.condition with
  | .timedOut | .wouldBlock => timeout e.message
  | .connectionRefused | .connectionReset | .connectionAborted | .notConnected
  | .addrNotAvailable | .brokenPipe | .unexpectedEof => transport e.message
  | .other name =>
    ofCause ⟨e.message, shownRecord "Custom" [("kind", name), ("error", quoted e.message)]⟩

end Freshness
