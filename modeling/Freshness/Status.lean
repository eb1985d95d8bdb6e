import Freshness.Fault
import Freshness.Json.Reader
import Freshness.Json.Writer
import Freshness.Timestamp
import Freshness.Trigger

/-!
# Reports on a coordinator

* `Status` : a coordinator at one moment;
* `Status.toJson`, `Status.render` : its JSON form and text, with the fields in a fixed order;
* `Status.ofJson?`, `Status.parse?` : the report that a JSON value or text stands for. A report may
  also be a list of its values in that order. What may be missing is then absent, other members are
  passed over, and no member may come twice.
-/

namespace Freshness

structure Status where
  name : String
  lastUpdateSuccess : Bool
  lastSuccessTime : Option Timestamp
  lastErrorKind : Option Fault.Kind
  lastError : Option String
  hasData : Bool
  listenerCount : Nat
  updateIntervalMs : Option Nat
  refreshArmed : Bool
  shutdownRequested : Bool
deriving DecidableEq, Repr, Inhabited

/-- The word a JSON value gives for a choice: a text, or the name of an object's only member if that
is `null`. -/
def Json.choice? : Json → Option String
  | .str w => some w
  | .obj [(some w, .null)] => some w
  | _ => none

def Fault.Kind.ofJson? (j : Json) : Option Fault.Kind := j.choice?.bind ofWord?

def Trigger.ofJson? (j : Json) : Option Trigger := j.choice?.bind ofWord?

namespace Status

/-! ## Writing -/

def fields (s : Status) : List (String × Json) :=
  [("name", .str s.name),
    ("last_update_success", .bool s.lastUpdateSuccess),
    ("last_update_success_time", .ofOption (fun t => .str t.render) s.lastSuccessTime),
    ("last_error_kind", .ofOption (fun k => .str k.word) s.lastErrorKind),
    ("last_error", .ofOption .str s.lastError),
    ("has_data", .bool s.hasData),
    ("listener_count", .ofNat s.listenerCount),
    ("update_interval_ms", .ofOption .ofNat s.updateIntervalMs),
    ("refresh_armed", .bool s.refreshArmed),
    ("shutdown_requested", .bool s.shutdownRequested)]

def toJson (s : Status) : Json := .ofFields s.fields

def render (s : Status) : String := s.toJson.pretty

/-! ## Reading -/

def fieldNames : List String :=
  ["name", "last_update_success", "last_update_success_time", "last_error_kind", "last_error",
    "has_data", "listener_count", "update_interval_ms", "refresh_armed", "shutdown_requested"]

/-- The names of the fields that may be missing. -/
def optionalNames : List String :=
  ["last_update_success_time", "last_error_kind", "last_error", "update_interval_ms"]

def optional? {α : Type} (f : Json → Option α) : Json → Option (Option α)
  | .null => some none
  | j => (f j).map some

/-- The first count that is too large. -/
def countBound : Nat := UInt64.size

/-- The report with those values, in order. -/
def ofValues? : List Json → Option Status
  | [name, success, time, kind, error, hasData, count, interval, armed, shutdown] => do
    some { name := ← name.str?
           lastUpdateSuccess := ← success.bool?
           lastSuccessTime := ← optional? (fun j => j.str?.bind Timestamp.parse?) time
           lastErrorKind := ← optional? Fault.Kind.ofJson? kind
           lastError := ← optional? Json.str? error
           hasData := ← hasData.bool?
           listenerCount := ← count.natBelow? countBound
           updateIntervalMs := ← optional? (Json.natBelow? countBound) interval
           refreshArmed := ← armed.bool?
           shutdownRequested := ← shutdown.bool? }
  | _ => none

/-- The value of a field, given what the members of that name hold. -/
def fieldValue? (members : List (Option String × Json)) (name : String) : Option Json :=
  match members.filter (·.1 == some name) with
  | [] => if optionalNames.contains name then some .null else none
  | [(_, v)] => some v
  | _ => none

def ofJson? : Json → Option Status
  | .arr values => ofValues? values
  | .obj members =>
    if members.any (·.1.isNone) then none
    else (fieldNames.mapM (fieldValue? members)).bind ofValues?
  | _ => none

def parse? (text : String) : Option Status := (Json.parse? text).bind ofJson?

end Status

end Freshness
