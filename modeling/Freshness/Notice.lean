import Freshness.Duration
import Freshness.Json.Basic
import Freshness.Refusal
import Freshness.Trigger

/-!
# What goes into the log

* `Notice` : everything that is logged while things run, by meaning;
* `Notice.level`, `Notice.message`, `Notice.fields` : how it is written.
-/

namespace Freshness

inductive Level where
  | error
  | warn
  | info
  | debug
deriving DecidableEq, Repr

def Level.word : Level → String
  | error => "error"
  | warn => "warn"
  | info => "info"
  | debug => "debug"

inductive Notice where
  | created (coordinator : String) (interval : Option Duration) (jitter : Duration)
  | pollingDisabled (coordinator : String)
  | intervalOutOfRange (coordinator : String) (interval : Duration)
  | timerNotDriven
  | callIgnored (debouncer : String)
  | callDropped (debouncer : String)
  | trailingFailed (debouncer : String) (refusal : Refusal)
  | alreadyStopping
  | hostStopping (hooks : Nat)
  | refreshSkipped (coordinator : String) (trigger : Trigger)
  | scheduledRefreshSkipped (coordinator : String)
  | fetchFailed (coordinator : String) (fault : Fault)
  | recovered (coordinator : String)
  | reauthStarted (coordinator entry : String)
  | reauthImpossible (coordinator : String)
  | fetchFinished (coordinator : String) (trigger : Trigger) (elapsed : Duration) (success : Bool)
  | scheduledRefreshFailed (coordinator : String) (refusal : Refusal)
  | faultInjected (coordinator : String) (fault : Fault)
  | dataInjected (coordinator : String)
  | shutDown (coordinator : String)
  | settingsLoading
  | settingsMissing
  | nameOverridden (name : String)
  | intervalOverridden (secs : Nat)
  | intervalIgnored (written : String)
  | cooldownOverridden (ms : Nat)
  | flagIgnored (key written : String)
  | settingsRefused (refusal : Refusal)
  | settingsSaved
deriving DecidableEq, Repr

namespace Notice

def level : Notice → Level
  | trailingFailed .. | fetchFailed .. | scheduledRefreshFailed .. | faultInjected .. => .error
  | intervalOutOfRange .. | timerNotDriven | callIgnored .. | reauthImpossible ..
  | intervalIgnored .. | flagIgnored .. | settingsRefused .. => .warn
  | hostStopping .. | recovered .. | reauthStarted .. | shutDown .. | settingsLoading
  | settingsSaved => .info
  | created .. | pollingDisabled .. | callDropped .. | alreadyStopping | refreshSkipped ..
  | scheduledRefreshSkipped .. | fetchFinished .. | dataInjected .. | settingsMissing
  | nameOverridden .. | intervalOverridden .. | cooldownOverridden .. => .debug

/-- What is said of a failed fetch, by the class of the fault. -/
def failureMessage : Fault.Kind → String
  | .timeout => "Timeout fetching data"
  | .transport => "Error requesting data"
  | .updateFailed => "Error fetching data"
  | .configEntry => "Config entry setup failed while fetching data"
  | .authFailed => "Authentication failed while fetching data"
  | .notImplemented => "Fetching data is not implemented"
  | .unknown => "Unexpected error fetching data"

def message : Notice → String
  | created .. => "Coordinator created"
  | pollingDisabled .. => "Polling disabled, refresh not scheduled"
  | intervalOutOfRange .. => "Update interval out of range, refresh not scheduled"
  | timerNotDriven => "No tokio runtime available, timer not scheduled"
  | callIgnored .. => "Debouncer call ignored after shutdown"
  | callDropped .. => "Execution in progress, call dropped"
  | trailingFailed .. => "Unexpected error from debounced refresh"
  | alreadyStopping => "Host already stopping"
  | hostStopping .. => "Host stopping, running stop hooks"
  | refreshSkipped .. => "Shutdown requested, refresh skipped"
  | scheduledRefreshSkipped .. => "Host stopping, scheduled refresh skipped"
  | fetchFailed _ f => failureMessage f.kind
  | recovered .. => "Fetching data recovered"
  | reauthStarted .. => "Starting reauthentication"
  | reauthImpossible .. => "Authentication failed with no config entry to reauthenticate"
  | fetchFinished .. => "Finished fetching data"
  | scheduledRefreshFailed .. => "Scheduled refresh failed"
  | faultInjected .. => "Error requesting data"
  | dataInjected .. => "Manually updated data"
  | shutDown .. => "Coordinator shut down"
  | settingsLoading => "Loading cadence config from file"
  | settingsMissing => "Config file not found, using defaults"
  | nameOverridden .. => "Overriding coordinator name from environment"
  | intervalOverridden .. => "Overriding update interval from environment"
  | intervalIgnored .. => "Invalid update interval in environment"
  | cooldownOverridden .. => "Overriding debounce cooldown from environment"
  | flagIgnored key _ => "Invalid " ++ key ++ " in environment"
  | settingsRefused .. => "Failed to load cadence config"
  | settingsSaved => "Cadence config saved"

/-- The largest number of milliseconds that is written; longer times are written as this. -/
def maxMillis : Nat := UInt64.size - 1

def millis (d : Duration) : Json := .ofNat (min d.inMillis maxMillis)

/-- The text of a failed fetch's fault; an unforeseen one is written out for diagnostics. -/
def faultText (f : Fault) : String := if f.kind = .unknown then f.shown else f.text

def fields : Notice → List (String × Json)
  | created c interval jitter =>
    [("coordinator", .str c), ("interval", .str (Duration.shownOptional interval)),
      ("jitter_ms", millis jitter)]
  | pollingDisabled c | scheduledRefreshSkipped c | recovered c | reauthImpossible c
  | dataInjected c | shutDown c => [("coordinator", .str c)]
  | intervalOutOfRange c interval =>
    [("coordinator", .str c), ("interval", .str interval.shown)]
  | timerNotDriven | alreadyStopping | settingsLoading | settingsMissing | settingsRefused _
  | settingsSaved => []
  | callIgnored d | callDropped d => [("debouncer", .str d)]
  | trailingFailed d r => [("debouncer", .str d), ("error", .str r.text)]
  | hostStopping n => [("hooks", .ofNat n)]
  | refreshSkipped c t => [("coordinator", .str c), ("trigger", .str t.word)]
  | fetchFailed c f => [("coordinator", .str c), ("error", .str (faultText f))]
  | reauthStarted c e => [("coordinator", .str c), ("entry", .str e)]
  | fetchFinished c t elapsed success =>
    [("coordinator", .str c), ("trigger", .str t.word), ("elapsed_ms", millis elapsed),
      ("success", .bool success)]
  | scheduledRefreshFailed c r =>
    [("coordinator", .str c), ("error", .str r.text),
      ("kind", .str (Text.shownOption Fault.Kind.shown (r.fault?.map (·.kind))))]
  | faultInjected c f => [("coordinator", .str c), ("error", .str f.text)]
  | nameOverridden name => [("name", .str name)]
  | intervalOverridden secs => [("secs", .ofNat secs)]
  | intervalIgnored written | flagIgnored _ written => [("value", .str written)]
  | cooldownOverridden ms => [("ms", .ofNat ms)]

def toJson (n : Notice) : Json :=
  .arr [.str n.level.word, .str n.message, .ofFields n.fields]

end Notice

end Freshness
