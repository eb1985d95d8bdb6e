import Freshness.Notice
import Freshness.Settings.Basic
import Freshness.Text.Digits

/-!
# Settings from the environment

* `Environment` : the variables that are set, by name;
* `Settings.Variable` : the variables that override a setting, in the order in which they apply;
* `Settings.intervalOf?`, `Settings.flagOf?` : what their texts stand for;
* `Settings.Variable.apply` : settings with one variable applied. A text that stands for nothing
  leaves them as they are;
* `Settings.overridden` : settings with all the variables applied.
-/

namespace Freshness

abbrev Environment := String → Option String

namespace Settings

inductive Variable where
  | name
  | interval
  | alwaysUpdate
  | cooldown
  | immediate
deriving DecidableEq, Repr

def Variable.all : List Variable := [.name, .interval, .alwaysUpdate, .cooldown, .immediate]

theorem Variable.mem_all (v : Variable) : v ∈ all := by cases v <;> decide

def Variable.key : Variable → String
  | .name => "CADENCE_NAME"
  | .interval => "CADENCE_UPDATE_INTERVAL_SECS"
  | .alwaysUpdate => "CADENCE_ALWAYS_UPDATE"
  | .cooldown => "CADENCE_DEBOUNCE_COOLDOWN_MS"
  | .immediate => "CADENCE_DEBOUNCE_IMMEDIATE"

/-- The text with the capital letters of ASCII made small. No other character has one of the
letters in the words below as its small form. -/
def lower (s : String) : String := String.ofList (s.toList.map Char.toLower)

/-- The interval that a text stands for: none at all for three words, or a number of seconds. -/
def intervalOf? (written : String) : Option (Option Nat) :=
  if lower written ∈ ["0", "none", "off"] then some none
  else (Text.wordOf? written).map some

def flagOf? (written : String) : Option Bool :=
  if lower written ∈ ["1", "true", "yes", "on"] then some true
  else if lower written ∈ ["0", "false", "no", "off"] then some false
  else none

def Variable.apply (v : Variable) (written : String) (s : Settings) : Settings × List Notice :=
  match v with
  | .name => ({ s with name := written }, [.nameOverridden written])
  | .interval =>
    match intervalOf? written with
    | some none => ({ s with intervalSecs := none }, [])
    | some (some n) => ({ s with intervalSecs := some n }, [.intervalOverridden n])
    | none => (s, [.intervalIgnored written])
  | .alwaysUpdate =>
    match flagOf? written with
    | some b => ({ s with policy := { s.policy with alwaysUpdate := b } }, [])
    | none => (s, [.flagIgnored v.key written])
  | .cooldown =>
    match Text.wordOf? written with
    | some n => ({ s with cooldownMs := n }, [.cooldownOverridden n])
    | none => (s, [])
  | .immediate =>
    match flagOf? written with
    | some b => ({ s with immediate := b }, [])
    | none => (s, [.flagIgnored v.key written])

def Variable.applyFrom (env : Environment) (v : Variable) (s : Settings) :
    Settings × List Notice :=
  match env v.key with
  | some written => v.apply written s
  | none => (s, [])

/-- Settings with variables applied in their order, and what is logged. -/
def overriddenBy (env : Environment) : List Variable → Settings → Settings × List Notice
  | [], s => (s, [])
  | v :: vs, s =>
    let (s, first) := v.applyFrom env s
    let (s, rest) := overriddenBy env vs s
    (s, first ++ rest)

def overridden (env : Environment) (s : Settings) : Settings × List Notice :=
  overriddenBy env Variable.all s

end Settings

end Freshness
