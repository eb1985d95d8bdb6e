import Freshness.Settings.Basic
import Freshness.Toml.Reader
import Freshness.Toml.Writer

/-!
# Settings in a TOML document

* `Toml.Record` : a value with named parts. A list stands for the parts in their order, and a moment
  for none of them;
* `Settings.ofToml?` : the settings that a document holds. What it leaves out keeps its default, but
  a document that has a coordinator without an interval turns scheduling off. What it adds is
  ignored;
* `Settings.parse?`, `Settings.render?` : settings from and to text. No interval is written by
  leaving it out.
-/

namespace Freshness

namespace Toml

/-- A value with named parts. -/
inductive Record where
  | named (entries : List (String × Toml))
  | listed (items : List Toml)
deriving Repr

def record? : Toml → Option Record
  | table es => some (.named es)
  | array xs => some (.listed xs)
  | scalar (.moment _) => some (.named [])
  | scalar _ => none

/-- The part of a name, which is at `position` in a list. -/
def Record.part? (r : Record) (name : String) (position : Nat) : Option Toml :=
  match r with
  | named es => es.lookup name
  | listed xs => xs[position]?

/-- A part read by `f`, or what stands for it if it is missing. -/
def Record.read? {β : Type} (r : Record) (name : String) (position : Nat) (f : Toml → Option β)
    (missing : β) : Option β :=
  match r.part? name position with
  | none => some missing
  | some v => f v

end Toml

namespace Settings

def coordinatorOf? (s : Settings) (t : Toml) : Option Settings := do
  let r ← t.record?
  let name ← r.read? "name" 0 Toml.text? "cadence"
  let intervalSecs ← r.read? "update_interval_secs" 1 (fun v => v.natural?.map some) none
  let alwaysUpdate ← r.read? "always_update" 2 Toml.boolean? true
  let rescheduleOnAuthFailure ← r.read? "reschedule_on_auth_failure" 3 Toml.boolean? true
  some { s with name, intervalSecs, policy := { alwaysUpdate, rescheduleOnAuthFailure } }

def jitterOf? (s : Settings) (t : Toml) : Option Settings := do
  let r ← t.record?
  let jitterMinMs ← r.read? "min_ms" 0 Toml.natural? 50
  let jitterMaxMs ← r.read? "max_ms" 1 Toml.natural? 500
  some { s with jitterMinMs, jitterMaxMs }

/-- The part of a document on requests in bursts. -/
def debounceOf? (s : Settings) (t : Toml) : Option Settings := do
  let r ← t.record?
  let cooldownMs ← r.read? "cooldown_ms" 0 Toml.natural? 10000
  let immediate ← r.read? "immediate" 1 Toml.boolean? true
  some { s with cooldownMs, immediate }

def ofToml? (t : Toml) : Option Settings := do
  let r ← t.record?
  let s ← r.read? "coordinator" 0 (coordinatorOf? {}) {}
  let s ← r.read? "jitter" 1 (jitterOf? s) s
  r.read? "debounce" 2 (debounceOf? s) s

def parse? (text : String) : Option Settings := (Toml.parse? text).bind ofToml?

def sections (s : Settings) : List Toml.Section :=
  [⟨"coordinator",
      ("name", .text s.name) ::
        (s.intervalSecs.toList.map fun n => ("update_interval_secs", .integer n)) ++
        [("always_update", .boolean s.policy.alwaysUpdate),
          ("reschedule_on_auth_failure", .boolean s.policy.rescheduleOnAuthFailure)]⟩,
    ⟨"jitter", [("min_ms", .integer s.jitterMinMs), ("max_ms", .integer s.jitterMaxMs)]⟩,
    ⟨"debounce", [("cooldown_ms", .integer s.cooldownMs), ("immediate", .boolean s.immediate)]⟩]

def render? (s : Settings) : Option String := Toml.render? s.sections

end Settings

end Freshness
