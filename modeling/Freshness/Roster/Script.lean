import Freshness.Roster

/-!
# Scripts over a roster

Listeners that change the roster while they are called, written as data.

* `Deed`, `Callback` : what a listener does each time it is called;
* `Stage` : a roster with names for its listeners, kept snapshots, and what happened so far;
* `Stage.call` : one callback; `Stage.notify` : a round over a snapshot;
* `Step`, `Stage.step` : the operations of a script.
-/

namespace Freshness.Roster.Script

/-- What a listener does to the roster when it is called. -/
inductive Deed where
  | add (label : String)
  | remove (label : String)
deriving DecidableEq, Repr

/-- A listener's name and what it does each time. -/
structure Callback where
  label : String
  deeds : List Deed := []
deriving DecidableEq, Repr

structure Stage where
  roster : Roster Callback String := {}
  /-- Names, the newest first. -/
  names : List (String × ListenerId) := []
  /-- Kept snapshots, the newest first. -/
  snapshots : List (String × List Callback) := []
  fired : List String := []
  /-- How many removals by listeners emptied the roster. -/
  emptied : Nat := 0

namespace Stage

/-- Registers a listener, which takes over its label. -/
def add (s : Stage) (callback : Callback) (context : Option String) : Stage :=
  let (id, roster) := s.roster.add callback context
  { s with roster, names := (callback.label, id) :: s.names }

/-- Removes the listener a label names; true if that emptied the roster. -/
def remove (s : Stage) (label : String) : Bool × Stage :=
  match s.names.lookup label with
  | none => (false, s)
  | some id =>
    let (emptied, roster) := s.roster.remove id
    (emptied, { s with roster })

def perform (s : Stage) : Deed → Stage
  | .add label => s.add { label } none
  | .remove label =>
    let (emptied, s) := s.remove label
    if emptied then { s with emptied := s.emptied + 1 } else s

def call (k : Callback) (s : Stage) : Stage :=
  k.deeds.foldl perform { s with fired := s.fired ++ [k.label] }

def notify (s : Stage) (snapshot : List Callback) : Stage := Roster.callAll call snapshot s

/-- The snapshot of that name, empty if there is none. -/
def kept (s : Stage) (label : String) : List Callback := (s.snapshots.lookup label).getD []

end Stage

inductive Step where
  | add (callback : Callback) (context : Option String)
  | remove (label : String)
  | notify
  | snapshot (label : String)
  | notifySnapshot (label : String)
deriving DecidableEq, Repr

/-- One operation, from a stage on which nothing has been heard of yet; true if it is a removal that
emptied the roster. -/
def Stage.step (s : Stage) (step : Step) : Bool × Stage :=
  let s := { s with fired := [], emptied := 0 }
  match step with
  | .add callback context => (false, s.add callback context)
  | .remove label => s.remove label
  | .notify => (false, s.notify s.roster.snapshot)
  | .snapshot label => (false, { s with snapshots := (label, s.roster.snapshot) :: s.snapshots })
  | .notifySnapshot label => (false, s.notify (s.kept label))

end Freshness.Roster.Script
