import Freshness.Text.Shown

/-!
# Listeners

* `Roster` : the registered listeners, with callbacks of type `κ` and, for each, an optional context
  of type `χ` that is kept for its owner; ids are never used again;
* `Roster.Order` : in which order a table goes through its listeners. A hash table goes through them
  in any, which may change with every entry;
* `Roster.add`, `Roster.remove` : the latter says whether it emptied the roster;
* `Roster.snapshot` : the callbacks of one moment, in the order of the table;
* `Roster.callAll` : one round of notification over a snapshot. A callback may do anything to the
  state `σ`, a roster within it included, and the round goes on over the same snapshot.
-/

namespace Freshness

structure ListenerId where
  number : Nat
deriving DecidableEq, Repr, Inhabited

structure Listener (κ χ : Type) where
  id : ListenerId
  callback : κ
  context : Option χ
deriving Repr

/-- The order of a table, by the ids given out and the listeners that are left of them. In one use of
a table these are never the same again once it has changed. -/
structure Roster.Order (κ χ : Type) where
  arrange : Nat → List (Listener κ χ) → List (Listener κ χ)
  perm : ∀ nextId listeners, (arrange nextId listeners).Perm listeners

/-- The order in which the listeners came. -/
instance {κ χ : Type} : Inhabited (Roster.Order κ χ) := ⟨fun _ ls => ls, fun _ _ => .refl _⟩

structure Roster (κ χ : Type) where
  order : Roster.Order κ χ := default
  nextId : Nat := 0
  /-- In the order in which they came. -/
  listeners : List (Listener κ χ) := []

namespace Roster

variable {κ χ σ : Type}

def size (r : Roster κ χ) : Nat := r.listeners.length

def isEmpty (r : Roster κ χ) : Bool := r.listeners.isEmpty

def freshId (r : Roster κ χ) : ListenerId := ⟨r.nextId⟩

def add (r : Roster κ χ) (callback : κ) (context : Option χ) : ListenerId × Roster κ χ :=
  (r.freshId, { r with nextId := r.nextId + 1
                       listeners := r.listeners ++ [⟨r.freshId, callback, context⟩] })

/-- Removes a listener; true if there was one and it was the last. An unknown id changes nothing. -/
def remove (r : Roster κ χ) (id : ListenerId) : Bool × Roster κ χ :=
  let rest := r.listeners.filter (·.id != id)
  (r.listeners.any (·.id == id) && rest.isEmpty, { r with listeners := rest })

def contexts (r : Roster κ χ) : List χ := r.listeners.filterMap (·.context)

def snapshot (r : Roster κ χ) : List κ :=
  (r.order.arrange r.nextId r.listeners).map (·.callback)

def shown (r : Roster κ χ) : String :=
  Text.shownRecord "ListenerRegistry" [("len", toString r.size)]

def callAll (call : κ → σ → σ) (snapshot : List κ) (s : σ) : σ :=
  snapshot.foldl (fun s k => call k s) s

end Roster

end Freshness
