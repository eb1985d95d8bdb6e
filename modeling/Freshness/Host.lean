import Freshness.Text.Shown

/-!
# The host and its stop hooks

* `Host` : whether the host is stopping, and the hooks to run when it does, with payloads of type
  `η`, in the order of their ids;
* `Host.register` : a hook for a host that is stopping already is to run at once and is not kept;
* `Host.remove` : takes out a hook that is still kept;
* `Host.stop` : hands over all hooks, the first time only.
-/

namespace Freshness

structure HookId where
  number : Nat
deriving DecidableEq, Repr, Inhabited

def HookId.shown (id : HookId) : String := Text.shownTuple "HookId" (toString id.number)

structure Host (η : Type) where
  stopping : Bool := false
  nextId : Nat := 0
  hooks : List (HookId × η) := []
deriving Repr, Inhabited

namespace Host

variable {η : Type}

def pending (h : Host η) : Nat := h.hooks.length

def register (h : Host η) (hook : η) : HookId × Host η :=
  let id : HookId := ⟨h.nextId⟩
  (id, { h with nextId := h.nextId + 1
                hooks := if h.stopping then h.hooks else h.hooks ++ [(id, hook)] })

def remove (h : Host η) (id : HookId) : Host η :=
  { h with hooks := h.hooks.filter (·.1 != id) }

/-- Marks the host as stopping and hands over its hooks; `none` if it was stopping already. -/
def stop (h : Host η) : Option (List η × Host η) :=
  if h.stopping then none
  else some (h.hooks.map (·.2), { h with stopping := true, hooks := [] })

def shown (h : Host η) : String :=
  Text.shownRecord "HostLifecycle"
    [("stopping", Text.shownBool h.stopping), ("pending_hooks", toString h.pending)]

end Host

end Freshness
