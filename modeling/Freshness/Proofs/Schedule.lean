import Freshness.Proofs.Coordinator.Clocks

/-!
# When the refresh timer is due

* `Schedule.arm_of_interval`, `Schedule.arm_cases` : what arming does to the schedule and its table;
* `Duration.IsWhole` : a whole number of seconds; `Schedule.OnGrid`, `Schedule.onGrid_deadlineAt` :
  with such intervals, deadlines keep to whole seconds plus jitter;
* `Schedule.gridPoint_max` : a timer that fires on time fires in the second of its deadline;
* `Schedule.lt_deadlineAt` : which deadlines lie ahead.
-/

namespace Freshness

def Duration.IsWhole (d : Duration) : Prop := d.micros % 1000000 = 0

instance (d : Duration) : Decidable d.IsWhole := inferInstanceAs (Decidable (_ = _))

namespace Schedule

variable {ω : Type}

/-! ## Arming -/

/-- With an interval the timer is replaced, unless the deadline is out of range. -/
theorem arm_of_interval {s : Schedule} {interval : Duration} (hi : s.interval = some interval)
    (t : Timers ω) (job : Nat → ω) :
    s.arm t false false job =
      if clockEnd ≤ s.deadlineAt t.now interval then
        (.outOfRange interval, { s with generation := s.generation + 1, armed := none },
          (s.disarm t).2)
      else
        (.armed (s.generation + 1),
          { s with generation := s.generation + 1
                   armed := some ⟨s.generation + 1, s.deadlineAt t.now interval,
                     ((s.disarm t).2.schedule (s.deadlineAt t.now interval)
                       (job (s.generation + 1))).1⟩ },
          ((s.disarm t).2.schedule (s.deadlineAt t.now interval) (job (s.generation + 1))).2) := by
  have hs : (s.disarm t).1 = { s with armed := none } := disarm_fst s t
  have ht : (s.disarm t).2.now = t.now := now_disarm s t
  simp only [arm, hi, Bool.false_eq_true, if_false, hs, ht]
  rfl

/-- Arming changes nothing, or it replaces the timer. -/
theorem arm_cases (s : Schedule) (t : Timers ω) (shutDown pollingDisabled : Bool)
    (job : Nat → ω) :
    (s.arm t shutDown pollingDisabled job).2 = (s, t) ∨
      ∃ interval, s.interval = some interval ∧
        s.arm t shutDown pollingDisabled job = s.arm t false false job := by
  cases shutDown with
  | true => exact .inl rfl
  | false =>
    cases pollingDisabled with
    | true => exact .inl rfl
    | false =>
      cases hi : s.interval with
      | none => exact .inl (by simp [arm, hi])
      | some interval => exact .inr ⟨interval, rfl, rfl⟩

/-! ## The grid -/

/-- A deadline set at `now`: the jitter and a whole number of seconds after the origin, and in the
last second before interval and jitter are over. -/
structure OnGrid (origin : Nat) (jitter : Duration) (now : Nat) (interval : Duration)
    (deadline : Nat) : Prop where
  floor : deadline =
    origin + (now - origin) / 1000000 * 1000000 + jitter.micros + interval.micros
  aligned : ∃ k, deadline = origin + jitter.micros + k * 1000000
  after : now + interval.micros + jitter.micros < deadline + 1000000
  before : deadline ≤ now + interval.micros + jitter.micros

theorem onGrid_deadlineAt {s : Schedule} {now : Nat} {interval : Duration} (ho : s.origin ≤ now)
    (hi : interval.IsWhole) : OnGrid s.origin s.jitter now interval (s.deadlineAt now interval) := by
  unfold Duration.IsWhole at hi
  unfold deadlineAt gridPoint
  refine ⟨by omega, ⟨(now - s.origin) / 1000000 + interval.micros / 1000000, ?_⟩, ?_, ?_⟩
  all_goals omega

/-- A timer that is set at `now` and fires on time fires in the second that its deadline lies in,
also if that is over when it is set. -/
theorem gridPoint_max {s : Schedule} {now : Nat} {interval : Duration} (ho : s.origin ≤ now)
    (hj : s.jitter.micros < 1000000)
    (ha : ∃ k, s.deadlineAt now interval = s.origin + s.jitter.micros + k * 1000000) :
    s.gridPoint (max now (s.deadlineAt now interval)) + s.jitter.micros =
      s.deadlineAt now interval := by
  obtain ⟨k, ha⟩ := ha
  have hd : s.deadlineAt now interval = s.origin + (now - s.origin) / 1000000 * 1000000 +
      (s.jitter.micros + interval.micros) := rfl
  unfold gridPoint
  omega

/-- A deadline lies ahead if interval and jitter reach past the current second. -/
theorem lt_deadlineAt {s : Schedule} {now : Nat} {interval : Duration} (ho : s.origin ≤ now) :
    now < s.deadlineAt now interval ↔
      (now - s.origin) % 1000000 < s.jitter.micros + interval.micros := by
  unfold deadlineAt gridPoint
  omega

end Schedule

end Freshness
