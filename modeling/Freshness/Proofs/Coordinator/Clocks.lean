import Freshness.Coordinator.Cycle
import Freshness.Proofs.Debounce

/-!
# The clocks of a coordinator

The refresh timer and the debouncer share one table of timers with the fetches that take time and
the calls that have not begun. Each cancels by its own handle.

* `Task.cycle?`, `Task.isStage` : the tasks that carry a cycle from its entry to its end;
* `Clocks` : the schedule, the debouncer and the table; `Clocks.Linked` : behind the handle of each
  timer there is only its own job;
* `Clocks.Ticks` : the job of an armed refresh timer waits;
* `Clocks.Kept` : what keeps the link, leaves the stages of cycles waiting as they are and takes the
  job from no armed refresh timer. Every operation on one of the two timers does (`kept_disarm` and
  the like).
-/

namespace Freshness

variable {α : Type}

def Task.cycle? : Task α → Option Cycle
  | .enter cycle | .fetched cycle _ _ | .conclude cycle _ => some cycle
  | .deed _ | .hear _ | .start _ _ | .refreshDue _ | .cooldownOver _ => none

def Task.isStage (task : Task α) : Bool := task.cycle?.isSome

theorem Schedule.disarm_fst {ω : Type} (s : Schedule) (t : Timers ω) :
    (s.disarm t).1 = { s with armed := none } := by
  unfold Schedule.disarm
  split
  · next h => rw [← h]
  · rfl

theorem Schedule.now_disarm {ω : Type} (s : Schedule) (t : Timers ω) :
    (s.disarm t).2.now = t.now := by
  unfold Schedule.disarm
  split
  · rfl
  · exact Timers.now_cancel t _

/-- The timers of one coordinator, with the table in which they wait. -/
structure Clocks (α : Type) where
  schedule : Schedule
  debounce : Debounce
  timers : Timers (Task α)

def System.clocks (w : System α) : Clocks α := ⟨w.schedule, w.debounce, w.timers⟩

namespace Clocks

variable {s : Schedule} {d : Debounce} {t : Timers (Task α)}

/-- Behind the handle of each timer there is only its own job. -/
structure Linked (c : Clocks α) : Prop where
  timers : c.timers.Sound
  schedule : ∀ a, c.schedule.armed = some a → c.timers.Behind a.handle (.refreshDue a.generation)
  debounce : ∀ a, c.debounce.armed = some a → c.timers.Behind a.handle (.cooldownOver a.generation)

/-- The job of an armed refresh timer waits. -/
def Ticks (c : Clocks α) (a : Schedule.Armed) : Prop :=
  c.timers.Holds a.handle (.refreshDue a.generation)

/-- Whatever refresh timer is armed in `c'` has its job, if it was armed anew or had it in `c`. -/
def Tends (c c' : Clocks α) : Prop :=
  ∀ a, c'.schedule.armed = some a →
    c'.Ticks a ∨ (c.schedule.armed = some a ∧ (c.Ticks a → c'.Ticks a))

theorem Tends.refl (c : Clocks α) : Tends c c := fun _ ha => .inr ⟨ha, id⟩

theorem Tends.trans {c₁ c₂ c₃ : Clocks α} (h₁ : Tends c₁ c₂) (h₂ : Tends c₂ c₃) : Tends c₁ c₃ := by
  intro a ha
  rcases h₂ a ha with hn | ⟨ha', hk⟩
  · exact .inl hn
  · rcases h₁ a ha' with hn | ⟨ha'', hk'⟩
    · exact .inl (hk hn)
    · exact .inr ⟨ha'', fun hn => hk (hk' hn)⟩

/-- From `c` to `c'` the link is kept, the stages of cycles go on waiting, the same as before, and
so does the job of the refresh timer. -/
structure Follows (c c' : Clocks α) : Prop where
  linked : c'.Linked
  stages : c'.timers.pick Task.isStage = c.timers.pick Task.isStage
  ticks : Tends c c'

/-- If the clocks were linked before, they still are. -/
def Kept (c c' : Clocks α) : Prop := c.Linked → Follows c c'

theorem Kept.refl (c : Clocks α) : Kept c c := fun h => ⟨h, rfl, .refl c⟩

theorem Kept.trans {c₁ c₂ c₃ : Clocks α} (h₁ : Kept c₁ c₂) (h₂ : Kept c₂ c₃) : Kept c₁ c₃ := by
  intro h
  obtain ⟨hl, hp, ht⟩ := h₁ h
  obtain ⟨hl', hp', ht'⟩ := h₂ hl
  exact ⟨hl', hp'.trans hp, ht.trans ht'⟩

theorem Linked.of_armed {s' : Schedule} {d' : Debounce} (h : Linked ⟨s, d, t⟩)
    (hs : s'.armed = none ∨ s'.armed = s.armed) (hd : d'.armed = none ∨ d'.armed = d.armed) :
    Linked ⟨s', d', t⟩ := by
  refine ⟨h.timers, ?_, ?_⟩
  · intro a ha
    rcases hs with hs | hs
    · cases hs.symm.trans ha
    · exact h.schedule a (hs.symm.trans ha)
  · intro a ha
    rcases hd with hd | hd
    · cases hd.symm.trans ha
    · exact h.debounce a (hd.symm.trans ha)

theorem kept_of_armed {s' : Schedule} {d' : Debounce} (hs : s'.armed = none ∨ s'.armed = s.armed)
    (hd : d'.armed = none ∨ d'.armed = d.armed) : Kept ⟨s, d, t⟩ ⟨s', d', t⟩ :=
  fun h => ⟨h.of_armed hs hd, rfl, fun a ha => by
    rcases hs with hs | hs
    · cases hs.symm.trans ha
    · exact .inr ⟨hs.symm.trans ha, id⟩⟩

theorem Linked.cancel (h : Linked ⟨s, d, t⟩) (k : TimerHandle) : Linked ⟨s, d, t.cancel k⟩ :=
  ⟨h.timers.cancel k, fun a ha => (h.schedule a ha).cancel k,
    fun a ha => (h.debounce a ha).cancel k⟩

theorem Linked.schedule_job (h : Linked ⟨s, d, t⟩) (deadline : Nat) (job : Task α) :
    Linked ⟨s, d, (t.schedule deadline job).2⟩ :=
  ⟨h.timers.schedule deadline job, fun a ha => (h.schedule a ha).schedule h.timers deadline job,
    fun a ha => (h.debounce a ha).schedule h.timers deadline job⟩

theorem tends_schedule (h : Linked ⟨s, d, t⟩) (deadline : Nat) (job : Task α) :
    Tends ⟨s, d, t⟩ ⟨s, d, (t.schedule deadline job).2⟩ :=
  fun _ ha => .inr ⟨ha, fun hn => hn.schedule h.timers deadline job⟩

theorem Linked.take (h : Linked ⟨s, d, t⟩) (u : Timer (Task α)) : Linked ⟨s, d, t.take u⟩ :=
  h.cancel _

theorem Linked.moveTo (h : Linked ⟨s, d, t⟩) (time : Nat) : Linked ⟨s, d, t.moveTo time⟩ :=
  ⟨h.timers.moveTo time, h.schedule, h.debounce⟩

theorem kept_spawn (s : Schedule) (d : Debounce) (t : Timers (Task α)) (deadline : Nat)
    (job : Task α) (hj : job.isStage = false) : Kept ⟨s, d, t⟩ ⟨s, d, t.spawn deadline job⟩ := by
  intro h
  refine ⟨h.schedule_job deadline job, ?_, ?_⟩
  · show Timers.pick _ (t.schedule deadline job).2 = _
    rw [Timers.pick_schedule h.timers.driven]
    simp [hj]
  · exact tends_schedule h deadline job

/-! ## The refresh timer -/

theorem kept_disarm (s : Schedule) (d : Debounce) (t : Timers (Task α)) :
    Kept ⟨s, d, t⟩ ⟨(s.disarm t).1, d, (s.disarm t).2⟩ := by
  intro h
  unfold Schedule.disarm
  cases ha : s.armed with
  | none => exact Kept.refl _ h
  | some a =>
    refine ⟨(h.cancel a.handle).of_armed (.inl rfl) (.inr rfl),
      Timers.pick_cancel (h.schedule a ha) rfl, ?_⟩
    intro a' ha'
    cases ha'

theorem kept_arm (s : Schedule) (d : Debounce) (t : Timers (Task α)) (shutDown disabled : Bool) :
    Kept ⟨s, d, t⟩ ⟨(s.arm t shutDown disabled .refreshDue).2.1, d,
      (s.arm t shutDown disabled .refreshDue).2.2⟩ := by
  unfold Schedule.arm
  split
  · exact .refl _
  split
  · exact .refl _
  split
  · exact .refl _
  · refine (kept_disarm s d t).trans ?_
    dsimp only
    split
    · exact kept_of_armed (.inr rfl) (.inr rfl)
    · intro h
      refine ⟨⟨h.timers.schedule _ _, ?_, ?_⟩, ?_, ?_⟩
      · intro a ha
        obtain rfl := Option.some.inj ha
        exact (Timers.holds_schedule h.timers _ _).behind (h.timers.schedule _ _)
      · intro a ha
        exact (h.debounce a ha).schedule h.timers _ _
      · rw [Timers.pick_schedule h.timers.driven]
        simp [Task.isStage, Task.cycle?]
      · intro a ha
        obtain rfl := Option.some.inj ha
        exact .inl (Timers.holds_schedule h.timers _ _)

theorem kept_takeFired (s : Schedule) (d : Debounce) (t : Timers (Task α)) (generation : Nat) :
    Kept ⟨s, d, t⟩ ⟨(s.takeFired generation).2, d, t⟩ := by
  unfold Schedule.takeFired
  split
  · exact kept_of_armed (.inl rfl) (.inr rfl)
  · exact .refl _

/-! ## The debouncer -/

theorem kept_cancel (s : Schedule) (d : Debounce) (t : Timers (Task α)) :
    Kept ⟨s, d, t⟩ ⟨s, (d.cancel t).1, (d.cancel t).2⟩ := by
  intro h
  unfold Debounce.cancel
  cases ha : d.armed with
  | none => exact kept_of_armed (.inr rfl) (.inl rfl) h
  | some a =>
    refine ⟨(h.cancel a.handle).of_armed (.inr rfl) (.inl rfl),
      Timers.pick_cancel (h.debounce a ha) rfl, ?_⟩
    intro a' ha'
    refine .inr ⟨ha', fun hn => ?_⟩
    have hb : t.Behind a.handle (.cooldownOver a.generation) := h.debounce a ha
    exact Timers.Holds.cancel hn hb (by simp)

theorem kept_shutdown (s : Schedule) (d : Debounce) (t : Timers (Task α)) :
    Kept ⟨s, d, t⟩ ⟨s, (d.shutdown t).1, (d.shutdown t).2⟩ := by
  have h : Kept ⟨s, d, t⟩ ⟨s, { d with shutDown := true }, t⟩ :=
    kept_of_armed (.inr rfl) (.inr rfl)
  exact h.trans (kept_cancel s _ t)

theorem kept_startCooldown (s : Schedule) (d : Debounce) (t : Timers (Task α)) :
    Kept ⟨s, d, t⟩
      ⟨s, (d.startCooldown t .cooldownOver).2.1, (d.startCooldown t .cooldownOver).2.2⟩ := by
  intro h
  unfold Debounce.startCooldown
  split
  · exact Kept.refl _ h
  dsimp only
  split
  · exact kept_of_armed (.inr rfl) (.inr rfl) h
  · have hk := kept_spawn s d t (t.now + d.cooldown.micros)
      (.cooldownOver (d.generation + 1)) rfl h
    obtain ⟨hl, hp, ht⟩ := hk
    have hb := (Timers.holds_schedule h.timers (t.now + d.cooldown.micros)
      (.cooldownOver (d.generation + 1))).behind hl.timers
    cases ha : d.armed with
    | none =>
      refine ⟨⟨hl.timers, hl.schedule, ?_⟩, hp, ht⟩
      intro a h'
      obtain rfl := Option.some.inj h'
      exact hb
    | some previous =>
      have hc := hl.cancel previous.handle
      have hprev : Timers.Behind _ previous.handle (Task.cooldownOver previous.generation) :=
        hl.debounce previous ha
      refine ⟨⟨hc.timers, hc.schedule, ?_⟩, ?_, ?_⟩
      · intro a h'
        obtain rfl := Option.some.inj h'
        exact hb.cancel _
      · exact (Timers.pick_cancel hprev rfl).trans hp
      · intro a h'
        rcases ht a h' with hn | ⟨ha', hn⟩
        · exact .inl (Timers.Holds.cancel hn hprev (by simp))
        · exact .inr ⟨ha', fun h => Timers.Holds.cancel (hn h) hprev (by simp)⟩

theorem kept_endRun (s : Schedule) (d : Debounce) (t : Timers (Task α)) :
    Kept ⟨s, d, t⟩ ⟨s, (d.endRun t .cooldownOver).2.1, (d.endRun t .cooldownOver).2.2⟩ :=
  (kept_startCooldown s d t).trans (kept_of_armed (.inr rfl) (.inr rfl))

theorem armed_tryRun (d : Debounce) : d.tryRun.2.armed = d.armed := by
  unfold Debounce.tryRun
  split
  · rfl
  split <;> rfl

theorem kept_request (s : Schedule) (d : Debounce) (t : Timers (Task α)) :
    Kept ⟨s, d, t⟩ ⟨s, (d.request t .cooldownOver).2.1, (d.request t .cooldownOver).2.2⟩ := by
  unfold Debounce.request
  split
  · exact .refl _
  split
  · exact kept_of_armed (.inr rfl) (.inr rfl)
  split
  · exact .refl _
  split
  · have h : Kept ⟨s, d, t⟩ ⟨s, { d with pending := true }, t⟩ :=
      kept_of_armed (.inr rfl) (.inr rfl)
    exact h.trans (kept_startCooldown s _ t)
  · exact kept_of_armed (.inr rfl) (.inr (armed_tryRun d))

theorem armed_cooldownOver (d : Debounce) (generation : Nat) :
    (d.cooldownOver generation).2.armed = none ∨
      (d.cooldownOver generation).2.armed = d.armed := by
  unfold Debounce.cooldownOver Debounce.detach
  dsimp only
  split
  · refine .inl ?_
    dsimp only
    split
    · exact armed_tryRun _
    · rfl
  · exact .inr rfl

theorem kept_cooldownOver (s : Schedule) (d : Debounce) (t : Timers (Task α)) (generation : Nat) :
    Kept ⟨s, d, t⟩ ⟨s, (d.cooldownOver generation).2, t⟩ :=
  kept_of_armed (.inr rfl) (armed_cooldownOver d generation)

end Clocks

end Freshness
