import Freshness.Proofs.Coordinator.Attribution
import Freshness.Proofs.Coordinator.Manning
import Freshness.Proofs.Schedule

/-!
# How the refresh timer is set

* `Clocks.Sets` : from one point to a later one at the same time, the refresh timer has been left
  alone, disarmed, or set by the rule, and nothing has come to the table that was due before;
* `System.Tempo` : besides, the interval is the same. All that tasks are made of does this;
* `System.sets_perform` : every task sets the timer by the rule, with the interval in force before.
-/

namespace Freshness

variable {α : Type}

/-! ## Tables -/

namespace Timers

variable {ω : Type} {p : ω → Prop} {t t' t'' : Timers ω}

/-- No time has passed, and what has come to the table is of one kind and was not due before. -/
structure Gains (p : ω → Prop) (t t' : Timers ω) : Prop where
  now : t'.now = t.now
  waiting : ∀ u ∈ t'.waiting, u ∈ t.waiting ∨ (t.now ≤ u.deadline ∧ p u.job)

theorem Gains.refl (p : ω → Prop) (t : Timers ω) : t.Gains p t := ⟨rfl, fun _ => .inl⟩

theorem Gains.trans (h₁ : t.Gains p t') (h₂ : t'.Gains p t'') : t.Gains p t'' := by
  refine ⟨h₂.now.trans h₁.now, fun u hu => ?_⟩
  rcases h₂.waiting u hu with hu | hu
  · exact h₁.waiting u hu
  · exact .inr (h₁.now ▸ hu)

theorem gains_cancel (p : ω → Prop) (t : Timers ω) (h : TimerHandle) : t.Gains p (t.cancel h) :=
  ⟨now_cancel t h, fun _ hu => .inl (mem_cancel.1 hu).1⟩

theorem of_mem_schedule {deadline : Nat} {job : ω} {u : Timer ω}
    (h : u ∈ (t.schedule deadline job).2.waiting) :
    u ∈ t.waiting ∨ (u.deadline = max t.now deadline ∧ u.job = job) := by
  unfold schedule at h
  split at h
  · refine (List.mem_append.1 h).imp_right fun h => ?_
    obtain rfl := List.mem_singleton.1 h
    exact ⟨rfl, rfl⟩
  · exact .inl h

theorem gains_schedule (t : Timers ω) (deadline : Nat) {job : ω} (hj : p job) :
    t.Gains p (t.schedule deadline job).2 := by
  refine ⟨now_schedule t deadline job, fun u hu => ?_⟩
  refine (of_mem_schedule hu).imp_right fun ⟨hd, h⟩ => ⟨?_, h ▸ hj⟩
  rw [hd]
  exact Nat.le_max_left ..

theorem gains_disarm (p : ω → Prop) (s : Schedule) (t : Timers ω) :
    t.Gains p (s.disarm t).2 := by
  unfold Schedule.disarm
  split
  · exact .refl p t
  · exact gains_cancel p t _

theorem gains_cancelRun (p : ω → Prop) (d : Debounce) (t : Timers ω) :
    t.Gains p (d.cancel t).2 := by
  unfold Debounce.cancel
  split
  · exact .refl p t
  · exact gains_cancel p t _

theorem gains_startCooldown (d : Debounce) (t : Timers ω) {job : Nat → ω} (hj : ∀ g, p (job g)) :
    t.Gains p (d.startCooldown t job).2.2 := by
  unfold Debounce.startCooldown
  split
  · exact .refl p t
  dsimp only
  split
  · exact .refl p t
  · split
    · exact gains_schedule t _ (hj _)
    · exact (gains_schedule t _ (hj _)).trans (gains_cancel p _ _)

theorem gains_request (d : Debounce) (t : Timers ω) {job : Nat → ω} (hj : ∀ g, p (job g)) :
    t.Gains p (d.request t job).2.2 := by
  unfold Debounce.request
  split
  · exact .refl p t
  split
  · exact .refl p t
  split
  · exact .refl p t
  split
  · exact gains_startCooldown _ t hj
  · exact .refl p t

end Timers

/-! ## Clocks -/

namespace Clocks

/-- The refresh timer has been left alone, disarmed, or set by the rule; no time has passed, and
nothing has come to the table that was due before. -/
structure Sets (c c' : Clocks α) : Prop where
  now : c'.timers.now = c.timers.now
  origin : c'.schedule.origin = c.schedule.origin
  jitter : c'.schedule.jitter = c.schedule.jitter
  generation : c.schedule.generation ≤ c'.schedule.generation
  armed : ∀ a, c'.schedule.armed = some a →
    (c.schedule.armed = some a ∧ c'.schedule.generation = c.schedule.generation) ∨
      (c.schedule.generation < a.generation ∧ a.generation = c'.schedule.generation ∧
        ∃ interval, c.schedule.interval = some interval ∧
          a.deadline = c.schedule.deadlineAt c.timers.now interval)
  jobs : ∀ u ∈ c'.timers.waiting, u ∈ c.timers.waiting ∨ (c.timers.now ≤ u.deadline ∧
    ∀ g, u.job = .refreshDue g → c.schedule.generation < g ∧ g ≤ c'.schedule.generation ∧
      ∀ a, c'.schedule.armed = some a → a.generation = g →
        u.deadline = max c.timers.now a.deadline)

theorem Sets.refl (c : Clocks α) : Sets c c :=
  ⟨rfl, rfl, rfl, Nat.le_refl _, fun _ ha => .inl ⟨ha, rfl⟩, fun _ hu => .inl hu⟩

theorem Sets.deadlineAt {c c' : Clocks α} (h : Sets c c') (now : Nat) (interval : Duration) :
    c'.schedule.deadlineAt now interval = c.schedule.deadlineAt now interval := by
  simp only [Schedule.deadlineAt, Schedule.gridPoint, h.origin, h.jitter]

theorem Sets.trans {c₁ c₂ c₃ : Clocks α} (h₁ : Sets c₁ c₂)
    (hi : c₂.schedule.interval = c₁.schedule.interval) (h₂ : Sets c₂ c₃) : Sets c₁ c₃ := by
  have hd : ∀ interval, c₂.schedule.deadlineAt c₂.timers.now interval =
      c₁.schedule.deadlineAt c₁.timers.now interval := by
    intro interval
    rw [h₁.deadlineAt, h₁.now]
  refine ⟨h₂.now.trans h₁.now, h₂.origin.trans h₁.origin, h₂.jitter.trans h₁.jitter,
    Nat.le_trans h₁.generation h₂.generation, ?_, ?_⟩
  · intro a ha
    rcases h₂.armed a ha with ⟨ha₂, hg⟩ | ⟨hlt, hg, interval, hint, hdl⟩
    · rcases h₁.armed a ha₂ with ⟨ha₁, hg'⟩ | ⟨hlt, hg', hr⟩
      · exact .inl ⟨ha₁, hg.trans hg'⟩
      · exact .inr ⟨hlt, hg'.trans hg.symm, hr⟩
    · exact .inr ⟨Nat.lt_of_le_of_lt h₁.generation hlt, hg, interval, hi ▸ hint,
        hdl.trans (hd interval)⟩
  · intro u hu
    rcases h₂.jobs u hu with hu | ⟨hn, hj⟩
    · refine (h₁.jobs u hu).imp_right fun ⟨hn, hj⟩ => ⟨hn, fun g hg => ?_⟩
      obtain ⟨hlt, hle, hdl⟩ := hj g hg
      refine ⟨hlt, Nat.le_trans hle h₂.generation, fun a ha hag => ?_⟩
      rcases h₂.armed a ha with ⟨ha₂, -⟩ | ⟨hlt', -⟩
      · exact hdl a ha₂ hag
      · omega
    · rw [h₁.now] at hn hj
      refine .inr ⟨hn, fun g hg => ?_⟩
      obtain ⟨hlt, hle, hdl⟩ := hj g hg
      exact ⟨Nat.lt_of_le_of_lt h₁.generation hlt, hle, hdl⟩

variable {s : Schedule} {d : Debounce} {t : Timers (Task α)}

/-- The refresh timer is as before, or armed no longer, and what has come to the table is none of its
jobs. -/
theorem sets_of_gains {s' : Schedule} {d' : Debounce} {t' : Timers (Task α)}
    (hs : s' = s ∨ s' = { s with armed := none })
    (ht : t.Gains (fun job => ∀ g, job ≠ .refreshDue g) t') : Sets ⟨s, d, t⟩ ⟨s', d', t'⟩ := by
  have hj : ∀ u ∈ t'.waiting, u ∈ t.waiting ∨ (t.now ≤ u.deadline ∧
      ∀ g, u.job = .refreshDue g → s.generation < g ∧ g ≤ s'.generation ∧
        ∀ a, s'.armed = some a → a.generation = g → u.deadline = max t.now a.deadline) :=
    fun u hu => (ht.waiting u hu).imp_right fun ⟨hle, hne⟩ => ⟨hle, fun g hg => absurd hg (hne g)⟩
  obtain rfl | rfl := hs
  · exact ⟨ht.now, rfl, rfl, Nat.le_refl _, fun _ ha => .inl ⟨ha, rfl⟩, hj⟩
  · exact ⟨ht.now, rfl, rfl, Nat.le_refl _, fun _ ha => (nomatch ha), hj⟩

theorem sets_arm (s : Schedule) (d : Debounce) (t : Timers (Task α)) (shutDown disabled : Bool) :
    Sets ⟨s, d, t⟩ ⟨(s.arm t shutDown disabled .refreshDue).2.1, d,
      (s.arm t shutDown disabled .refreshDue).2.2⟩ ∧
      (s.arm t shutDown disabled .refreshDue).2.1.interval = s.interval := by
  rcases s.arm_cases t shutDown disabled .refreshDue with h | ⟨interval, hi, h⟩
  · rw [h]
    exact ⟨.refl _, rfl⟩
  have hd : t.Gains (fun job => ∀ g, job ≠ .refreshDue g) (s.disarm t).2 :=
    Timers.gains_disarm _ s t
  rw [h, Schedule.arm_of_interval hi]
  split
  · refine ⟨⟨hd.now, rfl, rfl, Nat.le_succ _, fun _ ha => (nomatch ha), fun u hu => ?_⟩, rfl⟩
    refine (hd.waiting u hu).imp_right fun ⟨hle, hne⟩ => ⟨hle, fun g hg => absurd hg (hne g)⟩
  · refine ⟨⟨(Timers.now_schedule ..).trans hd.now, rfl, rfl, Nat.le_succ _, fun a ha => ?_,
      fun u hu => ?_⟩, rfl⟩
    · obtain rfl := Option.some.inj ha
      exact .inr ⟨Nat.lt_succ_self _, rfl, interval, hi, rfl⟩
    · rcases Timers.of_mem_schedule hu with hu | ⟨hdl, hj⟩
      · exact (hd.waiting u hu).imp_right fun ⟨hle, hne⟩ =>
          ⟨hle, fun g hg => absurd hg (hne g)⟩
      · rw [hd.now] at hdl
        refine .inr ⟨hdl ▸ Nat.le_max_left .., fun g hg => ?_⟩
        obtain rfl := Task.refreshDue.inj (hj.symm.trans hg)
        refine ⟨Nat.lt_succ_self _, Nat.le_refl _, fun a ha _ => ?_⟩
        obtain rfl := Option.some.inj ha
        exact hdl

end Clocks

namespace System

/-! ## What tasks are made of -/

structure Tempo (w v : System α) : Prop where
  sets : w.clocks.Sets v.clocks
  interval : v.schedule.interval = w.schedule.interval

theorem tempo_of_clocks {w v : System α} (h : v.clocks = w.clocks) : Tempo w v := by
  have hs : v.schedule = w.schedule := congrArg Clocks.schedule h
  exact ⟨h ▸ .refl _, by rw [hs]⟩

theorem Tempo.refl (w : System α) : Tempo w w := tempo_of_clocks rfl

theorem Tempo.trans {u v w : System α} (h₁ : Tempo u v) (h₂ : Tempo v w) : Tempo u w :=
  ⟨h₁.sets.trans h₁.interval h₂.sets, h₂.interval.trans h₁.interval⟩

theorem Told.tempo {w v : System α} (h : Told w v) : Tempo w v := by
  rw [h.2]
  exact tempo_of_clocks rfl

theorem tempo_of_gains {w v : System α} (hs : v.schedule = w.schedule)
    (ht : w.timers.Gains (fun job => ∀ g, job ≠ .refreshDue g) v.timers) : Tempo w v :=
  ⟨Clocks.sets_of_gains (.inl hs) ht, by rw [hs]⟩

theorem tempo_standDown (w : System α) : Tempo w w.standDown := by
  have hs : w.standDown.schedule = { w.schedule with armed := none } := Schedule.disarm_fst _ _
  refine ⟨Clocks.sets_of_gains (.inr hs) ?_, by rw [hs]⟩
  exact (Timers.gains_disarm _ w.schedule w.timers).trans (Timers.gains_cancelRun _ w.debounce _)

theorem tempo_scheduleRefresh (w : System α) : Tempo w w.scheduleRefresh := by
  obtain ⟨hs, hi⟩ :=
    Clocks.sets_arm w.schedule w.debounce w.timers w.shutDown w.pollingDisabled
  refine .trans ?_ (told_logAny _ _).tempo
  exact ⟨hs, hi⟩

theorem tempo_of_stir {w v : System α} (h : Stir w v) : Tempo w v := by
  cases h with
  | told h => exact h.tempo
  | standDown => exact tempo_standDown w
  | scheduleRefresh => exact tempo_scheduleRefresh w
  | endRun => exact tempo_of_gains rfl (Timers.gains_startCooldown w.debounce w.timers (by simp))
  | request => exact tempo_of_gains rfl (Timers.gains_request w.debounce w.timers (by simp))
  | refreshDue generation =>
    rcases takeFired_cases w.schedule generation with h | h
    · rw [h]
      exact ⟨Clocks.sets_of_gains (.inr rfl) (.refl _ _), rfl⟩
    · rw [h]
      exact .refl w
  | cooldownOver generation => exact tempo_of_gains rfl (.refl _ _)

theorem Stirs.tempo {w v : System α} (h : Stirs w v) : Tempo w v := by
  induction h with
  | refl => exact .refl w
  | tail _ hs ih => exact ih.trans (tempo_of_stir hs)

theorem tempo_later (w : System α) {task : Task α} (h : ∀ g, task ≠ .refreshDue g) :
    Tempo w (w.later task) :=
  tempo_of_gains rfl (Timers.gains_schedule w.timers _ h)

theorem tempo_ask (w : System α) (origin : Origin) : Tempo w (w.ask origin) := by
  rw [ask_frame]
  exact tempo_of_clocks rfl

theorem tempo_beginFetch (w : System α) (cycle : Cycle) : Tempo w (w.beginFetch cycle) := by
  unfold beginFetch
  split
  · exact tempo_of_clocks rfl
  · dsimp only
    split
    · exact tempo_of_clocks rfl
    · exact tempo_of_gains rfl (Timers.gains_schedule w.timers _ (by simp))

theorem tempo_release (w : System α) (releaser : Origin) : Tempo w (w.release releaser) := by
  unfold release resume
  split
  · exact tempo_of_clocks rfl
  split
  · exact tempo_of_gains rfl (Timers.gains_schedule w.timers _ (by simp))
  split
  · exact tempo_of_clocks rfl
  · exact tempo_of_clocks rfl

/-! ## Deeds -/

theorem tempo_notify (w : System α) : Tempo w w.notify := tempo_of_clocks rfl

theorem tempo_removeHook (w : System α) (hook : Option (HostName × HookId)) :
    Tempo w (w.removeHook hook) := by
  cases hook <;> exact tempo_of_clocks rfl

theorem tempo_shutdown (w : System α) : Tempo w w.shutdown := by
  have hs : (w.schedule.disarm w.timers).1 = { w.schedule with armed := none } :=
    Schedule.disarm_fst _ _
  have hw : Tempo w { w with
      schedule := (w.schedule.disarm w.timers).1
      debounce := (w.debounce.shutdown (w.schedule.disarm w.timers).2).1
      timers := (w.debounce.shutdown (w.schedule.disarm w.timers).2).2
      shutDown := true, stopHook := none } := by
    refine ⟨Clocks.sets_of_gains (.inr hs) ?_, by rw [hs]⟩
    exact (Timers.gains_disarm _ w.schedule w.timers).trans
      (Timers.gains_cancelRun _ { w.debounce with shutDown := true } _)
  have hr := hw.trans (tempo_removeHook _ w.stopHook)
  unfold shutdown
  dsimp only
  split
  · exact hr
  · exact hr.trans (told_log _ _).tempo

theorem tempo_shutdownIfAlive (w : System α) : Tempo w w.shutdownIfAlive := by
  unfold shutdownIfAlive
  split
  · exact tempo_shutdown w
  · exact .refl w

theorem tempo_addListener (w : System α) (label : String) (context : Option String)
    (conduct : List (List (Deed α))) : Tempo w (w.addListener label context conduct) := by
  unfold addListener
  dsimp only
  split
  · refine .trans ?_ (tempo_scheduleRefresh _)
    exact tempo_of_clocks rfl
  · exact tempo_of_clocks rfl

theorem tempo_unsubscribe (w : System α) (label : String) : Tempo w (w.unsubscribe label) := by
  unfold unsubscribe
  split
  · exact .refl w
  split
  · dsimp only
    split
    · refine .trans ?_ (tempo_standDown _)
      exact tempo_of_clocks rfl
    · exact tempo_of_clocks rfl
  · exact .refl w

theorem tempo_setData (w : System α) (a : α) : Tempo w (w.setData a) := by
  unfold setData
  dsimp only
  split
  · refine .trans (.trans (tempo_standDown w) ?_) (tempo_notify _)
    exact tempo_of_clocks rfl
  · refine .trans (.trans (.trans (tempo_standDown w) ?_) (tempo_scheduleRefresh _))
      (tempo_notify _)
    exact tempo_of_clocks rfl

theorem tempo_setFault (w : System α) (f : Fault) : Tempo w (w.setFault f) := by
  unfold setFault
  dsimp only
  split <;> exact tempo_of_clocks rfl

theorem tempo_registerShutdown (w : System α) (name : HostName) :
    Tempo w (w.registerShutdown name) := by
  unfold registerShutdown
  dsimp only
  refine .trans ?_ (tempo_removeHook _ _)
  split
  · have hd := tempo_shutdown (w.setHost name ((w.host name).register ()).2)
    exact ⟨hd.sets, hd.interval⟩
  · exact tempo_of_clocks rfl

theorem tempo_stopHost (w : System α) (name : HostName) : Tempo w (w.stopHost name) := by
  have hf : ∀ (hooks : List Unit) (w : System α),
      Tempo w (hooks.foldl (fun w _ => w.shutdownIfAlive) w) := by
    intro hooks
    induction hooks with
    | nil => exact fun w => .refl w
    | cons _ hooks ih => exact fun w => (tempo_shutdownIfAlive w).trans (ih _)
  unfold stopHost
  split
  · exact (told_log w _).tempo
  · refine .trans ?_ (hf _ _)
    exact tempo_of_clocks rfl

theorem tempo_unload (w : System α) : Tempo w w.unload := by
  unfold unload
  split
  · split
    · refine .trans ?_ (tempo_shutdownIfAlive _)
      exact tempo_of_clocks rfl
    · exact .refl w
  · exact .refl w

/-- A deed sets the timer by the rule, and one that changes the interval leaves it alone. -/
theorem sets_carryOut (w : System α) (deed : Deed α) :
    w.clocks.Sets (w.carryOut deed).clocks := by
  unfold carryOut
  split
  · exact .refl _
  · cases deed with
    | addListener label context conduct => exact (tempo_addListener w label context conduct).sets
    | unsubscribe label => exact (tempo_unsubscribe w label).sets
    | setData a => exact (tempo_setData w a).sets
    | setFault f => exact (tempo_setFault w f).sets
    | setInterval interval =>
      exact ⟨rfl, rfl, rfl, Nat.le_refl _, fun _ ha => .inl ⟨ha, rfl⟩, fun _ hu => .inl hu⟩
    | shutdown => exact (tempo_shutdown w).sets
    | registerShutdown host => exact (tempo_registerShutdown w host).sets
    | stopHost host => exact (tempo_stopHost w host).sets
    | unload => exact (tempo_unload w).sets
    | setPolling disabled => exact .refl _
    | spawn label call => exact (tempo_later w (by simp)).sets
    | drop => exact .refl _

/-! ## Tasks -/

variable [BEq α]

theorem tempo_stage (w : System α) (task : Task α) (ht : task.isStage = true) :
    Tempo w (w.perform task) := by
  have hc := course_perform w task
  generalize w.perform task = v at hc
  cases hc with
  | quiet hq =>
    rw [hq] at ht
    cases ht
  | asked origin ho =>
    rw [Task.isStage_of_origin? ho] at ht
    cases ht
  | skipped _ hu => exact hu.tempo.trans (tempo_of_clocks rfl)
  | began _ hu => exact hu.tempo.trans (tempo_beginFetch _ _)
  | @landed cycle _ result _ _ _ hu =>
    have hw : Tempo w (w.applyResult cycle result).1 := by
      rw [applyResult_frame]
      exact tempo_of_clocks rfl
    exact (hw.trans hu.tempo).trans (tempo_of_clocks rfl)
  | ended hv => exact (tempo_release w _).trans hv.tempo

/-- Every task sets the timer by the rule, with the interval that was in force before. -/
theorem sets_perform (w : System α) (task : Task α) :
    w.clocks.Sets (w.perform task).clocks := by
  cases task with
  | deed deed => exact sets_carryOut w deed
  | hear callback => exact .refl _
  | start caller call =>
    rcases start_cases w caller call with ⟨u, hu, he, -⟩ | ⟨-, hv, -⟩
    · show w.clocks.Sets (w.start caller call).clocks
      rw [he]
      exact (hu.tempo.trans (tempo_ask u _)).sets
    · exact hv.tempo.sets
  | refreshDue generation =>
    have hs := (Stir.refreshDue (w := w) generation).stirs
    show w.clocks.Sets (w.refreshDue generation).clocks
    unfold refreshDue
    split
    · dsimp only
      split
      · exact (hs.tempo.trans (tempo_ask _ _)).sets
      · exact hs.tempo.sets
    · exact .refl _
  | cooldownOver generation =>
    have hd := (Stir.cooldownOver (w := w) generation).stirs
    show w.clocks.Sets (w.cooldownOver generation).clocks
    unfold cooldownOver
    split
    · dsimp only
      split
      · exact (hd.tempo.trans (tempo_ask _ _)).sets
      · exact hd.tempo.sets
    · exact .refl _
  | enter cycle | fetched cycle begun result | conclude cycle outcome =>
    exact (tempo_stage w _ rfl).sets

end System

end Freshness
