import Freshness.Proofs.Coordinator.Life

/-!
# Shutting down is final

The coordinator and its debouncer each have a flag of their own, and every path that arms a timer or
begins a fetch looks at one of them.

* `System.Inert` : both flags are up, and nothing is armed or pending;
* `System.Still` : what an operation may do to the flags and the timers: an inert coordinator stays
  as it is, and the flag comes up in no other way;
* `Reachable.inert` : a coordinator that is shut down is inert;
* `System.Terminal` : what may be said of any run of such a coordinator;
* `Reachable.shutdown_terminal` : **every run after a shutdown is like that**.
-/

namespace Freshness.System

variable {α : Type}

/-- Shut down, with nothing armed and nothing pending. -/
structure Inert (w : System α) : Prop where
  shutDown : w.shutDown = true
  schedule : w.schedule.armed = none
  debounce : w.debounce.armed = none
  pending : w.debounce.pending = false
  closed : w.debounce.shutDown = true

/-- From `w` to `v` the coordinator stays inert, without arming anything for a moment, and the flag
is not raised without the rest. -/
structure Still (w v : System α) : Prop where
  raised : v.shutDown = true → w.shutDown = true ∨ v.Inert
  inert : w.Inert → v.Inert ∧ v.schedule.generation = w.schedule.generation ∧
    v.debounce.generation = w.debounce.generation

theorem Still.trans {u v w : System α} (h₁ : Still u v) (h₂ : Still v w) : Still u w := by
  refine ⟨fun h => ?_, fun h => ?_⟩
  · rcases h₂.raised h with hv | hw
    · rcases h₁.raised hv with hu | hi
      · exact .inl hu
      · exact .inr (h₂.inert hi).1
    · exact .inr hw
  · obtain ⟨hv, hs, hd⟩ := h₁.inert h
    obtain ⟨hw, hs', hd'⟩ := h₂.inert hv
    exact ⟨hw, hs'.trans hs, hd'.trans hd⟩

theorem still_of_eq {w v : System α}
    (h : (v.shutDown, v.schedule, v.debounce) = (w.shutDown, w.schedule, w.debounce)) :
    Still w v := by
  simp only [Prod.mk.injEq] at h
  obtain ⟨hf, hs, hd⟩ := h
  refine ⟨fun h => .inl (hf ▸ h), fun h => ⟨⟨?_, ?_, ?_, ?_, ?_⟩, ?_, ?_⟩⟩
  · exact hf.trans h.shutDown
  · rw [hs, h.schedule]
  · rw [hd, h.debounce]
  · rw [hd, h.pending]
  · rw [hd, h.closed]
  · rw [hs]
  · rw [hd]

theorem Still.refl (w : System α) : Still w w := still_of_eq rfl

theorem Told.still {w v : System α} (h : Told w v) : Still w v := by
  rw [h.2]
  exact still_of_eq rfl

/-! ## The timers -/

theorem still_standDown (w : System α) : Still w w.standDown := by
  have hs : w.standDown.schedule = { w.schedule with armed := none } := Schedule.disarm_fst _ _
  have hd : w.standDown.debounce = { w.debounce with pending := false, armed := none } :=
    Debounce.cancel_fst _ _
  refine ⟨.inl, fun h => ⟨⟨h.shutDown, ?_, ?_, ?_, ?_⟩, ?_, ?_⟩⟩
  · rw [hs]
  · rw [hd]
  · rw [hd]
  · rw [hd]
    exact h.closed
  · rw [hs]
  · rw [hd]

theorem still_scheduleRefresh (w : System α) : Still w w.scheduleRefresh := by
  refine .trans (v := { w with
    schedule := (w.schedule.arm w.timers w.shutDown w.pollingDisabled .refreshDue).2.1
    timers := (w.schedule.arm w.timers w.shutDown w.pollingDisabled .refreshDue).2.2 }) ?_
    (told_logAny _ _).still
  refine ⟨.inl, fun h => ?_⟩
  have ha : w.schedule.arm w.timers w.shutDown w.pollingDisabled .refreshDue =
      (.shutDown, w.schedule, w.timers) := by
    rw [h.shutDown]
    rfl
  rw [ha]
  exact ⟨h, rfl, rfl⟩

/-- The flag of the debouncer keeps a cooldown from being started. -/
theorem still_endRun (w : System α) : Still w w.endRun.2 := by
  refine ⟨.inl, fun h => ?_⟩
  have he : w.debounce.startCooldown w.timers .cooldownOver = (false, w.debounce, w.timers) :=
    Debounce.startCooldown_of_shutDown h.closed
  unfold endRun Debounce.endRun
  rw [he]
  exact ⟨⟨h.shutDown, h.schedule, h.debounce, h.pending, h.closed⟩, rfl, rfl⟩

theorem still_of_stir {w v : System α} (h : Stir w v) : Still w v := by
  cases h with
  | told h => exact h.still
  | standDown => exact still_standDown w
  | scheduleRefresh => exact still_scheduleRefresh w
  | endRun => exact still_endRun w
  | request =>
    refine ⟨.inl, fun h => ?_⟩
    have hr : w.debounce.request w.timers .cooldownOver = (.ignored, w.debounce, w.timers) := by
      unfold Debounce.request
      rw [h.closed]
      rfl
    rw [hr]
    exact ⟨h, rfl, rfl⟩
  | refreshDue generation =>
    refine ⟨.inl, fun h => ?_⟩
    have ht : w.schedule.takeFired generation = (false, w.schedule) := by
      simp [Schedule.takeFired, h.schedule]
    rw [ht]
    exact ⟨h, rfl, rfl⟩
  | cooldownOver generation =>
    refine ⟨.inl, fun h => ?_⟩
    have ht : w.debounce.cooldownOver generation = (false, w.debounce) := by
      simp [Debounce.cooldownOver, Debounce.detach, h.debounce]
    rw [ht]
    exact ⟨h, rfl, rfl⟩

theorem Stirs.still {w v : System α} (h : Stirs w v) : Still w v := by
  induction h with
  | refl => exact .refl w
  | tail _ hs ih => exact ih.trans (still_of_stir hs)

/-! ## Effects -/

theorem still_removeHook (w : System α) (hook : Option (HostName × HookId)) :
    Still w (w.removeHook hook) := by
  unfold removeHook
  split
  · exact .refl w
  · exact still_of_eq rfl

/-- A shutdown is the end of all timers; then the hook is removed and the end is logged. -/
theorem shutdown_cases (w : System α) :
    ∃ u : System α, u.Inert ∧ Still w u ∧ u.roster = w.roster ∧
      Told (u.removeHook w.stopHook) w.shutdown := by
  have hs : (w.schedule.disarm w.timers).1 = { w.schedule with armed := none } :=
    Schedule.disarm_fst _ _
  have hd : (w.debounce.shutdown (w.schedule.disarm w.timers).2).1 =
      { w.debounce with shutDown := true, pending := false, armed := none } :=
    Debounce.cancel_fst _ _
  have hi : Inert { w with
      schedule := (w.schedule.disarm w.timers).1
      debounce := (w.debounce.shutdown (w.schedule.disarm w.timers).2).1
      timers := (w.debounce.shutdown (w.schedule.disarm w.timers).2).2
      shutDown := true, stopHook := none } := by
    rw [hs, hd]
    exact ⟨rfl, rfl, rfl, rfl, rfl⟩
  refine ⟨_, hi, ⟨fun _ => .inr hi, fun _ => ⟨hi, ?_, ?_⟩⟩, rfl, ?_⟩
  · rw [hs]
  · rw [hd]
  · unfold shutdown
    dsimp only
    split
    · exact .refl _
    · exact told_log _ _

/-- Whatever was armed or pending, nothing is after a shutdown. -/
theorem shutdown_spec (w : System α) : w.shutdown.Inert ∧ Still w w.shutdown := by
  obtain ⟨u, hi, hs, -, ht⟩ := shutdown_cases w
  have hr := still_removeHook u w.stopHook
  exact ⟨(ht.still.inert (hr.inert hi).1).1, (hs.trans hr).trans ht.still⟩

theorem still_of_effect {w v : System α} (h : Effect w v) : Still w v := by
  cases h with
  | stir h => exact still_of_stir h
  | shutdown => exact (shutdown_spec w).2
  | interval interval =>
    exact ⟨.inl, fun h => ⟨⟨h.shutDown, h.schedule, h.debounce, h.pending, h.closed⟩, rfl, rfl⟩⟩
  | calls | spawn | standing | listeners | hosts | drop => exact still_of_eq rfl

theorem Effects.still {w v : System α} (h : Effects w v) : Still w v := by
  induction h with
  | refl => exact .refl w
  | tail _ he ih => exact ih.trans (still_of_effect he)

/-! ## Cycles -/

theorem still_ask (w : System α) (origin : Origin) : Still w (w.ask origin) := by
  rw [ask_frame]
  exact still_of_eq rfl

theorem still_beginFetch (w : System α) (cycle : Cycle) : Still w (w.beginFetch cycle) := by
  rw [beginFetch_frame]
  exact still_of_eq rfl

theorem still_release (w : System α) (releaser : Origin) : Still w (w.release releaser) := by
  rw [release_frame]
  exact still_of_eq rfl

theorem still_prompt {w v : System α} (h : Prompt w v) : Still w v := by
  cases h <;> exact still_of_eq rfl

/-! ## No fetch begins -/

/-- From `w` to `v` no fetch has begun. -/
structure Grounded (w v : System α) : Prop where
  journal : ∃ news : List (Event α), (∀ serial, Event.fetchStarted serial ∉ news) ∧
    v.journal = news ++ w.journal
  flights : ∀ {cycle : Cycle} {begun : Nat} {result : Except Fault α},
    .fetched cycle begun result ∈ v.stages → .fetched cycle begun result ∈ w.stages

theorem Grounded.refl (w : System α) : Grounded w w := ⟨⟨[], by simp, rfl⟩, id⟩

theorem Grounded.trans {u v w : System α} (h₁ : Grounded u v) (h₂ : Grounded v w) :
    Grounded u w := by
  obtain ⟨news₁, hn₁, hj₁⟩ := h₁.journal
  obtain ⟨news₂, hn₂, hj₂⟩ := h₂.journal
  refine ⟨⟨news₂ ++ news₁, ?_, ?_⟩, fun h => h₁.flights (h₂.flights h)⟩
  · intro serial hm
    rcases List.mem_append.1 hm with hm | hm
    · exact hn₂ serial hm
    · exact hn₁ serial hm
  · rw [hj₂, hj₁, List.append_assoc]

theorem grounded_of_adds {w v : System α} {journal : List (Event α)}
    (hj : Event.Adds journal v.journal)
    (hn : ∃ news : List (Event α), (∀ serial, Event.fetchStarted serial ∉ news) ∧
      journal = news ++ w.journal)
    (hf : ∀ {cycle : Cycle} {begun : Nat} {result : Except Fault α},
      .fetched cycle begun result ∈ v.stages → .fetched cycle begun result ∈ w.stages) :
    Grounded w v := by
  obtain ⟨news, hnews, hv⟩ := hj
  obtain ⟨old, hold, rfl⟩ := hn
  refine ⟨⟨news ++ old, ?_, hv.trans (List.append_assoc ..).symm⟩, hf⟩
  intro serial hm
  rcases List.mem_append.1 hm with hm | hm
  · cases hnews _ hm
  · exact hold serial hm

variable [BEq α]

/-! ## Tasks -/

theorem still_applyResult (w : System α) (cycle : Cycle) (result : Except Fault α) :
    Still w (w.applyResult cycle result).1 := by
  rw [applyResult_frame]
  exact still_of_eq rfl

theorem still_perform (w : System α) (task : Task α) : Still w (w.perform task) := by
  have hc := course_perform w task
  generalize w.perform task = v at hc
  cases hc with
  | quiet _ he => exact he.still
  | asked origin _ hs => exact hs.still.trans (still_ask _ origin)
  | skipped _ hs =>
    refine hs.still.trans ?_
    exact still_of_eq rfl
  | began _ hs => exact hs.still.trans (still_beginFetch _ _)
  | landed calls outcome hs _ =>
    refine ((still_applyResult w _ _).trans hs.still).trans ?_
    exact still_of_eq rfl
  | ended hs => exact (still_release w _).trans hs.still

/-! ## Every state of a run -/

theorem still_moves {w v : System α} (h : Moves w v) : Still w v := by
  induction h with
  | refl => exact .refl w
  | tail _ hm ih =>
    cases hm with
    | prompt hp => exact ih.trans (still_prompt hp)
    | work task rest _ =>
      refine ih.trans (.trans ?_ (still_perform _ task))
      exact still_of_eq rfl

/-- A coordinator that is shut down is inert. -/
theorem Reachable.inert {w : System α} (h : Reachable w) (hs : w.shutDown = true) : w.Inert := by
  obtain ⟨p, jitter, now, hm⟩ := h
  rcases (still_moves hm).raised hs with h₀ | hi
  · cases h₀
  · exact hi

/-! ## No task begins a fetch -/

/-- A task of a coordinator that is shut down begins no fetch: the cycle that enters is skipped. -/
theorem grounded_perform {w : System α} {task : Task α} {rest : List (Task α)} (h : Orderly w)
    (hs : w.shutDown = true) (ha : w.agenda = task :: rest) :
    Grounded w ({ w with agenda := rest }.perform task) := by
  have hl := life_perform h ha
  generalize ({ w with agenda := rest } : System α).perform task = v at hl
  have hn : ∃ news : List (Event α), (∀ serial, Event.fetchStarted serial ∉ news) ∧
      w.journal = news ++ w.journal := ⟨[], by simp, rfl⟩
  cases hl with
  | quiet _ hv _ _ hj => exact grounded_of_adds hj hn (hv ▸ id)
  | admitted _ _ _ _ hv _ _ hj => exact grounded_of_adds hj hn (by simp [hv])
  | queued _ _ _ hv _ _ _ hj => exact grounded_of_adds hj hn (hv ▸ id)
  | skipped _ _ _ _ hv _ _ hj => exact grounded_of_adds hj hn (by simp [hv])
  | began _ _ _ hk => simp [skips, hs] at hk
  | @landed cycle _ _ _ _ _ _ hv _ _ hj =>
    refine grounded_of_adds hj ⟨w.noted (.fetchEnded cycle.serial), ?_, rfl⟩ (by simp [hv])
    intro serial hm
    unfold noted at hm
    split at hm
    · simp at hm
    · cases hm
  | ended _ _ hv _ _ hj => exact grounded_of_adds hj hn (by simp [hv])

theorem grounded_run {w v : System α} {turns : List (Turn α)} (h : Run w turns v) (hw : Orderly w)
    (hi : w.Inert) : Orderly v ∧ Grounded w v := by
  induction h with
  | rest => exact ⟨hw, .refl w⟩
  | prompt _ hp ih =>
    obtain ⟨ho, hg⟩ := ih
    refine ⟨orderly_prompt ho hp, hg.trans ⟨⟨[], by simp, ?_⟩, ?_⟩⟩
    · cases hp <;> rfl
    · exact prompt_stages ho hp ▸ id
  | work task rest hr ha ih =>
    obtain ⟨ho, hg⟩ := ih
    have hs := ((still_moves hr.moves).inert hi).1.shutDown
    exact ⟨orderly_perform ho ha, hg.trans (grounded_perform ho hs ha)⟩

/-! ## The whole -/

/-- What is true of every run from a shutdown on. -/
structure Terminal (w : System α) (turns : List (Turn α)) (v : System α) : Prop where
  inert : v.Inert
  /-- Every arming takes a new generation, so none has been, not even for a moment. -/
  generations : v.schedule.generation = w.schedule.generation ∧
    v.debounce.generation = w.debounce.generation
  grounded : Grounded w v
  /-- A fetch that was in flight goes on until it ends. -/
  flights : ∀ {cycle : Cycle} {begun : Nat} {result : Except Fault α},
    .fetched cycle begun result ∈ w.stages →
    .fetched cycle begun result ∈ v.stages ∨ ∃ t ∈ turns, t.task = .fetched cycle begun result
  /-- Its result is applied as ever. -/
  landings : ∀ {t : Turn α} {cycle : Cycle} {begun : Nat} {result : Except Fault α},
    t ∈ turns → t.task = .fetched cycle begun result →
    t.after.standing = (t.before.standing.apply result (t.before.now / 1000 : Nat)).1

theorem terminal_of_inert {w v : System α} {turns : List (Turn α)} (hw : Orderly w) (hi : w.Inert)
    (h : Run w turns v) : Terminal w turns v := by
  obtain ⟨hv, hs, hd⟩ := (still_moves h.moves).inert hi
  refine ⟨hv, ⟨hs, hd⟩, (grounded_run h hw hi).2, fun hf => (h.stage_waits hw hf).2, ?_⟩
  intro t cycle begun result _ ht
  have hp : t.after = t.before.fetched cycle begun result := Turn.after_eq ht
  rw [hp, standing_fetched]

/-- **Shutting down is final.** Whenever it happens, and in whatever order anything else follows, no
fetch begins, nothing is armed or pending any more, and a fetch that was in flight still ends and is
applied. -/
theorem Reachable.shutdown_terminal {w : System α} (hw : Reachable w) :
    w.shutdown.Inert ∧ w.shutdown.stages = w.stages ∧
      (∀ {turns : List (Turn α)} {v : System α}, Run w.shutdown turns v →
        Terminal w.shutdown turns v) ∧
      (w.shutDown = true → ∀ {turns : List (Turn α)} {v : System α}, Run w turns v →
        Terminal w turns v) := by
  have hs := quiet_shutdown w
  have hi := (shutdown_spec w).1
  refine ⟨hi, hs.stages hw.orderly.linked, ?_, ?_⟩
  · intro turns v h
    exact terminal_of_inert (hs.orderly hw.orderly) hi h
  · intro hd turns v h
    exact terminal_of_inert hw.orderly (hw.inert hd) h

/-- A call on a source that takes five milliseconds. -/
def slowCall : System Nat :=
  { Plan.system { name := "clock", interval := some (.ofSeconds 60)
                  source := some [{ result := .ok 7, delay := .ofMillis 5 }] } .zero 0 with
    agenda := [.start (.main 0) .refresh] }

/-- The fetch for that call is in flight. -/
def slowFlight : System Nat := (slowCall.run? (fun _ => false) (some 0)).get (by decide +kernel)

def slowLanding : System Nat :=
  (slowFlight.shutdown.run? (fun _ => false) (some 5000)).get (by decide +kernel)

theorem flight_outlives_shutdown :
    Reachable slowFlight ∧
      slowFlight.stages.filterMap Task.lands? = [⟨0, .call (.main 0) .refresh⟩] ∧
      slowLanding.standing.data = some 7 ∧
      ∃ turns, Run slowFlight.shutdown turns slowLanding ∧
        Terminal slowFlight.shutdown turns slowLanding := by
  have hm : Moves (Plan.system _ .zero 0) slowCall :=
    .single (.prompt (.calls [(.main 0, .refresh)] rfl rfl))
  have hw : Reachable slowFlight := ⟨_, .zero, 0, hm.trans (moves_of_run? (Option.some_get _).symm)⟩
  obtain ⟨turns, hr⟩ : ∃ turns, Run slowFlight.shutdown turns slowLanding :=
    Moves.run (moves_of_run? (Option.some_get _).symm)
  exact ⟨hw, by decide +kernel, by decide +kernel, turns, hr, hw.shutdown_terminal.2.2.1 hr⟩

end Freshness.System
