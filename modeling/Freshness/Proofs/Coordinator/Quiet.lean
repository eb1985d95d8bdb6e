import Freshness.Coordinator.Run
import Freshness.Proofs.Coordinator.Clocks

/-!
# What leaves the cycles alone

* `Task.isCallback`, `Event.isFlight` : the work of a listener's callback, the events of a fetch;
* `System.Told` : something has been written down, but no fetch begins or ends;
* `System.Calm` : besides, the timers may have been armed or disarmed;
* `System.Quiet` : besides, callbacks may have been put on the agenda, and anything may have changed
  but the lock with its line and the stages of cycles.
-/

namespace Freshness

variable {α : Type}

def Task.isCallback : Task α → Bool
  | .deed _ | .hear _ => true
  | .start _ _ | .enter _ | .fetched _ _ _ | .conclude _ _ => false
  | .refreshDue _ | .cooldownOver _ => false

def Event.isFlight : Event α → Bool
  | .fetchStarted _ | .fetchEnded _ => true
  | .notice _ | .heard _ _ | .answered _ _ | .brokeOff _ | .reauthStarted => false

/-- Events that are no part of a fetch have been added. -/
def Event.Adds (journal journal' : List (Event α)) : Prop :=
  ∃ news : List (Event α), (∀ e ∈ news, e.isFlight = false) ∧ journal' = news ++ journal

theorem Event.Adds.refl (journal : List (Event α)) : Event.Adds journal journal :=
  ⟨[], by simp, rfl⟩

theorem Event.Adds.trans {j₁ j₂ j₃ : List (Event α)} (h₁ : Event.Adds j₁ j₂)
    (h₂ : Event.Adds j₂ j₃) : Event.Adds j₁ j₃ := by
  obtain ⟨news₁, hn₁, rfl⟩ := h₁
  obtain ⟨news₂, hn₂, rfl⟩ := h₂
  refine ⟨news₂ ++ news₁, ?_, (List.append_assoc ..).symm⟩
  intro e he
  rcases List.mem_append.1 he with he | he
  · exact hn₂ e he
  · exact hn₁ e he

namespace System

/-! ## Told -/

/-- From `w` to `v` something has been written down, and that is all. -/
def Told (w v : System α) : Prop :=
  Event.Adds w.journal v.journal ∧ v = { w with journal := v.journal }

theorem Told.refl (w : System α) : Told w w := ⟨.refl _, rfl⟩

theorem Told.trans {u v w : System α} (h₁ : Told u v) (h₂ : Told v w) : Told u w := by
  refine ⟨h₁.1.trans h₂.1, h₂.2.trans ?_⟩
  rw [h₁.2]

theorem told_record (w : System α) {e : Event α} (he : e.isFlight = false) :
    Told w (w.record e) :=
  ⟨⟨[e], by simpa using he, rfl⟩, rfl⟩

theorem told_log (w : System α) (n : Notice) : Told w (w.log n) := told_record w rfl

theorem told_logAny (w : System α) (n : Option Notice) : Told w (w.logAny n) := by
  cases n with
  | none => exact .refl w
  | some n => exact told_log w n

theorem told_answer (w : System α) (caller : Caller) (refusal : Option Refusal) :
    Told w (w.answer caller refusal) := told_record w rfl

theorem told_breakOff (w : System α) (caller : Caller) : Told w (w.breakOff caller) :=
  told_record w rfl

theorem told_logReport (w : System α) (manner : Manner) (report : Report) (fault : Option Fault) :
    Told w (w.logReport manner report fault) := by
  have hr : ∀ {u : System α}, Told w u →
      Told w (if report.closes then u.log (.recovered u.name) else u) := by
    intro u hu
    split
    · exact hu.trans (told_log u _)
    · exact hu
  unfold logReport
  refine hr ?_
  cases fault with
  | none => exact .refl w
  | some f =>
    dsimp only
    split
    · exact told_log w _
    · exact .refl w

theorem told_askForCredentials (w : System α) : Told w w.askForCredentials := by
  unfold askForCredentials
  split
  · exact (told_log w _).trans (told_record _ rfl)
  · exact told_log w _

/-! ## Calm -/

/-- From `w` to `v` the timers may have been armed or disarmed and something may have been written
down, and that is all. -/
structure Calm (w v : System α) : Prop where
  frame : v = { w with schedule := v.schedule, debounce := v.debounce, timers := v.timers
                       journal := v.journal }
  clocks : w.clocks.Kept v.clocks
  journal : Event.Adds w.journal v.journal

theorem Told.calm {w v : System α} (h : Told w v) : Calm w v := by
  obtain ⟨hj, hv⟩ := h
  refine ⟨?_, ?_, hj⟩
  · rw [hv]
  · rw [hv]
    exact .refl _

theorem Calm.refl (w : System α) : Calm w w := (Told.refl w).calm

theorem Calm.trans {u v w : System α} (h₁ : Calm u v) (h₂ : Calm v w) : Calm u w := by
  refine ⟨h₂.frame.trans ?_, h₁.clocks.trans h₂.clocks, h₁.journal.trans h₂.journal⟩
  rw [h₁.frame]

theorem Calm.lock {w v : System α} (h : Calm w v) : v.lock = w.lock := by rw [h.frame]

theorem Calm.agenda {w v : System α} (h : Calm w v) : v.agenda = w.agenda := by rw [h.frame]

theorem Calm.standing {w v : System α} (h : Calm w v) : v.standing = w.standing := by rw [h.frame]

theorem Calm.roster {w v : System α} (h : Calm w v) : v.roster = w.roster := by rw [h.frame]

theorem calm_standDown (w : System α) : Calm w w.standDown :=
  ⟨rfl, (Clocks.kept_disarm w.schedule w.debounce w.timers).trans
    (Clocks.kept_cancel _ w.debounce _), .refl _⟩

theorem calm_scheduleRefresh (w : System α) : Calm w w.scheduleRefresh := by
  refine .trans ?_ (told_logAny _ _).calm
  exact ⟨rfl, Clocks.kept_arm w.schedule w.debounce w.timers w.shutDown w.pollingDisabled, .refl _⟩

/-! ## Quiet -/

/-- From `w` to `v` the cycles have been left alone. -/
structure Quiet (w v : System α) : Prop where
  lock : v.lock = w.lock
  serial : v.serial = w.serial
  resuming : v.resuming = w.resuming
  source : v.source = w.source
  held : v.held = true → w.held = true
  clocks : w.clocks.Kept v.clocks
  agenda : ∃ calls : List (Task α), (∀ x ∈ calls, x.isCallback = true) ∧
    v.agenda = calls ++ w.agenda
  journal : Event.Adds w.journal v.journal

theorem Quiet.trans {u v w : System α} (h₁ : Quiet u v) (h₂ : Quiet v w) : Quiet u w := by
  obtain ⟨calls₁, hc₁, ha₁⟩ := h₁.agenda
  obtain ⟨calls₂, hc₂, ha₂⟩ := h₂.agenda
  refine ⟨h₂.lock.trans h₁.lock, h₂.serial.trans h₁.serial, h₂.resuming.trans h₁.resuming,
    h₂.source.trans h₁.source, fun h => h₁.held (h₂.held h), h₁.clocks.trans h₂.clocks,
    ⟨calls₂ ++ calls₁, ?_, ?_⟩,
    h₁.journal.trans h₂.journal⟩
  · intro x hx
    rcases List.mem_append.1 hx with hx | hx
    · exact hc₂ x hx
    · exact hc₁ x hx
  · rw [ha₂, ha₁, List.append_assoc]

theorem Calm.quiet {w v : System α} (h : Calm w v) : Quiet w v := by
  refine ⟨h.lock, ?_, ?_, ?_, fun hv => ?_, h.clocks, ⟨[], by simp, h.agenda⟩, h.journal⟩
  · rw [h.frame]
  · rw [h.frame]
  · rw [h.frame]
  · rw [h.frame] at hv
    exact hv

theorem Told.quiet {w v : System α} (h : Told w v) : Quiet w v := h.calm.quiet

theorem Quiet.refl (w : System α) : Quiet w w := (Told.refl w).quiet

theorem quiet_of_kept {w v : System α} (hk : w.clocks.Kept v.clocks)
    (h : (v.lock, v.serial, v.resuming, v.source, v.held, v.agenda, v.journal) =
      (w.lock, w.serial, w.resuming, w.source, w.held, w.agenda, w.journal)) : Quiet w v := by
  simp only [Prod.mk.injEq] at h
  obtain ⟨hl, hs, hr, ho, hh, ha, hj⟩ := h
  exact ⟨hl, hs, hr, ho, hh ▸ id, hk, ⟨[], by simp, ha⟩, hj ▸ .refl _⟩

theorem quiet_of_eq {w v : System α}
    (h : (v.lock, v.serial, v.resuming, v.source, v.held, v.agenda, v.journal, v.clocks) =
      (w.lock, w.serial, w.resuming, w.source, w.held, w.agenda, w.journal, w.clocks)) :
    Quiet w v := by
  simp only [Prod.mk.injEq] at h
  obtain ⟨hl, hs, hr, ho, hh, ha, hj, hc⟩ := h
  exact quiet_of_kept (hc ▸ .refl _) (by rw [hl, hs, hr, ho, hh, ha, hj])

theorem quiet_next (w : System α) {calls : List (Task α)} (h : ∀ x ∈ calls, x.isCallback = true) :
    Quiet w (w.next calls) :=
  ⟨rfl, rfl, rfl, rfl, id, .refl _, ⟨calls, h, rfl⟩, .refl _⟩

theorem quiet_later (w : System α) {task : Task α} (h : task.isStage = false) :
    Quiet w (w.later task) :=
  quiet_of_kept (Clocks.kept_spawn w.schedule w.debounce w.timers w.now task h) rfl

theorem quiet_removeHook (w : System α) (hook : Option (HostName × HookId)) :
    Quiet w (w.removeHook hook) := by
  unfold removeHook
  split
  · exact .refl w
  · exact quiet_of_eq rfl

theorem quiet_shutdown (w : System α) : Quiet w w.shutdown := by
  have hk := (Clocks.kept_disarm w.schedule w.debounce w.timers).trans
    (Clocks.kept_shutdown _ w.debounce _)
  unfold shutdown
  dsimp only
  split
  · refine .trans ?_ (quiet_removeHook _ _)
    exact quiet_of_kept hk rfl
  · refine .trans (.trans ?_ (quiet_removeHook _ _)) (told_log _ _).quiet
    exact quiet_of_kept hk rfl

end System

end Freshness
