import Freshness.Proofs.Coordinator.Manning
import Freshness.Proofs.Debounce

/-!
# The runs of the debounced action

The action of the debouncer is a cycle. It counts as running from the request for the cycle on, be it
that the cycle still waits for the lock, until the cycle ends.

* `Origin.isDebounced`, `System.debounced` : the cycles that are runs of the action, and those of them
  that hold the lock or wait for it;
* `System.Eases` : no run begins or ends; what is armed or pending may be dropped;
* `System.Debounces`, `System.debounces_perform` : what a task does to the debouncer and the runs, and
  that every task of an orderly system does one of these;
* `System.Coupled`, `Reachable.coupled` : the debouncer agrees with the lock about the runs, in every
  run of a new coordinator.
-/

namespace Freshness

variable {α : Type}

def Origin.isDebounced : Origin → Bool
  | .call _ .request | .cooldown => true
  | .call _ .refresh | .call _ .first | .call _ .interval | .timer => false

def Task.isRequest : Task α → Bool
  | .start _ .request => true
  | .start _ .refresh | .start _ .first | .start _ .interval => false
  | .deed _ | .hear _ | .enter _ | .fetched _ _ _ | .conclude _ _ => false
  | .refreshDue _ | .cooldownOver _ => false

/-- At the end of a cooldown nothing is due, or the action is to run. -/
theorem Debounce.cooldownOver_cases (d : Debounce) (generation : Nat) :
    (∃ armed pending, d.cooldownOver generation = (false, { d with armed, pending }) ∧
      ((armed = d.armed ∧ pending = d.pending) ∨ (armed = none ∧ pending = false))) ∨
    (d.running = false ∧ d.armed ≠ none ∧ d.pending = true ∧ d.cooldownOver generation =
      (true, { d with armed := none, pending := false, running := true })) := by
  have hdetach : (d.armed ≠ none ∧
      d.detach generation = (d.pending, { d with armed := none, pending := false })) ∨
        d.detach generation = (false, d) := by
    unfold detach
    split
    · next hg => exact .inl ⟨fun ha => by simp [ha] at hg, rfl⟩
    · exact .inr rfl
  unfold cooldownOver
  rcases hdetach with ⟨ha, hd⟩ | hd <;> rw [hd] <;> dsimp only
  · cases hp : d.pending with
    | false => exact .inl ⟨none, false, rfl, .inr ⟨rfl, rfl⟩⟩
    | true =>
      rw [if_pos rfl]
      cases hr : d.running with
      | false => exact .inr ⟨rfl, ha, rfl, tryRun_of_idle rfl rfl⟩
      | true => exact .inl ⟨none, false, by simp [tryRun], .inr ⟨rfl, rfl⟩⟩
  · exact .inl ⟨d.armed, d.pending, rfl, .inl ⟨rfl, rfl⟩⟩

theorem Debounce.endRun_cases {ω : Type} (d : Debounce) (t : Timers ω) (job : Nat → ω) :
    ∃ armed generation, (d.endRun t job).2.1 = { d with armed, generation, running := false } ∧
      (armed = none → d.armed = none) := by
  show ∃ armed generation, { (d.startCooldown t job).2.1 with running := false } = _ ∧ _
  unfold startCooldown
  split
  · exact ⟨d.armed, d.generation, rfl, id⟩
  dsimp only
  split
  · exact ⟨d.armed, d.generation + 1, rfl, id⟩
  · exact ⟨some _, d.generation + 1, rfl, fun ha => absurd ha (Option.some_ne_none _)⟩

namespace System

/-- The runs of the debounced action that hold the lock or wait for it. -/
def debounced (w : System α) : List Cycle := w.lock.line.filter (·.origin.isDebounced)

/-! ## Where no run begins or ends -/

/-- From `w` to `v` no run of the debounced action begins or ends, and none becomes pending. While one
is under way, or if the debouncer is immediate, no cooldown is started. -/
structure Eases (w v : System α) : Prop where
  running : v.debounce.running = w.debounce.running
  immediate : v.debounce.immediate = w.debounce.immediate
  idle : w.debounce.running = true ∨ w.debounce.immediate = true → w.debounce.armed = none →
    v.debounce.armed = none
  pending : (w.debounce.pending = true → w.debounce.armed ≠ none) →
    v.debounce.pending = true → v.debounce.armed ≠ none
  due : v.debounce.pending = true → w.debounce.pending = true
  flags : w.debounce.shutDown = w.shutDown → v.debounce.shutDown = v.shutDown

theorem Eases.trans {u v w : System α} (h₁ : Eases u v) (h₂ : Eases v w) : Eases u w where
  running := h₂.running.trans h₁.running
  immediate := h₂.immediate.trans h₁.immediate
  idle := by
    intro h ha
    refine h₂.idle ?_ (h₁.idle h ha)
    rwa [h₁.running, h₁.immediate]
  pending := fun h => h₂.pending (h₁.pending h)
  due := fun h => h₁.due (h₂.due h)
  flags := fun h => h₂.flags (h₁.flags h)

theorem eases_of_eq {w v : System α}
    (h : (v.debounce, v.shutDown) = (w.debounce, w.shutDown)) : Eases w v := by
  obtain ⟨hd, hs⟩ := Prod.mk.inj h
  exact ⟨by rw [hd], by rw [hd], fun _ ha => hd ▸ ha, fun hp => hd ▸ hp, fun hp => hd ▸ hp,
    fun hf => by rw [hd, hs, hf]⟩

theorem Eases.refl (w : System α) : Eases w w := eases_of_eq rfl

theorem Told.eases {w v : System α} (h : Told w v) : Eases w v := by
  rw [h.2]
  exact eases_of_eq rfl

theorem eases_standDown (w : System α) : Eases w w.standDown := by
  have hd : w.standDown.debounce = { w.debounce with pending := false, armed := none } :=
    Debounce.cancel_fst _ _
  refine ⟨by rw [hd], by rw [hd], fun _ _ => by rw [hd], fun _ hp => ?_, fun hp => ?_, fun hf => ?_⟩
  · rw [hd] at hp
    cases hp
  · rw [hd] at hp
    cases hp
  · rw [hd]
    exact hf

theorem eases_scheduleRefresh (w : System α) : Eases w w.scheduleRefresh := by
  unfold scheduleRefresh
  refine .trans ?_ (told_logAny _ _).eases
  exact eases_of_eq rfl

theorem eases_removeHook (w : System α) (hook : Option (HostName × HookId)) :
    Eases w (w.removeHook hook) := by
  unfold removeHook
  split
  · exact .refl w
  · exact eases_of_eq rfl

/-- The flags of the coordinator and of its debouncer come up together. -/
theorem eases_shutdown (w : System α) : Eases w w.shutdown := by
  have hd : (w.debounce.shutdown (w.schedule.disarm w.timers).2).1 =
      { w.debounce with shutDown := true, pending := false, armed := none } :=
    Debounce.cancel_fst _ _
  have hc : Eases w { w with
      schedule := (w.schedule.disarm w.timers).1
      debounce := (w.debounce.shutdown (w.schedule.disarm w.timers).2).1
      timers := (w.debounce.shutdown (w.schedule.disarm w.timers).2).2
      shutDown := true, stopHook := none } := by
    rw [hd]
    exact ⟨rfl, rfl, fun _ _ => rfl, fun _ hp => absurd hp Bool.false_ne_true,
      fun hp => absurd hp Bool.false_ne_true, fun _ => rfl⟩
  unfold shutdown
  dsimp only
  split
  · exact hc.trans (eases_removeHook _ _)
  · exact (hc.trans (eases_removeHook _ _)).trans (told_log _ _).eases

theorem eases_shutdownIfAlive (w : System α) : Eases w w.shutdownIfAlive := by
  unfold shutdownIfAlive
  split
  · exact eases_shutdown w
  · exact .refl w

/-! ## Deeds -/

theorem eases_addListener (w : System α) (label : String) (context : Option String)
    (conduct : List (List (Deed α))) : Eases w (w.addListener label context conduct) := by
  unfold addListener
  dsimp only
  split
  · refine .trans ?_ (eases_scheduleRefresh _)
    exact eases_of_eq rfl
  · exact eases_of_eq rfl

theorem eases_unsubscribe (w : System α) (label : String) : Eases w (w.unsubscribe label) := by
  unfold unsubscribe
  split
  · exact .refl w
  split
  · dsimp only
    split
    · refine .trans ?_ (eases_standDown _)
      exact eases_of_eq rfl
    · exact eases_of_eq rfl
  · exact .refl w

theorem eases_notify (w : System α) : Eases w w.notify := eases_of_eq rfl

theorem eases_setData (w : System α) (a : α) : Eases w (w.setData a) := by
  have hd : ∀ standing n, Eases w (({ w.standDown with standing } : System α).log n) :=
    fun standing n => (eases_standDown w).trans (eases_of_eq rfl)
  unfold setData
  dsimp only
  split
  · exact (hd _ _).trans (eases_notify _)
  · exact ((hd _ _).trans (eases_scheduleRefresh _)).trans (eases_notify _)

theorem eases_setFault (w : System α) (f : Fault) : Eases w (w.setFault f) := by
  unfold setFault
  dsimp only
  split <;> exact eases_of_eq rfl

theorem eases_registerShutdown (w : System α) (name : HostName) :
    Eases w (w.registerShutdown name) := by
  have hr : Eases w (w.setHost name ((w.host name).register ()).2) := eases_of_eq rfl
  unfold registerShutdown
  dsimp only
  refine .trans ?_ (eases_removeHook _ _)
  split
  · exact (hr.trans (eases_shutdown _)).trans (eases_of_eq rfl)
  · exact eases_of_eq rfl

theorem eases_stopHost (w : System α) (name : HostName) : Eases w (w.stopHost name) := by
  have hf : ∀ (hooks : List Unit) (w : System α),
      Eases w (hooks.foldl (fun w _ => w.shutdownIfAlive) w) := by
    intro hooks
    induction hooks with
    | nil => exact .refl
    | cons _ hooks ih => exact fun w => (eases_shutdownIfAlive w).trans (ih _)
  unfold stopHost
  split
  · exact (told_log w _).eases
  · refine .trans ?_ (hf _ _)
    exact eases_of_eq rfl

theorem eases_unload (w : System α) : Eases w w.unload := by
  unfold unload
  split
  · split
    · refine .trans ?_ (eases_shutdownIfAlive _)
      exact eases_of_eq rfl
    · exact .refl w
  · exact .refl w

theorem eases_carryOut (w : System α) (deed : Deed α) : Eases w (w.carryOut deed) := by
  unfold carryOut
  split
  · exact .refl w
  · cases deed with
    | addListener label context conduct => exact eases_addListener w label context conduct
    | unsubscribe label => exact eases_unsubscribe w label
    | setData a => exact eases_setData w a
    | setFault f => exact eases_setFault w f
    | shutdown => exact eases_shutdown w
    | registerShutdown host => exact eases_registerShutdown w host
    | stopHost host => exact eases_stopHost w host
    | unload => exact eases_unload w
    | setInterval | setPolling | spawn | drop => exact eases_of_eq rfl

/-! ## Stages -/

theorem eases_ask (w : System α) (origin : Origin) : Eases w (w.ask origin) := by
  rw [ask_frame]
  exact eases_of_eq rfl

theorem eases_enter (w : System α) (cycle : Cycle) : Eases w (w.enter cycle) := by
  refine (eases_standDown w).trans ?_
  unfold enter
  dsimp only
  split
  · exact eases_of_eq rfl
  split
  · exact eases_of_eq rfl
  · rw [beginFetch_frame]
    exact eases_of_eq rfl

theorem idle_enter (w : System α) (cycle : Cycle) : (w.enter cycle).debounce.armed = none := by
  have hd : w.standDown.debounce.armed = none := by
    rw [show w.standDown.debounce = _ from Debounce.cancel_fst _ _]
  unfold enter
  dsimp only
  split
  · exact hd
  split
  · exact hd
  · rw [beginFetch_frame]
    exact hd

theorem eases_fetched [BEq α] (w : System α) (cycle : Cycle) (begun : Nat)
    (result : Except Fault α) : Eases w (w.fetched cycle begun result) := by
  obtain ⟨u, fault, health, ⟨standing, journal, rfl⟩, hf⟩ :=
    fetched_eq_followUp w cycle begun result
  have hn : Eases w { w with standing, journal } := eases_of_eq rfl
  rw [hf, followUp_frame]
  split
  · exact (hn.trans (eases_scheduleRefresh _)).trans (eases_of_eq rfl)
  · exact eases_of_eq rfl

/-! ## The line -/

theorem line_ask {w : System α} (h : w.lock.holder = none → w.lock.waiting = []) (origin : Origin) :
    (w.ask origin).lock.line = w.lock.line ++ [⟨w.serial, origin⟩] := by
  cases hh : w.lock.holder with
  | none =>
    rw [ask_of_free hh]
    simp [Lock.line, next, hh, h hh]
  | some holder =>
    rw [ask_of_held hh]
    simp [Lock.line, hh]

theorem debounced_ask {w : System α} (h : w.lock.holder = none → w.lock.waiting = [])
    (origin : Origin) : (w.ask origin).debounced =
      w.debounced ++ if origin.isDebounced then [⟨w.serial, origin⟩] else [] := by
  rw [debounced, line_ask h, List.filter_append, debounced]
  cases ho : origin.isDebounced <;> simp [ho]

theorem Serving.line {w : System α} {cycle : Cycle} (h : Serving w cycle) :
    w.lock.line = cycle :: w.lock.waiting := by
  rw [Lock.line, h.holder]
  rfl

theorem Serving.debounced_release {w : System α} {cycle : Cycle} (h : Serving w cycle) :
    w.debounced = (if cycle.origin.isDebounced then [cycle] else []) ++
      (w.release cycle.origin).debounced := by
  rw [debounced, debounced, h.line, line_release]
  cases hd : cycle.origin.isDebounced <;> simp [hd]

theorem Life.lock_eq {w v : System α} {task : Task α} (h : Life w task v)
    (ho : task.origin? = none) (he : task.ends? = none) : v.lock = w.lock := by
  cases h with
  | quiet _ _ hl | skipped _ _ _ _ _ hl | began _ _ _ _ _ _ _ hl | landed _ _ _ _ hl => exact hl
  | admitted _ ht | queued _ _ ht => cases ho.symm.trans ht
  | ended => cases he

/-! ## What a task does -/

/-- What a task does to the debouncer and to the runs of its action. -/
inductive Debounces (w : System α) : Task α → System α → Prop where
  | eases {task : Task α} {v : System α} : Eases w v → v.debounced = w.debounced →
    Debounces w task v
  /-- A request waits for the end of a cooldown, or breaks off. -/
  | folds {task : Task α} {v : System α} : task.isRequest = true → v.debounced = w.debounced →
    (v.debounce.running, v.debounce.immediate) = (w.debounce.running, w.debounce.immediate) →
    (w.debounce.armed = none → w.debounce.running = false ∧ w.debounce.immediate = false) →
    (w.debounce.immediate = true → v.debounce.armed ≠ none) →
    (v.debounce.shutDown, v.shutDown) = (w.debounce.shutDown, w.shutDown) → Debounces w task v
  | begins {task : Task α} {v : System α} (origin : Origin) : task.origin? = some origin →
    origin.isDebounced = true →
    task.isRequest = true ∨ w.debounce.armed ≠ none ∧ w.debounce.pending = true →
    w.debounce.running = false →
    v.debounced = w.debounced ++ [⟨w.serial, origin⟩] →
    (v.debounce.running, v.debounce.armed, v.debounce.immediate) =
      (true, none, w.debounce.immediate) →
    (v.debounce.pending = true → w.debounce.pending = true ∧ w.debounce.armed = none) →
    (v.debounce.shutDown, v.shutDown) = (w.debounce.shutDown, w.shutDown) → Debounces w task v
  | ends {cycle : Cycle} {outcome : Except Refusal Health} {v : System α} :
    cycle.origin.isDebounced = true → w.debounced = cycle :: v.debounced →
    (v.debounce.running, v.debounce.immediate, v.debounce.pending) =
      (false, w.debounce.immediate, w.debounce.pending) →
    (v.debounce.armed = none → w.debounce.armed = none) →
    (v.debounce.shutDown, v.shutDown) = (w.debounce.shutDown, w.shutDown) →
    Debounces w (.conclude cycle outcome) v

theorem debounces_ask {w u : System α} (h : w.lock.holder = none → w.lock.waiting = [])
    {task : Task α} {origin : Origin} (ho : origin.isDebounced = false) (he : Eases w u)
    (hl : u.lock = w.lock) : Debounces w task (u.ask origin) := by
  refine .eases (he.trans (eases_ask u origin)) ?_
  rw [debounced_ask (hl ▸ h), ho, debounced, hl]
  exact List.append_nil _

theorem debounces_begin {w u : System α} (h : w.lock.holder = none → w.lock.waiting = [])
    {task : Task α} {origin : Origin} (ht : task.origin? = some origin)
    (ho : origin.isDebounced = true)
    (hw : task.isRequest = true ∨ w.debounce.armed ≠ none ∧ w.debounce.pending = true)
    (hr : w.debounce.running = false)
    (hu : (u.lock, u.serial, u.shutDown, u.debounce.shutDown, u.debounce.immediate) =
      (w.lock, w.serial, w.shutDown, w.debounce.shutDown, w.debounce.immediate))
    (hd : u.debounce.running = true ∧ u.debounce.armed = none)
    (hp : u.debounce.pending = true → w.debounce.pending = true ∧ w.debounce.armed = none) :
    Debounces w task (u.ask origin) := by
  simp only [Prod.mk.injEq] at hu
  obtain ⟨hl, hn, hs, hds, hi⟩ := hu
  have hf := ask_frame u origin
  refine .begins origin ht ho hw hr ?_ ?_ ?_ ?_
  · rw [debounced_ask (hl ▸ h), ho, if_pos rfl, debounced, debounced, hl, hn]
  · rw [hf]
    exact Prod.ext hd.1 (Prod.ext hd.2 hi)
  · rw [hf]
    exact hp
  · rw [hf]
    exact Prod.ext hds hs

theorem debounces_start {w : System α} (h : w.lock.holder = none → w.lock.waiting = [])
    (caller : Caller) (call : Call) :
    Debounces w (.start caller call) (w.start caller call) := by
  cases call with
  | request =>
    rw [start]
    rcases Debounce.request_cases w.debounce w.timers .cooldownOver with ⟨-, he⟩ | ⟨-, ha, he⟩ |
      ⟨-, -, -, he⟩ | ⟨hs, ha, hr, hm, ho, he⟩ | ⟨-, -, hr, hm, -, he⟩ | ⟨-, ha, hr, -, he⟩ <;>
        rw [he]
    · exact .eases (eases_of_eq rfl) rfl
    · exact .folds rfl rfl rfl (absurd · ha) (fun _ => ha) rfl
    · exact .eases (eases_of_eq rfl) rfl
    · rw [Debounce.startCooldown_of_idle (d := { w.debounce with pending := true }) hs ho ha]
      exact .folds rfl rfl rfl (fun _ => ⟨hr, hm⟩) (fun _ => Option.some_ne_none _) rfl
    · exact .folds rfl rfl rfl (fun _ => ⟨hr, hm⟩) (fun hi => by cases hm.symm.trans hi) rfl
    · exact debounces_begin h rfl rfl (.inl rfl) hr rfl ⟨rfl, ha⟩ fun hp => ⟨hp, ha⟩
  | refresh | first | interval => exact debounces_ask h rfl (.refl w) rfl

theorem debounces_refreshDue {w : System α} (h : w.lock.holder = none → w.lock.waiting = [])
    (generation : Nat) : Debounces w (.refreshDue generation) (w.refreshDue generation) := by
  unfold refreshDue
  split
  · dsimp only
    split
    · exact debounces_ask h rfl (eases_of_eq rfl) rfl
    · exact .eases (eases_of_eq rfl) rfl
  · exact .eases (.refl w) rfl

theorem debounces_cooldownOver {w : System α} (h : w.lock.holder = none → w.lock.waiting = [])
    (generation : Nat) : Debounces w (.cooldownOver generation) (w.cooldownOver generation) := by
  unfold cooldownOver
  split
  · rcases w.debounce.cooldownOver_cases generation with
      ⟨armed, pending, he, ho⟩ | ⟨hr, ha, hp, he⟩
    · rw [he]
      refine .eases ?_ rfl
      rcases ho with ⟨rfl, rfl⟩ | ⟨rfl, rfl⟩
      · exact eases_of_eq rfl
      · exact ⟨rfl, rfl, fun _ _ => rfl, fun _ hp => absurd hp Bool.false_ne_true,
          fun hp => absurd hp Bool.false_ne_true, id⟩
    · rw [he]
      exact debounces_begin h rfl rfl (.inr ⟨ha, hp⟩) hr rfl ⟨rfl, rfl⟩ fun hp =>
        absurd hp Bool.false_ne_true
  · exact .eases (.refl w) rfl

theorem told_returnTo {origin : Origin} (h : origin.isDebounced = false) (w : System α)
    (outcome : Except Refusal Health) : Told w (w.returnTo outcome origin) := by
  cases origin with
  | call caller call =>
    cases call with
    | request => cases h
    | refresh | first | interval => exact told_answer w _ _
  | timer => exact told_logAny w _
  | cooldown => cases h

theorem endRun_returnTo {origin : Origin} (h : origin.isDebounced = true) (w : System α)
    (outcome : Except Refusal Health) :
    ∃ u, Told w u ∧ Told u.endRun.2 (w.returnTo outcome origin) := by
  cases origin with
  | call caller call =>
    cases call with
    | request =>
      rw [returnTo_request]
      refine ⟨w, .refl w, told_record _ ?_⟩
      split <;> rfl
    | refresh | first | interval => cases h
  | timer => cases h
  | cooldown => exact ⟨_, told_logAny w _, .refl _⟩

theorem debounces_conclude {w : System α} {cycle : Cycle} (h : Serving w cycle)
    (outcome : Except Refusal Health) :
    Debounces w (.conclude cycle outcome) (w.conclude cycle outcome) := by
  have hline := h.debounced_release
  have hf := release_frame w cycle.origin
  unfold conclude
  generalize w.release cycle.origin = r at hline hf
  cases hd : cycle.origin.isDebounced with
  | false =>
    have ht := told_returnTo hd r outcome
    rw [hd] at hline
    refine .eases (.trans ?_ ht.eases) ?_
    · rw [hf]
      exact eases_of_eq rfl
    · rw [debounced, ht.2]
      exact hline.symm
  | true =>
    obtain ⟨u, hu, hv⟩ := endRun_returnTo hd r outcome
    obtain ⟨armed, generation, he, ha⟩ := u.debounce.endRun_cases u.timers .cooldownOver
    generalize r.returnTo outcome cycle.origin = v at hv
    have hdeb : u.debounce = w.debounce := by rw [hu.2, hf]
    have hshut : u.shutDown = w.shutDown := by rw [hu.2, hf]
    have hlock : u.lock = r.lock := by rw [hu.2]
    have hv' : (v.lock, v.debounce, v.shutDown) =
        (r.lock, { w.debounce with armed, generation, running := false }, w.shutDown) := by
      rw [hv.2, ← hlock, ← hdeb, ← hshut, ← he]
      rfl
    simp only [Prod.mk.injEq] at hv'
    obtain ⟨hvl, hvd, hvs⟩ := hv'
    rw [hd, if_pos rfl] at hline
    rw [hdeb] at ha
    refine .ends hd ?_ ?_ ?_ ?_
    · rw [hline, debounced, debounced, hvl]
      rfl
    · rw [hvd]
    · rw [hvd]
      exact ha
    · rw [hvd, hvs]

theorem Debounces.immediate {w v : System α} {task : Task α} (h : Debounces w task v) :
    v.debounce.immediate = w.debounce.immediate := by
  cases h with
  | eases he => exact he.immediate
  | folds _ _ hvd => exact (Prod.mk.inj hvd).2
  | begins _ _ _ _ _ _ hvd => exact (Prod.mk.inj (Prod.mk.inj hvd).2).2
  | ends _ _ hvd => exact (Prod.mk.inj (Prod.mk.inj hvd).2).1

theorem Debounces.due {w v : System α} {task : Task α} (h : Debounces w task v)
    (hn : task.isRequest = false) (hp : v.debounce.pending = true) : w.debounce.pending = true := by
  cases h with
  | eases he => exact he.due hp
  | folds hq => cases hq.symm.trans hn
  | begins _ _ _ _ _ _ _ hw => exact (hw hp).1
  | ends _ _ hvd => exact (Prod.mk.inj (Prod.mk.inj hvd).2).2 ▸ hp

/-! ## The debouncer and the lock -/

/-- The debouncer agrees with the lock about the runs of its action. -/
structure Coupled (w : System α) : Prop where
  /-- At most one run holds the lock or waits for it, and the debouncer knows of it. -/
  runs : w.debounced.length = w.debounce.running.toNat
  running : w.debounce.running = true → w.debounce.armed = none
  /-- What waits for a cooldown has one, which the first request of an immediate debouncer need not
  start. -/
  pending : w.debounce.immediate = true → w.debounce.pending = true → w.debounce.armed ≠ none
  flags : w.debounce.shutDown = w.shutDown
  /-- While a cycle is in flight, no cooldown is armed. -/
  inFlight : w.debounce.immediate = true → ∀ stage ∈ w.stages, stage.enters? = none →
    w.debounce.armed = none

theorem coupled_prompt {w v : System α} (h : Coupled w) (ho : Orderly w) (hp : Prompt w v) :
    Coupled v := by
  have hs := prompt_stages ho hp
  have he : (v.lock, v.debounce, v.shutDown) = (w.lock, w.debounce, w.shutDown) := by
    cases hp <;> rfl
  simp only [Prod.mk.injEq] at he
  obtain ⟨hl, hd, hf⟩ := he
  refine ⟨?_, ?_, ?_, ?_, ?_⟩
  · rw [debounced, hl, hd]
    exact h.runs
  · rw [hd]
    exact h.running
  · rw [hd]
    exact h.pending
  · rw [hd, hf]
    exact h.flags
  · rw [hd, hs]
    exact h.inFlight

/-- What waits while a cycle is in flight was in flight before, or the cycle enters now. -/
theorem Life.inFlight {w v : System α} {task stage : Task α} (h : Life w task v)
    (hs : stage ∈ v.stages) (he : stage.enters? = none) :
    (∃ stage ∈ w.stages, stage.enters? = none) ∨ ∃ cycle, task = .enter cycle := by
  cases h with
  | quiet _ hst | queued _ _ _ hst => exact .inl ⟨stage, hst ▸ hs, he⟩
  | admitted _ _ _ _ hst =>
    rw [hst] at hs
    obtain rfl := List.mem_singleton.1 hs
    cases he
  | skipped | began => exact .inr ⟨_, rfl⟩
  | @landed cycle begun result _ _ hst =>
    refine .inl ⟨.fetched cycle begun result, ?_, rfl⟩
    rw [hst]
    exact .head _
  | ended _ _ hst =>
    rw [hst] at hs
    obtain ⟨cycle, -, rfl⟩ := List.mem_map.1 hs
    cases he

variable [BEq α]

/-- Every task of an orderly system does one of these. -/
theorem debounces_perform {w : System α} {task : Task α} {rest : List (Task α)} (h : Orderly w)
    (ha : w.agenda = task :: rest) :
    Debounces { w with agenda := rest } task ({ w with agenda := rest }.perform task) := by
  have hline : ({ w with agenda := rest } : System α).lock.holder = none →
      ({ w with agenda := rest } : System α).lock.waiting = [] := h.line
  have hl := life_perform h ha
  have hsame : task.origin? = none → task.ends? = none →
      ({ w with agenda := rest }.perform task).debounced = w.debounced := by
    intro ho he
    rw [debounced, hl.lock_eq ho he, debounced]
  cases task with
  | deed deed => exact .eases (eases_carryOut _ deed) (hsame rfl rfl)
  | hear callback => exact .eases (eases_of_eq rfl) (hsame rfl rfl)
  | start caller call => exact debounces_start hline caller call
  | enter cycle => exact .eases (eases_enter _ cycle) (hsame rfl rfl)
  | fetched cycle begun result =>
    exact .eases (eases_fetched _ cycle begun result) (hsame rfl rfl)
  | conclude cycle outcome => exact debounces_conclude (h.serving ha rfl) outcome
  | refreshDue generation => exact debounces_refreshDue hline generation
  | cooldownOver generation => exact debounces_cooldownOver hline generation

theorem coupled_perform {w : System α} {task : Task α} {rest : List (Task α)} (h : Coupled w)
    (ho : Orderly w) (ha : w.agenda = task :: rest) :
    Coupled ({ w with agenda := rest }.perform task) := by
  have hl := life_perform ho ha
  have hd := debounces_perform ho ha
  have henter : ∀ cycle, task = .enter cycle →
      ({ w with agenda := rest }.perform task).debounce.armed = none := by
    rintro cycle rfl
    exact idle_enter _ cycle
  generalize ({ w with agenda := rest } : System α).perform task = v at hl hd henter
  cases hd with
  | eases he hv =>
    refine ⟨?_, fun hr => ?_, fun hi => he.pending (h.pending (he.immediate ▸ hi)),
      he.flags h.flags, fun hi stage hs hn => ?_⟩
    · rw [hv, he.running]
      exact h.runs
    · rw [he.running] at hr
      exact he.idle (.inl hr) (h.running hr)
    · rcases hl.inFlight hs hn with ⟨stage, hs, hn⟩ | ⟨cycle, hc⟩
      · rw [he.immediate] at hi
        exact he.idle (.inr hi) (h.inFlight hi stage hs hn)
      · exact henter cycle hc
  | folds hq hv hvd hi ha hf =>
    simp only [Prod.mk.injEq] at hvd hf
    refine ⟨?_, fun hr => ?_, fun him _ => ha (hvd.2 ▸ him), ?_, fun him stage hs hn => ?_⟩
    · rw [hv, hvd.1]
      exact h.runs
    · have hwr : w.debounce.running = true := hvd.1 ▸ hr
      exact absurd hwr (Bool.eq_false_iff.1 (hi (h.running hwr)).1)
    · rw [hf.1, hf.2]
      exact h.flags
    · have hwi : w.debounce.immediate = true := hvd.2 ▸ him
      rcases hl.inFlight hs hn with ⟨stage, hs, hn⟩ | ⟨cycle, rfl⟩
      · exact absurd hwi (Bool.eq_false_iff.1 (hi (h.inFlight hwi stage hs hn)).2)
      · cases hq
  | begins origin ht hb _ hr hv hvd hp hf =>
    simp only [Prod.mk.injEq] at hvd hf
    obtain ⟨hvr, hva, hvi⟩ := hvd
    have hw : w.debounced.length = 0 := by
      rw [h.runs, show w.debounce.running = false from hr]
      rfl
    refine ⟨?_, fun _ => hva, fun him hvp => ?_, ?_, fun _ _ _ _ => hva⟩
    · rw [hv, List.length_append, hvr]
      exact congrArg (· + 1) hw
    · obtain ⟨hwp, hwa⟩ := hp hvp
      exact absurd hwa (h.pending (hvi ▸ him) hwp)
    · rw [hf.1, hf.2]
      exact h.flags
  | ends hc hv hvd hp hf =>
    simp only [Prod.mk.injEq] at hvd hf
    have hw : w.debounced.length ≤ 1 := h.runs ▸ Bool.toNat_le _
    have hvl : w.debounced.length = v.debounced.length + 1 := congrArg List.length hv
    refine ⟨?_, fun hr => ?_, fun him hvp hva => ?_, ?_, fun _ stage hs hn => ?_⟩
    · rw [hvd.1]
      show v.debounced.length = 0
      omega
    · exact absurd (hvd.1.symm.trans hr) Bool.false_ne_true
    · exact h.pending (hvd.2.1 ▸ him) (hvd.2.2 ▸ hvp) (hp hva)
    · rw [hf.1, hf.2]
      exact h.flags
    · cases hl with
      | quiet ht => cases ht
      | admitted _ ht | queued _ _ ht => cases ht
      | ended _ _ hst =>
        rw [hst] at hs
        obtain ⟨cycle, -, rfl⟩ := List.mem_map.1 hs
        cases hn

/-- **The debouncer agrees with the lock**, in every run. -/
theorem Reachable.coupled {w : System α} (h : Reachable w) : Coupled w := by
  obtain ⟨p, jitter, now, hm⟩ := h
  have hnew : Coupled (p.system jitter now) :=
    ⟨rfl, fun hr => absurd hr Bool.false_ne_true, fun _ hp => absurd hp Bool.false_ne_true, rfl,
      fun _ _ hs => by cases hs⟩
  refine (Moves.induct (P := fun w => Orderly w ∧ Coupled w) (fun hp hw => ?_)
    (fun task rest ha hw => ?_) hm ⟨orderly_system p jitter now, hnew⟩).2
  · exact ⟨orderly_prompt hw.1 hp, coupled_prompt hw.2 hw.1 hp⟩
  · exact ⟨orderly_perform hw.1 ha, coupled_perform hw.2 hw.1 ha⟩

end System

end Freshness
