import Freshness.Proofs.Coordinator.Course
import Freshness.Proofs.Coordinator.Runs

/-!
# What turns do to stop hooks

* `System.ties`, `System.ties_perform` : what the coordinator and the hosts know of each other,
  which few deeds change (`Deed.isTie`);
* `System.Pends`, `System.Moored` : a hook is pending on a host; there is one at most, and the
  coordinator knows where;
* `Turn.registers?`, `Turn.stops?`, `Turn.shuts` : what a turn has to do with hooks;
* `System.Moors`, `Turn.moors` : what an operation and what a turn does to them.
-/

namespace Freshness

variable {α : Type}

/-- The deed has to do with hosts, or may shut the coordinator down. -/
def Deed.isTie : Deed α → Bool
  | .shutdown | .registerShutdown _ | .stopHost _ | .unload => true
  | .addListener .. | .unsubscribe _ | .setData _ | .setFault _ | .setInterval _ => false
  | .setPolling _ | .spawn .. | .drop => false

def Task.isTie : Task α → Bool
  | .deed d => d.isTie
  | .hear _ | .start _ _ | .enter _ | .fetched _ _ _ | .conclude _ _ => false
  | .refreshDue _ | .cooldownOver _ => false

namespace System

variable {w v : System α} {t : Turn α} {n name : HostName}

/-! ## What other tasks leave alone -/

/-- What the coordinator and the hosts know of each other. -/
def ties (w : System α) : (HostName → Host Unit) × Option (HostName × HookId) × Bool × Bool :=
  (w.hosts, w.stopHook, w.shutDown, w.entry.isSome)

theorem Stirs.ties (h : Stirs w v) : v.ties = w.ties := by
  rw [h.calm.frame]
  rfl

theorem ties_scheduleRefresh (w : System α) : w.scheduleRefresh.ties = w.ties :=
  Stir.scheduleRefresh.stirs.ties

theorem ties_addListener (w : System α) (label : String) (context : Option String)
    (conduct : List (List (Deed α))) : (w.addListener label context conduct).ties = w.ties := by
  unfold addListener
  dsimp only
  split
  · exact ties_scheduleRefresh _
  · rfl

theorem ties_unsubscribe (w : System α) (label : String) : (w.unsubscribe label).ties = w.ties := by
  unfold unsubscribe
  split
  · rfl
  split
  · dsimp only
    split
    · exact Stir.standDown.stirs.ties
    · rfl
  · rfl

theorem ties_setData (w : System α) (a : α) : (w.setData a).ties = w.ties := by
  have hd : w.standDown.ties = w.ties := Stir.standDown.stirs.ties
  unfold setData
  dsimp only
  split
  · exact hd
  · exact (ties_scheduleRefresh _).trans hd

theorem ties_setFault (w : System α) (f : Fault) : (w.setFault f).ties = w.ties := by
  unfold setFault
  dsimp only
  split <;> rfl

theorem ties_setPolling (w : System α) (disabled : Bool) :
    (w.setPolling disabled).ties = w.ties := by
  simp [setPolling, ties]

theorem ties_carryOut (w : System α) {deed : Deed α} (h : deed.isTie = false) :
    (w.carryOut deed).ties = w.ties := by
  unfold carryOut
  split
  · rfl
  · cases deed with
    | addListener label context conduct => exact ties_addListener w label context conduct
    | unsubscribe label => exact ties_unsubscribe w label
    | setData a => exact ties_setData w a
    | setFault f => exact ties_setFault w f
    | setPolling disabled => exact ties_setPolling w disabled
    | setInterval | spawn | drop => rfl
    | shutdown | registerShutdown | stopHost | unload => cases h

theorem ties_ask (w : System α) (origin : Origin) : (w.ask origin).ties = w.ties := by
  rw [ask_frame]
  rfl

theorem ties_start (w : System α) (caller : Caller) (call : Call) :
    (w.start caller call).ties = w.ties := by
  cases call with
  | request =>
    have hr : Stirs w _ := (Stir.request (w := w)).stirs.trans (told_logAny _
      ((w.debounce.request w.timers .cooldownOver).1.notice w.debounce.name)).stirs
    unfold start
    dsimp only
    split
    · exact (ties_ask _ _).trans (Stirs.ties hr)
    · exact Stirs.ties (.trans hr (told_breakOff _ _).stirs)
    · exact Stirs.ties (.trans hr (told_answer _ _ _).stirs)
  | refresh | first | interval => exact ties_ask w _

theorem ties_refreshDue (w : System α) (generation : Nat) :
    (w.refreshDue generation).ties = w.ties := by
  unfold refreshDue
  split
  · dsimp only
    split
    · exact ties_ask _ _
    · rfl
  · rfl

theorem ties_cooldownOver (w : System α) (generation : Nat) :
    (w.cooldownOver generation).ties = w.ties := by
  unfold cooldownOver
  split
  · dsimp only
    split
    · exact ties_ask _ _
    · rfl
  · rfl

theorem ties_prompt (h : Prompt w v) : v.ties = w.ties := by
  cases h <;> rfl

/-- Only deeds of a few kinds change what the coordinator and the hosts know of each other. -/
theorem ties_perform [BEq α] (w : System α) {task : Task α} (h : task.isTie = false) :
    (w.perform task).ties = w.ties := by
  have hc := course_perform w task
  generalize hv : w.perform task = v at hc
  cases hc with
  | quiet hstage _ =>
    subst hv
    cases task with
    | deed deed => exact ties_carryOut w (show deed.isTie = false from h)
    | hear callback => rfl
    | start caller call => exact ties_start w caller call
    | refreshDue generation => exact ties_refreshDue w generation
    | cooldownOver generation => exact ties_cooldownOver w generation
    | enter | fetched | conclude => cases hstage
  | asked origin _ hu => exact (ties_ask _ origin).trans hu.ties
  | skipped _ hu => exact hu.ties
  | began _ hu =>
    rw [beginFetch_frame]
    exact hu.ties
  | landed calls outcome hu _ =>
    refine Eq.trans (b := (w.applyResult _ _).1.ties) hu.ties ?_
    rw [applyResult_frame]
    rfl
  | ended hv =>
    refine hv.ties.trans ?_
    rw [release_frame]
    rfl

/-! ## The hook of the coordinator -/

def Pends (w : System α) (n : HostName) : Prop := (w.host n).hooks ≠ []

instance (w : System α) (n : HostName) : Decidable (w.Pends n) :=
  inferInstanceAs (Decidable (_ ≠ _))

/-- One hook at most is pending, the coordinator knows where, and hosts that are stopping have
none. -/
structure Moored (w : System α) : Prop where
  slot : ∀ n id, w.stopHook = some (n, id) → id.number < (w.host n).nextId
  hooks : ∀ n, w.Pends n → ∃ id, w.stopHook = some (n, id) ∧ (w.host n).hooks = [(id, ())]
  stopped : ∀ n, (w.host n).stopping = true → ¬ w.Pends n

theorem Moored.of_ties (h : Moored w) (hv : v.ties = w.ties) : Moored v := by
  simp only [ties, Prod.mk.injEq] at hv
  obtain ⟨hh, hs, -, -⟩ := hv
  refine ⟨?_, ?_, ?_⟩
  · simpa only [host, hh, hs] using h.slot
  · simpa only [Pends, host, hh, hs] using h.hooks
  · simpa only [Pends, host, hh] using h.stopped

theorem Moored.pending_eq (h : Moored w) (n : HostName) :
    (w.host n).pending = if w.Pends n then 1 else 0 := by
  by_cases hp : w.Pends n
  · obtain ⟨id, -, hk⟩ := h.hooks n hp
    rw [if_pos hp, Host.pending, hk]
    rfl
  · rw [if_neg hp, Host.pending, not_not.1 hp]
    rfl

theorem moored_system (p : Plan α) (jitter : Duration) (now : Nat) :
    Moored (p.system jitter now) where
  slot _ _ h := by cases h
  hooks _ h := absurd rfl h
  stopped _ h := by cases h

theorem host_removeHook (w : System α) (hook : Option (HostName × HookId)) (n : HostName) :
    (w.removeHook hook).host n =
      { w.host n with
        hooks := (w.host n).hooks.filter fun x => decide (hook ≠ some (n, x.1)) } := by
  cases hook with
  | none =>
    show w.host n = _
    simp
  | some hook =>
    obtain ⟨m, id⟩ := hook
    show (w.setHost m ((w.host m).remove id)).host n = _
    rw [host_setHost]
    split
    · next he =>
      subst he
      have hx : ∀ x : HookId × Unit, (x.1 != id) = decide (some (n, id) ≠ some (n, x.1)) := by
        intro x
        rw [Bool.eq_iff_iff, bne_iff_ne, decide_eq_true_iff, ne_comm]
        simp only [ne_eq, Option.some.injEq, Prod.mk.injEq, true_and]
      simp only [Host.remove, hx]
    · next he =>
      have hm : m ≠ n := fun h => he h.symm
      simp [hm]

theorem Moored.filter_hooks (h : Moored w) (n : HostName) :
    (w.host n).hooks.filter (fun x => decide (w.stopHook ≠ some (n, x.1))) = [] := by
  by_cases hp : w.Pends n
  · obtain ⟨id, hs, hk⟩ := h.hooks n hp
    simp [hs, hk]
  · rw [not_not.1 hp, List.filter_nil]

/-! ## Shutdown -/

theorem ties_shutdown (w : System α) :
    w.shutdown.ties = ((w.removeHook w.stopHook).hosts, none, true, w.entry.isSome) := by
  unfold shutdown removeHook
  dsimp only
  split <;> cases w.stopHook <;> rfl

theorem shutDown_shutdown (w : System α) : w.shutdown.shutDown = true :=
  congrArg (·.2.2.1) (ties_shutdown w)

theorem stopHook_shutdown (w : System α) : w.shutdown.stopHook = none :=
  congrArg (·.2.1) (ties_shutdown w)

theorem isSome_entry_shutdown (w : System α) : w.shutdown.entry.isSome = w.entry.isSome :=
  congrArg (·.2.2.2) (ties_shutdown w)

/-- A shutdown takes the hook back, wherever it is. -/
theorem Moored.host_shutdown (h : Moored w) (n : HostName) :
    w.shutdown.host n = { w.host n with hooks := [] } := by
  have hhost : w.shutdown.host n = (w.removeHook w.stopHook).host n :=
    congrFun (congrArg (·.1) (ties_shutdown w)) n
  rw [hhost, host_removeHook, h.filter_hooks]

theorem Moored.not_pends_shutdown (h : Moored w) (n : HostName) : ¬ w.shutdown.Pends n := by
  rw [Pends, h.host_shutdown]
  exact not_not.2 rfl

theorem Moored.shutdown (h : Moored w) : Moored w.shutdown where
  slot n id hs := by cases (stopHook_shutdown w).symm.trans hs
  hooks n hp := absurd hp (h.not_pends_shutdown n)
  stopped n _ := h.not_pends_shutdown n

/-! ## Registration -/

/-- The host has been asked to take a hook. -/
def enroll (w : System α) (name : HostName) : System α :=
  w.setHost name ((w.host name).register ()).2

theorem registerShutdown_of_running (hr : (w.host name).stopping = false) :
    w.registerShutdown name =
      ({ w.enroll name with stopHook := some (name, ⟨(w.host name).nextId⟩) } : System α).removeHook
        w.stopHook := by
  simp [registerShutdown, enroll, setHost, hr, Host.register]

theorem registerShutdown_of_stopping (hs : (w.host name).stopping = true) :
    w.registerShutdown name =
      { (w.enroll name).shutdown with stopHook := some (name, ⟨(w.host name).nextId⟩) } := by
  have hslot := stopHook_shutdown (w.enroll name)
  have hw : w.registerShutdown name =
      ({ (w.enroll name).shutdown with
        stopHook := some (name, ⟨(w.host name).nextId⟩) } : System α).removeHook
          (w.enroll name).shutdown.stopHook := by
    simp [registerShutdown, enroll, hs, Host.register]
  rw [hw, hslot]
  rfl

/-- A host that runs keeps the new hook, and no host keeps the one before. -/
theorem Moored.host_register_of_running (h : Moored w) (hr : (w.host name).stopping = false)
    (n : HostName) : (w.registerShutdown name).host n =
      if n = name then
        { w.host name with nextId := (w.host name).nextId + 1
                           hooks := [(⟨(w.host name).nextId⟩, ())] }
      else { w.host n with hooks := [] } := by
  have hn : ({ w.enroll name with
        stopHook := some (name, ⟨(w.host name).nextId⟩) } : System α).host n =
      if n = name then ((w.host name).register ()).2 else w.host n := rfl
  rw [registerShutdown_of_running hr, host_removeHook, hn]
  split
  · next he =>
    subst he
    have hold := h.filter_hooks n
    have hnew : w.stopHook ≠ some (n, ⟨(w.host n).nextId⟩) := fun hs =>
      Nat.lt_irrefl _ (h.slot n _ hs)
    have hreg : ((w.host n).register ()).2 =
        { w.host n with nextId := (w.host n).nextId + 1
                        hooks := (w.host n).hooks ++ [(⟨(w.host n).nextId⟩, ())] } := by
      simp [Host.register, hr]
    rw [hreg, List.filter_append, hold]
    simp [hnew]
  · rw [h.filter_hooks]

theorem host_enroll_of_stopping (hs : (w.host name).stopping = true) (n : HostName) :
    (w.enroll name).host n =
      { w.host n with nextId := (w.host n).nextId + (if n = name then 1 else 0) } := by
  rw [enroll, host_setHost]
  split
  · next he =>
    subst he
    simp [Host.register, hs]
  · rfl

theorem Moored.enroll (h : Moored w) (hs : (w.host name).stopping = true) :
    Moored (w.enroll name) := by
  have hn := host_enroll_of_stopping hs
  refine ⟨fun n id hi => ?_, fun n hp => ?_, fun n hd => ?_⟩
  · rw [hn]
    exact Nat.lt_add_right _ (h.slot n id hi)
  · rw [Pends, hn] at hp
    rw [hn]
    exact h.hooks n hp
  · rw [hn] at hd
    rw [Pends, hn]
    exact h.stopped n hd

/-- A host that is stopping shuts the coordinator down at once, and no host keeps a hook of it. -/
theorem Moored.host_register_of_stopping (h : Moored w) (hs : (w.host name).stopping = true)
    (n : HostName) : (w.registerShutdown name).host n =
      { w.host n with nextId := (w.host n).nextId + (if n = name then 1 else 0), hooks := [] } := by
  have hn : (w.registerShutdown name).host n = (w.enroll name).shutdown.host n := by
    rw [registerShutdown_of_stopping hs]
    rfl
  rw [hn, (h.enroll hs).host_shutdown, host_enroll_of_stopping hs]

theorem ties_removeHook (w : System α) (hook : Option (HostName × HookId)) :
    (w.removeHook hook).ties =
      ((w.removeHook hook).hosts, w.stopHook, w.shutDown, w.entry.isSome) := by
  cases hook <;> rfl

theorem ties_registerShutdown (w : System α) (name : HostName) :
    (w.registerShutdown name).ties =
      ((w.registerShutdown name).hosts, some (name, ⟨(w.host name).nextId⟩),
        w.shutDown || (w.host name).stopping, w.entry.isSome) := by
  cases hs : (w.host name).stopping with
  | true =>
    rw [registerShutdown_of_stopping hs, Bool.or_true]
    simp only [ties, shutDown_shutdown, isSome_entry_shutdown]
    rfl
  | false =>
    rw [registerShutdown_of_running hs, ties_removeHook, Bool.or_false]
    rfl

/-! ## A host that stops -/

def halt (w : System α) (name : HostName) : System α :=
  w.setHost name { w.host name with stopping := true, hooks := [] }

theorem host_halt (w : System α) (name n : HostName) :
    (w.halt name).host n =
      if n = name then { w.host n with stopping := true, hooks := [] } else w.host n := by
  rw [halt, host_setHost]
  split
  · next he => rw [he]
  · rfl

theorem Moored.halt (h : Moored w) (name : HostName) : Moored (w.halt name) := by
  refine ⟨fun n id hi => ?_, fun n hp => ?_, fun n hd => ?_⟩
  · have hlt := h.slot n id hi
    rw [host_halt]
    split <;> exact hlt
  · by_cases he : n = name
    · rw [Pends, host_halt, if_pos he] at hp
      exact absurd rfl hp
    · rw [Pends, host_halt, if_neg he] at hp
      rw [host_halt, if_neg he]
      exact h.hooks n hp
  · rw [Pends, host_halt]
    rw [host_halt] at hd
    split
    · exact not_not.2 rfl
    · next he =>
      rw [if_neg he] at hd
      exact h.stopped n hd

theorem stopHost_of_stopping (hs : (w.host name).stopping = true) :
    w.stopHost name = w.log .alreadyStopping := by
  simp [stopHost, Host.stop, hs]

theorem stopHost_of_running (hr : (w.host name).stopping = false) :
    w.stopHost name = ((w.host name).hooks.map (·.2)).foldl (fun w _ => w.shutdownIfAlive)
      ((w.halt name).log (.hostStopping (w.host name).pending)) := by
  simp [stopHost, Host.stop, hr, Host.pending, System.halt]

/-- The host hands over one hook at most, and that shuts the coordinator down. -/
theorem Moored.stopHost_of_running (h : Moored w) (hr : (w.host name).stopping = false) :
    w.stopHost name =
      if w.alive ∧ w.Pends name then
        ((w.halt name).log (.hostStopping (w.host name).pending)).shutdown
      else (w.halt name).log (.hostStopping (w.host name).pending) := by
  rw [System.stopHost_of_running hr]
  by_cases hp : w.Pends name
  · obtain ⟨id, -, hk⟩ := h.hooks name hp
    have ha : ((w.halt name).log (.hostStopping (w.host name).pending)).alive = w.alive := rfl
    rw [hk]
    simp [shutdownIfAlive, ha, hp]
  · have hk : (w.host name).hooks = [] := not_not.1 hp
    rw [hk]
    simp [hp]

/-! ## What an operation does to the hooks -/

/-- From `w` to `v` the coordinator has registered with one host, another host has stopped, or the
coordinator has been shut down, if it was not before. -/
structure Moors (w v : System α) (registers stops : Option HostName) (shuts : Bool) : Prop where
  moored : Moored v
  shutDown : v.shutDown = (w.shutDown || shuts)
  entry : v.entry.isSome = w.entry.isSome
  stopping : ∀ n, (v.host n).stopping = true ↔ (w.host n).stopping = true ∨ stops = some n
  pends : ∀ n, v.Pends n ↔
    shuts = false ∧ (registers = some n ∨ (registers = none ∧ stops ≠ some n ∧ w.Pends n))

theorem Moored.moors_of_ties (h : Moored w) (hv : v.ties = w.ties) : Moors w v none none false := by
  have hm := h.of_ties hv
  simp only [ties, Prod.mk.injEq] at hv
  obtain ⟨hh, -, hd, he⟩ := hv
  refine ⟨hm, by rw [hd, Bool.or_false], he, fun n => ?_, fun n => ?_⟩
  · simp [host, hh]
  · simp [Pends, host, hh]

theorem Moored.moors_shutdown (h : Moored w) : Moors w w.shutdown none none true := by
  refine ⟨h.shutdown, ?_, isSome_entry_shutdown w, fun n => ?_, fun n => ?_⟩
  · rw [shutDown_shutdown, Bool.or_true]
  · simp [h.host_shutdown]
  · simpa using h.not_pends_shutdown n

theorem Moored.moors_registerShutdown (h : Moored w) (name : HostName) :
    Moors w (w.registerShutdown name) (some name) none (w.host name).stopping := by
  have ht := ties_registerShutdown w name
  simp only [ties, Prod.mk.injEq] at ht
  obtain ⟨-, hslot, hdown, hentry⟩ := ht
  cases hs : (w.host name).stopping with
  | true =>
    have hn := h.host_register_of_stopping hs
    have hp : ∀ n, ¬ (w.registerShutdown name).Pends n := fun n => by simp [Pends, hn]
    refine ⟨⟨fun n id hi => ?_, fun n hpn => absurd hpn (hp n), fun n _ => hp n⟩, ?_, hentry,
      fun n => by simp [hn], fun n => by simp [hp]⟩
    · cases hslot.symm.trans hi
      simp [hn]
    · rw [hdown, hs]
  | false =>
    have hn := h.host_register_of_running hs
    have hp : ∀ n, (w.registerShutdown name).Pends n ↔ n = name := by
      intro n
      rw [Pends, hn]
      split <;> simp_all
    refine ⟨⟨fun n id hi => ?_, fun n hpn => ?_, fun n hd hpn => ?_⟩, ?_, hentry, fun n => ?_,
      fun n => ?_⟩
    · cases hslot.symm.trans hi
      simp [hn]
    · obtain rfl := (hp n).1 hpn
      exact ⟨_, hslot, by rw [hn, if_pos rfl]⟩
    · obtain rfl := (hp n).1 hpn
      rw [hn, if_pos rfl] at hd
      cases hs.symm.trans hd
    · rw [hdown, hs]
    · rw [hn]
      split <;> simp_all
    · rw [hp]
      simp [eq_comm]

theorem Moored.moors_halt (h : Moored w) (name : HostName) :
    Moors w (w.halt name) none (some name) false := by
  refine ⟨h.halt name, (Bool.or_false _).symm, rfl, fun n => ?_, fun n => ?_⟩
  · by_cases he : name = n
    · simp [host_halt, he]
    · simp [host_halt, he, Ne.symm he]
  · by_cases he : name = n
    · simp [Pends, host_halt, he]
    · simp [Pends, host_halt, he, Ne.symm he]

theorem Moored.moors_stopHost (h : Moored w) (hr : (w.host name).stopping = false) :
    Moors w (w.stopHost name) none (some name) (w.alive && decide (w.Pends name)) := by
  have hhalt := h.moors_halt name
  have hlog : Moors w ((w.halt name).log (.hostStopping (w.host name).pending)) none (some name)
      false := ⟨hhalt.moored.of_ties rfl, hhalt.shutDown, hhalt.entry, hhalt.stopping, hhalt.pends⟩
  rw [h.stopHost_of_running hr]
  by_cases hs : w.alive = true ∧ w.Pends name
  · have hd := hlog.moored.moors_shutdown
    rw [if_pos hs, hs.1, decide_eq_true hs.2]
    refine ⟨hd.moored, ?_, hd.entry.trans hlog.entry, fun n => ?_, fun n => ?_⟩
    · rw [hd.shutDown, Bool.or_true, Bool.and_self, Bool.or_true]
    · rw [hd.stopping, hlog.stopping]
      simp
    · rw [hd.pends]
      simp
  · have hf : (w.alive && decide (w.Pends name)) = false := by
      simpa using fun ha hp => hs ⟨ha, hp⟩
    rw [if_neg hs, hf]
    exact hlog

theorem Moored.moors_shutdownIfAlive (h : Moored w) :
    Moors w w.shutdownIfAlive none none w.alive := by
  unfold shutdownIfAlive
  cases ha : w.alive with
  | true => exact h.moors_shutdown
  | false => exact h.moors_of_ties rfl

theorem Moored.moors_unload (h : Moored w) :
    Moors w w.unload none none (w.alive && w.entry.any (·.unloadHook)) := by
  unfold unload
  split
  · next entry he =>
    split
    · next hu =>
      have hv : Moored { w with entry := some { entry with unloadHook := false } } :=
        h.of_ties (by simp [ties, he])
      have hm := hv.moors_shutdownIfAlive
      have ha : (w.alive && w.entry.any (·.unloadHook)) = w.alive := by simp [he, hu]
      rw [ha]
      exact ⟨hm.moored, hm.shutDown, hm.entry.trans (by simp [he]), hm.stopping, hm.pends⟩
    · next hu =>
      have ha : (w.alive && w.entry.any (·.unloadHook)) = false := by simp [he, hu]
      rw [ha]
      exact h.moors_of_ties rfl
  · next he =>
    rw [he, Option.any_none, Bool.and_false]
    exact h.moors_of_ties rfl

/-! ## Turns -/

namespace Turn

def registers? (t : Turn α) : Option HostName :=
  match t.task with
  | .deed (.registerShutdown name) =>
    if t.before.held && t.before.entry.isNone then some name else none
  | _ => none

/-- The host that stops, unless it is stopping already. -/
def stops? (t : Turn α) : Option HostName :=
  match t.task with
  | .deed (.stopHost name) => if (t.before.host name).stopping then none else some name
  | _ => none

/-- The coordinator is shut down, if it was not before: by a call, by the host it registers with, by
the host that its hook is on, or when its entry is unloaded. -/
def shuts (t : Turn α) : Bool :=
  match t.task with
  | .deed .shutdown => t.before.held
  | .deed (.registerShutdown name) => t.registers?.isSome && (t.before.host name).stopping
  | .deed (.stopHost name) => t.stops?.isSome && (t.before.alive && decide (t.before.Pends name))
  | .deed .unload => t.before.alive && t.before.entry.any (·.unloadHook)
  | _ => false

theorem still_of_not_isTie (h : t.task.isTie = false) :
    t.registers? = none ∧ t.stops? = none ∧ t.shuts = false := by
  obtain ⟨task, w⟩ := t
  cases task with
  | deed deed => cases deed <;> first | exact ⟨rfl, rfl, rfl⟩ | cases h
  | hear | start | enter | fetched | conclude | refreshDue | cooldownOver => exact ⟨rfl, rfl, rfl⟩

end Turn

theorem carryOut_registerShutdown (w : System α) (name : HostName) :
    w.carryOut (.registerShutdown name) =
      if w.held && w.entry.isNone then w.registerShutdown name else w := by
  cases hh : w.held <;> cases he : w.entry <;> simp [carryOut, Deed.needsHandle, refusal?, hh, he]

theorem carryOut_shutdown (w : System α) :
    w.carryOut .shutdown = if w.held then w.shutdown else w := by
  cases hh : w.held <;> simp [carryOut, Deed.needsHandle, refusal?, hh]

/-- **What a turn does to the hooks.** -/
theorem Turn.moors [BEq α] (h : Moored t.before) :
    Moors t.before t.after t.registers? t.stops? t.shuts := by
  by_cases ht : t.task.isTie
  swap
  · obtain ⟨hr, hs, hd⟩ := Turn.still_of_not_isTie (Bool.eq_false_iff.2 ht)
    rw [hr, hs, hd]
    exact h.moors_of_ties (ties_perform t.before (Bool.eq_false_iff.2 ht))
  obtain ⟨task, w⟩ := t
  cases task with
  | hear | start | enter | fetched | conclude | refreshDue | cooldownOver => cases ht
  | deed deed =>
    show Moors w (w.carryOut deed) _ _ _
    cases deed with
    | addListener | unsubscribe | setData | setFault | setInterval | setPolling | spawn | drop =>
      cases ht
    | shutdown =>
      rw [carryOut_shutdown]
      show Moors w _ none none w.held
      split
      · next hh =>
        rw [hh]
        exact h.moors_shutdown
      · next hh =>
        rw [Bool.eq_false_iff.2 hh]
        exact h.moors_of_ties rfl
    | registerShutdown name =>
      rw [carryOut_registerShutdown]
      simp only [Turn.registers?, Turn.stops?, Turn.shuts]
      split
      · simpa using h.moors_registerShutdown name
      · simpa using h.moors_of_ties rfl
    | stopHost name =>
      show Moors w (w.stopHost name) _ _ _
      simp only [Turn.registers?, Turn.stops?, Turn.shuts]
      cases hs : (w.host name).stopping with
      | true =>
        have hm : Moors w (w.log .alreadyStopping) none none false := h.moors_of_ties rfl
        rw [stopHost_of_stopping hs]
        simpa using hm
      | false => simpa using h.moors_stopHost hs
    | unload => exact h.moors_unload

/-- The host that a hook is pending on does not stop without shutting the coordinator down, unless
that is gone. -/
theorem Turn.shuts_of_stops {name : HostName} (hs : t.stops? = some name)
    (ha : t.before.alive = true) (hp : t.before.Pends name) : t.shuts = true := by
  obtain ⟨task, w⟩ := t
  cases task with
  | deed deed =>
    cases deed with
    | stopHost name' =>
      have hn : name' = name := by
        simp only [Turn.stops?] at hs
        split at hs
        · cases hs
        · exact Option.some.inj hs
      subst hn
      simp only [Turn.shuts, hs]
      simpa using ⟨ha, hp⟩
    | _ => cases hs
  | _ => cases hs

end System

end Freshness
