import Freshness.Proofs.Coordinator.Quiet
import Mathlib.Logic.Relation

/-!
# What tasks are made of

* `System.Stir`, `System.Stirs` : something is written down, or a timer is armed, disarmed or has
  fired; any number of these;
* `System.Effect`, `System.Effects` : besides, what a deed or a callback may do at one point;
* `Stirs.calm`, `Effects.quiet` : none of this has to do with cycles;
* `System.effects_carryOut`, `System.effects_hear` : every deed and every callback is made of these.
-/

namespace Freshness.System

variable {α : Type}

/-! ## Stirs -/

inductive Stir (w : System α) : System α → Prop where
  | told {v : System α} : Told w v → Stir w v
  | standDown : Stir w w.standDown
  | scheduleRefresh : Stir w w.scheduleRefresh
  | endRun : Stir w w.endRun.2
  | request : Stir w { w with debounce := (w.debounce.request w.timers .cooldownOver).2.1
                              timers := (w.debounce.request w.timers .cooldownOver).2.2 }
  | refreshDue (generation : Nat) :
    Stir w { w with schedule := (w.schedule.takeFired generation).2 }
  | cooldownOver (generation : Nat) :
    Stir w { w with debounce := (w.debounce.cooldownOver generation).2 }

def Stirs : System α → System α → Prop := Relation.ReflTransGen Stir

theorem Stir.stirs {w v : System α} (h : Stir w v) : Stirs w v := .single h

theorem Told.stirs {w v : System α} (h : Told w v) : Stirs w v := .single (.told h)

theorem calm_of_stir {w v : System α} (h : Stir w v) : Calm w v := by
  cases h with
  | told h => exact h.calm
  | standDown => exact calm_standDown w
  | scheduleRefresh => exact calm_scheduleRefresh w
  | endRun => exact ⟨rfl, Clocks.kept_endRun w.schedule w.debounce w.timers, .refl _⟩
  | request => exact ⟨rfl, Clocks.kept_request w.schedule w.debounce w.timers, .refl _⟩
  | refreshDue generation =>
    exact ⟨rfl, Clocks.kept_takeFired w.schedule w.debounce w.timers generation, .refl _⟩
  | cooldownOver generation =>
    exact ⟨rfl, Clocks.kept_cooldownOver w.schedule w.debounce w.timers generation, .refl _⟩

theorem Stirs.calm {w v : System α} (h : Stirs w v) : Calm w v := by
  induction h with
  | refl => exact .refl w
  | tail _ hs ih => exact ih.trans (calm_of_stir hs)

/-- A request is answered when its cycle has ended, or it breaks off. -/
theorem returnTo_request (w : System α) (outcome : Except Refusal Health) (caller : Caller) :
    w.returnTo outcome (.call caller .request) = w.endRun.2.record
      (if w.endRun.1 then .brokeOff caller else .answered caller (refusalOf? outcome)) := by
  unfold returnTo
  dsimp only
  split <;> rfl

theorem stirs_returnTo (w : System α) (outcome : Except Refusal Health) (origin : Origin) :
    Stirs w (w.returnTo outcome origin) := by
  cases origin with
  | call caller call =>
    cases call with
    | request =>
      rw [returnTo_request]
      refine Stir.endRun.stirs.trans (told_record _ ?_).stirs
      split <;> rfl
    | refresh | first | interval => exact (told_answer w _ _).stirs
  | timer => exact (told_logAny w _).stirs
  | cooldown => exact (told_logAny w _).stirs.trans Stir.endRun.stirs

/-! ## Effects -/

/-- What a deed or a callback does at one point. -/
inductive Effect (w : System α) : System α → Prop where
  | stir {v : System α} : Stir w v → Effect w v
  | calls {tasks : List (Task α)} : (∀ x ∈ tasks, x.isCallback = true) → Effect w (w.next tasks)
  | spawn (caller : Caller) (call : Call) : Effect w (w.later (.start caller call))
  | shutdown : Effect w w.shutdown
  | interval (interval : Option Duration) :
    Effect w { w with schedule := w.schedule.setInterval interval }
  | standing (standing : Standing α) : Effect w { w with standing }
  | listeners (roster : Roster Callback String) (labels : List (String × ListenerId))
      (conducts : List (Nat × List (List (Deed α)))) : Effect w { w with roster, labels, conducts }
  | hosts (hosts : HostName → Host Unit) (stopHook : Option (HostName × HookId))
      (entry : Option Entry) : Effect w { w with hosts, stopHook, entry }
  | drop : Effect w { w with held := false }

def Effects : System α → System α → Prop := Relation.ReflTransGen Effect

theorem Effect.effects {w v : System α} (h : Effect w v) : Effects w v := .single h

theorem Stir.effects {w v : System α} (h : Stir w v) : Effects w v := .single (.stir h)

theorem Told.effects {w v : System α} (h : Told w v) : Effects w v := (Stir.told h).effects

theorem Stirs.effects {w v : System α} (h : Stirs w v) : Effects w v := by
  induction h with
  | refl => exact .refl
  | tail _ hs ih => exact ih.tail (.stir hs)

theorem quiet_of_effect {w v : System α} (h : Effect w v) : Quiet w v := by
  cases h with
  | stir h => exact (calm_of_stir h).quiet
  | calls h => exact quiet_next w h
  | spawn caller call => exact quiet_later w rfl
  | shutdown => exact quiet_shutdown w
  | interval interval => exact quiet_of_kept (Clocks.kept_of_armed (.inr rfl) (.inr rfl)) rfl
  | standing | listeners | hosts => exact quiet_of_eq rfl
  | drop =>
    refine ⟨rfl, rfl, rfl, rfl, fun h => ?_, .refl _, ⟨[], by simp, rfl⟩, .refl _⟩
    cases h

theorem Effects.quiet {w v : System α} (h : Effects w v) : Quiet w v := by
  induction h with
  | refl => exact .refl w
  | tail _ he ih => exact ih.trans (quiet_of_effect he)

/-! ## Deeds and callbacks -/

theorem effects_addListener (w : System α) (label : String) (context : Option String)
    (conduct : List (List (Deed α))) : Effects w (w.addListener label context conduct) := by
  unfold addListener
  dsimp only
  split
  · exact (Effect.listeners _ _ _).effects.trans Stir.scheduleRefresh.effects
  · exact (Effect.listeners _ _ _).effects

theorem effects_unsubscribe (w : System α) (label : String) :
    Effects w (w.unsubscribe label) := by
  unfold unsubscribe
  split
  · exact .refl
  split
  · dsimp only
    split
    · exact (Effect.listeners _ w.labels w.conducts).effects.trans Stir.standDown.effects
    · exact (Effect.listeners _ w.labels w.conducts).effects
  · exact .refl

theorem effects_notify (w : System α) : Effects w w.notify := by
  refine (Effect.calls fun x hx => ?_).effects
  obtain ⟨k, -, rfl⟩ := List.mem_map.1 hx
  rfl

theorem effects_hear (w : System α) (k : Callback) : Effects w (w.hear k) := by
  have hr : Effects w (w.record (.heard k.label w.sight)) := (told_record w rfl).effects
  unfold hear
  refine (hr.tail (.listeners w.roster w.labels _)).tail (.calls fun x hx => ?_)
  obtain ⟨deed, -, rfl⟩ := List.mem_map.1 hx
  rfl

theorem effects_setData (w : System α) (a : α) : Effects w (w.setData a) := by
  have hd : ∀ standing n, Effects w (({ w.standDown with standing } : System α).log n) := by
    intro standing n
    exact (Stir.standDown.effects.tail (.standing standing)).trans (told_log _ n).effects
  unfold setData
  dsimp only
  split
  · exact (hd _ _).trans (effects_notify _)
  · exact ((hd _ _).tail (.stir .scheduleRefresh)).trans (effects_notify _)

theorem effects_setFault (w : System α) (f : Fault) : Effects w (w.setFault f) := by
  have hs : Effects w { w with standing := (w.standing.injectFault f).1 } :=
    (Effect.standing _).effects
  unfold setFault
  dsimp only
  split
  · exact (hs.trans (told_log _ _).effects).trans (effects_notify _)
  · exact hs

theorem effects_shutdownIfAlive (w : System α) : Effects w w.shutdownIfAlive := by
  unfold shutdownIfAlive
  split
  · exact Effect.shutdown.effects
  · exact .refl

theorem effects_removeHook (w : System α) (hook : Option (HostName × HookId)) :
    Effects w (w.removeHook hook) := by
  unfold removeHook
  split
  · exact .refl
  · exact (Effect.hosts _ w.stopHook w.entry).effects

theorem effects_registerShutdown (w : System α) (name : HostName) :
    Effects w (w.registerShutdown name) := by
  have hr : Effects w (w.setHost name ((w.host name).register ()).2) :=
    (Effect.hosts _ w.stopHook w.entry).effects
  unfold registerShutdown
  dsimp only
  refine .trans ?_ (effects_removeHook _ _)
  split
  · exact (hr.tail .shutdown).tail (.hosts _ _ _)
  · exact hr.tail (.hosts _ _ _)

theorem effects_stopHost (w : System α) (name : HostName) : Effects w (w.stopHost name) := by
  have hf : ∀ (hooks : List Unit) (w : System α),
      Effects w (hooks.foldl (fun w _ => w.shutdownIfAlive) w) := by
    intro hooks
    induction hooks with
    | nil => exact fun w => .refl
    | cons _ hooks ih => exact fun w => (effects_shutdownIfAlive w).trans (ih _)
  unfold stopHost
  split
  · exact (told_log w _).effects
  · refine .trans ?_ (hf _ _)
    exact (Effect.hosts _ w.stopHook w.entry).effects.trans (told_log _ _).effects

theorem effects_unload (w : System α) : Effects w w.unload := by
  unfold unload
  split
  · split
    · exact (Effect.hosts w.hosts w.stopHook _).effects.trans (effects_shutdownIfAlive _)
    · exact .refl
  · exact .refl

/-- No deed touches the cycles. -/
theorem effects_carryOut (w : System α) (deed : Deed α) : Effects w (w.carryOut deed) := by
  unfold carryOut
  split
  · exact .refl
  · cases deed with
    | addListener label context conduct => exact effects_addListener w label context conduct
    | unsubscribe label => exact effects_unsubscribe w label
    | setData a => exact effects_setData w a
    | setFault f => exact effects_setFault w f
    | setInterval interval => exact (Effect.interval interval).effects
    | shutdown => exact Effect.shutdown.effects
    | registerShutdown host => exact effects_registerShutdown w host
    | stopHost host => exact effects_stopHost w host
    | unload => exact effects_unload w
    | setPolling disabled => exact (Effect.hosts w.hosts w.stopHook _).effects
    | spawn label call => exact (Effect.spawn _ _).effects
    | drop => exact Effect.drop.effects

end Freshness.System
