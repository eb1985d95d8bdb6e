import Freshness.Proofs.Coordinator.Shutdown

/-!
# The refresh timer is armed for listeners

* `System.Ready` : the refresh timer could be armed now;
* `System.Manned`, `System.Served` : it is armed for a listener only; it is armed if anyone listens;
* `System.Attends`, `System.Idles`, `System.Aside` : what deeds, triggers and the end of a cycle do
  to the timer and its listeners; `System.fetched_eq_followUp` : what the end of a fetch comes down to;
* `Reachable.manned` : in no state is the timer armed while nobody listens.
-/

namespace Freshness

/-! ## Rosters -/

namespace Roster

variable {κ χ : Type}

theorem isEmpty_add (r : Roster κ χ) (callback : κ) (context : Option χ) :
    (r.add callback context).2.isEmpty = false := by
  simp [add, isEmpty]

theorem isEmpty_remove_of_emptied {r : Roster κ χ} {id : ListenerId}
    (h : (r.remove id).1 = true) : (r.remove id).2.isEmpty = true :=
  (Bool.and_eq_true_iff.1 h).2

theorem isEmpty_remove {r : Roster κ χ} {id : ListenerId} (h : (r.remove id).1 = false) :
    (r.remove id).2.isEmpty = r.isEmpty := by
  have hr : (r.remove id).2.isEmpty = (r.listeners.filter (·.id != id)).isEmpty := rfl
  rw [hr]
  cases hl : r.listeners with
  | nil => simp [isEmpty, hl]
  | cons l ls =>
    simp only [isEmpty, hl, List.isEmpty_cons]
    cases he : ((l :: ls).filter (·.id != id)).isEmpty with
    | false => rfl
    | true =>
      have hall := List.filter_eq_nil_iff.1 (List.isEmpty_iff.1 he) l (.head _)
      have hany : (r.remove id).1 = true := by
        simp only [remove, hl, he, Bool.and_true, List.any_cons]
        simp_all
      rw [h] at hany
      cases hany

end Roster

/-! ## Arming -/

theorem Schedule.isArmed_arm {ω : Type} {s : Schedule} {interval : Duration} {t : Timers ω}
    (hi : s.interval = some interval)
    (hd : s.deadlineAt t.now interval < clockEnd) (job : Nat → ω) :
    (s.arm t false false job).2.1.isArmed = true := by
  have hs : (s.disarm t).1 = { s with armed := none } := Schedule.disarm_fst s t
  have ht : (s.disarm t).2.now = t.now := Schedule.now_disarm s t
  have hn : ¬clockEnd ≤ ({ (s.disarm t).1 with
      generation := (s.disarm t).1.generation + 1 } : Schedule).deadlineAt (s.disarm t).2.now
        interval := by
    rw [hs, ht]
    exact Nat.not_le.2 hd
  simp only [Schedule.arm, hi, Bool.false_eq_true, if_false, if_neg hn]
  rfl

namespace System

variable {α : Type}

/-- The refresh timer could be armed now. -/
structure Ready (w : System α) : Prop where
  shutDown : w.shutDown = false
  polling : w.pollingDisabled = false
  interval : ∃ interval, w.schedule.interval = some interval ∧
    w.schedule.deadlineAt w.now interval < clockEnd

def Manned (w : System α) : Prop := w.schedule.isArmed = true → w.roster.isEmpty = false

def Served (w : System α) : Prop := w.roster.isEmpty = false → w.schedule.isArmed = true

@[simp] theorem schedule_logAny (w : System α) (n : Option Notice) :
    (w.logAny n).schedule = w.schedule := by
  cases n <;> rfl

theorem armed_standDown (w : System α) : w.standDown.schedule.isArmed = false := by
  have hs : w.standDown.schedule = { w.schedule with armed := none } := Schedule.disarm_fst _ _
  rw [hs]
  rfl

theorem armed_scheduleRefresh {w : System α} (h : w.Ready) :
    w.scheduleRefresh.schedule.isArmed = true := by
  obtain ⟨interval, hi, hd⟩ := h.interval
  unfold scheduleRefresh
  rw [schedule_logAny, h.shutDown, h.polling]
  exact Schedule.isArmed_arm hi hd _

theorem roster_scheduleRefresh (w : System α) : w.scheduleRefresh.roster = w.roster :=
  (calm_scheduleRefresh w).roster

/-! ## What has to do with neither -/

/-- What has to do with neither the listeners nor their timer. -/
def Aside (w v : System α) : Prop := v.roster = w.roster ∧ v.schedule = w.schedule

theorem Aside.trans {u v w : System α} (h₁ : Aside u v) (h₂ : Aside v w) : Aside u w :=
  ⟨h₂.1.trans h₁.1, h₂.2.trans h₁.2⟩

theorem Told.aside {w v : System α} (h : Told w v) : Aside w v := by
  rw [h.2]
  exact ⟨rfl, rfl⟩

theorem aside_returnTo (w : System α) (outcome : Except Refusal Health) (origin : Origin) :
    Aside w (w.returnTo outcome origin) := by
  cases origin with
  | call caller call =>
    cases call with
    | request =>
      rw [returnTo_request]
      exact ⟨rfl, rfl⟩
    | refresh | first | interval => exact ⟨rfl, rfl⟩
  | timer => exact (told_logAny w _).aside
  | cooldown => exact (told_logAny w _).aside

theorem aside_ask (w : System α) (origin : Origin) : Aside w (w.ask origin) := by
  rw [ask_frame]
  exact ⟨rfl, rfl⟩

theorem aside_beginFetch (w : System α) (cycle : Cycle) : Aside w (w.beginFetch cycle) := by
  rw [beginFetch_frame]
  exact ⟨rfl, rfl⟩

theorem aside_release (w : System α) (releaser : Origin) : Aside w (w.release releaser) := by
  rw [release_frame]
  exact ⟨rfl, rfl⟩

theorem aside_conclude (w : System α) (cycle : Cycle) (outcome : Except Refusal Health) :
    Aside w (w.conclude cycle outcome) :=
  (aside_release w _).trans (aside_returnTo _ _ _)

theorem followUp_frame (w : System α) (cycle : Cycle) (verdict : Verdict) (fault : Option Fault)
    (health : Health) :
    w.followUp cycle verdict fault health =
      { (if verdict.reschedule then w.scheduleRefresh else w) with
        agenda := (w.followUp cycle verdict fault health).agenda } := by
  unfold followUp
  dsimp only
  generalize (if verdict.reschedule = true then w.scheduleRefresh else w) = u
  split
  · rfl
  · split <;> rfl

theorem aside_followUp (w : System α) (cycle : Cycle) (verdict : Verdict) (fault : Option Fault)
    (health : Health) :
    Aside (if verdict.reschedule then w.scheduleRefresh else w)
      (w.followUp cycle verdict fault health) := by
  rw [followUp_frame]
  exact ⟨rfl, rfl⟩

/-! ## Deeds -/

/-- What a deed does to the refresh timer, as far as its listeners go. -/
structure Attends (w v : System α) : Prop where
  manned : w.Manned → v.Manned
  served : w.Ready → v.shutDown = false → w.Served → v.Served

theorem attends_of_eq {w v : System α} (hs : v.schedule.armed = w.schedule.armed)
    (hr : v.roster = w.roster) : Attends w v := by
  have ha : v.schedule.isArmed = w.schedule.isArmed := by
    unfold Schedule.isArmed
    rw [hs]
  refine ⟨?_, ?_⟩
  · unfold Manned
    rw [ha, hr]
    exact id
  · intro _ _
    unfold Served
    rw [ha, hr]
    exact id

theorem attends_addListener (w : System α) (label : String) (context : Option String)
    (conduct : List (List (Deed α))) : Attends w (w.addListener label context conduct) := by
  have hne := Roster.isEmpty_add w.roster ⟨label, w.roster.freshId.number⟩ context
  unfold addListener
  dsimp only
  split
  · refine ⟨fun _ _ => ?_, fun hr _ _ _ => ?_⟩
    · rw [roster_scheduleRefresh]
      exact hne
    · exact armed_scheduleRefresh ⟨hr.shutDown, hr.polling, hr.interval⟩
  · next he => exact ⟨fun _ _ => hne, fun _ _ hs _ => hs (Bool.eq_false_iff.2 he)⟩

theorem attends_unsubscribe (w : System α) (label : String) : Attends w (w.unsubscribe label) := by
  unfold unsubscribe
  split
  · exact attends_of_eq rfl rfl
  split
  · next id _ _ =>
    dsimp only
    split
    · next he =>
      refine ⟨fun _ ha => ?_, fun _ _ _ hn => ?_⟩
      · rw [armed_standDown] at ha
        cases ha
      · have hr : (w.roster.remove id).2.isEmpty = false := hn
        rw [Roster.isEmpty_remove_of_emptied he] at hr
        cases hr
    · next he =>
      have hr := Roster.isEmpty_remove (Bool.eq_false_iff.2 he)
      exact ⟨fun hm ha => hr.trans (hm ha), fun _ _ hs hn => hs (hr.symm.trans hn)⟩
  · exact attends_of_eq rfl rfl

theorem Ready.standDown {w : System α} (h : w.Ready) : w.standDown.Ready := by
  have hs : w.standDown.schedule = { w.schedule with armed := none } := Schedule.disarm_fst _ _
  have hn : w.standDown.now = w.now :=
    (Debounce.now_cancel _ _).trans (Schedule.now_disarm _ _)
  refine ⟨h.shutDown, h.polling, ?_⟩
  rw [hs, hn]
  exact h.interval

theorem attends_setData (w : System α) (a : α) : Attends w (w.setData a) := by
  unfold setData
  dsimp only
  split
  · next he =>
    refine ⟨fun _ ha => ?_, fun _ _ _ hn => ?_⟩
    · have hd : w.standDown.schedule.isArmed = true := ha
      rw [armed_standDown] at hd
      cases hd
    · have hr : w.standDown.roster.isEmpty = false := hn
      have he' : w.standDown.roster.isEmpty = true := he
      rw [he'] at hr
      cases hr
  · next he =>
    refine ⟨fun _ _ => ?_, fun hr _ _ _ => ?_⟩
    · have hn := (Bool.eq_false_iff.2 he)
      rw [← roster_scheduleRefresh] at hn
      exact hn
    · have hd := hr.standDown
      exact armed_scheduleRefresh ⟨hd.shutDown, hd.polling, hd.interval⟩

/-- From `w` to `v` the coordinator is shut down, or its timer and listeners stay as they are. -/
def Closes (w v : System α) : Prop :=
  v.roster = w.roster ∧ (v.schedule = w.schedule ∨ v.Inert)

theorem Closes.trans {u v w : System α} (h₁ : Closes u v) (h₂ : Closes v w) (hw : Still v w) :
    Closes u w := by
  refine ⟨h₂.1.trans h₁.1, ?_⟩
  rcases h₂.2 with hs | hi
  · rcases h₁.2 with hs' | hi
    · exact .inl (hs.trans hs')
    · exact .inr (hw.inert hi).1
  · exact .inr hi

theorem Closes.attends {w v : System α} (h : Closes w v) : Attends w v := by
  obtain ⟨hr, hs | hi⟩ := h
  · exact attends_of_eq (by rw [hs]) hr
  · refine ⟨fun _ ha => ?_, fun _ ho _ _ => ?_⟩
    · rw [Schedule.isArmed, hi.schedule] at ha
      cases ha
    · rw [hi.shutDown] at ho
      cases ho

theorem closes_removeHook (w : System α) (hook : Option (HostName × HookId)) :
    Closes w (w.removeHook hook) := by
  unfold removeHook
  split
  · exact ⟨rfl, .inl rfl⟩
  · exact ⟨rfl, .inl rfl⟩

theorem roster_shutdown (w : System α) : w.shutdown.roster = w.roster := by
  obtain ⟨u, -, -, hu, ht⟩ := shutdown_cases w
  calc w.shutdown.roster = (u.removeHook w.stopHook).roster := by rw [ht.2]
    _ = u.roster := (closes_removeHook u _).1
    _ = w.roster := hu

theorem closes_shutdown (w : System α) : Closes w w.shutdown :=
  ⟨roster_shutdown w, .inr (shutdown_spec w).1⟩

theorem closes_shutdownIfAlive (w : System α) : Closes w w.shutdownIfAlive := by
  unfold shutdownIfAlive
  split
  · exact closes_shutdown w
  · exact ⟨rfl, .inl rfl⟩

theorem closes_registerShutdown (w : System α) (name : HostName) :
    Closes w (w.registerShutdown name) := by
  unfold registerShutdown
  dsimp only
  refine .trans ?_ (closes_removeHook _ _) (still_removeHook _ _)
  split
  · have h := closes_shutdown (w.setHost name ((w.host name).register ()).2)
    refine ⟨h.1, .inr ?_⟩
    have hi := (shutdown_spec (w.setHost name ((w.host name).register ()).2)).1
    exact ⟨hi.shutDown, hi.schedule, hi.debounce, hi.pending, hi.closed⟩
  · exact ⟨rfl, .inl rfl⟩

theorem closes_stopHost (w : System α) (name : HostName) : Closes w (w.stopHost name) := by
  have hf : ∀ (hooks : List Unit) (w : System α),
      Closes w (hooks.foldl (fun w _ => w.shutdownIfAlive) w) ∧
        Still w (hooks.foldl (fun w _ => w.shutdownIfAlive) w) := by
    intro hooks
    induction hooks with
    | nil => exact fun w => ⟨⟨rfl, .inl rfl⟩, .refl w⟩
    | cons _ hooks ih =>
      intro w
      obtain ⟨hc, hs⟩ := ih w.shutdownIfAlive
      exact ⟨(closes_shutdownIfAlive w).trans hc hs, (effects_shutdownIfAlive w).still.trans hs⟩
  unfold stopHost
  split
  · exact ⟨rfl, .inl rfl⟩
  · next hooks host _ =>
    obtain ⟨hr, hs⟩ := (hf hooks ((w.setHost name host).log (.hostStopping hooks.length))).1
    exact ⟨hr, hs⟩

theorem closes_unload (w : System α) : Closes w w.unload := by
  unfold unload
  split
  · next entry _ =>
    split
    · obtain ⟨hr, hs⟩ := closes_shutdownIfAlive
        { w with entry := some { entry with unloadHook := false } }
      exact ⟨hr, hs⟩
    · exact ⟨rfl, .inl rfl⟩
  · exact ⟨rfl, .inl rfl⟩

theorem attends_setFault (w : System α) (f : Fault) : Attends w (w.setFault f) := by
  unfold setFault
  dsimp only
  split <;> exact attends_of_eq rfl rfl

theorem attends_carryOut (w : System α) (deed : Deed α) : Attends w (w.carryOut deed) := by
  unfold carryOut
  split
  · exact attends_of_eq rfl rfl
  · cases deed with
    | addListener label context conduct => exact attends_addListener w label context conduct
    | unsubscribe label => exact attends_unsubscribe w label
    | setData a => exact attends_setData w a
    | setFault f => exact attends_setFault w f
    | setInterval interval => exact attends_of_eq rfl rfl
    | shutdown => exact (closes_shutdown w).attends
    | registerShutdown host => exact (closes_registerShutdown w host).attends
    | stopHost host => exact (closes_stopHost w host).attends
    | unload => exact (closes_unload w).attends
    | setPolling disabled => exact attends_of_eq rfl rfl
    | spawn label call => exact attends_of_eq rfl rfl
    | drop => exact attends_of_eq rfl rfl

/-! ## Triggers -/

/-- A trigger that asks for no cycle leaves the timer alone. -/
def Idles (w v : System α) : Prop :=
  v.roster = w.roster ∧ (v.schedule.isArmed = true → w.schedule.isArmed = true) ∧
    (v.serial = w.serial → v.schedule = w.schedule)

theorem Aside.idles {w v : System α} (h : Aside w v) : Idles w v := ⟨h.1, h.2 ▸ id, fun _ => h.2⟩

theorem idles_start (w : System α) (caller : Caller) (call : Call) :
    Idles w (w.start caller call) := by
  cases call with
  | request =>
    simp only [start]
    have hl := told_logAny
      { w with debounce := (w.debounce.request w.timers .cooldownOver).2.1
               timers := (w.debounce.request w.timers .cooldownOver).2.2 }
      ((w.debounce.request w.timers .cooldownOver).1.notice w.debounce.name)
    split
    · exact (hl.aside.trans (aside_ask _ _)).idles
    · exact hl.aside.idles
    · exact hl.aside.idles
  | refresh | first | interval => exact (aside_ask w _).idles

theorem takeFired_cases (s : Schedule) (generation : Nat) :
    s.takeFired generation = (true, { s with armed := none }) ∨
      s.takeFired generation = (false, s) := by
  unfold Schedule.takeFired
  split
  · exact .inl rfl
  · exact .inr rfl

theorem idles_refreshDue (w : System α) (generation : Nat) :
    Idles w (w.refreshDue generation) := by
  unfold refreshDue
  split
  · rcases takeFired_cases w.schedule generation with h | h
    · rw [h]
      have hf := ask_frame { w with schedule := { w.schedule with armed := none } } .timer
      dsimp only
      rw [if_pos rfl, hf]
      refine ⟨rfl, fun ha => ?_, fun hn => ?_⟩
      · cases ha
      · exact absurd hn (Nat.succ_ne_self _)
    · rw [h]
      exact Aside.idles ⟨rfl, rfl⟩
  · exact Aside.idles ⟨rfl, rfl⟩

theorem idles_cooldownOver (w : System α) (generation : Nat) :
    Idles w (w.cooldownOver generation) := by
  unfold cooldownOver
  split
  · dsimp only
    split
    · exact (aside_ask { w with debounce := (w.debounce.cooldownOver generation).2 } _).idles
    · exact Aside.idles ⟨rfl, rfl⟩
  · exact Aside.idles ⟨rfl, rfl⟩

/-! ## Stages -/

theorem armed_enter (w : System α) (cycle : Cycle) :
    (w.enter cycle).schedule.isArmed = false := by
  unfold enter
  dsimp only
  split
  · exact armed_standDown w
  split
  · exact armed_standDown w
  · rw [(aside_beginFetch _ _).2]
    exact armed_standDown w

/-- `v` is `w` but for what is known of the source and what has been logged. -/
def Noted (w v : System α) : Prop := ∃ standing journal, v = { w with standing, journal }

theorem Noted.told {u v w : System α} (h : Noted u v) (hv : Told v w) : Noted u w := by
  obtain ⟨standing, journal, rfl⟩ := h
  exact ⟨standing, w.journal, hv.2⟩

theorem listens_of_reschedule {p : Policy} {report : Report} {manner : Manner}
    {hasListeners stopping : Bool}
    (h : (p.judge report manner hasListeners stopping).reschedule = true) :
    hasListeners = true := by
  simp only [Policy.judge, Bool.and_eq_true] at h
  exact h.1.1

variable [BEq α]

theorem noted_applyResult (w : System α) (cycle : Cycle) (result : Except Fault α) :
    Noted w (w.applyResult cycle result).1 :=
  ⟨_, _, applyResult_frame w cycle result⟩

/-- The end of a fetch comes down to its verdict, which is carried out on the same system but for
what is known and logged. -/
theorem fetched_eq_followUp (w : System α) (cycle : Cycle) (begun : Nat)
    (result : Except Fault α) :
    ∃ u fault health, Noted w u ∧
      w.fetched cycle begun result = u.followUp cycle
        (w.policy.judge (w.applyResult cycle result).2 cycle.origin.manner (!w.roster.isEmpty)
          w.hostStopping) fault health := by
  unfold fetched
  dsimp only
  obtain ⟨standing, journal, hx⟩ :=
    (noted_applyResult w cycle result).told (told_logReport _ cycle.origin.manner
      (w.applyResult cycle result).2 (faultOf? result))
  rw [hx]
  have hn : Noted w { w with standing, journal } := ⟨standing, journal, rfl⟩
  refine ⟨_, _, _, Noted.told ?_ (told_log _ _), rfl⟩
  split
  · exact hn.told (told_askForCredentials _)
  · exact hn

theorem roster_fetched (w : System α) (cycle : Cycle) (begun : Nat) (result : Except Fault α) :
    (w.fetched cycle begun result).roster = w.roster := by
  obtain ⟨u, fault, health, ⟨standing, journal, rfl⟩, hf⟩ :=
    fetched_eq_followUp w cycle begun result
  rw [hf, (aside_followUp _ _ _ _ _).1]
  split
  · exact roster_scheduleRefresh _
  · rfl

theorem manned_fetched {w : System α} (h : w.Manned) (cycle : Cycle) (begun : Nat)
    (result : Except Fault α) : (w.fetched cycle begun result).Manned := by
  unfold Manned
  rw [roster_fetched]
  obtain ⟨u, fault, health, ⟨standing, journal, rfl⟩, hf⟩ :=
    fetched_eq_followUp w cycle begun result
  rw [hf, (aside_followUp _ _ _ _ _).2]
  split
  · next hv =>
    intro _
    simpa using listens_of_reschedule hv
  · exact h

/-! ## Armed for listeners only -/

theorem manned_perform {w : System α} (h : w.Manned) (task : Task α) : (w.perform task).Manned := by
  have hidle : ∀ {v : System α}, Idles w v → v.Manned := by
    intro v hv
    unfold Manned
    rw [hv.1]
    exact fun ha => h (hv.2.1 ha)
  cases task with
  | deed deed => exact (attends_carryOut w deed).manned h
  | hear callback => exact h
  | start caller call => exact hidle (idles_start w caller call)
  | enter cycle =>
    intro ha
    cases (armed_enter w cycle).symm.trans ha
  | fetched cycle begun result => exact manned_fetched h cycle begun result
  | conclude cycle outcome =>
    obtain ⟨hr, hs⟩ := aside_conclude w cycle outcome
    unfold Manned
    show (w.conclude cycle outcome).schedule.isArmed = true →
      (w.conclude cycle outcome).roster.isEmpty = false
    rw [hr, hs]
    exact h
  | refreshDue generation => exact hidle (idles_refreshDue w generation)
  | cooldownOver generation => exact hidle (idles_cooldownOver w generation)

theorem Reachable.manned {w : System α} (h : Reachable w) : w.Manned := by
  obtain ⟨p, jitter, now, hm⟩ := h
  have hwork : ∀ {w : System α} (task : Task α) (rest : List (Task α)), w.agenda = task :: rest →
      w.Manned → ({ w with agenda := rest }.perform task).Manned := by
    intro w task rest _ hw
    have hr : Manned { w with agenda := rest } := hw
    exact manned_perform hr task
  refine Moves.induct (fun hp hw => ?_) hwork hm ?_
  · cases hp <;> exact hw
  · intro ha
    cases ha

end System

end Freshness
