import Freshness.Proofs.Coordinator.Yields
import Freshness.Proofs.Roster

/-!
# News

* `System.verdictOn`, `System.outcomeOf` : what follows from the result of a fetch, and with what its
  cycle goes on; `System.notify_verdictOn` : who is told;
* `System.reports` : what a task reports;
* `System.News` : what a task does to the standing, the listeners, the agenda and the reports, with
  one case for each kind of news; `System.news_perform` : every task is one of these cases;
* `Roster.Sound`, `Timers.Mute` : every listener has a callback of its own, and none of them waits
  behind a timer, in every reachable state.
-/

namespace Freshness

variable {α : Type}

/-! ## Tasks -/

/-- A value or a fault is told from outside. -/
def Deed.injects : Deed α → Bool
  | .setData _ | .setFault _ => true
  | .addListener .. | .unsubscribe _ | .setInterval _ | .shutdown | .registerShutdown _
  | .stopHost _ | .unload | .setPolling _ | .spawn _ _ | .drop => false

def Origin.isFirst : Origin → Bool
  | .call _ .first => true
  | .call _ .refresh | .call _ .request | .call _ .interval => false
  | .timer | .cooldown => false

theorem Origin.manner_eq (o : Origin) :
    o.manner.raiseEntryError = o.isFirst ∧ o.manner.raiseAuthFailed = o.isFirst ∧
      o.manner.logFailures = !o.isFirst := by
  cases o with
  | call caller call => cases call <;> exact ⟨rfl, rfl, rfl⟩
  | timer | cooldown => exact ⟨rfl, rfl, rfl⟩

namespace Task

def tells : Task α → Bool
  | .deed d => d.injects
  | .fetched _ _ _ => true
  | .hear _ | .start _ _ | .enter _ | .conclude _ _ | .refreshDue _ | .cooldownOver _ => false

def hears? : Task α → Option Callback
  | .hear callback => some callback
  | .deed _ | .start _ _ | .enter _ | .fetched _ _ _ | .conclude _ _ => none
  | .refreshDue _ | .cooldownOver _ => none

/-- A failure that is not announced to the listeners: rejected credentials, and a broken entry that
the caller of a first refresh hears of. -/
def isMuted : Task α → Bool
  | .fetched cycle _ (.error f) =>
    f.kind == .authFailed || (f.kind == .configEntry && cycle.origin.isFirst)
  | .fetched _ _ (.ok _) => false
  | .deed _ | .hear _ | .start _ _ | .enter _ | .conclude _ _ => false
  | .refreshDue _ | .cooldownOver _ => false

theorem hears?_of_isCallback {task : Task α} (h : task.isCallback = false) :
    task.hears? = none := by
  cases task with
  | deed | hear => cases h
  | start | enter | fetched | conclude | refreshDue | cooldownOver => rfl

end Task

namespace System

/-! ## The end of a fetch -/

variable [BEq α]

/-- What the result of a cycle's fetch leaves behind. -/
def reportOn (w : System α) (result : Except Fault α) : Report :=
  (w.standing.apply result (w.now / 1000 : Nat)).2

/-- What is known of the source with the result of a fetch. -/
def learned (w : System α) (result : Except Fault α) : Standing α :=
  (w.standing.apply result (w.now / 1000 : Nat)).1

def verdictOn (w : System α) (cycle : Cycle) (result : Except Fault α) : Verdict :=
  w.policy.judge (w.reportOn result) cycle.origin.manner (!w.roster.isEmpty) w.hostStopping

/-- With what the cycle goes on. -/
def outcomeOf (w : System α) (cycle : Cycle) (result : Except Fault α) : Except Refusal Health :=
  passOn (w.verdictOn cycle result).escalate (faultOf? result)
    ⟨(w.learned result).lastUpdateSuccess, (w.learned result).lastFault⟩

theorem escalate_verdictOn_error (w : System α) (cycle : Cycle) (f : Fault) :
    (w.verdictOn cycle (.error f)).escalate =
      Policy.escalation cycle.origin.manner (some f.kind) := rfl

theorem applyResult_snd (w : System α) (cycle : Cycle) (result : Except Fault α) :
    (w.applyResult cycle result).2 = w.reportOn result := by
  unfold applyResult reportOn
  dsimp only
  split <;> rfl

theorem yields_applyResult (w : System α) (cycle : Cycle) (result : Except Fault α) :
    Yields w (w.applyResult cycle result).1 (w.learned result) [] [] := by
  rw [applyResult_frame]
  refine ⟨rfl, rfl, rfl, ?_⟩
  show Event.Files [] w.journal (w.noted _ ++ w.journal)
  unfold noted
  split
  · exact Event.files_cons _ _
  · exact .refl _

theorem notify_of_escalate {p : Policy} {report : Report} {manner : Manner} {listens stopping : Bool}
    (h : (p.judge report manner listens stopping).escalate ≠ none) :
    (p.judge report manner listens stopping).notify = false := by
  simp only [Policy.judge] at h ⊢
  rw [Option.isNone_eq_false_iff.2 (Option.isSome_iff_ne_none.2 h), Bool.false_and]

theorem yields_fetched (w : System α) (cycle : Cycle) (begun : Nat) (result : Except Fault α) :
    Yields w (w.fetched cycle begun result) (w.learned result)
      (w.round (w.verdictOn cycle result).notify ++ [.conclude cycle (w.outcomeOf cycle result)])
      (faultLog w.name cycle.origin.manner (w.reportOn result) (faultOf? result)) := by
  have ha := yields_applyResult w cycle result
  have hh : (w.applyResult cycle result).1.health =
      ⟨(w.learned result).lastUpdateSuccess, (w.learned result).lastFault⟩ := by
    rw [health, ha.standing]
  have hl := yields_logReport (w.applyResult cycle result).1 cycle.origin.manner
    (w.reportOn result) (faultOf? result)
  rw [ha.standing, show (w.applyResult cycle result).1.name = w.name by rw [applyResult_frame]]
    at hl
  replace hl := ha.trans hl
  obtain ⟨standing, journal, hx⟩ := (noted_applyResult w cycle result).told
    (told_logReport _ cycle.origin.manner (w.reportOn result) (faultOf? result))
  unfold fetched
  dsimp only
  rw [hh, applyResult_snd, hx]
  rw [hx] at hl
  have hv : ∀ n : Notice, (n.level == .error) = false →
      Yields w ((if (w.verdictOn cycle result).startReauth then
        ({ w with standing, journal } : System α).askForCredentials
        else { w with standing, journal }).log n) (w.learned result) []
          (faultLog w.name cycle.origin.manner (w.reportOn result) (faultOf? result)) := by
    intro n hn
    refine Yields.hush ?_ (hushed_log _ n hn)
    split
    · exact hl.hush (hushed_askForCredentials _)
    · exact hl
  exact (hv _ rfl).followUp cycle (faultOf? result) _ notify_of_escalate

/-- A value is announced if it ends an episode of failure, if every value is, or if it is new. -/
theorem notify_of_ok (w : System α) (cycle : Cycle) (a : α) :
    (w.verdictOn cycle (.ok a)).notify =
      (!w.standing.lastUpdateSuccess || w.policy.alwaysUpdate || !w.standing.data.any (· == a)) := by
  simp only [verdictOn, reportOn, Policy.judge, Standing.apply, Standing.succeed,
    Policy.escalation, Report.shouldNotify, Report.stays, Option.any_none]
  cases w.standing.lastUpdateSuccess <;> simp

/-- A fault is announced if it begins an episode of failure and is not muted. -/
theorem notify_of_error (w : System α) (cycle : Cycle) (begun : Nat) (f : Fault) :
    (w.verdictOn cycle (.error f)).notify =
      (w.standing.lastUpdateSuccess && !f.isFatal &&
        !(Task.fetched cycle begun (.error f : Except Fault α)).isMuted) := by
  obtain ⟨he, ha, -⟩ := cycle.origin.manner_eq
  simp only [verdictOn, reportOn, Policy.judge, Standing.apply, Standing.fail, Fault.isFatal,
    Task.isMuted, Policy.escalation, Report.shouldNotify, Report.stays, he, ha]
  cases f.kind <;> cases w.standing.lastUpdateSuccess <;> cases cycle.origin.isFirst <;>
    cases w.policy.alwaysUpdate <;> rfl

def reports (w : System α) : Task α → List (Event α)
  | .deed (.setFault f) =>
    if w.held && w.standing.lastUpdateSuccess then [.notice (.faultInjected w.name f)] else []
  | .start caller call => w.declines caller call
  | .fetched cycle _ result =>
    faultLog w.name cycle.origin.manner (w.reportOn result) (faultOf? result)
  | .conclude cycle outcome => w.returns outcome cycle.origin
  | _ => []

/-! ## Every task brings news of one kind -/

omit [BEq α] in
def conduct (w : System α) (k : Callback) : List (Deed α) :=
  ((w.conducts.lookup k.key).getD []).headD []

/-- What a task does to a system that has it no longer on its agenda. -/
inductive News (w : System α) : Task α → System α → Prop where
  | landed {cycle : Cycle} {begun : Nat} {result : Except Fault α} {v : System α} :
    Yields w v (w.learned result)
      (w.round (w.verdictOn cycle result).notify ++ [.conclude cycle (w.outcomeOf cycle result)])
      (w.reports (.fetched cycle begun result)) → News w (.fetched cycle begun result) v
  | data {a : α} {v : System α} (time : Int) : w.held = true →
    Yields w v (w.standing.injectData a time) (w.round true) (w.reports (.deed (.setData a))) →
    News w (.deed (.setData a)) v
  | fault {f : Fault} {v : System α} : w.held = true →
    Yields w v (w.standing.injectFault f).1 (w.round w.standing.lastUpdateSuccess)
      (w.reports (.deed (.setFault f))) → News w (.deed (.setFault f)) v
  | heard {k : Callback} {v : System α} :
    Yields w v w.standing ((w.conduct k).map .deed) (w.reports (.hear k)) → News w (.hear k) v
  /-- A listener with a callback of its own is registered. -/
  | joined {deed : Deed α} {v : System α} (label : String) (context : Option String) :
    deed.injects = false →
    Hushed { w with roster := (w.roster.add ⟨label, w.roster.freshId.number⟩ context).2 } v →
    News w (.deed deed) v
  | left {deed : Deed α} {v : System α} (id : ListenerId) : deed.injects = false →
    Hushed { w with roster := (w.roster.remove id).2 } v → News w (.deed deed) v
  | barred {deed : Deed α} : deed.injects = true → w.held = false → News w (.deed deed) w
  | routine {task : Task α} {v : System α} : task.tells = false → task.hears? = none →
    Plods w v (w.reports task) → News w task v

theorem news_carryOut (w : System α) (deed : Deed α) :
    News w (.deed deed) (w.carryOut deed) := by
  have hr : ∀ {v : System α}, deed.injects = false → Hushed w v → News w (.deed deed) v := by
    intro v hd hv
    refine .routine hd rfl ?_
    have hq : w.reports (.deed deed) = [] := by cases deed <;> first | rfl | cases hd
    exact hq ▸ plods_of_yields hv
  unfold carryOut
  split
  · next hc =>
    cases hd : deed.injects with
    | false => exact hr hd (.refl w)
    | true =>
      refine .barred hd ?_
      cases deed with
      | setData | setFault => simpa [Deed.needsHandle, refusal?] using hc
      | addListener | unsubscribe | setInterval | shutdown | registerShutdown | stopHost | unload
      | setPolling | spawn | drop => cases hd
  · next hc =>
    have hh : deed.needsHandle = true → w.held = true := by
      intro hn
      by_contra hw
      exact hc (by simp [hn, hw])
    cases deed with
    | addListener label context conduct =>
      exact .joined label context rfl (hushed_addListener w label context conduct)
    | unsubscribe label =>
      rcases unsubscribe_cases w label with he | ⟨id, -, hv⟩
      · exact hr rfl (by dsimp only; rw [he]; exact .refl w)
      · exact .left id rfl hv
    | setData a => exact .data _ (hh rfl) (yields_setData w a)
    | setFault f =>
      refine .fault (hh rfl) ?_
      have hq : w.reports (.deed (.setFault f)) =
          if w.standing.lastUpdateSuccess then [.notice (.faultInjected w.name f)] else [] := by
        simp [reports, hh rfl]
      exact hq ▸ yields_setFault w f
    | setInterval interval => exact hr rfl (hushed_of_eq rfl)
    | shutdown => exact hr rfl (hushed_shutdown w)
    | registerShutdown host => exact hr rfl (hushed_registerShutdown w host)
    | stopHost host => exact hr rfl (hushed_stopHost w host)
    | unload => exact hr rfl (hushed_unload w)
    | setPolling disabled => exact hr rfl (hushed_of_eq rfl)
    | spawn label call => exact hr rfl (hushed_of_eq rfl)
    | drop => exact hr rfl (hushed_of_eq rfl)

/-- Every task brings news of one kind, or none. -/
theorem news_perform (w : System α) (task : Task α) : News w task (w.perform task) := by
  cases task with
  | deed deed => exact news_carryOut w deed
  | hear callback => exact .heard ⟨rfl, rfl, rfl, Event.files_cons _ _⟩
  | start caller call => exact .routine rfl rfl (plods_start w caller call)
  | enter cycle => exact .routine rfl rfl (plods_enter w cycle)
  | fetched cycle begun result => exact .landed (yields_fetched w cycle begun result)
  | conclude cycle outcome => exact .routine rfl rfl (plods_conclude w cycle outcome)
  | refreshDue generation => exact .routine rfl rfl (plods_refreshDue w generation)
  | cooldownOver generation => exact .routine rfl rfl (plods_cooldownOver w generation)

end System

/-! ## Every listener has a callback of its own -/

/-- The callbacks are known by the ids of their listeners. -/
structure Roster.Sound (r : Roster Callback String) : Prop where
  keys : ∀ l ∈ r.listeners, l.callback.key = l.id.number
  fresh : ∀ l ∈ r.listeners, l.id.number < r.nextId
  distinct : (r.listeners.map (·.id)).Nodup

namespace Roster

variable {r : Roster Callback String}

theorem Sound.add (h : r.Sound) (label : String) (context : Option String) :
    (r.add ⟨label, r.freshId.number⟩ context).2.Sound := by
  refine ⟨?_, ?_, ?_⟩
  · intro l hl
    rcases List.mem_append.1 hl with hl | hl
    · exact h.keys l hl
    · obtain rfl := List.mem_singleton.1 hl
      rfl
  · intro l hl
    rcases List.mem_append.1 hl with hl | hl
    · exact Nat.lt_succ_of_lt (h.fresh l hl)
    · obtain rfl := List.mem_singleton.1 hl
      exact Nat.lt_succ_self _
  · show (List.map (·.id) (r.listeners ++ [_])).Nodup
    rw [List.map_append, List.nodup_append]
    refine ⟨h.distinct, by simp, ?_⟩
    rintro a ha b hb rfl
    obtain ⟨l, hl, rfl⟩ := List.mem_map.1 ha
    have hn := h.fresh l hl
    rw [List.mem_singleton.1 hb] at hn
    exact Nat.lt_irrefl _ hn

theorem Sound.remove (h : r.Sound) (id : ListenerId) : (r.remove id).2.Sound := by
  refine ⟨fun l hl => h.keys l (List.mem_filter.1 hl).1,
    fun l hl => h.fresh l (List.mem_filter.1 hl).1, ?_⟩
  exact h.distinct.sublist (List.Sublist.map _ List.filter_sublist)

/-- No callback comes twice in a round. -/
theorem Sound.nodup_snapshot (h : r.Sound) : r.snapshot.Nodup := by
  refine r.snapshot_perm.nodup_iff.2 ?_
  refine List.Nodup.map_on (fun l hl l' hl' he => ?_) (List.Nodup.of_map _ h.distinct)
  refine List.inj_on_of_nodup_map h.distinct hl hl' ?_
  have hn : l.id.number = l'.id.number := by rw [← h.keys l hl, ← h.keys l' hl', he]
  show ListenerId.mk _ = ListenerId.mk _
  rw [hn]

end Roster

namespace System

variable [BEq α]

theorem News.roster_sound {w v : System α} {task : Task α} (h : News w task v)
    (hw : w.roster.Sound) : v.roster.Sound := by
  cases h with
  | landed h | data _ _ h | fault _ h | heard h => exact h.roster ▸ hw
  | joined label context _ h => exact h.roster ▸ hw.add label context
  | left id _ h => exact h.roster ▸ hw.remove id
  | barred => exact hw
  | routine _ _ h =>
    obtain ⟨tasks, -, h⟩ := h
    exact h.roster ▸ hw

theorem Reachable.roster_sound {w : System α} (h : Reachable w) : w.roster.Sound := by
  obtain ⟨p, jitter, now, hm⟩ := h
  refine Moves.induct (P := fun w => w.roster.Sound) (fun hp hw => ?_) (fun task rest _ hw => ?_) hm
    ⟨by simp [Plan.system], by simp [Plan.system], by simp [Plan.system]⟩
  · cases hp <;> exact hw
  · exact (news_perform _ task).roster_sound hw

end System

/-! ## No callback waits behind a timer -/

/-- No callback waits in the table. -/
def Timers.Mute (t : Timers (Task α)) : Prop := ∀ u ∈ t.waiting, u.job.hears? = none

namespace Timers

variable {t : Timers (Task α)}

theorem Mute.cancel (h : t.Mute) (k : TimerHandle) : (t.cancel k).Mute :=
  fun u hu => h u (mem_cancel.1 hu).1

theorem Mute.schedule (h : t.Mute) (deadline : Nat) {job : Task α} (hj : job.hears? = none) :
    (t.schedule deadline job).2.Mute := by
  unfold Timers.schedule
  split
  · intro u hu
    rcases List.mem_append.1 hu with hu | hu
    · exact h u hu
    · obtain rfl := List.mem_singleton.1 hu
      exact hj
  · exact h

theorem Mute.disarm (h : t.Mute) (s : Schedule) : (s.disarm t).2.Mute := by
  unfold Schedule.disarm
  split
  · exact h
  · exact h.cancel _

theorem Mute.arm (h : t.Mute) (s : Schedule) (shutDown disabled : Bool) :
    (s.arm t shutDown disabled .refreshDue).2.2.Mute := by
  unfold Schedule.arm
  split
  · exact h
  split
  · exact h
  split
  · exact h
  · dsimp only
    split
    · exact h.disarm s
    · exact (h.disarm s).schedule _ rfl

theorem Mute.cancelRun (h : t.Mute) (d : Debounce) : (d.cancel t).2.Mute := by
  unfold Debounce.cancel
  split
  · exact h
  · exact h.cancel _

theorem Mute.startCooldown (h : t.Mute) (d : Debounce) :
    (d.startCooldown t .cooldownOver).2.2.Mute := by
  unfold Debounce.startCooldown
  split
  · exact h
  dsimp only
  split
  · exact h
  · split
    · exact h.schedule _ rfl
    · exact (h.schedule _ rfl).cancel _

theorem Mute.request (h : t.Mute) (d : Debounce) : (d.request t .cooldownOver).2.2.Mute := by
  unfold Debounce.request
  split
  · exact h
  split
  · exact h
  split
  · exact h
  split
  · exact h.startCooldown _
  · exact h

end Timers

namespace System

theorem mute_of_stir {w v : System α} (h : Stir w v) (hw : w.timers.Mute) : v.timers.Mute := by
  cases h with
  | told h =>
    rw [h.2]
    exact hw
  | standDown => exact (hw.disarm _).cancelRun _
  | scheduleRefresh =>
    have h : Told { w with
        schedule := (w.schedule.arm w.timers w.shutDown w.pollingDisabled .refreshDue).2.1
        timers := (w.schedule.arm w.timers w.shutDown w.pollingDisabled .refreshDue).2.2 }
          w.scheduleRefresh := told_logAny _ _
    rw [h.2]
    exact hw.arm _ _ _
  | endRun => exact hw.startCooldown _
  | request => exact hw.request _
  | refreshDue | cooldownOver => exact hw

theorem Stirs.mute {w v : System α} (h : Stirs w v) (hw : w.timers.Mute) : v.timers.Mute := by
  induction h with
  | refl => exact hw
  | tail _ hs ih => exact mute_of_stir hs ih

theorem mute_shutdown {w : System α} (hw : w.timers.Mute) : w.shutdown.timers.Mute := by
  have hr : ∀ (u : System α) (hook : Option (HostName × HookId)),
      (u.removeHook hook).timers = u.timers := by
    intro u hook
    cases hook <;> rfl
  have hc := (hw.disarm w.schedule).cancelRun { w.debounce with shutDown := true }
  unfold shutdown
  dsimp only
  split
  · rw [hr]
    exact hc
  · show (removeHook _ _).timers.Mute
    rw [hr]
    exact hc

theorem Effects.mute {w v : System α} (h : Effects w v) (hw : w.timers.Mute) : v.timers.Mute := by
  induction h with
  | refl => exact hw
  | tail _ he ih =>
    cases he with
    | stir h => exact mute_of_stir h ih
    | spawn caller call => exact ih.schedule _ rfl
    | shutdown => exact mute_shutdown ih
    | calls | interval | standing | listeners | hosts | drop => exact ih

variable [BEq α]

theorem mute_perform {w : System α} (hw : w.timers.Mute) (task : Task α) :
    (w.perform task).timers.Mute := by
  have hc := course_perform w task
  generalize w.perform task = v at hc
  cases hc with
  | quiet _ hv => exact hv.mute hw
  | asked origin _ hu =>
    rw [ask_frame]
    exact hu.mute hw
  | skipped _ hu => exact hu.mute hw
  | began _ hu =>
    have h := hu.mute hw
    unfold beginFetch
    split
    · exact h
    · dsimp only
      split
      · exact h
      · exact h.schedule _ rfl
  | landed calls outcome hu _ =>
    refine hu.mute ?_
    rw [applyResult_frame]
    exact hw
  | ended hv =>
    refine hv.mute ?_
    unfold release resume
    split
    · exact hw
    split
    · exact hw.schedule _ rfl
    split <;> exact hw

theorem Reachable.mute {w : System α} (h : Reachable w) : w.timers.Mute := by
  obtain ⟨p, jitter, now, hm⟩ := h
  refine Moves.induct (P := fun w => w.timers.Mute) (fun hp hw => ?_) ?_ hm
    (fun u hu => by cases hu)
  · cases hp with
    | fire t => exact hw.cancel _
    | resume | wait | deed | calls | meddle => exact hw
  · intro w task rest _ hw
    have hr : ({ w with agenda := rest } : System α).timers.Mute := hw
    exact mute_perform hr task

end System

end Freshness
