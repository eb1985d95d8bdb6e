import Freshness.Proofs.Coordinator.Surfacing
import Freshness.Proofs.Coordinator.Rounds

/-!
# What goes into the log of a failing source

* `Notice.isOutcome` : notices of failures, of recovery and of how long a fetch took;
  `System.outcomes` : those in the log;
* `System.logs`, `System.outcomes_perform` : what a task writes of these, one lemma for each
  operation before it; `Run.outcomes` : the log has what the turns write;
* `Turn.failures`, `Turn.failures_eq` : the failures that a turn writes, by its task;
* `System.Logged`, `Run.logged_once` : **an episode of failure is written down once, as is its
  end**, whatever else fails in between.
-/

namespace Freshness

variable {α : Type}

/-! ## Notices -/

namespace Notice

/-- The notice is of a failure, of a recovery, or of the end of a fetch. -/
def isOutcome : Notice → Bool
  | fetchFailed .. | faultInjected .. | recovered .. | fetchFinished .. => true
  | _ => false

def failure? : Notice → Option Fault
  | fetchFailed _ f | faultInjected _ f => some f
  | _ => none

def isRecovery : Notice → Bool
  | recovered _ => true
  | _ => false

def isDuration : Notice → Bool
  | fetchFinished .. => true
  | _ => false

theorem level_of_failure {n : Notice} (h : n.failure?.isSome = true) : n.level = .error := by
  cases n <;> first | rfl | cases h

end Notice

def Event.outcome? : Event α → Option Notice
  | .notice n => if n.isOutcome then some n else none
  | .heard _ _ | .answered _ _ | .brokeOff _ | .fetchStarted _ | .fetchEnded _ => none
  | .reauthStarted => none

namespace System

/-- The failures, recoveries and durations in the log, in order. -/
def outcomes (w : System α) : List Notice := w.journal.reverse.filterMap Event.outcome?

theorem outcomes_of_eq {w v : System α} (h : v.journal = w.journal) : v.outcomes = w.outcomes := by
  rw [outcomes, outcomes, h]

theorem outcomes_record (w : System α) (e : Event α) :
    (w.record e).outcomes = w.outcomes ++ e.outcome?.toList := by
  show (e :: w.journal).reverse.filterMap _ = _
  rw [List.reverse_cons, filterMap_snoc]
  rfl

theorem outcomes_log (w : System α) {n : Notice} (h : n.isOutcome = true) :
    (w.log n).outcomes = w.outcomes ++ [n] := by
  rw [log, outcomes_record, Event.outcome?, if_pos h]
  rfl

theorem outcomes_log_other (w : System α) {n : Notice} (h : n.isOutcome = false) :
    (w.log n).outcomes = w.outcomes := by
  rw [log, outcomes_record, Event.outcome?, if_neg (by rw [h]; exact Bool.false_ne_true)]
  exact List.append_nil _

theorem outcomes_logAny (w : System α) {n : Option Notice}
    (h : ∀ n', n = some n' → n'.isOutcome = false) : (w.logAny n).outcomes = w.outcomes := by
  cases n with
  | none => rfl
  | some n => exact outcomes_log_other w (h n rfl)

/-! ## What writes nothing of these -/

theorem outcomes_scheduleRefresh (w : System α) : w.scheduleRefresh.outcomes = w.outcomes := by
  unfold scheduleRefresh
  dsimp only
  refine Eq.trans (outcomes_logAny _ fun n hn => ?_) rfl
  generalize (w.schedule.arm w.timers w.shutDown w.pollingDisabled .refreshDue).1 = arming at hn
  cases arming with
  | armed =>
    obtain ⟨-, hn⟩ := Option.ite_none_left_eq_some.1 hn
    obtain rfl := Option.some.inj hn
    rfl
  | pollingDisabled | outOfRange =>
    obtain rfl := Option.some.inj hn
    rfl
  | shutDown | noInterval => cases hn

theorem outcomes_removeHook (w : System α) (hook : Option (HostName × HookId)) :
    (w.removeHook hook).outcomes = w.outcomes := by
  unfold removeHook
  split <;> rfl

theorem outcomes_shutdown (w : System α) : w.shutdown.outcomes = w.outcomes := by
  unfold shutdown
  dsimp only
  split
  · exact outcomes_removeHook _ _
  · exact (outcomes_log_other _ rfl).trans (outcomes_removeHook _ _)

theorem outcomes_shutdownIfAlive (w : System α) : w.shutdownIfAlive.outcomes = w.outcomes := by
  unfold shutdownIfAlive
  split
  · exact outcomes_shutdown w
  · rfl

theorem outcomes_addListener (w : System α) (label : String) (context : Option String)
    (conduct : List (List (Deed α))) :
    (w.addListener label context conduct).outcomes = w.outcomes := by
  unfold addListener
  dsimp only
  split
  · exact outcomes_scheduleRefresh _
  · rfl

theorem outcomes_unsubscribe (w : System α) (label : String) :
    (w.unsubscribe label).outcomes = w.outcomes := by
  unfold unsubscribe
  split
  · rfl
  split
  · dsimp only
    split <;> rfl
  · rfl

theorem outcomes_setData (w : System α) (a : α) : (w.setData a).outcomes = w.outcomes := by
  have hl : ∀ standing, (({ w.standDown with standing } : System α).log
      (.dataInjected w.name)).outcomes = w.outcomes := fun _ => outcomes_log_other _ rfl
  unfold setData
  dsimp only
  split
  · exact hl _
  · exact (outcomes_scheduleRefresh _).trans (hl _)

theorem outcomes_registerShutdown (w : System α) (name : HostName) :
    (w.registerShutdown name).outcomes = w.outcomes := by
  unfold registerShutdown
  dsimp only
  refine (outcomes_removeHook _ _).trans ?_
  split
  · exact outcomes_shutdown (w.setHost name ((w.host name).register ()).2)
  · rfl

theorem outcomes_stopHost (w : System α) (name : HostName) :
    (w.stopHost name).outcomes = w.outcomes := by
  have hf : ∀ (hooks : List Unit) (w : System α),
      (hooks.foldl (fun w _ => w.shutdownIfAlive) w).outcomes = w.outcomes := by
    intro hooks
    induction hooks with
    | nil => exact fun w => rfl
    | cons _ hooks ih => exact fun w => (ih _).trans (outcomes_shutdownIfAlive w)
  unfold stopHost
  split
  · exact outcomes_log_other w rfl
  · exact (hf _ _).trans (outcomes_log_other _ rfl)

theorem outcomes_unload (w : System α) : w.unload.outcomes = w.outcomes := by
  unfold unload
  split
  · split
    · exact outcomes_shutdownIfAlive _
    · rfl
  · rfl

theorem outcomes_ask (w : System α) (origin : Origin) : (w.ask origin).outcomes = w.outcomes := by
  rw [ask_frame]
  rfl

theorem outcomes_start (w : System α) (caller : Caller) (call : Call) :
    (w.start caller call).outcomes = w.outcomes := by
  cases call with
  | request =>
    have hl : (({ w with
        debounce := (w.debounce.request w.timers .cooldownOver).2.1
        timers := (w.debounce.request w.timers .cooldownOver).2.2 } : System α).logAny
          ((w.debounce.request w.timers .cooldownOver).1.notice w.debounce.name)).outcomes =
        w.outcomes := by
      refine (outcomes_logAny _ fun n hn => ?_).trans rfl
      cases ha : (w.debounce.request w.timers .cooldownOver).1 with
      | ignored | dropped =>
        rw [ha] at hn
        obtain rfl := Option.some.inj hn
        rfl
      | folded | deferred | brokenOff | run | overtaken =>
        rw [ha] at hn
        cases hn
    unfold start
    dsimp only
    split
    · exact (outcomes_ask _ _).trans hl
    · exact (outcomes_record _ _).trans ((List.append_nil _).trans hl)
    · exact (outcomes_record _ _).trans ((List.append_nil _).trans hl)
  | refresh | first | interval => exact outcomes_ask w _

theorem outcomes_enter (w : System α) (cycle : Cycle) :
    (w.enter cycle).outcomes = w.outcomes := by
  have hb : ∀ u : System α, (u.beginFetch cycle).outcomes = u.outcomes := by
    intro u
    have hr : ∀ v : System α, (v.record (.fetchStarted cycle.serial)).outcomes = v.outcomes :=
      fun v => (outcomes_record v _).trans (List.append_nil _)
    unfold beginFetch
    split
    · rfl
    · dsimp only
      split <;> exact hr _
  unfold enter
  dsimp only
  split
  · exact outcomes_log_other _ rfl
  split
  · exact outcomes_log_other _ rfl
  · exact hb _

theorem outcomes_conclude (w : System α) (cycle : Cycle) (outcome : Except Refusal Health) :
    (w.conclude cycle outcome).outcomes = w.outcomes := by
  have hr : (w.release cycle.origin).outcomes = w.outcomes := by
    rw [release_frame]
    rfl
  have ha : ∀ (u : System α) (caller : Caller) (refusal : Option Refusal),
      (u.answer caller refusal).outcomes = u.outcomes :=
    fun u _ _ => (outcomes_record u _).trans (List.append_nil _)
  unfold conclude
  rw [← hr]
  generalize w.release cycle.origin = u
  cases cycle.origin with
  | call caller call =>
    cases call with
    | request =>
      rw [returnTo_request]
      refine (outcomes_record u.endRun.2 _).trans ?_
      split <;> exact List.append_nil _
    | refresh | first | interval => exact ha u caller _
  | timer | cooldown =>
    refine outcomes_logAny u fun n hn => ?_
    obtain ⟨r, -, rfl⟩ := Option.map_eq_some_iff.1 hn
    rfl

theorem outcomes_refreshDue (w : System α) (generation : Nat) :
    (w.refreshDue generation).outcomes = w.outcomes := by
  unfold refreshDue
  split
  · dsimp only
    split
    · exact outcomes_ask _ _
    · rfl
  · rfl

theorem outcomes_cooldownOver (w : System α) (generation : Nat) :
    (w.cooldownOver generation).outcomes = w.outcomes := by
  unfold cooldownOver
  split
  · dsimp only
    split
    · exact outcomes_ask _ _
    · rfl
  · rfl

theorem outcomes_askForCredentials (w : System α) :
    w.askForCredentials.outcomes = w.outcomes := by
  unfold askForCredentials
  split
  · exact (outcomes_record _ _).trans ((List.append_nil _).trans (outcomes_log_other w rfl))
  · exact outcomes_log_other w rfl

theorem outcomes_followUp (w : System α) (cycle : Cycle) (verdict : Verdict)
    (fault : Option Fault) (health : Health) :
    (w.followUp cycle verdict fault health).outcomes = w.outcomes := by
  have hs : (if verdict.reschedule then w.scheduleRefresh else w).outcomes = w.outcomes := by
    split
    · exact outcomes_scheduleRefresh w
    · rfl
  unfold followUp
  dsimp only
  split
  · exact hs
  · split <;> exact hs

/-! ## What a task writes -/

/-- The notice of a fetch that failed. -/
def failureLog (name : String) (manner : Manner) (report : Report) : Option Fault → List Notice
  | some f => if report.shouldLog manner.logFailures then [.fetchFailed name f] else []
  | none => []

theorem outcomes_logReport (w : System α) (manner : Manner) (report : Report)
    (fault : Option Fault) : (w.logReport manner report fault).outcomes =
      w.outcomes ++ failureLog w.name manner report fault ++
        if report.closes then [.recovered w.name] else [] := by
  have hr : ∀ u : System α, u.name = w.name →
      (if report.closes then u.log (.recovered u.name) else u).outcomes =
        u.outcomes ++ if report.closes then [.recovered w.name] else [] := by
    intro u hu
    split
    · rw [outcomes_log u rfl, hu]
    · exact (List.append_nil _).symm
  unfold logReport failureLog
  cases fault with
  | none => rw [hr w rfl, List.append_nil]
  | some f =>
    cases report.shouldLog manner.logFailures with
    | true => exact (hr (w.log (.fetchFailed w.name f)) rfl).trans (by rw [outcomes_log w rfl]; rfl)
    | false => exact (hr w rfl).trans (by simp)

theorem outcomes_setFault (w : System α) (f : Fault) : (w.setFault f).outcomes =
    w.outcomes ++ if w.standing.lastUpdateSuccess then [.faultInjected w.name f] else [] := by
  have hl : ∀ standing, (({ w with standing } : System α).log (.faultInjected w.name f)).outcomes =
      w.outcomes ++ [.faultInjected w.name f] := fun _ => outcomes_log _ rfl
  unfold setFault Standing.injectFault
  dsimp only
  split
  · exact hl _
  · exact (List.append_nil _).symm

variable [BEq α]

/-- What a task writes of failures, recoveries and durations. -/
def logs (w : System α) : Task α → List Notice
  | .deed (.setFault f) =>
    if w.held && w.standing.lastUpdateSuccess then [.faultInjected w.name f] else []
  | .fetched cycle begun result =>
    failureLog w.name cycle.origin.manner (w.reportOn result) (faultOf? result) ++
      (if (w.reportOn result).closes then [.recovered w.name] else []) ++
      [.fetchFinished w.name cycle.origin.manner.trigger ⟨w.now - begun⟩
        (w.reportOn result).success]
  | _ => []

theorem outcomes_fetched (w : System α) (cycle : Cycle) (begun : Nat) (result : Except Fault α) :
    (w.fetched cycle begun result).outcomes =
      w.outcomes ++ w.logs (.fetched cycle begun result) := by
  have ha : (w.applyResult cycle result).1.outcomes = w.outcomes := by
    rw [applyResult_frame]
    show (w.noted _ ++ w.journal).reverse.filterMap _ = _
    unfold noted
    split
    · rw [List.reverse_append, List.filterMap_append]
      exact List.append_nil _
    · rfl
  have hn : (w.applyResult cycle result).1.name = w.name := by rw [applyResult_frame]
  have hl := outcomes_logReport (w.applyResult cycle result).1 cycle.origin.manner
    (w.reportOn result) (faultOf? result)
  rw [ha, hn] at hl
  obtain ⟨standing, journal, hx⟩ := (noted_applyResult w cycle result).told
    (told_logReport _ cycle.origin.manner (w.reportOn result) (faultOf? result))
  unfold fetched
  dsimp only
  rw [applyResult_snd, hx, outcomes_followUp]
  rw [hx] at hl
  -- Neither the name nor the time depends on whether credentials are asked for.
  have hc : ∀ (b : Bool), ∃ journal', (if b then
      ({ w with standing, journal } : System α).askForCredentials
      else { w with standing, journal }) = { w with standing, journal := journal' } := by
    intro b
    cases b with
    | false => exact ⟨journal, rfl⟩
    | true => exact ⟨_, (told_askForCredentials _).2⟩
  have ho : ∀ (b : Bool), (if b then
      ({ w with standing, journal } : System α).askForCredentials
      else { w with standing, journal }).outcomes =
        ({ w with standing, journal } : System α).outcomes := by
    intro b
    cases b with
    | false => rfl
    | true => exact outcomes_askForCredentials _
  generalize (w.policy.judge (w.reportOn result) cycle.origin.manner
    (!({ w with standing, journal } : System α).roster.isEmpty)
    ({ w with standing, journal } : System α).hostStopping).startReauth = b
  obtain ⟨journal', hj⟩ := hc b
  rw [outcomes_log _ rfl, ho, hl, hj, logs]
  simp only [List.append_assoc]
  rfl

theorem outcomes_carryOut (w : System α) (deed : Deed α) :
    (w.carryOut deed).outcomes = w.outcomes ++ w.logs (.deed deed) := by
  unfold carryOut
  split
  · next h =>
    have hl : w.logs (.deed deed) = [] := by
      cases deed with
      | setFault f =>
        have hh : w.held = false := by simpa [Deed.needsHandle, refusal?] using h
        rw [logs, hh]
        rfl
      | _ => rfl
    rw [hl, List.append_nil]
  · next h =>
    have hn : ∀ {v : System α}, v.outcomes = w.outcomes → v.outcomes = w.outcomes ++ [] :=
      fun hv => hv.trans (List.append_nil _).symm
    cases deed with
    | addListener label context conduct => exact hn (outcomes_addListener w label context conduct)
    | unsubscribe label => exact hn (outcomes_unsubscribe w label)
    | setData a => exact hn (outcomes_setData w a)
    | setFault f =>
      have hh : w.held = true := by simpa [Deed.needsHandle, refusal?] using h
      rw [logs, hh]
      exact outcomes_setFault w f
    | shutdown => exact hn (outcomes_shutdown w)
    | registerShutdown host => exact hn (outcomes_registerShutdown w host)
    | stopHost host => exact hn (outcomes_stopHost w host)
    | unload => exact hn (outcomes_unload w)
    | setInterval | setPolling | spawn | drop => exact hn rfl

theorem outcomes_perform (w : System α) (task : Task α) :
    (w.perform task).outcomes = w.outcomes ++ w.logs task := by
  have hn : ∀ {v : System α}, v.outcomes = w.outcomes → v.outcomes = w.outcomes ++ [] :=
    fun hv => hv.trans (List.append_nil _).symm
  cases task with
  | deed deed => exact outcomes_carryOut w deed
  | hear callback => exact outcomes_record w (.heard callback.label w.sight)
  | start caller call => exact hn (outcomes_start w caller call)
  | enter cycle => exact hn (outcomes_enter w cycle)
  | fetched cycle begun result => exact outcomes_fetched w cycle begun result
  | conclude cycle outcome => exact hn (outcomes_conclude w cycle outcome)
  | refreshDue generation => exact hn (outcomes_refreshDue w generation)
  | cooldownOver generation => exact hn (outcomes_cooldownOver w generation)

def Turn.logs (t : Turn α) : List Notice := t.before.logs t.task

theorem Run.outcomes {w v : System α} {turns : List (Turn α)} (h : Run w turns v) :
    v.outcomes = w.outcomes ++ turns.flatMap Turn.logs := by
  induction h with
  | rest => exact (List.append_nil _).symm
  | @prompt _ u v _ hp ih =>
    have hj : v.journal = u.journal := by cases hp <;> rfl
    rw [outcomes_of_eq hj, ih]
  | @work turns u task rest _ ha ih =>
    rw [outcomes_perform, List.flatMap_append, List.flatMap_singleton, ← List.append_assoc, ← ih]
    rfl

/-! ## What a turn writes -/

/-- A failed fetch is written if it is unforeseen, or if it begins an episode of failure and its
kind of cycle writes failures. -/
theorem shouldLog_reportOn (w : System α) (f : Fault) (b : Bool) :
    (w.reportOn (.error f)).shouldLog b =
      (f.kind == .unknown || (w.standing.lastUpdateSuccess && !f.isFatal && b)) := by
  simp only [reportOn, Standing.apply, Standing.fail, Report.shouldLog, Report.opens, Fault.isFatal]
  cases f.kind <;> cases w.standing.lastUpdateSuccess <;> cases b <;> rfl

theorem closes_reportOn (w : System α) (result : Except Fault α) :
    (w.reportOn result).closes = match result with
      | .ok _ => !w.standing.lastUpdateSuccess
      | .error _ => false := by
  cases result with
  | ok a => simp [reportOn, Standing.apply, Standing.succeed, Report.closes]
  | error f => cases hs : w.standing.lastUpdateSuccess <;>
      simp [reportOn, Standing.apply, Standing.fail, Report.closes, hs]

namespace Turn

variable {t : Turn α} {cycle : Cycle} {begun : Nat} {f : Fault} {result : Except Fault α}

/-- The failures that the turn writes. -/
def failures (t : Turn α) : List Fault := t.logs.filterMap Notice.failure?

def recoveries (t : Turn α) : Nat := t.logs.countP Notice.isRecovery

def durations (t : Turn α) : Nat := t.logs.countP Notice.isDuration

def lands (t : Turn α) : Bool := t.task.lands?.isSome

theorem opens_eq (t : Turn α) :
    t.opens = (t.before.standing.lastUpdateSuccess && !t.before.healthAfter t.task) := by
  rw [opens, t.accounts.success]

theorem closes_eq (t : Turn α) :
    t.closes = (!t.before.standing.lastUpdateSuccess && t.before.healthAfter t.task) := by
  rw [closes, t.accounts.success]

theorem failures_of_injected (ht : t.task = .deed (.setFault f)) :
    t.failures = if t.opens then [f] else [] := by
  rw [failures, logs, opens_eq, ht, System.logs, healthAfter]
  cases t.before.held <;> cases t.before.standing.lastUpdateSuccess <;> rfl

theorem failures_of_failed (ht : t.task = .fetched cycle begun (.error f)) :
    t.failures =
      if f.kind = .unknown ∨ (t.opens = true ∧ cycle.origin.manner.logFailures = true) then [f]
      else [] := by
  have ho : t.opens = (t.before.standing.lastUpdateSuccess && !f.isFatal) := by
    rw [opens_eq, ht, healthAfter]
    cases t.before.standing.lastUpdateSuccess <;> rfl
  have hs := shouldLog_reportOn t.before f cycle.origin.manner.logFailures
  rw [← ho] at hs
  rw [failures, logs, ht, System.logs, closes_reportOn, faultOf?, failureLog, hs]
  by_cases hk : f.kind = .unknown
  · simp [hk, Notice.failure?]
  · by_cases hb : (t.opens && cycle.origin.manner.logFailures) = true
    · simp [Bool.and_eq_true_iff.1 hb, Notice.failure?]
    · simp [hk, Bool.eq_false_iff.2 hb, ← Bool.and_eq_true, Notice.failure?]

theorem failures_of_other (hi : ∀ f, t.task ≠ .deed (.setFault f))
    (hf : ∀ cycle begun f, t.task ≠ .fetched cycle begun (.error f)) : t.failures = [] := by
  obtain ⟨task, w⟩ := t
  cases task with
  | deed deed =>
    cases deed with
    | setFault f => exact absurd rfl (hi f)
    | _ => rfl
  | fetched cycle begun result =>
    cases result with
    | ok a =>
      rw [failures, logs, System.logs, closes_reportOn]
      cases w.standing.lastUpdateSuccess <;> rfl
    | error f => exact absurd rfl (hf cycle begun f)
  | _ => rfl

/-- Recovery is written by the fetch that ends an episode of failure, and the duration by every
fetch. -/
theorem counts_eq (t : Turn α) : t.recoveries = (if t.closes && t.lands then 1 else 0) ∧
    t.durations = if t.lands then 1 else 0 := by
  rw [recoveries, durations, logs, closes_eq, lands]
  obtain ⟨task, w⟩ := t
  cases task with
  | fetched cycle begun result =>
    have hf : ∀ q : Notice → Bool, (∀ c f, q (.fetchFailed c f) = false) → ∀ fault,
        (failureLog w.name cycle.origin.manner (w.reportOn result) fault).countP q = 0 := by
      rintro q hq (- | f)
      · rfl
      · rw [failureLog]
        split <;> simp [hq]
    have hr := hf Notice.isRecovery (fun _ _ => rfl) (faultOf? result)
    have hd := hf Notice.isDuration (fun _ _ => rfl) (faultOf? result)
    simp only [System.logs, List.countP_append, hr, hd]
    have hc := closes_reportOn w result
    cases result with
    | ok a =>
      rw [hc]
      cases w.standing.lastUpdateSuccess <;> exact ⟨rfl, rfl⟩
    | error f =>
      rw [hc]
      cases hs : w.standing.lastUpdateSuccess <;>
        simp [healthAfter, hs, Notice.isRecovery, Notice.isDuration, Task.lands?]
  | deed deed =>
    cases deed with
    | setFault f =>
      simp only [System.logs, Task.lands?]
      split <;> simp [Notice.isRecovery, Notice.isDuration]
    | _ => simp [System.logs, Task.lands?]
  | _ => simp [System.logs, Task.lands?]

/-- A turn writes one failure at most, which begins an episode or is unforeseen. -/
theorem failures_cases (t : Turn α) : t.failures = [] ∨ ∃ f, t.failures = [f] ∧
    (t.opens = true ∨
      (f.kind = .unknown ∧ ∃ cycle begun, t.task = .fetched cycle begun (.error f))) := by
  by_cases hi : ∃ f, t.task = .deed (.setFault f)
  · obtain ⟨f, ht⟩ := hi
    rw [failures_of_injected ht]
    split
    · next ho => exact .inr ⟨f, rfl, .inl ho⟩
    · exact .inl rfl
  by_cases hf : ∃ cycle begun f, t.task = .fetched cycle begun (.error f)
  · obtain ⟨cycle, begun, f, ht⟩ := hf
    rw [failures_of_failed ht]
    split
    · next hk => exact .inr ⟨f, rfl, hk.symm.imp (·.1) (⟨·, cycle, begun, ht⟩)⟩
    · exact .inl rfl
  · exact .inl (failures_of_other (fun f ht => hi ⟨f, ht⟩) fun cycle begun f ht =>
      hf ⟨cycle, begun, f, ht⟩)

theorem opens_or_unforeseen (h : f ∈ t.failures) : t.opens = true ∨
    (f.kind = .unknown ∧ ∃ cycle begun, t.task = .fetched cycle begun (.error f)) := by
  rcases t.failures_cases with hn | ⟨g, hg, hc⟩
  · rw [hn] at h
    cases h
  · rw [hg] at h
    obtain rfl := List.mem_singleton.1 h
    exact hc

theorem length_failures_le (t : Turn α) : t.failures.length ≤ 1 := by
  rcases t.failures_cases with hn | ⟨f, hf, -⟩
  · rw [hn]
    exact Nat.zero_le 1
  · rw [hf]
    exact Nat.le_refl 1

theorem begins_by (h : t.opens = true) : (∃ f, t.task = .deed (.setFault f)) ∨
    ∃ cycle begun f, t.task = .fetched cycle begun (.error f) ∧ f.kind ≠ .notImplemented := by
  obtain ⟨task, w⟩ := t
  rw [opens_eq] at h
  obtain ⟨hw, ha⟩ : w.standing.lastUpdateSuccess = true ∧ w.healthAfter task = false := by
    simpa using h
  cases task with
  | deed deed =>
    cases deed with
    | setFault f => exact .inl ⟨f, rfl⟩
    | _ => simp [healthAfter, hw] at ha
  | fetched cycle begun result =>
    cases result with
    | ok a => cases ha
    | error f =>
      refine .inr ⟨cycle, begun, f, rfl, fun hk => ?_⟩
      simp [healthAfter, hw, Fault.isFatal, hk, Fault.Kind.isFatal] at ha
  | _ => simp [healthAfter, hw] at ha

theorem value_of_closes (h : t.closes = true) (ht : t.task = .fetched cycle begun result) :
    ∃ a, result = .ok a := by
  rw [closes_eq, ht] at h
  obtain ⟨hw, ha⟩ := Bool.and_eq_true_iff.1 h
  cases result with
  | ok a => exact ⟨a, rfl⟩
  | error f =>
    simp only [healthAfter, Bool.and_eq_true] at ha
    rw [ha.1] at hw
    cases hw

theorem failing_of_failures (h : t.failures ≠ []) :
    t.after.standing.lastUpdateSuccess = false := by
  obtain ⟨f, hf⟩ := List.exists_mem_of_ne_nil _ h
  rcases opens_or_unforeseen hf with ho | ⟨hk, cycle, begun, ht⟩
  · exact (opens_iff.1 ho).2
  · rw [t.accounts.success, ht, healthAfter, Fault.isFatal, hk]
    exact Bool.and_false _

theorem failing_by (h : t.failures ≠ []) : t.after.standing.lastUpdateSuccess = false ∧
    ((∃ f, t.task = .deed (.setFault f)) ∨
      ∃ cycle begun f, t.task = .fetched cycle begun (.error f)) := by
  refine ⟨failing_of_failures h, ?_⟩
  obtain ⟨f, hf⟩ := List.exists_mem_of_ne_nil _ h
  rcases opens_or_unforeseen hf with ho | ⟨-, cycle, begun, ht⟩
  · exact (begins_by ho).imp_right fun ⟨cycle, begun, g, ht, _⟩ => ⟨cycle, begun, g, ht⟩
  · exact .inr ⟨cycle, begun, f, ht⟩

theorem failures_of_defect (ht : t.task = .fetched cycle begun (.error f))
    (hk : f.kind = .notImplemented) : t.failures = [] := by
  rw [failures_of_failed ht, if_neg]
  rintro (hu | ⟨ho, -⟩)
  · cases hu.symm.trans hk
  · rcases begins_by ho with ⟨g, hg⟩ | ⟨_, _, g, hg, hne⟩
    · cases ht.symm.trans hg
    · cases ht.symm.trans hg
      exact hne hk

/-- While the source fails already, only unforeseen failures are written. -/
theorem unforeseen_of_failing (hb : t.before.standing.lastUpdateSuccess = false)
    (hf : f ∈ t.failures) : f.kind = .unknown := by
  rcases opens_or_unforeseen hf with ho | ⟨hk, -⟩
  · cases (opens_iff.1 ho).1.symm.trans hb
  · exact hk

end Turn

/-! ## The whole -/

section

variable {p : Plan α} {jitter : Duration} {now : Nat} {turns before after : List (Turn α)}
  {t : Turn α} {v : System α}

/-- A cycle has fetched once when it ends, unless it was skipped. -/
theorem Run.count_landed (h : Run (p.system jitter now) (before ++ t :: after) v) {cycle : Cycle}
    {outcome : Except Refusal Health} (ht : t.task = .conclude cycle outcome) :
    ∃ e ∈ before, e.task = .enter cycle ∧
      (landed (before ++ t :: after)).count cycle = if e.before.skips cycle then 0 else 1 := by
  obtain ⟨e, he, hte, hd⟩ := ht ▸ h.derived_at (by rw [ht]; rfl)
  obtain ⟨-, hentered, hlanded, -⟩ := h.once
  refine ⟨e, he, hte, ?_⟩
  split
  · next hk =>
    -- Only cycles that were not skipped fetch, and this one entered only once.
    refine List.count_eq_zero.2 fun hm => ?_
    have hl : cycle ∈ launched (before ++ t :: after) := by
      rw [h.history.2.2.landings]
      exact List.mem_append_left _ hm
    obtain ⟨s, hs, hls⟩ := List.mem_filterMap.1 hl
    obtain ⟨hse, hsk⟩ := Option.filter_eq_some_iff.1 hls
    have heq : s = e := eq_of_nodup_filterMap hentered.of_map hs (List.mem_append_left _ he) hse
      (by rw [hte]; rfl)
    rw [heq, hk] at hsk
    cases hsk
  · next hk =>
    rw [if_neg hk] at hd
    obtain ⟨s, hs, begun, hts, -⟩ := hd
    refine List.count_eq_one_of_mem hlanded.of_map ?_
    exact List.mem_filterMap.2 ⟨s, List.mem_append_left _ hs, by rw [hts]; rfl⟩

end

/-- What is true of the log of failures in every run of a new coordinator. -/
structure Logged (turns : List (Turn α)) (v : System α) : Prop where
  /-- The log has what the turns write, in their order. -/
  outcomes : v.outcomes = turns.flatMap Turn.logs
  /-- The failures in it are errors. -/
  errors : ∀ t ∈ turns, ∀ n ∈ t.logs, n.failure?.isSome = true → n.level = .error
  /-- A fault from outside is written by the turn that begins an episode of failure with it. -/
  injected : ∀ t ∈ turns, ∀ {f : Fault}, t.task = .deed (.setFault f) →
    t.failures = if t.opens then [f] else []
  /-- So is that of a fetch, if its kind of cycle writes failures at all. -/
  failed : ∀ t ∈ turns, ∀ {cycle : Cycle} {begun : Nat} {f : Fault},
    t.task = .fetched cycle begun (.error f) → f.kind ≠ .unknown →
    t.failures = if t.opens && cycle.origin.manner.logFailures then [f] else []
  /-- An unforeseen one is written wherever it comes, -/
  unforeseen : ∀ t ∈ turns, ∀ {cycle : Cycle} {begun : Nat} {f : Fault},
    t.task = .fetched cycle begun (.error f) → f.kind = .unknown → t.failures = [f]
  /-- and a fetch that is not implemented is not. -/
  defect : ∀ t ∈ turns, ∀ {cycle : Cycle} {begun : Nat} {f : Fault},
    t.task = .fetched cycle begun (.error f) → f.kind = .notImplemented → t.failures = []
  /-- No other turn writes failures, and none outside an episode. -/
  other : ∀ t ∈ turns, t.failures ≠ [] → t.after.standing.lastUpdateSuccess = false ∧
    ((∃ f, t.task = .deed (.setFault f)) ∨
      ∃ cycle begun f, t.task = .fetched cycle begun (.error f))
  /-- These are the ways in which an episode begins. -/
  beginning : ∀ t ∈ turns, t.opens = true → (∃ f, t.task = .deed (.setFault f)) ∨
    ∃ cycle begun f, t.task = .fetched cycle begun (.error f) ∧ f.kind ≠ .notImplemented
  /-- Within it only unforeseen failures are written after the one that began it. -/
  inside : ∀ {before inside after : List (Turn α)} {t : Turn α},
    turns = before ++ t :: (inside ++ after) → t.opens = true →
    (∀ s ∈ inside, s.closes = false) →
    (∀ s ∈ inside, s.before.standing.lastUpdateSuccess = false ∧
      ∀ f ∈ s.failures, f.kind = .unknown) ∧
    ((t :: inside).flatMap Turn.failures).countP (·.kind != .unknown) ≤ 1
  /-- There is no failure but in an episode that has begun and not ended. -/
  episode : ∀ {before after : List (Turn α)} {t : Turn α}, turns = before ++ t :: after →
    t.before.standing.lastUpdateSuccess = false →
    ∃ start s inside, before = start ++ s :: inside ∧ s.opens = true ∧
      ∀ x ∈ inside, x.closes = false
  /-- Recovery is written once by the fetch that ends an episode, by its value, and never else. -/
  recovery : ∀ t ∈ turns, t.recoveries = (if t.closes && t.lands then 1 else 0) ∧
    (t.closes = true → ∀ {cycle : Cycle} {begun : Nat} {result : Except Fault α},
      t.task = .fetched cycle begun result → ∃ a, result = .ok a)
  /-- The duration is written once by the end of each fetch, and never else. -/
  duration : ∀ t ∈ turns, t.durations = if t.lands then 1 else 0
  /-- So the log has as many recoveries as fetches have ended an episode, and as many durations as
  cycles have fetched. -/
  counts : v.outcomes.countP Notice.isRecovery = turns.countP (fun t => t.closes && t.lands) ∧
    v.outcomes.countP Notice.isDuration = (landed turns).length
  /-- A cycle that has ended has fetched once, unless it was skipped: then it has not. -/
  fetches : ∀ {before after : List (Turn α)} {t : Turn α} {cycle : Cycle}
      {outcome : Except Refusal Health},
    turns = before ++ t :: after → t.task = .conclude cycle outcome →
    ∃ e ∈ before, e.task = .enter cycle ∧
      (landed turns).count cycle = if e.before.skips cycle then 0 else 1

/-- **Failures do not flood the log.** Each episode of failure is written down once, when it begins,
and so is its end; only unforeseen failures are always written. -/
theorem Run.logged_once {p : Plan α} {jitter : Duration} {now : Nat} {turns : List (Turn α)}
    {v : System α} (h : Run (p.system jitter now) turns v) : Logged turns v := by
  have hrounds := h.rounds
  exact
    { outcomes := h.outcomes
      errors := fun _ _ _ _ => Notice.level_of_failure
      injected := fun _ _ _ => Turn.failures_of_injected
      failed := fun t _ cycle begun f ht hk => by
        rw [Turn.failures_of_failed ht]
        simp [hk]
      unforeseen := fun t _ cycle begun f ht hk => by
        rw [Turn.failures_of_failed ht, if_pos (.inl hk)]
      defect := fun _ _ _ _ _ => Turn.failures_of_defect
      other := fun _ _ => Turn.failing_by
      beginning := fun _ _ => Turn.begins_by
      inside := fun {before inside after t} hs ho hc => by
        have hin := hrounds.inside hs ho hc
        have hu : ∀ s ∈ inside, ∀ f ∈ s.failures, f.kind = .unknown :=
          fun s hm _ => Turn.unforeseen_of_failing (hin s hm).1
        refine ⟨fun s hm => ⟨(hin s hm).1, hu s hm⟩, ?_⟩
        have hrest : (inside.flatMap Turn.failures).countP (·.kind != .unknown) = 0 := by
          refine List.countP_eq_zero.2 fun f hf => ?_
          obtain ⟨s, hm, hf⟩ := List.mem_flatMap.1 hf
          simp [hu s hm f hf]
        rw [List.flatMap_cons, List.countP_append, hrest, Nat.add_zero]
        exact Nat.le_trans List.countP_le_length t.length_failures_le
      episode := hrounds.episode
      recovery := fun t _ => ⟨t.counts_eq.1, fun hc _ _ _ => Turn.value_of_closes hc⟩
      duration := fun t _ => t.counts_eq.2
      counts := by
        rw [h.outcomes, landed, List.length_filterMap_eq_countP]
        exact ⟨countP_flatMap_of_eq (fun t => t.counts_eq.1) turns,
          countP_flatMap_of_eq (fun t => t.counts_eq.2) turns⟩
      fetches := fun {before after t cycle outcome} hs ht => by
        subst hs
        exact h.count_landed ht }

/-- A source that fails three times, and once in an unforeseen way. -/
def flaky : Plan Nat :=
  { name := "clock"
    source := some [{ result := .error (.timeout "slow") },
      { result := .error (.unexpected "odd" none) }, { result := .error (.timeout "slow") },
      { result := .ok 7 }] }

/-- Four calls that begin together: of the failures the first and the unforeseen one are written,
and in the end the recovery. Then a fault is told from outside, twice. -/
theorem three_failures_logged :
    ∃ (turns : List (Turn Nat)) (v : System Nat), Run (flaky.system .zero 0) turns v ∧
      v.agenda = [] ∧ turns.flatMap Turn.failures =
        [.timeout "slow", .unexpected "odd" none, .transport "gone"] ∧
      v.outcomes.countP Notice.isRecovery = 1 ∧ v.outcomes.countP Notice.isDuration = 4 ∧
      Logged turns v := by
  have h₁ : Run (flaky.system .zero 0) _ _ :=
    Run.rest.prompt (.calls [(.main 0, .refresh), (.main 1, .refresh), (.main 2, .refresh),
      (.main 3, .refresh)] rfl rfl)
  have h₂ := h₁.work _ _ rfl |>.work _ _ rfl |>.work _ _ rfl |>.work _ _ rfl
  have h₃ := h₂.work _ _ rfl |>.work _ _ rfl |>.work _ _ rfl |>.work _ _ rfl
  have h₄ := h₃.work _ _ rfl |>.work _ _ rfl |>.work _ _ rfl |>.work _ _ rfl
  have h₅ := h₄.work _ _ rfl |>.work _ _ rfl |>.work _ _ rfl |>.work _ _ rfl
  have h₆ := h₅.prompt (.deed (.setFault (.transport "gone")) rfl) |>.work _ _ rfl
  have h₇ := h₆.prompt (.deed (.setFault (.transport "gone")) rfl) |>.work _ _ rfl
  exact ⟨_, _, h₇, by decide +kernel, by decide +kernel, by decide +kernel, by decide +kernel,
    h₇.logged_once⟩

end System

end Freshness
