import Freshness.Proofs.Coordinator.Manning

/-!
# What comes of a task

* `Event.isReport`, `Event.Files` : answers to calls and errors in the log, and what a stretch of the
  journal holds of them;
* `System.Yields` : what has become known, what has come to the agenda and what has been reported,
  while the listeners are the same; `System.Hushed` : nothing of all this;
* `System.Plods` : nothing has become known, and no callback has come to the agenda;
* `System.yields_setData`, `System.plods_start` and the like : one lemma for each operation.
-/

namespace Freshness

variable {α : Type}

/-! ## Reports -/

namespace Event

/-- A caller or whoever reads the log is told what came of a cycle. -/
def isReport : Event α → Bool
  | .answered _ _ | .brokeOff _ => true
  | .notice n => n.level == .error
  | .heard _ _ | .fetchStarted _ | .fetchEnded _ | .reauthStarted => false

/-- What has been added to a journal, in order, holds just these reports. -/
def Files (reports journal journal' : List (Event α)) : Prop :=
  ∃ news : List (Event α), journal' = news ++ journal ∧ news.reverse.filter isReport = reports

theorem Files.refl (journal : List (Event α)) : Files [] journal journal := ⟨[], rfl, rfl⟩

theorem Files.trans {r₁ r₂ j₁ j₂ j₃ : List (Event α)} (h₁ : Files r₁ j₁ j₂) (h₂ : Files r₂ j₂ j₃) :
    Files (r₁ ++ r₂) j₁ j₃ := by
  obtain ⟨news₁, rfl, rfl⟩ := h₁
  obtain ⟨news₂, rfl, rfl⟩ := h₂
  refine ⟨news₂ ++ news₁, (List.append_assoc ..).symm, ?_⟩
  rw [List.reverse_append, List.filter_append]

theorem files_cons (e : Event α) (journal : List (Event α)) :
    Files ([e].filter isReport) journal (e :: journal) := ⟨[e], rfl, rfl⟩

theorem Files.filter {r j j' : List (Event α)} (h : Files r j j') :
    j'.reverse.filter isReport = j.reverse.filter isReport ++ r := by
  obtain ⟨news, rfl, rfl⟩ := h
  rw [List.reverse_append, List.filter_append]

end Event

namespace System

/-! ## What a task yields -/

/-- From `w` to `v` this has become known, these tasks have come to the agenda and these reports have
been made; the listeners are the same. -/
structure Yields (w v : System α) (standing : Standing α) (tasks : List (Task α))
    (reports : List (Event α)) : Prop where
  standing : v.standing = standing
  roster : v.roster = w.roster
  agenda : v.agenda = tasks ++ w.agenda
  journal : Event.Files reports w.journal v.journal

theorem Yields.trans {u v w : System α} {s₁ s₂ : Standing α} {t₁ t₂ : List (Task α)}
    {r₁ r₂ : List (Event α)} (h₁ : Yields u v s₁ t₁ r₁) (h₂ : Yields v w s₂ t₂ r₂) :
    Yields u w s₂ (t₂ ++ t₁) (r₁ ++ r₂) where
  standing := h₂.standing
  roster := h₂.roster.trans h₁.roster
  agenda := by rw [h₂.agenda, h₁.agenda, List.append_assoc]
  journal := h₁.journal.trans h₂.journal

def Hushed (w v : System α) : Prop := Yields w v w.standing [] []

theorem hushed_of_eq {w v : System α}
    (h : (v.standing, v.roster, v.agenda, v.journal) =
      (w.standing, w.roster, w.agenda, w.journal)) : Hushed w v := by
  simp only [Prod.mk.injEq] at h
  obtain ⟨hs, hr, ha, hj⟩ := h
  exact ⟨hs, hr, ha, hj ▸ .refl _⟩

theorem Hushed.refl (w : System α) : Hushed w w := hushed_of_eq rfl

theorem Hushed.then {u v w : System α} {s : Standing α} {t : List (Task α)} {r : List (Event α)}
    (h₁ : Hushed u v) (h₂ : Yields v w s t r) : Yields u w s t r := by
  have h := Yields.trans h₁ h₂
  rwa [List.append_nil] at h

theorem Yields.hush {u v w : System α} {s : Standing α} {t : List (Task α)} {r : List (Event α)}
    (h₁ : Yields u v s t r) (h₂ : Hushed v w) : Yields u w s t r := by
  have h := h₁.trans h₂
  rwa [List.append_nil, h₁.standing] at h

theorem Hushed.trans {u v w : System α} (h₁ : Hushed u v) (h₂ : Hushed v w) : Hushed u w :=
  Yields.hush h₁ h₂

theorem Hushed.of_eq {u w v : System α} (h : Hushed u v)
    (he : (u.standing, u.roster, u.agenda, u.journal) =
      (w.standing, w.roster, w.agenda, w.journal)) : Hushed w v :=
  (hushed_of_eq he).trans h

theorem yields_record (w : System α) (e : Event α) :
    Yields w (w.record e) w.standing [] ([e].filter Event.isReport) :=
  ⟨rfl, rfl, rfl, Event.files_cons e w.journal⟩

theorem yields_answer (w : System α) (caller : Caller) (refusal : Option Refusal) :
    Yields w (w.answer caller refusal) w.standing [] [.answered caller refusal] :=
  yields_record w _

theorem yields_next (w : System α) (tasks : List (Task α)) :
    Yields w (w.next tasks) w.standing tasks [] := ⟨rfl, rfl, rfl, .refl _⟩

theorem hushed_log (w : System α) (n : Notice) (h : (n.level == .error) = false) :
    Hushed w (w.log n) := by
  have hr := yields_record w (.notice n)
  rwa [List.filter_cons_of_neg (by simp [Event.isReport, h]), List.filter_nil] at hr

theorem hushed_logAny (w : System α) {n : Option Notice}
    (h : ∀ n', n = some n' → (n'.level == .error) = false) : Hushed w (w.logAny n) := by
  cases n with
  | none => exact .refl w
  | some n => exact hushed_log w n (h n rfl)

theorem yields_logAny (w : System α) {n : Option Notice}
    (h : ∀ n', n = some n' → (n'.level == .error) = true) :
    Yields w (w.logAny n) w.standing [] (n.map .notice).toList := by
  cases n with
  | none => exact Hushed.refl w
  | some n =>
    have hr := yields_record w (.notice n)
    rwa [List.filter_cons_of_pos (by simp [Event.isReport, h n rfl]), List.filter_nil] at hr

/-! ## What yields nothing -/

theorem hushed_standDown (w : System α) : Hushed w w.standDown := hushed_of_eq rfl

theorem hushed_scheduleRefresh (w : System α) : Hushed w w.scheduleRefresh := by
  unfold scheduleRefresh
  dsimp only
  refine .trans ?_ (hushed_logAny _ fun n hn => ?_)
  · exact hushed_of_eq rfl
  · generalize (w.schedule.arm w.timers w.shutDown w.pollingDisabled .refreshDue).1 = arming at hn
    cases arming with
    | armed =>
      obtain ⟨-, hn⟩ := Option.ite_none_left_eq_some.1 hn
      obtain rfl := Option.some.inj hn
      rfl
    | pollingDisabled | outOfRange =>
      obtain rfl := Option.some.inj hn
      rfl
    | shutDown | noInterval => cases hn

theorem hushed_removeHook (w : System α) (hook : Option (HostName × HookId)) :
    Hushed w (w.removeHook hook) := by
  unfold removeHook
  split <;> exact hushed_of_eq rfl

theorem hushed_shutdown (w : System α) : Hushed w w.shutdown := by
  unfold shutdown
  dsimp only
  split
  · exact (hushed_removeHook _ _).of_eq rfl
  · exact ((hushed_removeHook _ _).trans (hushed_log _ _ rfl)).of_eq rfl

theorem hushed_shutdownIfAlive (w : System α) : Hushed w w.shutdownIfAlive := by
  unfold shutdownIfAlive
  split
  · exact hushed_shutdown w
  · exact .refl w

theorem hushed_registerShutdown (w : System α) (name : HostName) :
    Hushed w (w.registerShutdown name) := by
  unfold registerShutdown
  dsimp only
  refine .trans ?_ (hushed_removeHook _ _)
  split
  · have hs := hushed_shutdown (w.setHost name ((w.host name).register ()).2)
    refine Hushed.trans (v := (w.setHost name ((w.host name).register ()).2).shutdown) ?_ ?_
    · exact hs.of_eq rfl
    · exact hushed_of_eq rfl
  · exact hushed_of_eq rfl

theorem hushed_stopHost (w : System α) (name : HostName) : Hushed w (w.stopHost name) := by
  have hf : ∀ (hooks : List Unit) (w : System α),
      Hushed w (hooks.foldl (fun w _ => w.shutdownIfAlive) w) := by
    intro hooks
    induction hooks with
    | nil => exact fun w => .refl w
    | cons _ hooks ih => exact fun w => (hushed_shutdownIfAlive w).trans (ih _)
  unfold stopHost
  split
  · exact hushed_log w _ rfl
  · next hooks host _ =>
    have hl := hushed_log (w.setHost name host) (.hostStopping hooks.length) rfl
    exact (hl.trans (hf _ _)).of_eq rfl

theorem hushed_unload (w : System α) : Hushed w w.unload := by
  unfold unload
  split
  · split
    · exact (hushed_shutdownIfAlive _).of_eq rfl
    · exact .refl w
  · exact .refl w

theorem hushed_askForCredentials (w : System α) : Hushed w w.askForCredentials := by
  unfold askForCredentials
  split
  · next entry _ =>
    exact (hushed_log w (.reauthStarted w.name entry.id) rfl).trans (yields_record _ .reauthStarted)
  · exact hushed_log w _ rfl

/-! ## Listeners and injections -/

/-- A round of notification, or nothing. -/
def round (w : System α) (told : Bool) : List (Task α) :=
  if told then w.roster.snapshot.map .hear else []

theorem Yields.notify {u w : System α} {s : Standing α} {t : List (Task α)} {r : List (Event α)}
    (h : Yields u w s t r) : Yields u w.notify s (u.round true ++ t) r := by
  refine ⟨h.standing, h.roster, ?_, h.journal⟩
  show w.roster.snapshot.map .hear ++ w.agenda = _
  rw [h.roster, h.agenda, List.append_assoc]
  rfl

theorem hushed_addListener (w : System α) (label : String) (context : Option String)
    (conduct : List (List (Deed α))) :
    Hushed { w with roster := (w.roster.add ⟨label, w.roster.freshId.number⟩ context).2 }
      (w.addListener label context conduct) := by
  unfold addListener
  dsimp only
  split
  · exact (hushed_scheduleRefresh _).of_eq rfl
  · exact hushed_of_eq rfl

theorem unsubscribe_cases (w : System α) (label : String) :
    w.unsubscribe label = w ∨ ∃ id, w.labels.lookup label = some id ∧
      Hushed { w with roster := (w.roster.remove id).2 } (w.unsubscribe label) := by
  unfold unsubscribe
  split
  · exact .inl rfl
  · next id hl =>
    split
    · refine .inr ⟨id, hl, ?_⟩
      dsimp only
      split
      · exact hushed_standDown _
      · exact .refl _
    · exact .inl rfl

theorem yields_setData (w : System α) (a : α) :
    Yields w (w.setData a) (w.standing.injectData a (w.standDown.now / 1000 : Nat)) (w.round true)
      [] := by
  have hl : ∀ s : Standing α,
      Yields w (({ w.standDown with standing := s } : System α).log (.dataInjected w.name)) s
        [] [] := by
    intro s
    have hs : Yields w { w.standDown with standing := s } s [] [] := ⟨rfl, rfl, rfl, .refl _⟩
    exact hs.hush (hushed_log _ _ rfl)
  have hr : ∀ {v : System α} {s : Standing α}, Yields w v s [] [] →
      Yields w v.notify s (w.round true) [] := by
    intro v s hv
    have h := hv.notify
    rwa [List.append_nil] at h
  unfold setData
  dsimp only
  split
  · exact hr (hl _)
  · exact hr ((hl _).hush (hushed_scheduleRefresh _))

theorem yields_setFault (w : System α) (f : Fault) :
    Yields w (w.setFault f) (w.standing.injectFault f).1 (w.round w.standing.lastUpdateSuccess)
      (if w.standing.lastUpdateSuccess then [.notice (.faultInjected w.name f)] else []) := by
  cases hs : w.standing.lastUpdateSuccess with
  | false =>
    have he : w.setFault f = { w with standing := (w.standing.injectFault f).1 } := by
      simp [setFault, Standing.injectFault, hs]
    rw [he]
    exact ⟨rfl, rfl, rfl, .refl _⟩
  | true =>
    have he : w.setFault f = ({ w with standing := (w.standing.injectFault f).1 }.log
        (.faultInjected w.name f)).notify := by
      simp [setFault, Standing.injectFault, hs]
    rw [he]
    exact ⟨rfl, rfl, rfl, Event.files_cons _ _⟩

/-! ## Stages -/

/-- With what the cycle goes on: a fault that is passed on, or the health it left. -/
def passOn (escalate : Option Escalation) (fault : Option Fault) (health : Health) :
    Except Refusal Health :=
  match escalate, fault with
  | some escalation, some f => .error (.escalated escalation f)
  | _, _ => .ok health

/-- The error in the log for a fetch that failed. -/
def faultLog (name : String) (manner : Manner) (report : Report) :
    Option Fault → List (Event α)
  | some f => if report.shouldLog manner.logFailures then [.notice (.fetchFailed name f)] else []
  | none => []

theorem yields_logReport (w : System α) (manner : Manner) (report : Report) (fault : Option Fault) :
    Yields w (w.logReport manner report fault) w.standing []
      (faultLog w.name manner report fault) := by
  have hr : ∀ {v : System α} {r : List (Event α)}, Yields w v w.standing [] r →
      Yields w (if report.closes then v.log (.recovered v.name) else v) w.standing [] r := by
    intro v r hv
    split
    · exact hv.hush (hushed_log v _ rfl)
    · exact hv
  unfold logReport faultLog
  refine hr ?_
  cases fault with
  | none => exact Hushed.refl w
  | some f =>
    dsimp only
    split
    · exact yields_record w (.notice (.fetchFailed w.name f))
    · exact Hushed.refl w

/-- A fault that is passed on goes to the caller and not to the listeners. -/
theorem Yields.followUp {w u : System α} {s : Standing α} {reports : List (Event α)}
    (hu : Yields w u s [] reports) (cycle : Cycle) {verdict : Verdict} (fault : Option Fault)
    (health : Health) (hn : verdict.escalate ≠ none → verdict.notify = false) :
    Yields w (u.followUp cycle verdict fault health) s
      (w.round verdict.notify ++ [.conclude cycle (passOn verdict.escalate fault health)])
      reports := by
  have hs : Yields w (if verdict.reschedule then u.scheduleRefresh else u) s [] reports := by
    split
    · exact hu.hush (hushed_scheduleRefresh u)
    · exact hu
  unfold System.followUp
  generalize (if verdict.reschedule = true then u.scheduleRefresh else u) = v at hs
  have hc : ∀ outcome, Yields w (v.next [.conclude cycle outcome]) s
      [.conclude cycle outcome] reports := by
    intro outcome
    exact ⟨hs.standing, hs.roster, congrArg _ hs.agenda, hs.journal⟩
  have hq : ∀ outcome, Yields w (if verdict.notify then (v.next [.conclude cycle outcome]).notify
      else v.next [.conclude cycle outcome]) s
        (w.round verdict.notify ++ [.conclude cycle outcome]) reports := by
    intro outcome
    cases verdict.notify with
    | false => exact hc outcome
    | true => exact (hc outcome).notify
  cases he : verdict.escalate with
  | none => exact hq _
  | some escalation =>
    cases fault with
    | none => exact hq _
    | some f =>
      rw [hn (by rw [he]; exact Option.some_ne_none _)]
      exact hc _

def Plods (w v : System α) (reports : List (Event α)) : Prop :=
  ∃ tasks : List (Task α), (∀ x ∈ tasks, x.isCallback = false) ∧ Yields w v w.standing tasks reports

theorem Hushed.plods {u v w : System α} {reports : List (Event α)} (h₁ : Hushed u v)
    (h₂ : Plods v w reports) : Plods u w reports := by
  obtain ⟨tasks, hc, h⟩ := h₂
  exact ⟨tasks, hc, h₁.then (h₁.standing ▸ h)⟩

theorem Plods.trans {u v w : System α} {r₁ r₂ : List (Event α)} (h₁ : Plods u v r₁)
    (h₂ : Yields v w v.standing [] r₂) : Plods u w (r₁ ++ r₂) := by
  obtain ⟨tasks, hc, h⟩ := h₁
  exact ⟨tasks, hc, h.standing ▸ h.trans h₂⟩

theorem plods_of_yields {w v : System α} {reports : List (Event α)}
    (h : Yields w v w.standing [] reports) : Plods w v reports := ⟨[], by simp, h⟩

theorem plods_ask (w : System α) (origin : Origin) : Plods w (w.ask origin) [] := by
  unfold ask
  dsimp only
  split
  · exact ⟨[.enter ⟨w.serial, origin⟩], by simp [Task.isCallback], rfl, rfl, rfl, .refl _⟩
  · exact plods_of_yields (hushed_of_eq rfl)

theorem plods_beginFetch (w : System α) (cycle : Cycle) : Plods w (w.beginFetch cycle) [] := by
  unfold beginFetch
  split
  · exact ⟨[.fetched cycle w.now (.error .missingSource)], by simp [Task.isCallback],
      yields_next _ _⟩
  · next source _ =>
    dsimp only
    split
    · exact ⟨[.fetched cycle w.now source.next.1.outcome.2], by simp [Task.isCallback],
        rfl, rfl, rfl, Event.files_cons _ _⟩
    · exact ⟨[], by simp, rfl, rfl, rfl, Event.files_cons _ _⟩

theorem plods_release (w : System α) (releaser : Origin) : Plods w (w.release releaser) [] := by
  unfold release resume
  split
  · exact plods_of_yields (hushed_of_eq rfl)
  split
  · exact plods_of_yields (hushed_of_eq rfl)
  split
  · exact ⟨[.enter _], by simp [Task.isCallback], rfl, rfl, rfl, .refl _⟩
  · exact plods_of_yields (hushed_of_eq rfl)

/-- Whoever ran the debounced action breaks off if the clock has no room for the cooldown. -/
theorem endRun_fst (w : System α) :
    w.endRun.1 = (!w.debounce.shutDown && w.debounce.overruns w.now) :=
  Debounce.startCooldown_fst _ _ _

theorem now_release (w : System α) (releaser : Origin) : (w.release releaser).now = w.now := by
  unfold release resume later now
  split
  · rfl
  split
  · exact Timers.now_schedule _ _ _
  split <;> rfl

/-- The call breaks off when the cycle that it waits for has ended. -/
def breaksOff (w : System α) : Origin → Bool
  | .call _ .request => w.endRun.1
  | .call _ .refresh | .call _ .first | .call _ .interval | .timer | .cooldown => false

/-- What is reported when a cycle has ended: the call of its own is answered, unless it breaks off,
and a fault that no caller waits for is logged. -/
def returns (w : System α) (outcome : Except Refusal Health) : Origin → List (Event α)
  | .call caller .first => [.answered caller (firstAnswer w.name outcome)]
  | .call caller .request =>
    [if w.endRun.1 then .brokeOff caller else .answered caller (refusalOf? outcome)]
  | .call caller .refresh | .call caller .interval => [.answered caller (refusalOf? outcome)]
  | .timer =>
    ((refusalOf? outcome).map fun r => .notice (.scheduledRefreshFailed w.name r)).toList
  | .cooldown =>
    ((refusalOf? outcome).map fun r => .notice (.trailingFailed w.debounce.name r)).toList

theorem yields_returnTo (w : System α) (outcome : Except Refusal Health) (origin : Origin) :
    Yields w (w.returnTo outcome origin) w.standing [] (w.returns outcome origin) := by
  cases origin with
  | call caller call =>
    cases call with
    | request =>
      have h : Hushed w w.endRun.2 := hushed_of_eq rfl
      rw [returnTo_request]
      refine h.then ?_
      unfold returns
      split <;> exact yields_record w.endRun.2 _
    | refresh | first | interval => exact yields_answer w caller _
  | timer =>
    have h := yields_logAny w (n := (refusalOf? outcome).map (.scheduledRefreshFailed w.name)) ?_
    · rwa [Option.map_map] at h
    · intro n hn
      obtain ⟨r, -, rfl⟩ := Option.map_eq_some_iff.1 hn
      rfl
  | cooldown =>
    have h := yields_logAny w (n := (refusalOf? outcome).map (.trailingFailed w.debounce.name)) ?_
    · rw [Option.map_map] at h
      exact h.hush (hushed_of_eq rfl)
    · intro n hn
      obtain ⟨r, -, rfl⟩ := Option.map_eq_some_iff.1 hn
      rfl

/-- A request that asks for no cycle is answered at once, or it breaks off. -/
def declines (w : System α) (caller : Caller) : Call → List (Event α)
  | .request =>
    match (w.debounce.request w.timers .cooldownOver).1 with
    | .run => []
    | .brokenOff => [.brokeOff caller]
    | .ignored | .folded | .dropped | .deferred | .overtaken => [.answered caller none]
  | .refresh | .first | .interval => []

theorem plods_start (w : System α) (caller : Caller) (call : Call) :
    Plods w (w.start caller call) (w.declines caller call) := by
  cases call with
  | request =>
    have hl : Hushed w (({ w with
        debounce := (w.debounce.request w.timers .cooldownOver).2.1
        timers := (w.debounce.request w.timers .cooldownOver).2.2 } : System α).logAny
          ((w.debounce.request w.timers .cooldownOver).1.notice w.debounce.name)) := by
      refine Hushed.of_eq (hushed_logAny _ fun n hn => ?_) rfl
      cases ha : (w.debounce.request w.timers .cooldownOver).1 with
      | ignored | dropped =>
        rw [ha] at hn
        obtain rfl := Option.some.inj hn
        rfl
      | folded | deferred | brokenOff | run | overtaken =>
        rw [ha] at hn
        cases hn
    simp only [start, declines]
    generalize (w.debounce.request w.timers .cooldownOver).1 = answer at hl ⊢
    cases answer with
    | run => exact hl.plods (plods_ask _ _)
    | brokenOff => exact hl.plods (plods_of_yields (yields_record _ _))
    | ignored | folded | dropped | deferred | overtaken =>
      exact hl.plods (plods_of_yields (yields_answer _ _ _))
  | refresh | first | interval => exact plods_ask w _

theorem plods_enter (w : System α) (cycle : Cycle) : Plods w (w.enter cycle) [] := by
  unfold enter
  dsimp only
  split
  · refine ⟨[.conclude cycle (.ok w.health)], by simp [Task.isCallback], ?_⟩
    exact Hushed.then (hushed_standDown w) ((hushed_log _ _ rfl).then (yields_next _ _))
  split
  · refine ⟨[.conclude cycle (.ok w.health)], by simp [Task.isCallback], ?_⟩
    exact Hushed.then (hushed_standDown w) ((hushed_log _ _ rfl).then (yields_next _ _))
  · exact (hushed_standDown w).plods (plods_beginFetch _ _)

theorem plods_conclude (w : System α) (cycle : Cycle) (outcome : Except Refusal Health) :
    Plods w (w.conclude cycle outcome) (w.returns outcome cycle.origin) := by
  have h := (plods_release w cycle.origin).trans (yields_returnTo _ outcome cycle.origin)
  have hr : (w.release cycle.origin).returns outcome cycle.origin =
      w.returns outcome cycle.origin := by
    have he : (w.release cycle.origin).endRun.1 = w.endRun.1 := by
      rw [endRun_fst, endRun_fst, now_release, release_frame]
    unfold returns
    rw [he, release_frame]
  rwa [hr, List.nil_append] at h

theorem plods_refreshDue (w : System α) (generation : Nat) :
    Plods w (w.refreshDue generation) [] := by
  have hs : Hushed w { w with schedule := (w.schedule.takeFired generation).2 } := hushed_of_eq rfl
  unfold refreshDue
  split
  · dsimp only
    split
    · exact hs.plods (plods_ask _ _)
    · exact plods_of_yields hs
  · exact plods_of_yields (Hushed.refl w)

theorem plods_cooldownOver (w : System α) (generation : Nat) :
    Plods w (w.cooldownOver generation) [] := by
  have hs : Hushed w { w with debounce := (w.debounce.cooldownOver generation).2 } :=
    hushed_of_eq rfl
  unfold cooldownOver
  split
  · dsimp only
    split
    · exact hs.plods (plods_ask _ _)
    · exact plods_of_yields hs
  · exact plods_of_yields (Hushed.refl w)

end System

end Freshness
