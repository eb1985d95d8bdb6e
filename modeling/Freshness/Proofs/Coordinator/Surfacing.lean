import Freshness.Proofs.Coordinator.Attribution

/-!
# What surfaces of a failure

* `Turn.reports`, `Run.reported` : the answers and the errors in the log are those that the turns
  report, in order;
* `Event.surfaces?`, `System.refuses?` : the refusals that are made known, and those that the ends of
  cycles are to make known; they are the same (`Run.surfaced`);
* `Run.starts`, `Run.refused_iff` : each call has a cycle of its own, and a cycle ends as its own fetch
  has it;
* `System.Surfaced`, `Run.surfacing` : **a fetch that is not implemented surfaces once, to the call
  whose cycle it was or in the log, and no other failure does**, as long as the clock has room for the
  cooldown after a request;
* `System.refusal_lost` : a request that breaks off after its cycle takes the refusal with it.
-/

namespace Freshness

variable {α : Type}

def Origin.caller? : Origin → Option Caller
  | .call caller _ => some caller
  | .timer | .cooldown => none

/-- The refusal that is made known, to a caller or in the log. -/
def Event.surfaces? : Event α → Option (Option Caller × Refusal)
  | .answered caller refusal => refusal.map fun r => (some caller, r)
  | .notice (.scheduledRefreshFailed _ r) | .notice (.trailingFailed _ r) => some (none, r)
  | .notice _ | .heard _ _ | .brokeOff _ | .fetchStarted _ | .fetchEnded _ | .reauthStarted => none

theorem Event.isReport_of_surfaces {e : Event α} (h : e.surfaces? ≠ none) : e.isReport = true := by
  cases e with
  | answered | brokeOff => rfl
  | heard | fetchStarted | fetchEnded | reauthStarted => exact absurd rfl h
  | notice n => cases n <;> first | rfl | exact absurd rfl h

namespace System

/-- The refusal that the end of a cycle is to make known. A call that breaks off makes none known. -/
def refuses? (w : System α) : Task α → Option (Option Caller × Refusal)
  | .conclude cycle outcome =>
    if w.breaksOff cycle.origin then none
    else (if cycle.origin.isFirst then firstAnswer w.name outcome else refusalOf? outcome).map
      fun r => (cycle.origin.caller?, r)
  | .deed _ | .hear _ | .start _ _ | .enter _ | .fetched _ _ _ => none
  | .refreshDue _ | .cooldownOver _ => none

theorem surfaces_returns (w : System α) (cycle : Cycle) (outcome : Except Refusal Health) :
    (w.returns outcome cycle.origin).filterMap Event.surfaces? =
      (w.refuses? (.conclude cycle outcome)).toList := by
  obtain ⟨serial, origin⟩ := cycle
  have ht : ∀ (o : Option Refusal) (e : Refusal → Event α) (x : Refusal → Option Caller × Refusal),
      (∀ r, (e r).surfaces? = some (x r)) →
        (o.map e).toList.filterMap Event.surfaces? = (o.map x).toList := by
    intro o e x he
    cases o with
    | none => rfl
    | some r => exact List.filterMap_cons_some (he r)
  cases origin with
  | call caller call =>
    cases call with
    | first => cases hr : firstAnswer w.name outcome <;>
        simp [returns, refuses?, breaksOff, Event.surfaces?, Origin.isFirst, Origin.caller?, hr]
    | request => cases he : w.endRun.1 <;> cases hr : refusalOf? outcome <;>
        simp [returns, refuses?, breaksOff, Event.surfaces?, Origin.isFirst, Origin.caller?, he, hr]
    | refresh | interval => cases hr : refusalOf? outcome <;>
        simp [returns, refuses?, breaksOff, Event.surfaces?, Origin.isFirst, Origin.caller?, hr]
  | timer | cooldown => exact ht _ _ _ fun r => rfl

variable [BEq α]

/-- Only the end of a cycle makes a refusal known. -/
theorem surfaces_reports (w : System α) (task : Task α) :
    (w.reports task).filterMap Event.surfaces? = (w.refuses? task).toList := by
  cases task with
  | conclude cycle outcome => exact surfaces_returns w cycle outcome
  | start caller call =>
    cases call with
    | request =>
      simp only [reports, declines]
      split <;> rfl
    | refresh | first | interval => rfl
  | fetched cycle begun result =>
    cases result with
    | ok a => rfl
    | error f =>
      show List.filterMap _ (if _ then _ else _) = _
      split <;> rfl
  | deed deed =>
    cases deed with
    | setFault f =>
      show List.filterMap _ (if _ then _ else _) = _
      split <;> rfl
    | addListener | unsubscribe | setData | setInterval | shutdown | registerShutdown | stopHost
    | unload | setPolling | spawn | drop => rfl
  | hear | enter | refreshDue | cooldownOver => rfl

/-! ## The journal -/

theorem News.files {w v : System α} {task : Task α} (h : News w task v) :
    Event.Files (w.reports task) w.journal v.journal := by
  have hd : ∀ {deed : Deed α}, deed.injects = false → w.reports (.deed deed) = [] := by
    intro deed hd
    cases deed <;> first | rfl | cases hd
  cases h with
  | landed h | data _ _ h | fault _ h | heard h => exact h.journal
  | joined _ _ hi h => exact hd hi ▸ h.journal
  | left _ hi h => exact hd hi ▸ h.journal
  | @barred deed hi hh =>
    have hq : w.reports (.deed deed) = [] := by cases deed <;> simp [reports, hh]
    exact hq ▸ .refl _
  | routine _ _ h =>
    obtain ⟨_, -, h⟩ := h
    exact h.journal

def Turn.reports (t : Turn α) : List (Event α) := t.before.reports t.task

theorem Run.reported {w v : System α} {turns : List (Turn α)} (h : Run w turns v) :
    v.journal.reverse.filter Event.isReport =
      w.journal.reverse.filter Event.isReport ++ turns.flatMap Turn.reports := by
  induction h with
  | rest => exact (List.append_nil _).symm
  | @prompt _ u v _ hp ih =>
    have hj : v.journal = u.journal := by cases hp <;> rfl
    rw [hj, ih]
  | @work turns u task rest _ ha ih =>
    rw [(news_perform { u with agenda := rest } task).files.filter, List.flatMap_append,
      List.flatMap_singleton, ← List.append_assoc, ← ih]
    rfl

/-- What has surfaced is what the ends of cycles were to make known, in order. -/
theorem Run.surfaced {w v : System α} {turns : List (Turn α)} (h : Run w turns v) :
    v.journal.reverse.filterMap Event.surfaces? =
      w.journal.reverse.filterMap Event.surfaces? ++
        turns.filterMap fun t => t.before.refuses? t.task := by
  have hf : ∀ events : List (Event α),
      (events.filter Event.isReport).filterMap Event.surfaces? = events.filterMap Event.surfaces? := by
    intro events
    rw [List.filterMap_filter]
    refine List.filterMap_congr fun e _ => ?_
    cases hr : e.isReport with
    | true => rfl
    | false =>
      by_contra hs
      rw [Event.isReport_of_surfaces (Ne.symm hs)] at hr
      cases hr
  have ht : ∀ turns : List (Turn α), (turns.flatMap Turn.reports).filterMap Event.surfaces? =
      turns.filterMap fun t => t.before.refuses? t.task := by
    intro turns
    induction turns with
    | nil => rfl
    | cons t turns ih =>
      rw [List.flatMap_cons, List.filterMap_append, ih, Turn.reports, surfaces_reports]
      cases hr : t.before.refuses? t.task <;> simp [hr]
  rw [← hf, h.reported, List.filterMap_append, hf, ht]

/-! ## Calls and their cycles -/

section

variable {p : Plan α} {jitter : Duration} {now : Nat} {turns before after : List (Turn α)}
  {t : Turn α} {v : System α}

theorem Run.asks (h : Run (p.system jitter now) turns v) (ht : t ∈ turns) :
    t.asks? = none ∧ t.after.serial = t.before.serial ∨
      ∃ origin, t.task.origin? = some origin ∧ t.asks? = some ⟨t.before.serial, origin⟩ := by
  obtain ⟨before, after, rfl⟩ := List.append_of_mem ht
  obtain ⟨u, rest, hb, ha, htb, -⟩ := h.split
  have hl := life_perform hb.history.1 ha
  rw [← htb] at hl
  have hs : t.before.serial = u.serial := by rw [htb]
  rw [hs]
  exact asks_of_life hs hl

theorem Run.starts (h : Run (p.system jitter now) turns v) (ht : t ∈ turns) {caller : Caller}
    {call : Call} (hs : t.task = .start caller call) :
    (t.asks? = some ⟨t.before.serial, .call caller call⟩ ∧ t.reports = []) ∨
      (call = .request ∧ t.asks? = none ∧ (t.reports = [.answered caller none] ∨
        t.reports = [.brokeOff caller] ∧ t.before.debounce.Spent t.before.now)) := by
  have hafter : t.after = t.before.start caller call := Turn.after_eq hs
  have hr : t.reports = t.before.declines caller call := by rw [Turn.reports, hs]; rfl
  rw [hr]
  rcases start_cases t.before caller call with ⟨u, hu, he, hd⟩ | ⟨hc, hu, hd⟩
  · have hn : t.after.serial = t.before.serial + 1 := by
      rw [hafter, he, ask_frame]
      exact congrArg (· + 1) hu.calm.quiet.serial
    rcases h.asks ht with ⟨-, hq⟩ | ⟨origin, ho, ha⟩
    · rw [hn] at hq
      exact absurd hq (Nat.succ_ne_self _)
    · rw [hs] at ho
      obtain rfl := Option.some.inj ho
      exact .inl ⟨ha, hd⟩
  · refine .inr ⟨hc, Turn.asks?_of_eq ?_, hd⟩
    rw [hafter]
    exact hu.calm.quiet.serial

/-- A stage that is done goes on with what its cycle's own fetch brought. -/
theorem Run.derived_at (h : Run (p.system jitter now) (before ++ t :: after) v)
    (ht : t.task.isStage = true) : Derived before t.task := by
  obtain ⟨u, rest, hb, ha, -, -⟩ := h.split
  refine hb.derived t.task ?_
  rw [stages_of_cons ha, List.filter_cons_of_pos ht]
  exact .head _

/-- A cycle ends in a refusal if its own fetch was not implemented, and only then. -/
theorem Run.refused_iff (h : Run (p.system jitter now) (before ++ t :: after) v) {cycle : Cycle}
    {outcome : Except Refusal Health} (ht : t.task = .conclude cycle outcome)
    (hc : cycle.origin.isFirst = false) :
    ∃ e ∈ before, e.task = .enter cycle ∧ ∀ r, outcome = .error r ↔
      e.before.skips cycle = false ∧
        ∃ m, e.before.brings = .error (.notImplemented m) ∧ r = .fatal (.notImplemented m) := by
  have hd := h.derived_at (by rw [ht]; rfl)
  rw [ht] at hd
  obtain ⟨e, he, hte, hd⟩ := hd
  refine ⟨e, he, hte, fun r => ?_⟩
  cases hk : e.before.skips cycle with
  | true =>
    rw [if_pos hk] at hd
    simp [hd]
  | false =>
    rw [if_neg (by rw [hk]; exact Bool.false_ne_true)] at hd
    obtain ⟨s, -, begun, -, rfl⟩ := hd
    rw [outcomeOf_eq_error hc, eq_self, true_and]

/-- What a fetch has brought is on its way to the end of its cycle, or has come there. -/
theorem Run.comes (h : Run (p.system jitter now) (before ++ t :: after) v) {cycle : Cycle}
    {begun : Nat} {result : Except Fault α} (ht : t.task = .fetched cycle begun result) :
    .conclude cycle (t.before.outcomeOf cycle result) ∈ v.agenda ++ after.map (·.task) := by
  obtain ⟨-, -, -, -, -, hr⟩ := h.split
  have ha := (yields_fetched t.before cycle begun result).agenda
  have hafter : t.after = t.before.fetched cycle begun result := Turn.after_eq ht
  rw [← hafter] at ha
  obtain ⟨front, back, hs, hf, hb⟩ := hr.stack
  have hm : .conclude cycle (t.before.outcomeOf cycle result) ∈ front ++ back := by
    rw [← hs, ha]
    simp
  rcases List.mem_append.1 hm with hm | hm
  · exact List.mem_append_right _ (hf.subset hm)
  · exact List.mem_append_left _ (hb.subset hm)

theorem reports_of_defect {cycle : Cycle} {begun : Nat} {m : String}
    (ht : t.task = .fetched cycle begun (.error (.notImplemented m))) : t.reports = [] := by
  rw [Turn.reports, ht]
  rfl

/-- A call that breaks off after its cycle is a request, and the clock has no room for a cooldown. -/
theorem reports_eq_brokeOff_iff {cycle : Cycle} {outcome : Except Refusal Health} {caller : Caller}
    (ht : t.task = .conclude cycle outcome) : t.reports = [.brokeOff caller] ↔
      cycle.origin = .call caller .request ∧ t.before.debounce.shutDown = false ∧
        clockEnd ≤ t.before.now + t.before.debounce.cooldown.micros := by
  have hr : t.reports = t.before.returns outcome cycle.origin := by rw [Turn.reports, ht]; rfl
  have he : t.before.endRun.1 = true ↔ t.before.debounce.shutDown = false ∧
      clockEnd ≤ t.before.now + t.before.debounce.cooldown.micros := by
    rw [endRun_fst, Bool.and_eq_true, Bool.not_eq_true', Debounce.overruns_iff]
  rw [hr, ← he]
  cases cycle.origin with
  | call asker call =>
    cases call with
    | request =>
      simp only [returns]
      cases t.before.endRun.1 <;> simp
    | refresh | first | interval => simp [returns]
  | timer | cooldown => cases hq : refusalOf? outcome <;> simp [returns, hq]

end

/-! ## The whole -/

/-- What is true of the answers and of the errors in the log in every run of a new coordinator. -/
structure Surfaced (turns : List (Turn α)) (v : System α) : Prop where
  /-- A call has a cycle of its own and is not answered yet, or it is a request that is declined and
  told at once that all is well. It breaks off instead if it is to start a cooldown for which the
  clock has no room. -/
  call : ∀ t ∈ turns, ∀ {caller : Caller} {call : Call}, t.task = .start caller call →
    (t.asks? = some ⟨t.before.serial, .call caller call⟩ ∧ t.reports = []) ∨
      (call = .request ∧ t.asks? = none ∧ (t.reports = [.answered caller none] ∨
        t.reports = [.brokeOff caller] ∧ t.before.debounce.Spent t.before.now))
  /-- A cycle is known by the call or the timer that asked for it. -/
  origin : ∀ t ∈ turns, ∀ {cycle : Cycle}, t.asks? = some cycle →
    t.task.origin? = some cycle.origin
  once : ((asked turns).map (·.serial)).Nodup ∧ ((entered turns).map (·.serial)).Nodup ∧
    ((landed turns).map (·.serial)).Nodup ∧ ((ended turns).map (·.serial)).Nodup
  /-- A cycle other than a first refresh ends in a refusal if and only if its own fetch was not
  implemented, of which it has the very fault. That is what its call is answered or the log shows. -/
  refused : ∀ {before after : List (Turn α)} {t : Turn α} {cycle : Cycle}
      {outcome : Except Refusal Health},
    turns = before ++ t :: after → t.task = .conclude cycle outcome →
    cycle.origin.isFirst = false →
    t.reports = t.before.returns outcome cycle.origin ∧
      ∃ e ∈ before, e.task = .enter cycle ∧ ∀ r, outcome = .error r ↔
        e.before.skips cycle = false ∧
          ∃ m, e.before.brings = .error (.notImplemented m) ∧ r = .fatal (.notImplemented m)
  /-- The call breaks off when its cycle has ended if it is a request and the clock has no room for
  the cooldown that follows, and only then. -/
  broken : ∀ t ∈ turns, ∀ {cycle : Cycle} {outcome : Except Refusal Health} {caller : Caller},
    t.task = .conclude cycle outcome → (t.reports = [.brokeOff caller] ↔
      cycle.origin = .call caller .request ∧ t.before.debounce.shutDown = false ∧
        clockEnd ≤ t.before.now + t.before.debounce.cooldown.micros)
  /-- Every fault that the cycle's own fetch brings is remembered. -/
  stored : ∀ {before after : List (Turn α)} {t : Turn α} {cycle : Cycle} {begun : Nat}
      {result : Except Fault α},
    turns = before ++ t :: after → t.task = .fetched cycle begun result →
    t.after.standing.lastFault = faultOf? result ∧
      ∃ e ∈ before, e.task = .enter cycle ∧ e.before.skips cycle = false ∧
        result = e.before.brings
  /-- A fetch that is not implemented is not logged when it ends. -/
  silent : ∀ t ∈ turns, ∀ {cycle : Cycle} {begun : Nat} {m : String},
    t.task = .fetched cycle begun (.error (.notImplemented m)) → t.reports = []
  /-- Its cycle comes to an end all the same. -/
  ending : ∀ {before after : List (Turn α)} {t : Turn α} {cycle : Cycle} {begun : Nat}
      {result : Except Fault α},
    turns = before ++ t :: after → t.task = .fetched cycle begun result →
    .conclude cycle (t.before.outcomeOf cycle result) ∈ v.agenda ++ after.map (·.task)
  /-- The answers and the errors in the log are those that the turns report, in order. -/
  reported : v.journal.reverse.filter Event.isReport = turns.flatMap Turn.reports
  /-- The refusals made known are those in which cycles end, each once and in order. -/
  surfaced : v.journal.reverse.filterMap Event.surfaces? =
    turns.filterMap fun t => t.before.refuses? t.task

/-- **A fetch that is not implemented surfaces exactly once, and no other failure escapes**, unless
the request whose cycle it was breaks off. -/
theorem Run.surfacing {p : Plan α} {jitter : Duration} {now : Nat} {turns : List (Turn α)}
    {v : System α} (h : Run (p.system jitter now) turns v) : Surfaced turns v := by
  refine ⟨fun t ht => h.starts ht, ?_, h.once, ?_, fun t _ => reports_eq_brokeOff_iff, ?_,
    fun t _ => reports_of_defect, ?_, h.reported, h.surfaced⟩
  · intro t ht cycle ha
    rcases h.asks ht with ⟨hn, -⟩ | ⟨origin, ho, hs⟩
    · cases ha.symm.trans hn
    · rw [← Option.some.inj (hs.symm.trans ha)]
      exact ho
  · rintro before after t cycle outcome rfl ht hc
    refine ⟨?_, h.refused_iff ht hc⟩
    rw [Turn.reports, ht]
    rfl
  · rintro before after t cycle begun result rfl ht
    have hafter : t.after = t.before.fetched cycle begun result := Turn.after_eq ht
    have hd := h.derived_at (by rw [ht]; rfl)
    rw [ht] at hd
    refine ⟨?_, hd⟩
    rw [hafter, standing_fetched]
    cases result <;> rfl
  · rintro before after t cycle begun result rfl ht
    exact h.comes ht

/-- A source that cannot fetch at first. -/
def unfinished : Plan Nat :=
  { name := "clock"
    source := some [{ result := .error (.notImplemented "later"), delay := .ofMillis 5 },
      { result := .error (.timeout "slow") }] }

/-- Of two calls that begin together the first is turned away, the second is not. -/
theorem first_of_two_refused :
    ∃ (turns : List (Turn Nat)) (v : System Nat), Run (unfinished.system .zero 0) turns v ∧
      v.agenda = [] ∧ v.standing.lastFault = some (.timeout "slow") ∧
      v.journal.reverse.filterMap Event.surfaces? =
        [(some (.main 0), .fatal (.notImplemented "later"))] ∧ Surfaced turns v := by
  have h₁ : Run (unfinished.system .zero 0) _ _ :=
    Run.rest.prompt (.calls [(.main 0, .refresh), (.main 1, .refresh)] rfl rfl)
      |>.work _ _ rfl |>.work _ _ rfl |>.work _ _ rfl
  have h₂ := h₁.prompt (.wait 5000 rfl) |>.prompt (.fire _ rfl (.head _) (Nat.le_refl _))
  -- the first fetch and its cycle end, and the second cycle enters, fetches and ends
  have h₃ := h₂.work _ _ rfl |>.work _ _ rfl |>.work _ _ rfl |>.work _ _ rfl |>.work _ _ rfl
  exact ⟨_, _, h₃, rfl, rfl, rfl, h₃.surfacing⟩

/-- Without a source, and with the longest cooldown there is. -/
def endless : Plan Nat := { name := "clock", cooldown := .ofSeconds 0xffffffffffffffff }

/-- The request's own cycle ends in a refusal, but the call breaks off, and nobody hears of it. -/
theorem refusal_lost :
    ∃ (turns : List (Turn Nat)) (v : System Nat), Run (endless.system .zero 0) turns v ∧
      v.agenda = [] ∧ v.timers.waiting = [] ∧
      (turns.map (·.task)).getLast? = some (.conclude ⟨0, .call (.main 0) .request⟩
        (.error (.fatal (.notImplemented "update method not implemented")))) ∧
      v.journal.reverse.filterMap Event.surfaces? = [] := by
  have h : Run (endless.system .zero 0) _ _ :=
    Run.rest.prompt (.calls [(.main 0, .request)] rfl rfl)
      |>.work _ _ rfl |>.work _ _ rfl |>.work _ _ rfl |>.work _ _ rfl
  exact ⟨_, _, h, rfl, rfl, rfl, rfl⟩

end System

end Freshness
