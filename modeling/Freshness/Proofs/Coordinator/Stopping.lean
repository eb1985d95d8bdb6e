import Freshness.Proofs.Coordinator.Coalescing
import Freshness.Proofs.Coordinator.Following

/-!
# While the host stops

A host that stops silences the refresh timer of a coordinator that follows it. Every cycle looks
twice whether it does: as it enters, and when its fetch has ended.

* `Turn.stopping_after`, `Run.hostStopping_iff` : a host is stopping once it has been stopped;
* `System.Passes`, `passes_enter` : what a scheduled cycle comes to meanwhile;
* `spares_timer_fetched` : what the end of a fetch leaves of the refresh timer;
* `ahead_of_asks` : whoever asks has a place in line;
* `System.Applies`, `System.Provided`, `Run.provided` : what a cycle comes to that nothing scheduled;
* `System.Silenced`, `Run.silenced` : **a host that stops silences scheduled polling, and nothing
  else**.
-/

namespace Freshness

variable {α : Type}

theorem Task.left_le (task : Task α) : task.left ≤ 3 := by
  cases task <;> simp [left]

namespace System

variable {w v : System α} {cycle : Cycle} {t : Turn α}

/-! ## Hosts that are stopping -/

theorem hostStopping_iff : w.hostStopping = true ↔
    ∃ n, w.followed = some n ∧ (w.host n).stopping = true := by
  rw [hostStopping, Option.any_eq_true]

theorem Turn.stops?_eq_some {n : HostName} : t.stops? = some n ↔
    t.task = .deed (.stopHost n) ∧ (t.before.host n).stopping = false := by
  unfold Turn.stops?
  split
  · next name ht =>
    rw [ht]
    cases hs : (t.before.host name).stopping with
    | true =>
      refine iff_of_false nofun ?_
      rintro ⟨hn, hf⟩
      obtain rfl := Deed.stopHost.inj (Task.deed.inj hn)
      cases hs.symm.trans hf
    | false =>
      refine ⟨fun h => ?_, fun h => congrArg some (Deed.stopHost.inj (Task.deed.inj h.1))⟩
      obtain rfl := Option.some.inj h
      exact ⟨rfl, hs⟩
  · next hne => exact iff_of_false nofun fun h => hne n h.1

/-! ## Scheduled cycles -/

/-- The cycle goes by: no fetch begins, and nothing is known but what was known before. -/
structure Passes (w v : System α) (cycle : Cycle) : Prop where
  launches : Event.launches v.journal = Event.launches w.journal
  source : v.source = w.source
  standing : v.standing = w.standing
  stages : v.stages = [.conclude cycle (.ok w.health)]

variable [BEq α]

theorem passes_enter (h : Serving w cycle) (hk : w.skips cycle = true) :
    Passes w (w.enter cycle) cycle := by
  have hst := stages_skip h hk
  have hc := course_enter w cycle
  generalize w.enter cycle = v at hst hc
  cases hc with
  | quiet hs => cases hs
  | asked _ ht => cases ht
  | skipped _ hu =>
    exact ⟨hu.calm.journal.launches, hu.calm.quiet.source, hu.calm.standing, hst⟩
  | began hk' => cases hk'.symm.trans hk

omit [BEq α] in
theorem reschedule_judge_of_stopping (p : Policy) (report : Report) (manner : Manner)
    (hasListeners : Bool) : (p.judge report manner hasListeners true).reschedule = false := by
  simp [Policy.judge]

/-- The end of a fetch leaves the refresh timer as it is. -/
theorem spares_timer_fetched (h : w.hostStopping = true) (cycle : Cycle) (begun : Nat)
    (result : Except Fault α) : (w.fetched cycle begun result).schedule = w.schedule ∧
      (w.fetched cycle begun result).timers = w.timers := by
  obtain ⟨u, fault, health, ⟨standing, journal, rfl⟩, hf⟩ :=
    fetched_eq_followUp w cycle begun result
  have hv := reschedule_judge_of_stopping w.policy (w.applyResult cycle result).2
    cycle.origin.manner (!w.roster.isEmpty)
  rw [hf, h, followUp_frame, hv, if_neg Bool.false_ne_true]
  exact ⟨rfl, rfl⟩

/-! ## A place in line -/

theorem Turn.stopping_after (h : Moored t.before) (n : HostName) :
    (t.after.host n).stopping = true ↔
      (t.before.host n).stopping = true ∨ t.task = .deed (.stopHost n) := by
  rw [(Turn.moors h).stopping, Turn.stops?_eq_some]
  cases (t.before.host n).stopping <;> simp

/-- Whoever asks has a place in line, behind those that were in line before. -/
theorem ahead_of_asks {u : System α} {rest : List (Task α)} (ho : Orderly u)
    (ha : u.agenda = t.task :: rest) (htb : t.before = { u with agenda := rest })
    (h : t.asks? = some cycle) : ∃ n ≤ 3 * t.before.lock.line.length, Ahead t.after cycle n := by
  have hl : Life u t.task t.after := by
    rw [Turn.after, htb]
    exact life_perform ho ha
  have hs : t.before.serial = u.serial := by rw [htb]
  have hk : t.before.lock = u.lock := by rw [htb]
  have hsame : t.after.serial ≠ u.serial := fun he => by
    cases h.symm.trans (Turn.asks?_of_eq (he.trans hs.symm))
  have hlast : t.after.serial = u.serial + 1 → t.after.lock.line.getLast? = some cycle :=
    fun he => (Turn.asks?_of_succ (he.trans (congrArg (· + 1) hs.symm))).symm.trans h
  rw [hk]
  generalize t.task = task at hl
  generalize t.after = x at hl hsame hlast
  cases hl with
  | quiet _ _ _ hq | skipped _ _ _ _ _ _ hq | began _ _ _ _ _ _ _ _ hq | landed _ _ _ _ _ hq
  | ended _ _ _ _ hq => exact absurd (Prod.mk.inj hq).1 hsame
  | admitted origin _ _ hfree hst hlock hq =>
    have hc := hlast (Prod.mk.inj hq).1
    rw [hlock] at hc
    obtain rfl := Option.some.inj hc
    exact ⟨0, Nat.zero_le _, .next hst⟩
  | queued origin holder _ hst hh hlock hq =>
    have hc := hlast (Prod.mk.inj hq).1
    rw [hlock, Lock.line, ← List.append_assoc, List.getLast?_concat] at hc
    obtain rfl := Option.some.inj hc
    have hcarry := ho.carry
    rw [hh] at hcarry
    obtain ⟨stage, hstage⟩ : ∃ stage, u.stages = [stage] := by
      generalize u.stages = stages at hcarry
      cases hcarry with
      | busy => exact ⟨_, rfl⟩
    refine ⟨_, ?_, .behind stage u.lock.waiting [] (hst.trans hstage) (by rw [hlock])⟩
    have hle := stage.left_le
    rw [Lock.line, hh]
    simp only [Option.toList_some, List.singleton_append, List.length_cons]
    omega

/-! ## Runs -/

section Runs

variable {p : Plan α} {jitter : Duration} {now : Nat} {turns before after : List (Turn α)}

theorem Run.stopping_iff (h : Run (p.system jitter now) turns v) (n : HostName) :
    (v.host n).stopping = true ↔ ∃ s ∈ turns, s.task = .deed (.stopHost n) := by
  induction h with
  | rest => exact iff_of_false Bool.false_ne_true (by simp)
  | @prompt _ u v _ hp ih =>
    have hv : v.hosts = u.hosts := by cases hp <;> rfl
    rw [host, hv]
    exact ih
  | @work _ u task rest hr _ ih =>
    have ht := Turn.stopping_after (t := ⟨task, { u with agenda := rest }⟩) (hr.moored.of_ties rfl) n
    refine ht.trans ?_
    simp only [List.mem_append, List.mem_singleton, or_and_right, exists_or, exists_eq_left]
    exact or_congr_left ih

theorem Run.hostStopping_iff (h : Run (p.system jitter now) turns v) : v.hostStopping = true ↔
    ∃ n, p.followed = some n ∧ ∃ s ∈ turns, s.task = .deed (.stopHost n) := by
  have hf : v.followed = p.followed := h.followed
  simp only [System.hostStopping_iff, hf, h.stopping_iff]

theorem Run.hostStopping_before (h : Run (p.system jitter now) (before ++ t :: after) v) :
    t.before.hostStopping = true ↔
      ∃ n, p.followed = some n ∧ ∃ s ∈ before, s.task = .deed (.stopHost n) := by
  obtain ⟨u, rest, hb, -, htb, -⟩ := h.split
  rw [htb]
  exact hb.hostStopping_iff

theorem Run.hostStopping_later (h : Run (p.system jitter now) (before ++ t :: after) v)
    (ht : t.before.hostStopping = true) {s : Turn α} (hs : s ∈ t :: after) :
    s.before.hostStopping = true := by
  obtain ⟨n, hn, x, hx, hxt⟩ := h.hostStopping_before.1 ht
  obtain ⟨mid, rest, he⟩ := List.append_of_mem hs
  rw [he, ← List.append_assoc] at h
  exact h.hostStopping_before.2 ⟨n, hn, x, List.mem_append_left _ hx, hxt⟩

theorem Run.launched_of_stopping (h : Run (p.system jitter now) (before ++ t :: after) v)
    (ht : t.before.hostStopping = true) :
    ∀ cycle ∈ launched (t :: after), cycle.origin.manner.isScheduled = false := by
  intro cycle hc
  obtain ⟨s, hs, hl⟩ := List.mem_filterMap.1 hc
  have hk := (Option.filter_eq_some_iff.1 hl).2
  simp only [skips, h.hostStopping_later ht hs, Bool.and_true, Bool.not_eq_true',
    Bool.or_eq_false_iff] at hk
  exact hk.2

/-- The fetches that have begun since a turn are those of the cycles that were not skipped. -/
theorem Run.launches_since (h : Run (p.system jitter now) (before ++ t :: after) v) :
    Event.launches v.journal =
      (if p.source.isSome then ((launched (t :: after)).map (·.serial)).reverse else []) ++
        Event.launches t.before.journal := by
  obtain ⟨u, rest, hb, -, htb, -⟩ := h.split
  have hj : t.before.journal = u.journal := by rw [htb]
  have hu : Event.launches u.journal =
      if p.source.isSome then ((launched before).map (·.serial)).reverse else [] :=
    hb.history.2.2.launches
  have hv : Event.launches v.journal =
      if p.source.isSome then ((launched (before ++ t :: after)).map (·.serial)).reverse else [] :=
    h.history.2.2.launches
  have hl : launched (before ++ t :: after) = launched before ++ launched (t :: after) :=
    List.filterMap_append
  rw [hj, hu, hv, hl, List.map_append, List.reverse_append]
  split <;> rfl

/-! ## Other cycles -/

/-- What the fetch of a cycle brings, which began in the turn `e`, is applied in one of the turns
after it, or is under way still and can come to be applied. -/
def Applies (e : Turn α) (after : List (Turn α)) (v : System α) (cycle : Cycle) : Prop :=
  (∃ s ∈ after, (∃ begun, s.task = .fetched cycle begun e.before.brings) ∧
    s.after.standing =
      (s.before.standing.apply e.before.brings (s.before.now / 1000 : Nat)).1) ∨
  ((∃ begun, .fetched cycle begun e.before.brings ∈ v.stages) ∧
    ∃ later x, Run v later x ∧ cycle ∈ landed later)

/-- What a cycle comes to that asked in the turn `t`, in the turns after it. -/
structure Provided (p : Plan α) (t : Turn α) (after : List (Turn α)) (v : System α)
    (cycle : Cycle) : Prop where
  /-- Until it enters it is in line, with no more than three stages before it of each cycle that was
  in line before, and can come to enter. -/
  waits : cycle ∉ entered after → cycle ∈ v.lock.line ∧
    after.countP (·.task.isStage) ≤ 3 * t.before.lock.line.length ∧
      ∃ later x, Run v later x ∧ cycle ∈ entered later
  /-- If it enters before a shutdown it fetches, once, and what it brings is applied. -/
  fetches : ∀ {mid rest : List (Turn α)} {e : Turn α}, after = mid ++ e :: rest →
    e.task = .enter cycle → e.before.shutDown = false →
    (Event.launches v.journal).count cycle.serial = (if p.source.isSome then 1 else 0) ∧
      Applies e rest v cycle

theorem Run.applies (h : Run (p.system jitter now) (before ++ t :: after) v)
    (ht : t.task = .enter cycle) (hk : t.before.skips cycle = false) : Applies t after v cycle := by
  obtain ⟨u, rest, hb, ha, htb, hr⟩ := h.split
  have hs : Serving t.before cycle := by
    rw [htb]
    exact hb.history.1.serving ha (by rw [ht]; rfl)
  obtain ⟨begun, hst⟩ := stages_begin hs hk
  have hafter : t.after = t.before.enter cycle := Turn.after_eq ht
  have hstage : .fetched cycle begun t.before.brings ∈ t.after.stages := by
    rw [hafter, hst]
    exact .head _
  obtain ⟨hv, hwait | ⟨s, hs, hst⟩⟩ := hr.stage_waits h.at_turn.history.1 hstage
  · obtain ⟨later, x, rest, hlater, hx⟩ := hv.comes_up hwait
    exact .inr ⟨⟨begun, hwait⟩, _, _, hlater.work _ _ hx, by simp [landed, Task.lands?]⟩
  · refine .inl ⟨s, hs, ⟨begun, hst⟩, ?_⟩
    rw [Turn.after_eq hst]
    exact standing_fetched _ _ _ _

theorem Run.provided (h : Run (p.system jitter now) (before ++ t :: after) v)
    (hc : cycle.origin.manner.isScheduled = false) (ha : t.asks? = some cycle) :
    Provided p t after v cycle := by
  obtain ⟨u, rest, hb, hag, htb, hr⟩ := h.split
  obtain ⟨n, hn, hahead⟩ := ahead_of_asks hb.history.1 hag htb ha
  refine ⟨fun he => ?_, ?_⟩
  · obtain ⟨hv, m, hm, hle⟩ := hr.approaches h.at_turn.history.1 hahead he
    exact ⟨hm.mem_line hv, by omega, hm.can_enter hv⟩
  · rintro mid rest e rfl het hd
    have hk : e.before.skips cycle = false := by simp [skips, hd, hc]
    have hl : e.launches? = some cycle := by
      rw [Turn.launches?, het]
      simp [Task.enters?, hk]
    refine ⟨(h.launched_once (List.mem_filterMap.2 ⟨e, by simp, hl⟩)).2, ?_⟩
    rw [← List.cons_append, ← List.append_assoc] at h
    exact h.applies het hk

end Runs

/-! ## The whole -/

/-- What a stop of the host that the coordinator follows does, in every run of a new coordinator. -/
structure Silenced (p : Plan α) (turns : List (Turn α)) (v : System α) : Prop where
  /-- The host is stopping from the turn on in which it is stopped. -/
  stopping : ∀ {before after : List (Turn α)} {t : Turn α}, turns = before ++ t :: after →
    (t.before.hostStopping = true ↔
      ∃ n, p.followed = some n ∧ ∃ s ∈ before, s.task = .deed (.stopHost n))
  /-- A scheduled cycle that enters then goes by, no matter when it asked. -/
  scheduled : ∀ t ∈ turns, ∀ {cycle : Cycle}, t.before.hostStopping = true →
    t.task = .enter cycle → cycle.origin.manner.isScheduled = true → Passes t.before t.after cycle
  /-- All fetches that begin from then on are those of other cycles. -/
  fetches : ∀ {before after : List (Turn α)} {t : Turn α}, turns = before ++ t :: after →
    t.before.hostStopping = true →
    (∀ cycle ∈ launched (t :: after), cycle.origin.manner.isScheduled = false) ∧
      Event.launches v.journal =
        (if p.source.isSome then ((launched (t :: after)).map (·.serial)).reverse else []) ++
          Event.launches t.before.journal
  /-- The end of a fetch arms nothing then, no matter when the fetch began. -/
  unarmed : ∀ t ∈ turns, ∀ {cycle : Cycle} {begun : Nat} {result : Except Fault α},
    t.before.hostStopping = true → t.task = .fetched cycle begun result →
    t.after.schedule = t.before.schedule ∧ t.after.timers = t.before.timers
  /-- Stopping or not, a call asks for a cycle of its own, or it is a request that is declined. A
  request breaks off if it is to start a cooldown for which the clock has no room. -/
  calls : ∀ t ∈ turns, ∀ {caller : Caller} {call : Call}, t.task = .start caller call →
    t.asks? = some ⟨t.before.serial, .call caller call⟩ ∨
      (call = .request ∧ t.asks? = none ∧ (t.reports = [.answered caller none] ∨
        t.reports = [.brokeOff caller] ∧ t.before.debounce.Spent t.before.now))
  /-- Whatever asks for a cycle that is not scheduled is provided for. -/
  others : ∀ {before after : List (Turn α)} {t : Turn α} {cycle : Cycle},
    turns = before ++ t :: after → t.asks? = some cycle →
    cycle.origin.manner.isScheduled = false → Provided p t after v cycle

/-- **A host that stops silences scheduled polling, and nothing else.** -/
theorem Run.silenced {p : Plan α} {jitter : Duration} {now : Nat} {turns : List (Turn α)}
    {v : System α} (h : Run (p.system jitter now) turns v) : Silenced p turns v := by
  refine ⟨?_, fun t ht cycle hs he hc => ?_, ?_, fun t ht cycle begun result hs hf => ?_,
    fun t ht caller call hs => ?_, ?_⟩
  · rintro before after t rfl
    exact h.hostStopping_before
  · obtain ⟨before, after, rfl⟩ := List.append_of_mem ht
    obtain ⟨u, rest, hb, ha, htb, -⟩ := h.split
    have hv : Serving t.before cycle := by
      rw [htb]
      exact hb.history.1.serving ha (by rw [he]; rfl)
    rw [Turn.after_eq he]
    exact passes_enter hv (by simp [skips, hs, hc])
  · rintro before after t rfl hs
    exact ⟨h.launched_of_stopping hs, h.launches_since⟩
  · rw [Turn.after_eq hf]
    exact spares_timer_fetched hs cycle begun result
  · rcases h.starts ht hs with ⟨ha, -⟩ | hd
    · exact .inl ha
    · exact .inr hd
  · rintro before after t cycle rfl ha hc
    exact h.provided hc ha

/-- Polled for every minute, with a first fetch of five milliseconds, and a host to follow. -/
def attentive : Plan Nat :=
  { name := "clock", interval := some (.ofSeconds 60), followed := some ⟨0⟩
    source := some [{ result := .ok 7, delay := .ofMillis 5 }, { result := .ok 8 }] }

/-- The host stops during the fetch of a refresh, which arms nothing when it ends. The scheduled
cycle behind it goes by; another refresh fetches. -/
theorem stopped_during_fetch :
    ∃ (turns : List (Turn Nat)) (v : System Nat), Run (attentive.system .zero 0) turns v ∧
      v.agenda = [] ∧ v.hostStopping = true ∧ v.shutDown = false ∧ v.roster.isEmpty = false ∧
      (asked turns).map (·.origin.manner.isScheduled) = [false, true, false] ∧
      Event.launches v.journal = [2, 0] ∧ v.standing.data = some 8 ∧ v.schedule.armed = none ∧
      Silenced attentive turns v := by
  have h₁ : Run (attentive.system .zero 0) _ _ :=
    Run.rest.prompt (.deed (.addListener "dial" none []) rfl) |>.work _ _ rfl
  have h₂ := h₁.prompt (.calls [(.main 0, .refresh), (.main 1, .interval)] rfl rfl)
    |>.work _ _ rfl |>.work _ _ rfl |>.work _ _ rfl
  have h₃ := h₂.prompt (.deed (.stopHost ⟨0⟩) rfl) |>.work _ _ rfl
  have h₄ := h₃.prompt (.wait 5000 rfl) |>.prompt (.fire _ rfl (.head _) (Nat.le_refl _))
  -- the fetch ends, the listener hears, the cycle ends, and the one behind it goes by and ends
  have h₅ := h₄.work _ _ rfl |>.work _ _ rfl |>.work _ _ rfl |>.work _ _ rfl |>.work _ _ rfl
  have h₆ := h₅.prompt (.calls [(.main 2, .refresh)] rfl rfl)
    |>.work _ _ rfl |>.work _ _ rfl |>.work _ _ rfl |>.work _ _ rfl |>.work _ _ rfl
  exact ⟨_, _, h₆, rfl, rfl, rfl, rfl, rfl, rfl, rfl, rfl, h₆.silenced⟩

end System

end Freshness
