import Freshness.Proofs.Coordinator.Pacing

/-!
# A coordinator left to itself

* `Source.Steady` : every answer comes at once, and polling goes on after it;
* `Pulse`, `Pulse.beat` : when fetches are due; `Drives.deadlineAt_beat` : a timer armed at one beat is
  due at the next; `Pulse.beat_eq_iff` : which pulses keep to the interval;
* `System.Solitary` : a coordinator with listeners that do nothing, and nobody else;
* `System.Starting`, `System.Idle`, `System.Due`, `System.Entering`, `System.Landing`,
  `System.Telling` : where it stands between one beat and the next. One lemma for each says what its
  task leads to (`Due.entering` and the like).
-/

namespace Freshness

variable {α : Type}

/-! ## Answers -/

/-- Polling goes on after the result. -/
def Policy.goesOn (p : Policy) (result : Except Fault α) : Bool :=
  p.rescheduleOnAuthFailure || (System.faultOf? result).map (·.kind) != some .authFailed

/-- Every answer comes at once, and polling goes on after it. -/
def Source.Steady (policy : Policy) (source : Source α) : Prop :=
  ∀ f ∈ source, f.outcome.1.micros = 0 ∧ policy.goesOn f.outcome.2 = true

instance (policy : Policy) (source : Source α) : Decidable (source.Steady policy) :=
  inferInstanceAs (Decidable (∀ f ∈ source, f.outcome.1.micros = 0 ∧
    policy.goesOn f.outcome.2 = true))

theorem Source.Steady.next {policy : Policy} {source : Source α} (h : source.Steady policy) :
    source.next.1.outcome.1.micros = 0 ∧ policy.goesOn source.next.1.outcome.2 = true ∧
      source.next.2.Steady policy := by
  unfold Source.next
  split
  · exact ⟨rfl, Bool.or_eq_true_iff.2 (.inr rfl), h⟩
  · next f => exact ⟨(h f (.head _)).1, (h f (.head _)).2, h⟩
  · next f fs _ =>
    exact ⟨(h f (.head _)).1, (h f (.head _)).2, fun x hx => h x (.tail _ hx)⟩

/-! ## Beats -/

/-- When a coordinator was built, and what it polls by. -/
structure Pulse where
  origin : Nat
  seconds : Nat
  jitter : Duration
deriving DecidableEq, Repr

namespace Pulse

/-- When the fetch of that number is due. The whole seconds of the jitter count each time, the rest of
it once. -/
def beat (b : Pulse) (n : Nat) : Nat :=
  b.origin + n * (b.seconds + b.jitter.inSeconds) * 1000000 + b.jitter.micros % 1000000

/-- The schedule polls by the pulse. -/
structure Drives (b : Pulse) (s : Schedule) : Prop where
  origin : s.origin = b.origin
  jitter : s.jitter = b.jitter
  interval : s.interval = some (.ofSeconds b.seconds)

variable {b : Pulse} {s : Schedule}

def beats (b : Pulse) (n : Nat) : List Nat := (List.range n).map fun k => b.beat (k + 1)

theorem beats_succ (b : Pulse) (n : Nat) : b.beats (n + 1) = b.beats n ++ [b.beat (n + 1)] := by
  simp [beats, List.range_succ]

theorem mem_beats {b : Pulse} {n time : Nat} : time ∈ b.beats n ↔ ∃ k < n, b.beat (k + 1) = time := by
  simp [beats]

theorem origin_le_beat (b : Pulse) (n : Nat) : b.origin ≤ b.beat n := by
  unfold beat
  omega

theorem beat_succ (b : Pulse) (n : Nat) :
    b.beat (n + 1) = b.beat n + (b.seconds + b.jitter.inSeconds) * 1000000 := by
  simp only [beat, Nat.add_one_mul]
  omega

theorem beat_le_beat (b : Pulse) {m n : Nat} (h : m ≤ n) : b.beat m ≤ b.beat n := by
  have := Nat.mul_le_mul_right 1000000 (Nat.mul_le_mul_right (b.seconds + b.jitter.inSeconds) h)
  simp only [beat]
  omega

theorem Drives.deadlineAt_origin (h : b.Drives s) :
    s.deadlineAt b.origin (.ofSeconds b.seconds) = b.beat 1 := by
  simp only [Schedule.deadlineAt, Schedule.gridPoint, h.origin, h.jitter, beat, Duration.ofSeconds,
    Duration.inSeconds]
  omega

theorem Drives.deadlineAt_beat (h : b.Drives s) (n : Nat) :
    s.deadlineAt (b.beat n) (.ofSeconds b.seconds) = b.beat (n + 1) := by
  rw [beat_succ]
  simp only [Schedule.deadlineAt, Schedule.gridPoint, h.origin, h.jitter, beat, Duration.ofSeconds,
    Duration.inSeconds]
  generalize n * (b.seconds + b.jitter.micros / 1000000) = k
  omega

/-- The beats keep to the interval exactly if the jitter is less than a second. -/
theorem beat_eq_iff (b : Pulse) :
    (∀ n, 1 ≤ n → b.beat n = b.origin + n * b.seconds * 1000000 + b.jitter.micros) ↔
      b.jitter.micros < 1000000 := by
  constructor
  · intro h
    have := h 2 (by decide)
    simp only [beat, Duration.inSeconds] at this
    omega
  · intro h n _
    rw [beat, Duration.inSeconds, Nat.div_eq_of_lt h, Nat.mod_eq_of_lt h, Nat.add_zero]

end Pulse

/-! ## The timer -/

/-- Nothing is armed, and nothing waits for its time. -/
structure Schedule.Blank (s : Schedule) (t : Timers (Task α)) : Prop where
  armed : s.armed = none
  waiting : t.waiting = []

/-- Nothing waits but the refresh timer, which is armed for that time, unless the time is too late for
the clock. -/
inductive Schedule.Awaits (s : Schedule) (t : Timers (Task α)) (time : Nat) : Prop where
  | armed (a : Schedule.Armed) (id : TimerId) : time < clockEnd → s.armed = some a →
    t.waiting = [⟨id, time, .refreshDue a.generation⟩] → Awaits s t time
  | beyond : clockEnd ≤ time → s.Blank t → Awaits s t time

namespace System

/-- A coordinator that runs by the pulse, bound to no entry and to no host. Its listeners do nothing,
and nobody asks for anything. -/
structure Solitary (b : Pulse) (w : System α) : Prop where
  held : w.held = true
  shutDown : w.shutDown = false
  entry : w.entry = none
  followed : w.followed = none
  drives : b.Drives w.schedule
  steady : ∀ source ∈ w.source, source.Steady w.policy
  mute : ∀ c ∈ w.conducts, c.2 = []
  debounce : w.debounce.armed = none
  line : w.lock.waiting = []
  resuming : w.resuming = none
  driven : w.timers.driven = true

section

variable {b : Pulse} {w : System α}

theorem Solitary.turn (h : w.Solitary b) (agenda : List (Task α)) :
    Solitary b { w with agenda } :=
  ⟨h.held, h.shutDown, h.entry, h.followed, h.drives, h.steady, h.mute, h.debounce, h.line,
    h.resuming, h.driven⟩

theorem Solitary.hostStopping (h : w.Solitary b) : w.hostStopping = false := by
  rw [System.hostStopping, h.followed]
  rfl

theorem scheduleRefresh_frame (w : System α) :
    w.scheduleRefresh =
      { w with
        schedule := (w.schedule.arm w.timers w.shutDown w.pollingDisabled .refreshDue).2.1
        timers := (w.schedule.arm w.timers w.shutDown w.pollingDisabled .refreshDue).2.2
        journal := w.scheduleRefresh.journal } := by
  unfold scheduleRefresh
  exact (told_logAny _ _).2

/-- The refresh timer is armed anew. -/
theorem Solitary.rearm (h : w.Solitary b) (hb : w.schedule.Blank w.timers) {time : Nat}
    (hn : w.now ≤ time) (hd : w.schedule.deadlineAt w.now (.ofSeconds b.seconds) = time) :
    w.scheduleRefresh.Solitary b ∧
      w.scheduleRefresh.schedule.Awaits w.scheduleRefresh.timers time := by
  have hp : w.pollingDisabled = false := by rw [pollingDisabled, h.entry]; rfl
  have hds : (w.schedule.disarm w.timers).2 = w.timers := by rw [Schedule.disarm, hb.armed]
  have hnow : w.timers.now ≤ time := hn
  have hdt : w.schedule.deadlineAt w.timers.now (.ofSeconds b.seconds) = time := hd
  have hready : w.schedule.arm w.timers w.shutDown w.pollingDisabled .refreshDue =
      w.schedule.arm w.timers false false .refreshDue := by rw [h.shutDown, hp]
  rw [scheduleRefresh_frame, hready, Schedule.arm_of_interval h.drives.interval, hds, hdt,
    Timers.schedule_of_driven h.driven, Nat.max_eq_right hnow, hb.waiting]
  have hD := h.drives
  split
  · next ht =>
    exact ⟨{ h with drives := ⟨hD.origin, hD.jitter, hD.interval⟩ }, .beyond ht ⟨rfl, hb.waiting⟩⟩
  · next ht =>
    exact ⟨{ h with drives := ⟨hD.origin, hD.jitter, hD.interval⟩ },
      .armed _ _ (Nat.not_le.1 ht) rfl rfl⟩

/-! ## From one beat to the next -/

/-- The first listener comes, at the origin. -/
structure Starting (b : Pulse) (label : String) (context : Option String) (w : System α) : Prop where
  agenda : w.agenda = [.deed (.addListener label context [])]
  listens : w.roster.isEmpty = true
  free : w.lock.holder = none
  time : w.now = b.origin
  blank : w.schedule.Blank w.timers

/-- All waits for the next beat, when `n` fetches have begun. -/
structure Idle (b : Pulse) (n : Nat) (w : System α) : Prop where
  agenda : w.agenda = []
  listens : w.roster.isEmpty = false
  free : w.lock.holder = none
  awaits : w.schedule.Awaits w.timers (b.beat (n + 1))

/-- The timer fires. -/
structure Due (b : Pulse) (n : Nat) (a : Schedule.Armed) (w : System α) : Prop where
  agenda : w.agenda = [.refreshDue a.generation]
  listens : w.roster.isEmpty = false
  free : w.lock.holder = none
  armed : w.schedule.armed = some a
  waiting : w.timers.waiting = []
  time : w.now = b.beat (n + 1)

/-- The fetch is about to begin. -/
structure Entering (b : Pulse) (n : Nat) (cycle : Cycle) (w : System α) : Prop where
  agenda : w.agenda = [.enter cycle]
  origin : cycle.origin = .timer
  listens : w.roster.isEmpty = false
  blank : w.schedule.Blank w.timers
  time : w.now = b.beat (n + 1)

/-- The fetch has ended, and its result is to be applied. -/
structure Landing (b : Pulse) (n : Nat) (cycle : Cycle) (begun : Nat) (result : Except Fault α)
    (w : System α) : Prop where
  agenda : w.agenda = [.fetched cycle begun result]
  origin : cycle.origin = .timer
  goesOn : w.policy.goesOn result = true
  listens : w.roster.isEmpty = false
  blank : w.schedule.Blank w.timers
  time : w.now = b.beat n

/-- The listeners hear, and the cycle ends. -/
structure Telling (b : Pulse) (n : Nat) (calls : List Callback) (cycle : Cycle)
    (outcome : Except Refusal Health) (w : System α) : Prop where
  agenda : w.agenda = calls.map .hear ++ [.conclude cycle outcome]
  origin : cycle.origin = .timer
  listens : w.roster.isEmpty = false
  awaits : w.schedule.Awaits w.timers (b.beat (n + 1))

theorem Starting.idle {label : String} {context : Option String} (h : Starting b label context w)
    (hs : w.Solitary b) :
    (carryOut { w with agenda := [] } (.addListener label context [])).Solitary b ∧
      Idle b 0 (carryOut { w with agenda := [] } (.addListener label context [])) := by
  have hr := h.listens
  have hv : carryOut { w with agenda := [] } (.addListener label context []) =
      scheduleRefresh { w with
        roster := (w.roster.add ⟨label, w.roster.freshId.number⟩ context).2
        labels := (label, w.roster.freshId) :: w.labels
        conducts := (w.roster.freshId.number, []) :: w.conducts
        agenda := [] } := by
    simp [carryOut, Deed.needsHandle, hs.held, refusal?, addListener, hr, Roster.add]
  have hne : (w.roster.add ⟨label, w.roster.freshId.number⟩ context).2.isEmpty = false := by
    simp [Roster.add, Roster.isEmpty]
  rw [hv]
  generalize (w.roster.add ⟨label, w.roster.freshId.number⟩ context).2 = roster at hne
  have hj : Solitary b { w with
      roster
      labels := (label, w.roster.freshId) :: w.labels
      conducts := (w.roster.freshId.number, []) :: w.conducts
      agenda := [] } :=
    { hs with mute := List.forall_mem_cons.2 ⟨rfl, hs.mute⟩ }
  obtain ⟨hj, hw⟩ := hj.rearm h.blank (h.time ▸ b.origin_le_beat 1)
    (h.time ▸ hs.drives.deadlineAt_origin)
  refine ⟨hj, ?_, ?_, ?_, hw⟩
  all_goals rw [scheduleRefresh_frame]
  · exact hne
  · exact h.free

theorem Due.entering {n : Nat} {a : Schedule.Armed} (h : Due b n a w) (hs : w.Solitary b) :
    (refreshDue { w with agenda := [] } a.generation).Solitary b ∧
      Entering b n ⟨w.serial, .timer⟩ (refreshDue { w with agenda := [] } a.generation) := by
  have hv : refreshDue { w with agenda := [] } a.generation = { w with
      schedule := { w.schedule with armed := none }
      serial := w.serial + 1
      lock := { w.lock with holder := some ⟨w.serial, .timer⟩ }
      agenda := [.enter ⟨w.serial, .timer⟩] } := by
    have hal : alive { w with agenda := [] } = true := by simp [alive, hs.held]
    simp [refreshDue, hal, Schedule.takeFired, h.armed, ask, h.free, next]
  have hD := hs.drives
  rw [hv]
  exact ⟨{ hs with drives := ⟨hD.origin, hD.jitter, hD.interval⟩ },
    rfl, rfl, h.listens, ⟨rfl, h.waiting⟩, h.time⟩

theorem Solitary.standDown (h : w.Solitary b) (hb : w.schedule.Blank w.timers) :
    w.standDown = { w with debounce := { w.debounce with pending := false } } := by
  simp only [System.standDown, Schedule.disarm, hb.armed, Debounce.cancel, h.debounce]

theorem enter_eq_beginFetch {cycle : Cycle} (hs : w.standDown.shutDown = false)
    (hh : w.standDown.hostStopping = false) : w.enter cycle = w.standDown.beginFetch cycle := by
  simp [enter, hs, hh]

theorem Entering.landing {n : Nat} {cycle : Cycle} (h : Entering b n cycle w)
    (hs : w.Solitary b) : (enter { w with agenda := [] } cycle).Solitary b ∧
      ∃ result, Landing b (n + 1) cycle w.now result (enter { w with agenda := [] } cycle) := by
  have hst := (hs.turn []).standDown h.blank
  have hd : Solitary b { w with
      debounce := { w.debounce with pending := false }
      agenda := [] } := { hs with }
  rw [enter_eq_beginFetch (hst ▸ hd.shutDown) (hst ▸ hd.hostStopping), hst, beginFetch]
  dsimp only
  split
  · exact ⟨{ hs with }, _, rfl, h.origin, Bool.or_eq_true_iff.2 (.inr rfl), h.listens, h.blank,
      h.time⟩
  · next source hsrc =>
    obtain ⟨hz, hg, hnext⟩ := (hs.steady source hsrc).next
    rw [if_pos hz]
    refine ⟨{ hs with steady := ?_ }, _, rfl, h.origin, hg, h.listens, h.blank, h.time⟩
    rintro _ ⟨⟩
    exact hnext

theorem reschedule_of_goesOn [BEq α] (cycle : Cycle) {result : Except Fault α}
    (h : w.policy.goesOn result = true) (manner : Manner) :
    (w.policy.judge (w.applyResult cycle result).2 manner true false).reschedule = true := by
  have hf : (w.applyResult cycle result).2.failure = (faultOf? result).map (·.kind) := by
    cases result <;> rfl
  unfold Policy.goesOn at h
  simp only [Policy.judge, hf, Bool.not_false, Bool.and_true, Bool.true_and]
  rw [Bool.or_comm]
  exact h

/-- While somebody listens and polling goes on, the timer is armed anew. -/
theorem fetched_of_goesOn [BEq α] (hr : w.roster.isEmpty = false) (hh : w.hostStopping = false)
    (cycle : Cycle) (begun : Nat) {result : Except Fault α} (hg : w.policy.goesOn result = true) :
    ∃ standing journal, w.fetched cycle begun result =
      { scheduleRefresh { w with standing, journal } with
        agenda := (w.fetched cycle begun result).agenda } := by
  obtain ⟨u, fault, health, ⟨standing, journal, rfl⟩, hf⟩ :=
    fetched_eq_followUp w cycle begun result
  have hj := reschedule_of_goesOn cycle hg cycle.origin.manner
  rw [hr, hh, Bool.not_false] at hf
  generalize w.policy.judge _ _ _ _ = verdict at hf hj
  refine ⟨standing, journal, ?_⟩
  rw [hf]
  conv => lhs; rw [followUp_frame, if_pos hj]

theorem Landing.telling [BEq α] {n : Nat} {cycle : Cycle} {begun : Nat} {result : Except Fault α}
    (h : Landing b n cycle begun result w) (hs : w.Solitary b) :
    (fetched { w with agenda := [] } cycle begun result).Solitary b ∧
      ∃ calls outcome, Telling b n calls cycle outcome
        (fetched { w with agenda := [] } cycle begun result) := by
  have hd : w.schedule.deadlineAt w.now (.ofSeconds b.seconds) = b.beat (n + 1) := by
    rw [h.time]
    exact hs.drives.deadlineAt_beat n
  have hle : w.now ≤ b.beat (n + 1) := by
    rw [h.time]
    exact b.beat_le_beat (Nat.le_succ n)
  obtain ⟨standing, journal, hv⟩ :=
    fetched_of_goesOn (w := { w with agenda := [] }) h.listens hs.hostStopping cycle begun h.goesOn
  have hu : Solitary b { w with standing, journal, agenda := [] } := { hs with }
  obtain ⟨hu, hw⟩ := hu.rearm h.blank hle hd
  -- who is told does not matter, since nobody does anything
  obtain ⟨calls, outcome, hag⟩ : ∃ (calls : List Callback) (outcome : Except Refusal Health),
      (fetched { w with agenda := [] } cycle begun result).agenda =
        calls.map .hear ++ [.conclude cycle outcome] := by
    obtain ⟨calls, outcome, rfl | rfl, hag⟩ :=
      agenda_fetched { w with agenda := [] } cycle begun result
    · exact ⟨[], outcome, hag⟩
    · exact ⟨_, outcome, hag.trans (List.append_nil _)⟩
  rw [hag] at hv
  rw [hv]
  refine ⟨hu.turn _, calls, outcome, rfl, h.origin, ?_, hw⟩
  rw [scheduleRefresh_frame]
  exact h.listens

theorem Telling.hear {n : Nat} {k : Callback} {calls : List Callback} {cycle : Cycle}
    {outcome : Except Refusal Health} (h : Telling b n (k :: calls) cycle outcome w)
    (hs : w.Solitary b) :
    let rest := calls.map .hear ++ [.conclude cycle outcome]
    (System.hear { w with agenda := rest } k).Solitary b ∧
      Telling b n calls cycle outcome (System.hear { w with agenda := rest } k) := by
  intro rest
  have hc : (w.conducts.lookup k.key).getD [] = [] := by
    cases hl : w.conducts.lookup k.key with
    | none => rfl
    | some conduct =>
      obtain ⟨xs, ys, hx, -⟩ := List.lookup_eq_some_iff.1 hl
      exact hs.mute (k.key, conduct) (by simp [hx])
  have hv : System.hear { w with agenda := rest } k = { w with
      conducts := (k.key, []) :: w.conducts.filter (·.1 != k.key)
      journal := .heard k.label w.sight :: w.journal
      agenda := rest } := by
    simp [System.hear, record, next, hc]
    rfl
  rw [hv]
  refine ⟨{ hs with mute := List.forall_mem_cons.2 ⟨rfl, fun c hm => ?_⟩ }, rfl, h.origin,
    h.listens, h.awaits⟩
  exact hs.mute c (List.mem_filter.1 hm).1

theorem Telling.idle {n : Nat} {cycle : Cycle} {outcome : Except Refusal Health}
    (h : Telling b n [] cycle outcome w) (hs : w.Solitary b) :
    (conclude { w with agenda := [] } cycle outcome).Solitary b ∧
      Idle b n (conclude { w with agenda := [] } cycle outcome) := by
  have hv : conclude { w with agenda := [] } cycle outcome = { w with
      lock := { holder := none, waiting := [] }
      agenda := []
      journal := (conclude { w with agenda := [] } cycle outcome).journal } := by
    unfold conclude release
    dsimp only
    rw [hs.line, h.origin]
    exact (told_logAny _ _).2
  rw [hv]
  exact ⟨{ hs with line := rfl }, rfl, h.listens, rfl, h.awaits⟩

theorem Idle.wait {n : Nat} (h : Idle b n w) (time : Nat) :
    Idle b n { w with timers := w.timers.moveTo time } := by
  refine ⟨h.agenda, h.listens, h.free, ?_⟩
  cases h.awaits with
  | armed a id ht ha hw => exact .armed a id ht ha hw
  | beyond ht hb => exact .beyond ht ⟨hb.armed, hb.waiting⟩

theorem Idle.due {n : Nat} (h : Idle b n w) (hs : w.Solitary b) (hp : w.Punctual) {t : Timer (Task α)}
    (ht : t ∈ w.timers.waiting) (hd : t.deadline ≤ w.now) :
    Solitary b { w with timers := w.timers.take t, agenda := [t.job] } ∧
      ∃ a, Due b n a { w with timers := w.timers.take t, agenda := [t.job] } := by
  cases h.awaits with
  | beyond _ hb =>
    rw [hb.waiting] at ht
    cases ht
  | armed a id hlt ha hw =>
    have hn : w.now ≤ t.deadline := hp t ht
    rw [hw] at ht
    obtain rfl := List.mem_singleton.1 ht
    refine ⟨{ hs with driven := (Timers.driven_cancel _ _).trans hs.driven },
      a, rfl, h.listens, h.free, ha, ?_, ?_⟩
    · simp [Timers.take, Timers.cancel, hw]
    · exact (Timers.now_cancel _ _).trans (Nat.le_antisymm hn hd)

end

end System

end Freshness
