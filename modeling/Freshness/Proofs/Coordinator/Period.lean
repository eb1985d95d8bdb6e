import Freshness.Proofs.Coordinator.Solitude
import Freshness.Proofs.Settings.Acceptance

/-!
# The refresh timer keeps its period

* `System.polls` : when the fetches have begun that the timer has triggered;
* `System.Phase`, `Phase.work` : a coordinator left to itself goes from phase to phase;
* `System.Undisturbed`, `Undisturbed.phase` : a run in which nothing comes from outside polls at the
  beats; `Undisturbed.exists_idle` : it comes to each of them;
* `System.Periodic`, `Settings.periodic` : **fetches begin at the beats**, which keep to the interval
  if the jitter is less than a second, and only then.
-/

namespace Freshness

variable {α : Type}

namespace System

section

variable {b : Pulse} {w : System α}

/-! ## Phases -/

/-- How far a coordinator with one listener has come when `n` fetches have begun. -/
inductive Phase (b : Pulse) (n : Nat) (w : System α) : Prop where
  | starting (label : String) (context : Option String) : n = 0 → Starting b label context w →
    Phase b n w
  | idle : Idle b n w → Phase b n w
  | due (a : Schedule.Armed) : Due b n a w → Phase b n w
  | entering (cycle : Cycle) : Entering b n cycle w → Phase b n w
  | landing (cycle : Cycle) (begun : Nat) (result : Except Fault α) :
    Landing b n cycle begun result w → Phase b n w
  | telling (calls : List Callback) (cycle : Cycle) (outcome : Except Refusal Health) :
    Telling b n calls cycle outcome w → Phase b n w

variable {n : Nat}

theorem Phase.idle_of_agenda (h : Phase b n w) (ha : w.agenda = []) : Idle b n w := by
  cases h with
  | idle h => exact h
  | starting _ _ _ h | due _ h | entering _ h | landing _ _ _ h =>
    cases ha.symm.trans h.agenda
  | telling calls _ _ h =>
    rw [h.agenda] at ha
    simp at ha

def Turn.polls? (t : Turn α) : Option Nat :=
  (t.launches?.filter (·.origin == .timer)).map fun _ => t.before.now

/-- When the fetches have begun that the timer has triggered. -/
def polls (turns : List (Turn α)) : List Nat := turns.filterMap Turn.polls?

theorem Entering.polls {cycle : Cycle} (h : Entering b n cycle w) (hs : w.Solitary b) :
    Turn.polls? ⟨.enter cycle, { w with agenda := [] }⟩ = some (b.beat (n + 1)) := by
  have hk : skips { w with agenda := [] } cycle = false := by
    rw [skips, (hs.turn []).hostStopping, Bool.and_false, Bool.or_false]
    exact hs.shutDown
  have hl : Turn.launches? ⟨.enter cycle, { w with agenda := [] }⟩ = some cycle := by
    simp [Turn.launches?, Task.enters?, hk]
  simp only [Turn.polls?, hl, Option.filter_some, h.origin, beq_self_eq_true, if_true,
    Option.map_some]
  exact congrArg some h.time

/-- One task leads to the next phase. Fetches begin at the beats, one at each. -/
theorem Phase.work [BEq α] (h : Phase b n w) (hs : w.Solitary b) {task : Task α}
    {rest : List (Task α)} (ha : w.agenda = task :: rest) :
    (perform { w with agenda := rest } task).Solitary b ∧
      ∃ m, Phase b m (perform { w with agenda := rest } task) ∧
        b.beats m = b.beats n ++ (Turn.polls? ⟨task, { w with agenda := rest }⟩).toList := by
  have hnone (m : Nat) : b.beats m = b.beats m ++ (none : Option Nat).toList :=
    (List.append_nil _).symm
  cases h with
  | starting label context hn h =>
    obtain ⟨rfl, rfl⟩ := List.cons.inj (ha.symm.trans h.agenda)
    obtain ⟨hs, hi⟩ := h.idle hs
    exact ⟨hs, 0, .idle hi, hn ▸ hnone 0⟩
  | idle h => cases ha.symm.trans h.agenda
  | due a h =>
    obtain ⟨rfl, rfl⟩ := List.cons.inj (ha.symm.trans h.agenda)
    obtain ⟨hs, he⟩ := h.entering hs
    exact ⟨hs, n, .entering _ he, hnone n⟩
  | entering cycle h =>
    obtain ⟨rfl, rfl⟩ := List.cons.inj (ha.symm.trans h.agenda)
    obtain ⟨hs', result, hl⟩ := h.landing hs
    refine ⟨hs', n + 1, .landing cycle _ result hl, ?_⟩
    rw [h.polls hs, b.beats_succ]
    rfl
  | landing cycle begun result h =>
    obtain ⟨rfl, rfl⟩ := List.cons.inj (ha.symm.trans h.agenda)
    obtain ⟨hs, calls, outcome, ht⟩ := h.telling hs
    exact ⟨hs, n, .telling calls cycle outcome ht, hnone n⟩
  | telling calls cycle outcome h =>
    cases calls with
    | nil =>
      obtain ⟨rfl, rfl⟩ := List.cons.inj (ha.symm.trans h.agenda)
      obtain ⟨hs, hi⟩ := h.idle hs
      exact ⟨hs, n, .idle hi, hnone n⟩
    | cons k calls =>
      obtain ⟨rfl, rfl⟩ := List.cons.inj (ha.symm.trans h.agenda)
      obtain ⟨hs, ht⟩ := h.hear hs
      exact ⟨hs, n, .telling calls cycle outcome ht, hnone n⟩

end

/-! ## Undisturbed runs -/

section

variable [BEq α]

/-- A run in which nothing comes from outside and no job waits past its time. -/
inductive Undisturbed (w : System α) : List (Turn α) → System α → Prop where
  | rest : Undisturbed w [] w
  | wait {turns : List (Turn α)} {u : System α} (time : Nat) : Undisturbed w turns u →
    u.agenda = [] → Punctual { u with timers := u.timers.moveTo time } →
    Undisturbed w turns { u with timers := u.timers.moveTo time }
  | fire {turns : List (Turn α)} {u : System α} (t : Timer (Task α)) : Undisturbed w turns u →
    u.agenda = [] → t ∈ u.timers.waiting → t.deadline ≤ u.now →
    Undisturbed w turns { u with timers := u.timers.take t, agenda := [t.job] }
  | resume {turns : List (Turn α)} {u : System α} (cycle : Cycle) : Undisturbed w turns u →
    u.agenda = [] → u.resuming = some cycle →
    Undisturbed w turns { u with resuming := none, agenda := [.enter cycle] }
  | work {turns : List (Turn α)} {u : System α} (task : Task α) (rest : List (Task α)) :
    Undisturbed w turns u → u.agenda = task :: rest →
    Undisturbed w (turns ++ [⟨task, { u with agenda := rest }⟩])
      ({ u with agenda := rest }.perform task)

theorem Undisturbed.timed {w v : System α} {turns : List (Turn α)} (hw : w.Punctual)
    (h : Undisturbed w turns v) : Timed w turns v := by
  induction h with
  | rest => exact .rest
  | wait time _ ha hp ih => exact ih.prompt (.wait time ha) hp
  | @fire _ u t _ ha ht hd ih =>
    refine ih.prompt (.fire t ha ht hd) fun x hx => ?_
    have hn : (u.timers.take t).now = u.now := Timers.now_cancel _ _
    exact Nat.le_trans (Nat.le_of_eq hn) (ih.punctual hw x (Timers.mem_cancel.1 hx).1)
  | resume cycle _ ha hr ih => exact ih.prompt (.resume cycle ha hr) (ih.punctual hw)
  | work task rest _ ha ih => exact ih.work task rest ha

variable {b : Pulse} {n : Nat} {w u : System α} {turns : List (Turn α)}

/-- What the timer has triggered began at the beats, one at each. -/
theorem Undisturbed.phase (h : Undisturbed w turns u) (hs : w.Solitary b) (hw : Phase b 0 w)
    (hp : w.Punctual) : u.Solitary b ∧ ∃ n, Phase b n u ∧ polls turns = b.beats n := by
  induction h with
  | rest => exact ⟨hs, 0, hw, rfl⟩
  | wait time _ ha _ ih =>
    obtain ⟨hs, n, hn, ht⟩ := ih
    exact ⟨{ hs with }, n, .idle ((hn.idle_of_agenda ha).wait time), ht⟩
  | fire t hu ha htw hd ih =>
    obtain ⟨hs, n, hn, ht⟩ := ih
    obtain ⟨hs, a, hdue⟩ := (hn.idle_of_agenda ha).due hs ((hu.timed hp).punctual hp) htw hd
    exact ⟨hs, n, .due a hdue, ht⟩
  | resume cycle _ _ hr ih => cases ih.1.resuming.symm.trans hr
  | work task rest _ ha ih =>
    obtain ⟨hs, n, hn, ht⟩ := ih
    obtain ⟨hs, m, hm, hb⟩ := hn.work hs ha
    exact ⟨hs, m, hm, by rw [polls, filterMap_snoc, hb, ← ht, polls]⟩

/-- All that was to be done when the `n`-th fetch had begun is done. -/
theorem Undisturbed.exists_idle_of_telling {calls : List Callback} {cycle : Cycle}
    {outcome : Except Refusal Health} (h : Undisturbed w turns u) (hs : u.Solitary b)
    (ht : Telling b n calls cycle outcome u) :
    ∃ more v, Undisturbed w more v ∧ v.Solitary b ∧ Idle b n v ∧ polls more = polls turns := by
  induction calls generalizing turns u with
  | nil =>
    obtain ⟨hs', hi⟩ := ht.idle hs
    exact ⟨_, _, h.work _ _ ht.agenda, hs', hi, filterMap_snoc_of_none rfl turns⟩
  | cons k calls ih =>
    obtain ⟨hs', ht'⟩ := ht.hear hs
    obtain ⟨more, v, hv, hs', hi, hm⟩ := ih (h.work _ _ ht.agenda) hs' ht'
    exact ⟨more, v, hv, hs', hi, hm.trans (filterMap_snoc_of_none rfl turns)⟩

/-- A timer that fires has its fetch, and all comes to rest again. -/
theorem Undisturbed.exists_idle_of_due {a : Schedule.Armed} (h : Undisturbed w turns u)
    (hs : u.Solitary b) (hd : Due b n a u) :
    ∃ more v, Undisturbed w more v ∧ v.Solitary b ∧ Idle b (n + 1) v ∧
      polls more = polls turns ++ [b.beat (n + 1)] := by
  obtain ⟨hs₁, he⟩ := hd.entering hs
  have h₁ := h.work _ _ hd.agenda
  obtain ⟨hs₂, result, hl⟩ := he.landing hs₁
  have h₂ := h₁.work _ _ he.agenda
  obtain ⟨hs₃, calls, outcome, ht⟩ := hl.telling hs₂
  have h₃ := h₂.work _ _ hl.agenda
  obtain ⟨more, v, hv, hs', hi, hm⟩ := h₃.exists_idle_of_telling hs₃ ht
  refine ⟨more, v, hv, hs', hi, ?_⟩
  -- of the three turns the second begins a fetch
  calc polls more = polls _ := hm
    _ = polls _ := filterMap_snoc_of_none rfl _
    _ = polls _ ++ [b.beat (n + 1)] := filterMap_snoc_of_some (he.polls hs₁) _
    _ = polls turns ++ [b.beat (n + 1)] := congrArg (· ++ _) (filterMap_snoc_of_none rfl turns)

theorem Undisturbed.exists_idle_succ (h : Undisturbed w turns u) (hp : u.Punctual)
    (hs : u.Solitary b) (hi : Idle b n u) (hn : b.beat (n + 1) < clockEnd) :
    ∃ more v, Undisturbed w more v ∧ v.Solitary b ∧ Idle b (n + 1) v ∧
      polls more = polls turns ++ [b.beat (n + 1)] := by
  obtain ⟨a, id, -, -, hw⟩ | ⟨hle, -⟩ := hi.awaits
  swap
  · exact absurd hn (Nat.not_lt.2 hle)
  have hmem : ⟨id, b.beat (n + 1), .refreshDue a.generation⟩ ∈ u.timers.waiting := by
    rw [hw]
    exact .head _
  have hpw : Punctual { u with timers := u.timers.moveTo (b.beat (n + 1)) } := by
    intro t ht
    have ht' : t ∈ u.timers.waiting := ht
    rw [hw] at ht'
    obtain rfl := List.mem_singleton.1 ht'
    exact Nat.max_le.2 ⟨hp _ hmem, Nat.le_refl _⟩
  have hdue : b.beat (n + 1) ≤ max u.timers.now (b.beat (n + 1)) := Nat.le_max_right ..
  obtain ⟨hs', a, hd⟩ := (hi.wait (b.beat (n + 1))).due { hs with } hpw hmem hdue
  exact ((h.wait _ hi.agenda hpw).fire _ hi.agenda hmem hdue).exists_idle_of_due hs' hd

theorem Starting.exists_idle {label : String} {context : Option String}
    (h : Starting b label context w) (hs : w.Solitary b) (hp : w.Punctual)
    (hn : b.beat n < clockEnd) :
    ∃ turns u, Undisturbed w turns u ∧ u.Solitary b ∧ Idle b n u ∧ polls turns = b.beats n := by
  induction n with
  | zero =>
    obtain ⟨hs', hi⟩ := h.idle hs
    exact ⟨_, _, Undisturbed.rest.work _ _ h.agenda, hs', hi, rfl⟩
  | succ n ih =>
    obtain ⟨turns, u, hu, hs', hi, ht⟩ :=
      ih (Nat.lt_of_le_of_lt (b.beat_le_beat (Nat.le_succ n)) hn)
    obtain ⟨more, v, hv, hs', hi, hm⟩ :=
      hu.exists_idle_succ ((hu.timed hp).punctual hp) hs' hi hn
    exact ⟨more, v, hv, hs', hi, by rw [hm, ht, b.beats_succ]⟩

/-! ## The whole -/

/-- What is true of a coordinator whose first listener is about to come and that is left to itself. -/
structure Periodic (b : Pulse) (w : System α) : Prop where
  /-- The timer triggers fetches at the beats, one at each. -/
  onBeat : ∀ turns u, Undisturbed w turns u → ∃ n, polls turns = b.beats n
  /-- When all that is due has been done, no beat has been left out that fits the clock. -/
  complete : ∀ turns u, Undisturbed w turns u → u.agenda = [] →
    (∀ t ∈ u.timers.waiting, u.now < t.deadline) → ∀ n, b.beat (n + 1) ≤ u.now →
      b.beat (n + 1) < clockEnd → b.beat (n + 1) ∈ polls turns
  /-- Every beat that fits the clock is reached. -/
  reached : ∀ n, b.beat n < clockEnd →
    ∃ turns u, Undisturbed w turns u ∧ polls turns = b.beats n

theorem periodic_of_starting {label : String} {context : Option String}
    (h : Starting b label context w) (hs : w.Solitary b) : Periodic b w := by
  have hp : w.Punctual := by
    intro t ht
    rw [h.blank.waiting] at ht
    cases ht
  have hphase : Phase b 0 w := .starting label context rfl h
  refine ⟨fun turns u hu => ?_, fun turns u hu ha hd n hle hn => ?_, fun n hn => ?_⟩
  · obtain ⟨-, n, -, ht⟩ := hu.phase hs hphase hp
    exact ⟨n, ht⟩
  · obtain ⟨-, m, hm, ht⟩ := hu.phase hs hphase hp
    rw [ht, Pulse.mem_beats]
    refine ⟨n, ?_, rfl⟩
    by_contra hmn
    have hbeat : b.beat (m + 1) ≤ b.beat (n + 1) :=
      b.beat_le_beat (Nat.succ_le_succ (Nat.not_lt.1 hmn))
    obtain ⟨a, id, -, -, hw⟩ | ⟨hend, -⟩ := (hm.idle_of_agenda ha).awaits
    · rw [hw] at hd
      exact absurd (Nat.le_trans hbeat hle) (Nat.not_le.2 (hd _ (.head _)))
    · exact absurd (Nat.lt_of_le_of_lt hbeat hn) (Nat.not_lt.2 hend)
  · obtain ⟨turns, u, hu, -, -, ht⟩ := h.exists_idle hs hp hn
    exact ⟨turns, u, hu, ht⟩

def joined (w : System α) (label : String) (context : Option String) : System α :=
  { w with agenda := [.deed (.addListener label context [])] }

/-- A new coordinator, left to itself but for its first listener. -/
theorem periodic_joined {p : Plan α} {seconds : Nat} (hi : p.interval = some (.ofSeconds seconds))
    (he : p.entry = none) (hf : p.followed = none)
    (hsrc : ∀ source ∈ p.source, source.Steady p.policy) (jitter : Duration) (now : Nat)
    (label : String) (context : Option String) :
    Periodic ⟨now, seconds, jitter⟩ ((p.system jitter now).joined label context) := by
  have hstart : Starting ⟨now, seconds, jitter⟩ label context
      ((p.system jitter now).joined label context) := ⟨rfl, rfl, rfl, rfl, ⟨rfl, rfl⟩⟩
  refine periodic_of_starting hstart ⟨rfl, rfl, ?_, hf, ⟨rfl, rfl, hi⟩, hsrc, ?_, rfl, rfl, rfl, rfl⟩
  · show p.entry.map _ = none
    rw [he]
    rfl
  · exact fun _ hc => (nomatch hc)

end

end System

namespace Settings

/-! ## From settings -/

def planFor (s : Settings) (source : Option (Source α)) : Plan α := { (s.plan : Plan α) with source }

theorem refusal?_planFor {s : Settings} (h : s.refusal? = none) (source : Option (Source α)) :
    (s.planFor source).refusal? = none := by
  have ha : (s.plan : Plan α).Acceptable := acceptable_plan.2 (refusal?_eq_none_iff.1 h)
  exact Plan.refusal?_eq_none_iff.2 ⟨ha.name, ha.interval, ha.range⟩

variable [BEq α]

/-- What is true of the coordinators that are built from the settings with a source. -/
structure Periodic (s : Settings) (seconds : Nat) (source : Option (Source α)) (now : Nat) :
    Prop where
  /-- Every jitter of the range can be drawn if the range fits into words. -/
  drawn : ∀ jitter : Duration, s.jitterMinMs * 1000 ≤ jitter.micros →
    jitter.micros ≤ s.jitterMaxMs * 1000 → s.jitterMaxMs * 1000 < wordBound →
      ∃ r w, (s.planFor source).build? now r = some (.ok w) ∧ w.schedule.jitter = jitter
  /-- The timer keeps to the beats. -/
  polls : ∀ r w, (s.planFor source).build? now r = some (.ok w) →
    ∀ label context, System.Periodic ⟨now, seconds, w.schedule.jitter⟩ (w.joined label context)
  /-- The beats keep to the interval if the jitter is less than a second, and only then. -/
  beats : ∀ jitter : Duration,
    (∀ n, 1 ≤ n → (⟨now, seconds, jitter⟩ : Pulse).beat n =
      now + n * seconds * 1000000 + jitter.micros) ↔ jitter.micros < 1000000

/-- **The timer polls at the beats**, whatever the settings are that are accepted. The interval and the
jitter say when these are if the jitter is less than a second; of a longer one the whole seconds are
added every time. -/
theorem periodic {s : Settings} {seconds : Nat} {source : Option (Source α)}
    (ha : s.refusal? = none) (hi : s.intervalSecs = some seconds)
    (hsrc : ∀ x ∈ source, x.Steady s.policy) (now : Nat) : s.Periodic seconds source now := by
  refine ⟨fun jitter hmin hmax hw => ?_, fun r w hw label context => ?_, fun jitter => ?_⟩
  · have hle : s.jitterMinMs ≤ s.jitterMaxMs := by omega
    refine ⟨jitter.micros - s.jitterMinMs * 1000, (s.planFor source).system jitter now, ?_, rfl⟩
    rw [Plan.build?, refusal?_planFor ha]
    show ((none : Option Duration) <|> drawJitter? s.jitterMinMs s.jitterMaxMs _).bind _ = _
    rw [drawJitter?_of_le hle hw, Nat.mod_eq_of_lt (by omega), Nat.add_sub_cancel' hmin]
    rfl
  · obtain ⟨jitter, rfl⟩ : ∃ jitter, w = (s.planFor source).system jitter now := by
      rw [Plan.build?, refusal?_planFor ha] at hw
      obtain ⟨jitter, -, hj⟩ := Option.bind_eq_some_iff.1 hw
      exact ⟨jitter, (Except.ok.inj (Option.some.inj hj)).symm⟩
    exact System.periodic_joined (congrArg (Option.map Duration.ofSeconds) hi) rfl rfl hsrc jitter
      now label context
  · exact Pulse.beat_eq_iff ⟨now, seconds, jitter⟩

def everyTwoSeconds (jitterMs : Nat) : Settings :=
  { intervalSecs := some 2, jitterMinMs := jitterMs, jitterMaxMs := jitterMs }

/-- With a fifth of a second, fetches are due at 2.2 s, 4.2 s and so on. -/
theorem periodic_fifth :
    let source : Option (Source Nat) := some [{ result := .ok 1 }]
    (everyTwoSeconds 200).refusal? = none ∧ (everyTwoSeconds 200).intervalSecs = some 2 ∧
      (∀ x ∈ source, x.Steady (everyTwoSeconds 200).policy) ∧
      (everyTwoSeconds 200).Periodic 2 source 0 ∧
      (⟨0, 2, .ofMillis 200⟩ : Pulse).beats 3 = [2200000, 4200000, 6200000] :=
  ⟨by decide, rfl, by decide, periodic (by decide) rfl (by decide) 0, by decide⟩

/-- With a second and a half, which is accepted too, the second fetch begins at 6.5 s, a second later
than the interval and the jitter say. -/
theorem jitter_builds_up : (everyTwoSeconds 1500).refusal? = none ∧
    ∃ (w : System Nat) (turns : List (System.Turn Nat)) (u : System Nat),
      ((everyTwoSeconds 1500).planFor (some [{ result := .ok 1 }])).build? 0 0 = some (.ok w) ∧
        w.schedule.jitter = .ofMillis 1500 ∧
        System.Undisturbed (w.joined "dial" none) turns u ∧
        System.polls turns = [3500000, 6500000] ∧
        System.polls turns ≠ [1 * 2000000 + 1500000, 2 * 2000000 + 1500000] := by
  have h₁ : System.Undisturbed ((((everyTwoSeconds 1500).planFor
      (some [{ result := .ok 1 }])).system (.ofMillis 1500) 0).joined "dial" none) _ _ :=
    System.Undisturbed.rest.work _ _ rfl
  have h₂ := h₁.wait 3500000 rfl (by decide) |>.fire _ rfl (.head _) (Nat.le_refl _)
    |>.work _ _ rfl |>.work _ _ rfl |>.work _ _ rfl |>.work _ _ rfl |>.work _ _ rfl
  have h₃ := h₂.wait 6500000 rfl (by decide) |>.fire _ rfl (.head _) (Nat.le_refl _)
    |>.work _ _ rfl |>.work _ _ rfl
  exact ⟨by decide, _, _, _, rfl, rfl, h₃, rfl, by decide⟩

end Settings

end Freshness
