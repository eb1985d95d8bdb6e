import Freshness.Debounce.Script
import Freshness.Proofs.Debounce.Phase

/-!
# Scripts are timelines

What a script does to its debouncer is a timeline, with the beginning and the end of every run in the
log, for as long as somebody holds the debouncer or a call or a run is under way.

* `Step.running_eq`, `Step.pick_eq` : what an incident means for the run and for other jobs;
* `Logged` : a log accounts for a debouncer, its timers and the numbers of runs. The end of a run
  waits exactly while one is under way, but for one that is in hand;
* `Stage.Live`, `Stage.Left`, `Stage.Follows` : a stage that a log accounts for, one that nobody holds
  any more, and either of them;
* `Stage.Follows.due?`, `Stage.Follows.step?`, `Stage.Follows.script` : one task, one operation and a
  whole script from a stage on.
-/

namespace Freshness.Debounce

section Incidents

variable {ω : Type} {job : Nat → ω} {d d' : Debounce} {t t' : Timers ω} {i : Incident}

/-- A run is under way from its beginning to its end. -/
theorem Step.running_eq (h : Sound d t job) (hs : Step job d t i d' t') :
    d'.running.toNat + i.ends.toNat = d.running.toNat + i.begins.toNat := by
  cases hs with
  | call =>
    rcases request_cases d t job with ⟨-, he⟩ | ⟨-, -, he⟩ | ⟨-, -, -, he⟩ | ⟨hd, ha, -, -, ho, he⟩ |
      ⟨-, -, -, -, -, he⟩ | ⟨-, -, hr, -, he⟩ <;> rw [he]
    · rfl
    · rfl
    · rfl
    · rw [startCooldown_of_idle (d := { d with pending := true }) hd ho ha]
      rfl
    · rfl
    · simp [hr, Incident.ends, Incident.begins]
  | cancel =>
    rw [cancel_fst]
    rfl
  | shutdown =>
    rw [shutdown_fst]
    rfl
  | cooldownOver u g hu hg _ =>
    obtain ⟨-, -, -, -, hr⟩ := h.armed_of_job hu hg
    rw [h.cooldownOver_eq hu hg]
    simp [hr, Incident.ends, Incident.begins]
  | endRun fault hr => simp [hr, Debounce.endRun, Incident.ends, Incident.begins]

/-- The waiting jobs that are no cooldown's are left alone. -/
theorem Step.pick_eq {p : ω → Bool} (hp : ∀ g, p (job g) = false) (h : Sound d t job)
    (hs : Step job d t i d' t') : t'.pick p = t.pick p := by
  have hcancel : ∀ e : Debounce, e.armed = d.armed → (e.cancel t).2.pick p = t.pick p := by
    intro e he
    unfold Debounce.cancel
    split
    · rfl
    · next a ha =>
      exact Timers.pick_cancel ((h.armed a (he ▸ ha)).2.behind h.timers) (hp _)
  have hstart : ∀ e : Debounce, e.armed = none → (e.startCooldown t job).2.2.pick p = t.pick p := by
    intro e he
    unfold startCooldown
    split
    · rfl
    · dsimp only
      split
      · rfl
      · simp [he, Timers.pick_schedule h.timers.driven, hp]
  cases hs with
  | call =>
    rcases request_cases d t job with ⟨-, he⟩ | ⟨-, -, he⟩ | ⟨-, -, -, he⟩ | ⟨-, ha, -, -, -, he⟩ |
      ⟨-, -, -, -, -, he⟩ | ⟨-, -, -, -, he⟩ <;> rw [he]
    exact hstart { d with pending := true } ha
  | cancel => exact hcancel d rfl
  | shutdown => exact hcancel { d with shutDown := true } rfl
  | cooldownOver u g hu hg _ => exact Timers.pick_take_of_false h.timers hu (hg ▸ hp g)
  | endRun fault hr => exact hstart d (h.running hr)

end Incidents

namespace Script

def Task.isEnd : Task → Bool
  | .endRun .. => true
  | .start _ | .cooldownOver _ => false

theorem cooldownOver_injective : Function.Injective Task.cooldownOver := fun _ _ h => by
  cases h
  rfl

/-- The log accounts for a debouncer with its timers, and for the runs that have begun and ended. So
many ends of runs are in hand and do not wait. -/
structure Logged (log : List Entry) (inHand : Nat) (d : Debounce) (t : Timers Task)
    (started finished : Nat) : Prop where
  timeline : Timeline Task.cooldownOver log d t
  ends : (t.pick Task.isEnd).length + inHand = d.running.toNat
  started : log.countP (·.incident.begins) = started
  finished : log.countP (·.incident.ends) = finished

namespace Logged

variable {log : List Entry} {inHand k started finished : Nat} {d d' : Debounce}
  {t t' : Timers Task} {i : Incident}

theorem sound (h : Logged log inHand d t started finished) : Sound d t Task.cooldownOver :=
  h.timeline.sound cooldownOver_injective

theorem step (h : Logged log inHand d t started finished)
    (hs : Debounce.Step Task.cooldownOver d t i d' t')
    (hk : k + i.ends.toNat = inHand + i.begins.toNat) :
    Logged (log ++ [⟨t.now, i⟩]) k d' t' (started + i.begins.toNat)
      (finished + i.ends.toNat) where
  timeline := h.timeline.step hs
  ends := by
    have hr := hs.running_eq h.sound
    have he := h.ends
    rw [hs.pick_eq (fun _ => rfl) h.sound]
    omega
  started := by
    rw [List.countP_append, h.started, List.countP_singleton]
    cases i.begins <;> rfl
  finished := by
    rw [List.countP_append, h.finished, List.countP_singleton]
    cases i.ends <;> rfl

theorem enter (h : Logged log inHand d t started finished) {task : Task}
    (hj : ∀ g, task ≠ .cooldownOver g) (hk : k + task.isEnd.toNat = inHand) (deadline : Nat) :
    Logged log k d (t.spawn deadline task) started finished where
  timeline := h.timeline.others (.enter t deadline task hj)
  ends := by
    have he := h.ends
    rw [Timers.spawn, Timers.pick_schedule h.sound.timers.driven, List.length_append]
    have ht : ([task].filter Task.isEnd).length = task.isEnd.toNat := by
      cases task <;> rfl
    omega
  started := h.started
  finished := h.finished

theorem leave (h : Logged log inHand d t started finished) {u : Timer Task} (hu : u ∈ t.waiting)
    (hj : ∀ g, u.job ≠ .cooldownOver g) (hk : k = inHand + u.job.isEnd.toNat) :
    Logged log k d (t.take u) started finished where
  timeline := h.timeline.others (.leave t u hu hj)
  ends := by
    have he := h.ends
    cases hp : u.job.isEnd with
    | false =>
      rw [Timers.pick_take_of_false h.sound.timers hu hp, hk, hp]
      exact he
    | true =>
      obtain ⟨xs, ys, ht, ht'⟩ := Timers.pick_take h.sound.timers hu hp
      rw [ht, List.length_append, List.length_cons] at he
      rw [ht', List.length_append, hk, hp, Bool.toNat_true]
      omega
  started := h.started
  finished := h.finished

theorem wait (h : Logged log inHand d t started finished) {time : Nat}
    (hw : ∀ u ∈ t.waiting, time ≤ u.deadline) :
    Logged log inHand d (t.moveTo time) started finished :=
  ⟨h.timeline.wait time hw, h.ends, h.started, h.finished⟩

end Logged

/-! ## Stages -/

namespace Stage

variable {log : List Entry} {s s' : Stage} {goal : Stage → Bool} {limit : Option Nat}

/-- The log accounts for the stage while an end of a run is in hand. -/
def Handles (log : List Entry) (s : Stage) : Prop :=
  Logged log 1 s.debounce s.timers s.started s.finished

def Live (log : List Entry) (s : Stage) : Prop :=
  Logged log 0 s.debounce s.timers s.started s.finished

theorem Handles.running (h : s.Handles log) : s.debounce.running = true := by
  have he := h.ends
  cases hr : s.debounce.running with
  | true => rfl
  | false =>
    rw [hr, Bool.toNat_false] at he
    omega

/-- What a run does to the debouncer before it ends begins no other. -/
theorem Handles.meddle (h : s.Handles log) (during : During) :
    ∃ later, log <+: later ∧ (s.meddle during).Handles later := by
  cases during with
  | cancel => exact ⟨_, List.prefix_append _ _, h.step .cancel rfl⟩
  | shutdown => exact ⟨_, List.prefix_append _ _, h.step .shutdown rfl⟩
  | call =>
    have hb : (Incident.call (s.debounce.request s.timers .cooldownOver).1).begins = false := by
      rcases request_cases s.debounce s.timers .cooldownOver with ⟨-, he⟩ | ⟨-, -, he⟩ |
        ⟨-, -, -, he⟩ | ⟨-, -, hr, -⟩ | ⟨-, -, hr, -⟩ | ⟨-, -, hr, -⟩
      · rw [he]; rfl
      · rw [he]; rfl
      · rw [he]; rfl
      all_goals cases hr.symm.trans h.running
    have hs := h.step (k := 1) .call (by rw [hb]; rfl)
    rw [hb] at hs
    exact ⟨_, List.prefix_append _ _, hs⟩

theorem Handles.endRun_of_none (h : s.Handles log) (caller : Option Caller) (run : Run)
    (hd : run.during = none) : ∃ later, log <+: later ∧ (s.endRun caller run).Live later := by
  have hs := h.step (.endRun run.fault h.running) (Nat.zero_add 1)
  refine ⟨log ++ [⟨s.timers.now, .endRun run.fault⟩], List.prefix_append _ _, ?_⟩
  unfold Stage.endRun
  rw [hd]
  cases caller with
  | none => exact hs
  | some caller =>
    dsimp only
    split <;> exact hs

theorem Handles.endRun (h : s.Handles log) (caller : Option Caller) (run : Run) :
    ∃ later, log <+: later ∧ (s.endRun caller run).Live later := by
  cases hd : run.during with
  | none => exact h.endRun_of_none caller run hd
  | some during =>
    by_cases hh : s.held = true
    · have he : s.endRun caller run =
          (s.meddle during).endRun caller { run with during := none } := by
        simp [Stage.endRun, hd, hh]
      obtain ⟨mid, hmid, hm⟩ := h.meddle during
      obtain ⟨later, hlater, hl⟩ := hm.endRun_of_none caller { run with during := none } rfl
      exact ⟨later, hmid.trans hlater, he ▸ hl⟩
    · have he : s.endRun caller run = s.endRun caller { run with during := none } := by
        simp [Stage.endRun, hd, hh]
      rw [he]
      exact h.endRun_of_none caller _ rfl

/-- The run that begins stands last in the log. -/
theorem Live.beginRun {z : Entry}
    (h : Logged (log ++ [z]) 1 s.debounce s.timers (s.started + 1) s.finished)
    (caller : Option Caller) : ∃ later, log <+: later ∧ (s.beginRun caller).Live later := by
  have hb : Handles (log ++ [z]) { s with runs := (nextRun s.runs).2, started := s.started + 1 } := h
  have hz : log <+: log ++ [z] := List.prefix_append log [z]
  unfold Stage.beginRun
  dsimp only
  split
  · obtain ⟨later, hlater, hl⟩ := hb.endRun caller (nextRun s.runs).1
    exact ⟨later, hz.trans hlater, hl⟩
  · exact ⟨_, hz, h.enter (by simp) rfl _⟩

theorem Live.start (h : s.Live log) (caller : Caller) :
    ∃ later, log <+: later ∧ (s.start caller).Live later := by
  have hb := h.step .call (Nat.add_comm _ _)
  unfold Stage.start
  dsimp only
  split
  · next he =>
    rw [he] at hb
    exact Live.beginRun hb (some caller)
  · next he =>
    rw [he] at hb
    exact ⟨_, List.prefix_append _ _, hb⟩
  · next hn _ =>
    have he : (Incident.call (s.debounce.request s.timers .cooldownOver).1).begins = false :=
      beq_eq_false_iff_ne.2 hn
    rw [he] at hb
    exact ⟨_, List.prefix_append _ _, hb⟩

/-- The end of a cooldown whose timer has been taken out. -/
theorem Live.cooldownOver {t : Timers Task} (h : Logged log 0 s.debounce t s.started s.finished)
    {u : Timer Task} (hu : u ∈ t.waiting) {g : Nat} (hg : u.job = .cooldownOver g)
    (hd : u.deadline ≤ t.now) (ht : s.timers = t.take u) (ha : s.alive = true) :
    ∃ later, log <+: later ∧ (s.cooldownOver g).Live later := by
  have hb := h.step (.cooldownOver u g hu hg hd) (Nat.add_comm _ _)
  rw [← ht] at hb
  unfold Stage.cooldownOver
  rw [if_pos ha]
  dsimp only
  split
  · next he =>
    rw [he] at hb
    exact Live.beginRun hb none
  · next he =>
    rw [Bool.eq_false_iff.2 he] at hb
    exact ⟨_, List.prefix_append _ _, hb⟩

/-! ## What is due -/

/-- Nobody holds the debouncer any more and nothing is under way. The log accounts for it as it was
left, whatever timers fire. -/
structure Left (log : List Entry) (s : Stage) : Prop where
  alive : s.alive = false
  ends : ∀ u ∈ s.timers.waiting, u.job.isEnd = false
  logged : ∃ timers, Logged log 0 s.debounce timers s.started s.finished

/-- The log accounts for the stage, until nobody holds the debouncer any more. -/
def Follows (log : List Entry) (s : Stage) : Prop := s.Live log ∨ s.Left log

theorem alive_eq_false_iff : s.alive = false ↔ s.held = false ∧ s.debounce.running = false ∧
    ∀ u ∈ s.timers.waiting, u.job.isStart = false := by
  simp [alive, and_assoc]

theorem Live.left (h : s.Live log) (ha : s.alive = false) : s.Left log where
  alive := ha
  ends u hu := by
    have he := h.ends
    rw [(alive_eq_false_iff.1 ha).2.1, Nat.add_zero, Bool.toNat_false, List.length_eq_zero_iff,
      Timers.pick, List.filter_eq_nil_iff] at he
    exact Bool.eq_false_iff.2 (he u.job (List.mem_map_of_mem hu))
  logged := ⟨s.timers, h⟩

theorem Follows.live_of_held (h : s.Follows log) (hh : s.held = true) : s.Live log := by
  rcases h with h | h
  · exact h
  · cases (alive_eq_false_iff.1 h.alive).1.symm.trans hh

theorem Left.due? (h : s.Left log) (hs : s.due? limit = some s') : s'.Left log := by
  obtain ⟨⟨task, timers⟩, ht, rfl⟩ := Option.map_eq_some_iff.1 hs
  obtain ⟨u, hu, rfl, -, rfl⟩ := Timers.takeDue?_eq_some ht
  obtain ⟨hh, hr, hn⟩ := alive_eq_false_iff.1 h.alive
  have hw : ∀ v ∈ ((s.timers.moveTo u.deadline).take u).waiting, v ∈ s.timers.waiting :=
    fun v hv => (Timers.mem_cancel.1 hv).1
  have ha : { s with timers := (s.timers.moveTo u.deadline).take u }.alive = false :=
    alive_eq_false_iff.2 ⟨hh, hr, fun v hv => hn v (hw v hv)⟩
  cases hj : u.job with
  | start caller => cases hj ▸ hn u hu
  | endRun caller run => cases hj ▸ h.ends u hu
  | cooldownOver g =>
    simp only [Stage.perform, Stage.cooldownOver, ha]
    exact ⟨ha, fun v hv => h.ends v (hw v hv), h.logged⟩

theorem alive_take (ht : s.timers.Sound) (ha : s.alive = true) {u : Timer Task}
    (hu : u ∈ s.timers.waiting) (hj : u.job.isStart = false) (time : Nat) :
    { s with timers := (s.timers.moveTo time).take u }.alive = true := by
  by_contra hn
  obtain ⟨hh, hr, hw⟩ := alive_eq_false_iff.1 (Bool.eq_false_iff.2 hn)
  have hs : s.alive = false := by
    refine alive_eq_false_iff.2 ⟨hh, hr, fun v hv => ?_⟩
    by_cases hid : v.id = u.id
    · rw [ht.eq_of_id hv hu hid, hj]
    · exact hw v (Timers.mem_cancel.2 ⟨hv, fun he => hid (Option.some.inj he).symm⟩)
  cases hs.symm.trans ha

theorem Live.due? (h : s.Live log) (ha : s.alive = true) (hs : s.due? limit = some s') :
    ∃ later, log <+: later ∧ s'.Live later := by
  obtain ⟨⟨task, timers⟩, ht, rfl⟩ := Option.map_eq_some_iff.1 hs
  obtain ⟨u, hu, rfl, hle, rfl⟩ := Timers.takeDue?_earliest ht
  have hw := h.wait hle
  cases hj : u.job with
  | start caller =>
    have hl : Live log { s with timers := (s.timers.moveTo u.deadline).take u } :=
      hw.leave hu (by simp [hj]) (by simp [hj, Task.isEnd])
    exact hl.start caller
  | endRun caller run =>
    have hl : Handles log { s with timers := (s.timers.moveTo u.deadline).take u } :=
      hw.leave hu (by simp [hj]) (by simp [hj, Task.isEnd])
    exact hl.endRun caller run
  | cooldownOver g =>
    have hal := alive_take h.sound.timers ha hu (by simp [hj, Task.isStart]) u.deadline
    exact Live.cooldownOver (s := { s with timers := (s.timers.moveTo u.deadline).take u })
      hw hu hj (Nat.le_max_right ..) rfl hal

theorem Follows.due? (h : s.Follows log) (hs : s.due? limit = some s') :
    ∃ later, log <+: later ∧ s'.Follows later := by
  rcases Bool.eq_false_or_eq_true s.alive with ha | ha
  · rcases h with h | h
    · obtain ⟨later, hp, hl⟩ := h.due? ha hs
      exact ⟨later, hp, .inl hl⟩
    · cases h.alive.symm.trans ha
  · have hl : s.Left log := h.elim (fun h => h.left ha) id
    exact ⟨log, List.prefix_refl log, .inr (hl.due? hs)⟩

/-- Everything that is due, until the goal is reached or nothing is due any more. -/
theorem Follows.run? (h : s.Follows log) (hs : s.run? goal limit = some s') :
    ∃ later, log <+: later ∧ s'.Follows later ∧ (goal s' = true ∨ s'.due? limit = none) := by
  unfold Stage.run? at hs
  generalize Motion.patience = fuel at hs
  induction fuel generalizing log s with
  | zero => cases hs
  | succ fuel ih =>
    rw [Motion.run?] at hs
    split at hs
    · next hg =>
      obtain rfl := Option.some.inj hs
      exact ⟨log, List.prefix_refl log, h, .inl hg⟩
    split at hs
    · next hn =>
      obtain rfl := Option.some.inj hs
      exact ⟨log, List.prefix_refl log, h, .inr hn⟩
    · next x hx =>
      obtain ⟨mid, hmid, hm⟩ := h.due? hx
      obtain ⟨later, hlater, hl⟩ := ih hm hs
      exact ⟨later, hmid.trans hlater, hl⟩

theorem Follows.settle? (h : s.Follows log) (hs : s.settle? = some s') :
    ∃ later, log <+: later ∧ s'.Follows later := by
  obtain ⟨later, hp, hl, -⟩ := h.run? hs
  exact ⟨later, hp, hl⟩

theorem Follows.moveTo (h : s.Follows log) {time : Nat} (hn : s.due? (some time) = none) :
    { s with timers := s.timers.moveTo time }.Follows log := by
  rcases h with h | h
  · have hd := Timers.takeDue?_eq_none (Option.map_eq_none_iff.1 hn)
    exact .inl (h.wait fun u hu => Nat.le_of_lt (hd u hu))
  · exact .inr ⟨h.alive, h.ends, h.logged⟩

/-! ## Operations -/

theorem Live.starts (h : s.Live log) (callers : List Nat) (caller : Nat → Caller) (nextCall : Nat) :
    ∃ later, log <+: later ∧
      Live later { callers.foldl (fun s i => s.start (caller i)) s with nextCall } := by
  induction callers generalizing log s with
  | nil => exact ⟨log, List.prefix_refl log, h⟩
  | cons i callers ih =>
    obtain ⟨mid, hmid, hm⟩ := h.start (caller i)
    obtain ⟨later, hlater, hl⟩ := ih hm
    exact ⟨later, hmid.trans hlater, hl⟩

theorem Follows.move? {step : Step} (h : s.Follows log) (hs : s.move? step = some s') :
    ∃ later, log <+: later ∧ s'.Follows later := by
  have hrest : s.Follows log → ∃ later, log <+: later ∧ s.Follows later :=
    fun h => ⟨log, List.prefix_refl log, h⟩
  cases step with
  | advance span =>
    obtain ⟨x, hx, he⟩ := Option.bind_eq_some_iff.1 hs
    obtain rfl := Option.some.inj he
    obtain ⟨later, hp, hl, hg | hn⟩ := h.run? hx
    · cases hg
    · exact ⟨later, hp, hl.moveTo hn⟩
  | drop =>
    obtain rfl := Option.some.inj hs
    refine ⟨log, List.prefix_refl log, h.imp (fun h => h) fun h => ⟨?_, h.ends, h.logged⟩⟩
    exact alive_eq_false_iff.2 ⟨rfl, (alive_eq_false_iff.1 h.alive).2⟩
  | cancel =>
    obtain rfl := Option.some.inj hs
    split
    · next hh => exact ⟨_, List.prefix_append _ _, .inl ((h.live_of_held hh).step .cancel rfl)⟩
    · exact hrest h
  | shutdown =>
    obtain rfl := Option.some.inj hs
    split
    · next hh => exact ⟨_, List.prefix_append _ _, .inl ((h.live_of_held hh).step .shutdown rfl)⟩
    · exact hrest h
  | spawn label =>
    obtain rfl := Option.some.inj hs
    split
    · next hh =>
      exact ⟨log, List.prefix_refl log, .inl ((h.live_of_held hh).enter (by simp) rfl _)⟩
    · exact hrest h
  | await count =>
    rw [Stage.move?] at hs
    split at hs
    · next hh =>
      obtain ⟨x, hx, he⟩ := Option.bind_eq_some_iff.1 hs
      obtain ⟨begun, hbegun, hb⟩ :=
        (h.live_of_held hh).starts (List.range count) (fun i => .main (s.nextCall + i))
          (s.nextCall + count)
      obtain ⟨mid, hmid, hm⟩ := Follows.settle? (.inl hb) hx
      obtain ⟨later, hlater, hl, -⟩ := hm.run? he
      exact ⟨later, (hbegun.trans hmid).trans hlater, hl⟩
    · obtain rfl := Option.some.inj hs
      exact hrest h

theorem Follows.forget (h : s.Follows log) :
    { s with answers := [], brokenOff := [], notices := [] }.Follows log :=
  h.imp id fun h => ⟨h.alive, h.ends, h.logged⟩

/-- **An operation of a script**, with all that is due after it, goes on with the timeline. -/
theorem Follows.step? {step : Step} (h : s.Follows log) (hs : s.step? step = some s') :
    ∃ later, log <+: later ∧ s'.Follows later := by
  obtain ⟨x, hx, he⟩ := Option.bind_eq_some_iff.1 hs
  obtain ⟨mid, hmid, hm⟩ := h.forget.move? hx
  obtain ⟨later, hlater, hl⟩ := hm.settle? he
  exact ⟨later, hmid.trans hlater, hl⟩

theorem follows_new (name : String) (cooldown : Duration) (immediate : Bool) (runs : List Run) :
    Follows [] { debounce := { name, cooldown, immediate }, runs } :=
  .inl ⟨.new name cooldown immediate 0, rfl, rfl, rfl⟩

/-- **A whole script** goes on with it. -/
theorem Follows.script (h : s.Follows log) {steps : List Step}
    (hs : steps.foldlM Stage.step? s = some s') : ∃ later, log <+: later ∧ s'.Follows later := by
  induction steps generalizing log s with
  | nil =>
    obtain rfl := Option.some.inj hs
    exact ⟨log, List.prefix_refl log, h⟩
  | cons step steps ih =>
    rw [List.foldlM_cons] at hs
    obtain ⟨x, hx, he⟩ := Option.bind_eq_some_iff.1 hs
    obtain ⟨mid, hmid, hm⟩ := h.step? hx
    obtain ⟨later, hlater, hl⟩ := ih hm he
    exact ⟨later, hmid.trans hlater, hl⟩

end Stage

end Script

end Freshness.Debounce
