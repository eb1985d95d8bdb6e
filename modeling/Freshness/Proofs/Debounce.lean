import Freshness.Debounce
import Freshness.Proofs.Snoc
import Freshness.Proofs.Timers

/-!
# No request is stranded

* `Debounce.Act`, `Debounce.History` : a debouncer in use, with what happened to it in any order;
* `Debounce.Sound` : an armed cooldown has its job among the timers, a pending run has an armed
  cooldown or the clock has run out, and nothing is armed during a run or after a shutdown. Every
  operation keeps it;
* `Debounce.Awaited` : a request has been accepted for the cooldown that is armed now;
* `Debounce.nothing_stranded` : the run at the end of a cooldown takes place exactly if a request
  was accepted for it, so an accepted request is lost to `cancel` and `shutdown` only;
* `Debounce.stranded_at_clock_end` : a request that breaks off leaves a run pending for ever.
-/

namespace Freshness.Debounce

variable {ω : Type} {d : Debounce} {t : Timers ω} {job : Nat → ω}

/-! ## Sound debouncers -/

/-- No request will arm a cooldown any more, since the clock has no room for one. -/
def Spent (d : Debounce) (now : Nat) : Prop := d.immediate = false ∧ d.overruns now = true

theorem overruns_iff {now : Nat} : d.overruns now = true ↔ clockEnd ≤ now + d.cooldown.micros :=
  decide_eq_true_iff

theorem overruns_mono {now later : Nat} (h : d.overruns now = true) (hle : now ≤ later) :
    d.overruns later = true := by
  rw [overruns_iff] at h ⊢
  omega

/-- A debouncer that agrees with the timers about its cooldown. -/
structure Sound (d : Debounce) (t : Timers ω) (job : Nat → ω) : Prop where
  timers : t.Sound
  /-- The job of an armed cooldown is alive, and the cooldown is the latest one. -/
  armed : ∀ a, d.armed = some a → a.generation = d.generation ∧ t.Holds a.handle (job a.generation)
  /-- No other job of a cooldown waits. -/
  only : ∀ u ∈ t.waiting, ∀ g, u.job = job g →
    ∃ a, d.armed = some a ∧ a.generation = g ∧ a.handle.timer = some u.id
  pending : d.pending = true → d.armed ≠ none ∨ (d.running = false ∧ d.Spent t.now)
  running : d.running = true → d.armed = none
  shutDown : d.shutDown = true → d.armed = none ∧ d.pending = false

theorem Sound.pending_eq_false (h : Sound d t job) (hr : d.running = true) : d.pending = false := by
  refine Bool.eq_false_iff.2 fun hp => ?_
  rcases h.pending hp with ha | ⟨hn, -⟩
  · exact ha (h.running hr)
  · cases hn.symm.trans hr

theorem Sound.no_job (h : Sound d t job) (ha : d.armed = none) :
    ∀ u ∈ t.waiting, ∀ g, u.job ≠ job g := by
  intro u hu g hg
  obtain ⟨a, ha', -, -⟩ := h.only u hu g hg
  rw [ha] at ha'
  cases ha'

/-- With nothing armed and no job left, all that matters is what is pending. -/
theorem sound_of_unarmed (ht : t.Sound) (ha : d.armed = none)
    (hp : d.pending = true → d.running = false ∧ d.Spent t.now)
    (hs : d.shutDown = true → d.pending = false) (hj : ∀ u ∈ t.waiting, ∀ g, u.job ≠ job g) :
    Sound d t job where
  timers := ht
  armed := by
    intro a h
    rw [ha] at h
    cases h
  only := fun u hu g hg => absurd hg (hj u hu g)
  pending h := .inr (hp h)
  running := fun _ => ha
  shutDown h := ⟨ha, hs h⟩

theorem sound_of_idle (ht : t.Sound) (ha : d.armed = none) (hp : d.pending = false)
    (hj : ∀ u ∈ t.waiting, ∀ g, u.job ≠ job g) : Sound d t job :=
  sound_of_unarmed ht ha (fun h => by cases hp.symm.trans h) (fun _ => hp) hj

theorem sound_of_armed (ht : t.Sound) (hi : Function.Injective job)
    (hj : ∀ u ∈ t.waiting, ∀ g, u.job ≠ job g) {deadline : Nat}
    (ha : d.armed = some ⟨d.generation, (t.schedule deadline (job d.generation)).1⟩)
    (hr : d.running = false) (hs : d.shutDown = false) :
    Sound d (t.schedule deadline (job d.generation)).2 job where
  timers := ht.schedule _ _
  armed := by
    intro a h
    rw [ha] at h
    obtain rfl := Option.some.inj h
    exact ⟨rfl, Timers.holds_schedule ht _ _⟩
  only := by
    intro u hu g hg
    refine ⟨_, ha, ?_⟩
    rw [Timers.schedule_of_driven ht.driven] at hu ⊢
    rcases List.mem_append.1 hu with hu | hu
    · exact absurd hg (hj u hu g)
    · obtain rfl := List.mem_singleton.1 hu
      exact ⟨hi hg, rfl⟩
  pending := by simp [ha]
  running := by simp [hr]
  shutDown := by simp [hs]

/-! ## The operations keep it -/

theorem cancel_fst (d : Debounce) (t : Timers ω) :
    (d.cancel t).1 = { d with pending := false, armed := none } := by
  unfold cancel
  split
  · next h => rw [← h]
  · rfl

theorem now_cancel (d : Debounce) (t : Timers ω) : (d.cancel t).2.now = t.now := by
  unfold cancel
  split
  · rfl
  · exact Timers.now_cancel t _

theorem Sound.cancel_no_job (h : Sound d t job) :
    ∀ u ∈ (d.cancel t).2.waiting, ∀ g, u.job ≠ job g := by
  unfold Debounce.cancel
  cases ha : d.armed with
  | none => exact h.no_job ha
  | some a =>
    intro u hu g hg
    obtain ⟨hu, hid⟩ := Timers.mem_cancel.1 hu
    obtain ⟨a', ha', -, hid'⟩ := h.only u hu g hg
    rw [ha] at ha'
    obtain rfl := Option.some.inj ha'
    exact hid hid'

theorem Sound.cancel_timers (h : Sound d t job) : (d.cancel t).2.Sound := by
  unfold Debounce.cancel
  split
  · exact h.timers
  · exact h.timers.cancel _

theorem Sound.cancel (h : Sound d t job) : Sound (d.cancel t).1 (d.cancel t).2 job :=
  sound_of_idle h.cancel_timers (by rw [cancel_fst]) (by rw [cancel_fst]) h.cancel_no_job

theorem Sound.shutdown (h : Sound d t job) : Sound (d.shutdown t).1 (d.shutdown t).2 job := by
  -- The job to cancel is the same, whether or not the flag has been set.
  have hw : (d.shutdown t).2 = (d.cancel t).2 := by
    unfold Debounce.shutdown Debounce.cancel
    cases d.armed <;> rfl
  have hd : (d.shutdown t).1 = { d with shutDown := true, pending := false, armed := none } := by
    unfold Debounce.shutdown
    rw [cancel_fst]
  rw [hw, hd]
  exact sound_of_idle h.cancel_timers rfl rfl h.cancel_no_job

theorem startCooldown_of_shutDown (hs : d.shutDown = true) :
    d.startCooldown t job = (false, d, t) := by
  simp [startCooldown, hs]

theorem startCooldown_of_overruns (hs : d.shutDown = false) (ho : d.overruns t.now = true) :
    d.startCooldown t job = (true, { d with generation := d.generation + 1 }, t) := by
  rw [startCooldown, if_neg (hs ▸ Bool.false_ne_true)]
  exact if_pos ho

theorem startCooldown_of_idle (hs : d.shutDown = false) (ho : d.overruns t.now = false)
    (ha : d.armed = none) :
    d.startCooldown t job =
      (false,
        { d with
          generation := d.generation + 1
          armed := some ⟨d.generation + 1,
            (t.schedule (t.now + d.cooldown.micros) (job (d.generation + 1))).1⟩ },
        (t.schedule (t.now + d.cooldown.micros) (job (d.generation + 1))).2) := by
  have ho : ¬ ({ d with generation := d.generation + 1 } : Debounce).overruns t.now = true :=
    Bool.eq_false_iff.1 ho
  rw [startCooldown, if_neg (hs ▸ Bool.false_ne_true)]
  dsimp only
  rw [if_neg ho, ha]

/-- Whoever starts a cooldown breaks off if the clock has no room for it. -/
theorem startCooldown_fst (d : Debounce) (t : Timers ω) (job : Nat → ω) :
    (d.startCooldown t job).1 = (!d.shutDown && d.overruns t.now) := by
  unfold startCooldown
  split
  · next h => simp [h]
  · next h =>
    have ho : ({ d with generation := d.generation + 1 } : Debounce).overruns t.now =
        d.overruns t.now := rfl
    dsimp only
    rw [ho, Bool.eq_false_iff.2 h]
    cases d.overruns t.now <;> rfl

theorem startCooldown_frame (d : Debounce) (t : Timers ω) (job : Nat → ω) :
    ∃ generation armed, (d.startCooldown t job).2.1 = { d with generation, armed } := by
  unfold startCooldown
  split
  · exact ⟨d.generation, d.armed, rfl⟩
  dsimp only
  split
  · exact ⟨d.generation + 1, d.armed, rfl⟩
  · exact ⟨d.generation + 1, some _, rfl⟩

theorem Sound.endRun (h : Sound d t job) (hi : Function.Injective job) (hr : d.running = true) :
    Sound (d.endRun t job).2.1 (d.endRun t job).2.2 job := by
  have ha := h.running hr
  have hp := h.pending_eq_false hr
  unfold Debounce.endRun
  cases hs : d.shutDown with
  | true =>
    rw [startCooldown_of_shutDown hs]
    exact sound_of_idle h.timers ha hp (h.no_job ha)
  | false =>
    cases ho : d.overruns t.now with
    | true =>
      rw [startCooldown_of_overruns hs ho]
      exact sound_of_idle h.timers ha hp (h.no_job ha)
    | false =>
      rw [startCooldown_of_idle hs ho ha]
      exact sound_of_armed h.timers hi (h.no_job ha) rfl rfl hs

theorem tryRun_of_idle (hr : d.running = false) (ha : d.armed = none) :
    d.tryRun = (true, { d with running := true }) := by
  simp [tryRun, hr, ha]

/-- What a request does. The last case of `Answer` does not arise. -/
theorem request_cases (d : Debounce) (t : Timers ω) (job : Nat → ω) :
    (d.shutDown = true ∧ d.request t job = (.ignored, d, t)) ∨
    (d.shutDown = false ∧ d.armed ≠ none ∧
      d.request t job = (.folded, { d with pending := true }, t)) ∨
    (d.shutDown = false ∧ d.armed = none ∧ d.running = true ∧
      d.request t job = (.dropped, d, t)) ∨
    (d.shutDown = false ∧ d.armed = none ∧ d.running = false ∧ d.immediate = false ∧
      d.overruns t.now = false ∧
      d.request t job = (.deferred, ({ d with pending := true }.startCooldown t job).2)) ∨
    (d.shutDown = false ∧ d.armed = none ∧ d.running = false ∧ d.immediate = false ∧
      d.overruns t.now = true ∧
      d.request t job = (.brokenOff, { d with pending := true, generation := d.generation + 1 }, t)) ∨
    (d.shutDown = false ∧ d.armed = none ∧ d.running = false ∧ d.immediate = true ∧
      d.request t job = (.run, { d with running := true }, t)) := by
  rcases Bool.eq_false_or_eq_true d.shutDown with hs | hs
  · exact .inl ⟨hs, by simp [request, hs]⟩
  refine .inr ?_
  rcases Option.eq_none_or_eq_some d.armed with ha | ⟨a, ha⟩
  swap
  · exact .inl ⟨hs, by simp [ha], by simp [request, hs, ha]⟩
  refine .inr ?_
  rcases Bool.eq_false_or_eq_true d.running with hr | hr
  · exact .inl ⟨hs, ha, hr, by simp [request, hs, ha, hr]⟩
  refine .inr ?_
  rcases Bool.eq_false_or_eq_true d.immediate with hm | hm
  · exact .inr (.inr ⟨hs, ha, hr, hm, by simp [request, hs, ha, hr, hm, tryRun_of_idle hr ha]⟩)
  have he : d.request t job =
      (if ({ d with pending := true }.startCooldown t job).1 then .brokenOff else .deferred,
        ({ d with pending := true }.startCooldown t job).2) := by
    rw [request, if_neg (hs ▸ Bool.false_ne_true), if_neg (by simp [ha]),
      if_neg (hr ▸ Bool.false_ne_true), if_pos (by simp [hm])]
  rcases Bool.eq_false_or_eq_true (d.overruns t.now) with ho | ho
  · refine .inr (.inl ⟨hs, ha, hr, hm, ho, ?_⟩)
    rw [he, startCooldown_of_overruns (d := { d with pending := true }) hs ho]
    rfl
  · refine .inl ⟨hs, ha, hr, hm, ho, ?_⟩
    rw [he, startCooldown_of_idle (d := { d with pending := true }) hs ho ha]
    rfl

theorem Sound.request (h : Sound d t job) (hi : Function.Injective job) :
    Sound (d.request t job).2.1 (d.request t job).2.2 job := by
  rcases request_cases d t job with ⟨-, he⟩ | ⟨hs, ha, he⟩ | ⟨-, -, -, he⟩ |
    ⟨hs, ha, hr, -, ho, he⟩ | ⟨hs, ha, hr, hm, ho, he⟩ | ⟨-, ha, -, hm, he⟩ <;> rw [he]
  · exact h
  · exact { h with pending := fun _ => .inl ha, shutDown := fun h => by cases hs.symm.trans h }
  · exact h
  · rw [startCooldown_of_idle (d := { d with pending := true }) hs ho ha]
    exact sound_of_armed h.timers hi (h.no_job ha) rfl hr hs
  · exact sound_of_unarmed h.timers ha (fun _ => ⟨hr, hm, ho⟩)
      (fun h => by cases hs.symm.trans h) (h.no_job ha)
  · refine { h with pending := fun hp => ?_, running := fun _ => ha }
    rcases h.pending hp with hn | ⟨-, hm', -⟩
    · exact absurd ha hn
    · cases hm'.symm.trans hm

/-- The job of a cooldown that is taken out is that of the armed one, and there is no run under
way. -/
theorem Sound.armed_of_job (h : Sound d t job) {u : Timer ω} (hu : u ∈ t.waiting) {g : Nat}
    (hg : u.job = job g) :
    ∃ a, d.armed = some a ∧ a.generation = g ∧ a.handle.timer = some u.id ∧ d.running = false := by
  obtain ⟨a, ha, hag, hid⟩ := h.only u hu g hg
  refine ⟨a, ha, hag, hid, ?_⟩
  cases hr : d.running with
  | false => rfl
  | true =>
    rw [h.running hr] at ha
    cases ha

/-- The timer that fires takes itself off, and neither a run nor another cooldown is in the way. -/
theorem Sound.detach_eq (h : Sound d t job) {u : Timer ω} (hu : u ∈ t.waiting) {g : Nat}
    (hg : u.job = job g) :
    d.detach g = (d.pending, { d with armed := none, pending := false }) := by
  obtain ⟨a, ha, hag, -, -⟩ := h.armed_of_job hu hg
  simp [detach, ha, hag]

/-- The end of a cooldown: the action runs exactly if a run is pending. -/
theorem Sound.cooldownOver_eq (h : Sound d t job) {u : Timer ω} (hu : u ∈ t.waiting) {g : Nat}
    (hg : u.job = job g) :
    d.cooldownOver g =
      (d.pending, { d with armed := none, pending := false, running := d.pending }) := by
  obtain ⟨a, -, -, -, hr⟩ := h.armed_of_job hu hg
  unfold Debounce.cooldownOver
  rw [h.detach_eq hu hg]
  cases hp : d.pending with
  | false => simp [hr]
  | true => exact tryRun_of_idle hr rfl

theorem Sound.cooldownOver (h : Sound d t job) {u : Timer ω} (hu : u ∈ t.waiting) {g : Nat}
    (hg : u.job = job g) : Sound (d.cooldownOver g).2 (t.take u) job := by
  rw [h.cooldownOver_eq hu hg]
  refine sound_of_idle (h.timers.take u) rfl rfl ?_
  intro v hv k hk
  obtain ⟨hv, hne⟩ := Timers.mem_cancel.1 hv
  obtain ⟨a, ha, -, hid⟩ := h.only u hu g hg
  obtain ⟨b, hb, -, hid'⟩ := h.only v hv k hk
  rw [ha] at hb
  obtain rfl := Option.some.inj hb
  exact hne (hid.symm.trans hid')

theorem Sound.moveTo (h : Sound d t job) (time : Nat) : Sound d (t.moveTo time) job where
  timers := h.timers.moveTo time
  armed := h.armed
  only := h.only
  pending hp := (h.pending hp).imp_right fun ⟨hr, hm, ho⟩ =>
    ⟨hr, hm, overruns_mono ho (Nat.le_max_left ..)⟩
  running := h.running
  shutDown := h.shutDown

theorem Sound.enter (h : Sound d t job) {other : ω} (hj : ∀ g, other ≠ job g) (deadline : Nat) :
    Sound d (t.schedule deadline other).2 job where
  timers := h.timers.schedule deadline other
  armed a ha := ⟨(h.armed a ha).1, (h.armed a ha).2.schedule h.timers deadline other⟩
  only u hu g hg := by
    rw [Timers.schedule_of_driven h.timers.driven] at hu
    rcases List.mem_append.1 hu with hu | hu
    · exact h.only u hu g hg
    · obtain rfl := List.mem_singleton.1 hu
      exact absurd hg (hj g)
  pending := by
    rw [Timers.now_schedule]
    exact h.pending
  running := h.running
  shutDown := h.shutDown

theorem Sound.leave (h : Sound d t job) {u : Timer ω} (hu : u ∈ t.waiting)
    (hj : ∀ g, u.job ≠ job g) : Sound d (t.take u) job where
  timers := h.timers.take u
  armed a ha := ⟨(h.armed a ha).1,
    (h.armed a ha).2.cancel (h.timers.behind_self hu) (hj a.generation).symm⟩
  only v hv := h.only v (Timers.mem_cancel.1 hv).1
  pending := by
    rw [Timers.take, Timers.now_cancel]
    exact h.pending
  running := h.running
  shutDown := h.shutDown

/-! ## A debouncer in use -/

/-- What others do with the timers: they enter jobs of their own, which are taken out again. -/
inductive Others (job : Nat → ω) : Timers ω → Timers ω → Prop where
  | enter (t : Timers ω) (deadline : Nat) (other : ω) : (∀ g, other ≠ job g) →
    Others job t (t.schedule deadline other).2
  | leave (t : Timers ω) (u : Timer ω) : u ∈ t.waiting → (∀ g, u.job ≠ job g) →
    Others job t (t.take u)

theorem Sound.others {t' : Timers ω} (h : Sound d t job) (ho : Others job t t') : Sound d t' job := by
  cases ho with
  | enter deadline other hj => exact h.enter hj deadline
  | leave u hu hj => exact h.leave hu hj

inductive Act where
  /-- A request; it is accepted if a cooldown is armed already, or if it arms one. -/
  | call (accepted : Bool)
  | cancel
  | shutdown
  /-- The timer of the cooldown fires; it starts the action or it does not. -/
  | cooldownOver (starts : Bool)
  | endRun
deriving DecidableEq, Repr

/-- The request is covered by the end of a cooldown: one is armed when it comes, or it arms one, as
it does unless the debouncer is immediate. -/
def accepts (d : Debounce) (t : Timers ω) (job : Nat → ω) : Bool :=
  d.isArmed || (!d.immediate && (d.request t job).2.1.isArmed)

/-- A debouncer with its timers after some acts, in any order and at any times. A run of the action
may use the debouncer before it ends, as anyone else may. -/
inductive History (job : Nat → ω) : List Act → Debounce → Timers ω → Prop where
  | new (name : String) (cooldown : Duration) (immediate : Bool) (now : Nat) :
    History job [] { name, cooldown, immediate } { now }
  | call {acts : List Act} {d : Debounce} {t : Timers ω} : History job acts d t →
    History job (acts ++ [.call (d.accepts t job)]) (d.request t job).2.1 (d.request t job).2.2
  | cancel {acts : List Act} {d : Debounce} {t : Timers ω} : History job acts d t →
    History job (acts ++ [.cancel]) (d.cancel t).1 (d.cancel t).2
  | shutdown {acts : List Act} {d : Debounce} {t : Timers ω} : History job acts d t →
    History job (acts ++ [.shutdown]) (d.shutdown t).1 (d.shutdown t).2
  | cooldownOver {acts : List Act} {d : Debounce} {t : Timers ω} (u : Timer ω) (g : Nat) :
    History job acts d t → u ∈ t.waiting → u.job = job g → u.deadline ≤ t.now →
    History job (acts ++ [.cooldownOver (d.cooldownOver g).1]) (d.cooldownOver g).2 (t.take u)
  | endRun {acts : List Act} {d : Debounce} {t : Timers ω} : History job acts d t →
    d.running = true →
    History job (acts ++ [.endRun]) (d.endRun t job).2.1 (d.endRun t job).2.2
  | wait {acts : List Act} {d : Debounce} {t : Timers ω} (time : Nat) : History job acts d t →
    History job acts d (t.moveTo time)
  | others {acts : List Act} {d : Debounce} {t t' : Timers ω} : History job acts d t →
    Others job t t' → History job acts d t'

variable {acts : List Act}

theorem History.sound (h : History job acts d t) (hi : Function.Injective job) : Sound d t job := by
  induction h with
  | new name cooldown immediate now =>
    exact sound_of_idle (Timers.sound_new now) rfl rfl (fun u hu => by cases hu)
  | call _ ih => exact ih.request hi
  | cancel _ ih => exact ih.cancel
  | shutdown _ ih => exact ih.shutdown
  | cooldownOver u g _ hu hg _ ih => exact ih.cooldownOver hu hg
  | endRun _ hr ih => exact ih.endRun hi hr
  | wait time _ ih => exact ih.moveTo time
  | others _ ho ih => exact ih.others ho

theorem History.shutDown_iff (h : History job acts d t) (hi : Function.Injective job) :
    d.shutDown = true ↔ .shutdown ∈ acts := by
  induction h with
  | new => simp
  | @call _ d t h ih =>
    have hd : (d.request t job).2.1.shutDown = d.shutDown := by
      rcases request_cases d t job with ⟨-, he⟩ | ⟨-, -, he⟩ | ⟨-, -, -, he⟩ |
        ⟨hs, ha, -, -, ho, he⟩ | ⟨-, -, -, -, -, he⟩ | ⟨-, -, -, -, he⟩ <;> rw [he]
      rw [startCooldown_of_idle (d := { d with pending := true }) hs ho ha]
    simp [hd, ih]
  | cancel _ ih => simp [cancel_fst, ih]
  | shutdown _ _ => simp [Debounce.shutdown, cancel_fst]
  | cooldownOver u g h hu hg _ ih => simp [(h.sound hi).cooldownOver_eq hu hg, ih]
  | @endRun _ d t _ _ ih =>
    obtain ⟨generation, armed, he⟩ := startCooldown_frame d t job
    simp [Debounce.endRun, he, ih]
  | wait _ _ ih | others _ _ ih => exact ih

/-! ## Requests that wait for the end of a cooldown -/

/-- The act ends the cooldown, if one is armed. -/
def Act.closes : Act → Bool
  | .cancel | .shutdown | .cooldownOver _ => true
  | .call _ | .endRun => false

def Act.isOver : Act → Bool
  | .cooldownOver _ => true
  | _ => false

/-- A request has been accepted since a cooldown ended last. -/
def Awaited (acts : List Act) : Prop :=
  ∃ before after, acts = before ++ .call true :: after ∧ ∀ a ∈ after, a.closes = false

theorem awaited_iff :
    Awaited acts ↔ Lately (· = .call true) (·.closes = false) acts := by
  constructor
  · rintro ⟨before, after, h, hc⟩
    exact ⟨before, _, after, h, rfl, hc⟩
  · rintro ⟨before, a, after, h, rfl, hc⟩
    exact ⟨before, after, h, hc⟩

theorem not_awaited_nil : ¬ Awaited [] := awaited_iff.not.2 (not_lately_nil _ _)

theorem awaited_snoc {a : Act} :
    Awaited (acts ++ [a]) ↔ a = .call true ∨ (a.closes = false ∧ Awaited acts) := by
  rw [awaited_iff, awaited_iff, lately_snoc]

/-- A request is awaited exactly if a run is pending and a cooldown is armed. -/
theorem History.awaited_iff (h : History job acts d t) (hi : Function.Injective job) :
    Awaited acts ↔ d.armed ≠ none ∧ d.pending = true := by
  induction h with
  | new => simp [not_awaited_nil]
  | @call acts d t h ih =>
    rw [awaited_snoc, ih]
    unfold accepts isArmed
    rcases request_cases d t job with ⟨hd, he⟩ | ⟨-, ha, he⟩ | ⟨-, ha, -, he⟩ |
      ⟨hd, ha, -, hm, ho, he⟩ | ⟨-, ha, -, hm, -, he⟩ | ⟨-, ha, -, hm, he⟩ <;> rw [he]
    · simp [((h.sound hi).shutDown hd).1]
    · simp [ha, Option.isSome_iff_ne_none.2 ha]
    · simp [ha]
    · rw [startCooldown_of_idle (d := { d with pending := true }) hd ho ha]
      simp [hm]
    · simp [ha, hm]
    · simp [ha, hm]
  | cancel _ _ => simp [awaited_snoc, cancel_fst, Act.closes]
  | shutdown _ _ => simp [awaited_snoc, Debounce.shutdown, cancel_fst, Act.closes]
  | cooldownOver u g h hu hg _ _ =>
    simp [awaited_snoc, (h.sound hi).cooldownOver_eq hu hg, Act.closes]
  | @endRun acts d t h hr ih =>
    -- nothing is armed or pending during a run
    have hs := h.sound hi
    obtain ⟨generation, armed, he⟩ := startCooldown_frame d t job
    simp [awaited_snoc, ih, Debounce.endRun, he, hs.running hr, hs.pending_eq_false hr]
  | wait _ _ ih | others _ _ ih => exact ih

theorem History.pending_iff (h : History job acts d t) (hi : Function.Injective job)
    {u : Timer ω} (hu : u ∈ t.waiting) {g : Nat} (hg : u.job = job g) :
    d.pending = true ↔ Awaited acts := by
  obtain ⟨a, ha, -⟩ := (h.sound hi).armed_of_job hu hg
  rw [h.awaited_iff hi, ha]
  simp

/-- Every cooldown that ended started the action exactly if a request was awaited. -/
theorem History.starts_iff (h : History job acts d t) (hi : Function.Injective job) :
    ∀ before starts after,
      acts = before ++ .cooldownOver starts :: after → (starts = true ↔ Awaited before) := by
  induction h with
  | new => simp
  | call _ ih | cancel _ ih | shutdown _ ih | endRun _ _ ih =>
    intro before starts after he
    rcases snoc_eq_append_cons.1 he with ⟨-, ha, -⟩ | ⟨init, -, rfl⟩
    · cases ha
    · exact ih before starts init rfl
  | cooldownOver u g h hu hg _ ih =>
    intro before starts after he
    rcases snoc_eq_append_cons.1 he with ⟨-, ha, rfl⟩ | ⟨init, -, rfl⟩
    · rw [← Act.cooldownOver.inj ha, (h.sound hi).cooldownOver_eq hu hg]
      exact h.pending_iff hi hu hg
    · exact ih before starts init rfl
  | wait _ _ ih | others _ _ ih => exact ih

/-- An accepted request that nobody cancels waits with a cooldown armed and a run pending, until the
end of the cooldown starts the action. -/
theorem History.served (h : History job acts d t) (hi : Function.Injective job)
    {before after : List Act} (he : acts = before ++ .call true :: after)
    (hc : ∀ a ∈ after, a ≠ .cancel ∧ a ≠ .shutdown) :
    (d.armed ≠ none ∧ d.pending = true ∧ ∀ a ∈ after, a.isOver = false) ∨
      ∃ mid rest, after = mid ++ .cooldownOver true :: rest ∧ ∀ a ∈ mid, a.isOver = false := by
  -- up to the first end of a cooldown nothing closes the cooldown that the request waits for
  have hopen : ∀ mid, (∀ a ∈ mid, a ∈ after) → (∀ a ∈ mid, a.isOver = false) →
      Awaited (before ++ .call true :: mid) := by
    intro mid hmid hno
    refine ⟨before, mid, rfl, ?_⟩
    intro a ha
    have hca := hc a (hmid a ha)
    have hna := hno a ha
    cases a <;> simp_all [Act.closes, Act.isOver]
  cases hf : after.find? Act.isOver with
  | none =>
    have hno : ∀ a ∈ after, a.isOver = false := by
      intro a ha
      simpa using List.find?_eq_none.1 hf a ha
    have hw := (h.awaited_iff hi).1 (he ▸ hopen after (fun _ ha => ha) hno)
    exact .inl ⟨hw.1, hw.2, hno⟩
  | some a =>
    obtain ⟨ha, mid, rest, rfl, hmid⟩ := List.find?_eq_some_iff_append.1 hf
    have hno : ∀ b ∈ mid, b.isOver = false := by
      intro b hb
      simpa using hmid b hb
    obtain ⟨starts, rfl⟩ : ∃ starts, a = .cooldownOver starts := by
      cases a <;> simp_all [Act.isOver]
    have hs := h.starts_iff hi (before ++ .call true :: mid) starts rest (by rw [he]; simp)
    obtain rfl : starts = true := hs.2 (hopen mid (fun b hb => by simp [hb]) hno)
    exact .inr ⟨mid, rest, rfl, hno⟩

/-! ## The whole -/

/-- What is true of a debouncer after some acts. -/
structure Unstranded (job : Nat → ω) (acts : List Act) (d : Debounce) (t : Timers ω) : Prop where
  /-- The job of an armed cooldown is alive, and the cooldown is the latest one. -/
  armed : ∀ a, d.armed = some a → a.generation = d.generation ∧ t.Holds a.handle (job a.generation)
  /-- A pending run has an armed cooldown, unless the clock has no room for one. -/
  pending : d.pending = true → d.isArmed = true ∨ (d.immediate = false ∧ d.overruns t.now = true)
  running : d.running = true → d.armed = none
  shutDown : .shutdown ∈ acts → d.shutDown = true ∧ d.armed = none ∧ d.pending = false
  /-- The timer of a cooldown that fires is that of the armed one, which finds no run and no other
  cooldown in its way: the action starts there exactly if a request was accepted for it. -/
  ends : ∀ u ∈ t.waiting, ∀ g, u.job = job g →
    d.armed.map (·.generation) = some g ∧
    (d.detach g).2.running = false ∧ (d.detach g).2.armed = none ∧
    (d.cooldownOver g).2.running = (d.cooldownOver g).1 ∧
    ((d.cooldownOver g).1 = true ↔ Awaited acts)
  /-- An accepted request waits for the end of its cooldown, which starts the action, unless it is
  cancelled. -/
  served : ∀ before after, acts = before ++ .call true :: after →
    (∀ a ∈ after, a ≠ .cancel ∧ a ≠ .shutdown) →
    (d.isArmed = true ∧ d.pending = true ∧ ∀ a ∈ after, a.isOver = false) ∨
      ∃ mid rest, after = mid ++ .cooldownOver true :: rest ∧ ∀ a ∈ mid, a.isOver = false
  /-- A request breaks off exactly if it is to arm a cooldown and the clock has no room for one. Then
  it leaves a run pending, and nothing armed. -/
  breaks : (d.request t job).1 = .brokenOff ↔ d.shutDown = false ∧ d.armed = none ∧
    d.running = false ∧ d.immediate = false ∧ d.overruns t.now = true
  broken : (d.request t job).1 = .brokenOff →
    (d.request t job).2.1.pending = true ∧ (d.request t job).2.1.armed = none

theorem request_eq_brokenOff_iff : (d.request t job).1 = .brokenOff ↔ d.shutDown = false ∧
    d.armed = none ∧ d.running = false ∧ d.immediate = false ∧ d.overruns t.now = true := by
  rcases request_cases d t job with ⟨hs, he⟩ | ⟨-, ha, he⟩ | ⟨-, -, hr, he⟩ |
    ⟨-, -, -, -, ho, he⟩ | ⟨hs, ha, hr, hm, ho, he⟩ | ⟨-, -, -, hm, he⟩ <;> rw [he]
  · simp [hs]
  · simp [ha]
  · simp [hr]
  · simp [ho]
  · simp [hs, ha, hr, hm, ho]
  · simp [hm]

/-- **No request is stranded** as long as the clock has room for a cooldown: a pending run has an
armed cooldown, at whose end the action starts, so an accepted request is lost to `cancel` and
`shutdown` only. -/
theorem nothing_stranded (h : History job acts d t) (hi : Function.Injective job) :
    Unstranded job acts d t := by
  have hs := h.sound hi
  refine ⟨hs.armed, fun hp => ?_, hs.running, fun hd => ?_, fun u hu g hg => ?_,
    fun before after he hc => ?_, request_eq_brokenOff_iff, fun hb => ?_⟩
  · rw [isArmed, Option.isSome_iff_ne_none]
    exact (hs.pending hp).imp_right And.right
  · have hd := (h.shutDown_iff hi).2 hd
    exact ⟨hd, hs.shutDown hd⟩
  · obtain ⟨a, ha, hag, -, hr⟩ := hs.armed_of_job hu hg
    rw [hs.detach_eq hu hg, hs.cooldownOver_eq hu hg]
    exact ⟨by simp [ha, hag], hr, rfl, rfl, h.pending_iff hi hu hg⟩
  · rw [isArmed, Option.isSome_iff_ne_none]
    exact h.served hi he hc
  · obtain ⟨hd, ha, hr, hm, ho⟩ := request_eq_brokenOff_iff.1 hb
    rcases request_cases d t job with ⟨hs, -⟩ | ⟨-, hn, -⟩ | ⟨-, -, hr', -⟩ | ⟨-, -, -, -, ho', -⟩ |
      ⟨-, -, -, -, -, he⟩ | ⟨-, -, -, hm', -⟩
    · cases hd.symm.trans hs
    · exact absurd ha hn
    · cases hr.symm.trans hr'
    · cases ho.symm.trans ho'
    · rw [he]
      exact ⟨rfl, ha⟩
    · cases hm.symm.trans hm'

/-- Two requests within a cooldown of ten seconds, and its end. -/
theorem second_request_served :
    ∃ (acts : List Act) (d : Debounce) (t : Timers Nat), History id acts d t ∧
      acts = [.call true, .call true, .cooldownOver true] ∧ d.running = true ∧
      Unstranded id acts d t := by
  have h₁ := (@History.new Nat id "requests" (.ofSeconds 10) false 0).call.call
  have h₂ := (h₁.wait 10000000).cooldownOver ⟨⟨0⟩, 10000000, 1⟩ 1 (.head _) rfl (by decide)
  exact ⟨_, _, _, h₂, by decide, by decide, nothing_stranded h₂ Function.injective_id⟩

/-- The longest cooldown there is: the first request breaks off, and the run that it leaves pending
has no cooldown at whose end it could take place. -/
theorem stranded_at_clock_end :
    ∃ (acts : List Act) (d : Debounce) (t : Timers Nat), History id acts d t ∧
      d.cooldown = .ofSeconds 0xffffffffffffffff ∧ acts = [.call false] ∧ d.shutDown = false ∧
      d.pending = true ∧ d.armed = none ∧ t.waiting = [] := by
  have h := (@History.new Nat id "requests" (.ofSeconds 0xffffffffffffffff) false 0).call
  exact ⟨_, _, _, h, by decide, by decide, by decide, by decide, by decide, by decide⟩

end Freshness.Debounce
