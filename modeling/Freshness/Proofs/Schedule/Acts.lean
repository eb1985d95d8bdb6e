import Freshness.Proofs.Schedule
import Freshness.Proofs.Snoc
import Freshness.Schedule.Script

/-!
# What happens to a refresh timer

* `Script.Act`, `Script.Happens` : an operation, a job that fires or time that passes, with what
  becomes of the timer; `Script.History` : a refresh timer after some of these, in any order;
* `Stage.arm_of_refuses`, `Stage.arm_of_not_refuses` : what arming does;
* `Script.Change`, `Script.Effect` : what an act does to the armed timer, and when a claim succeeds.
  Each act has one of these effects (`Happens.effect`);
* `History.step` : what a script does is a history.
-/

namespace Freshness.Schedule.Script

/-! ## A timer in use -/

/-- The job of a timer fires: it claims its generation, or it is one that does not. -/
def Fire.claim (job : Fire) (s : Schedule) : Bool × Schedule :=
  if job.claims then s.takeFired job.generation else (false, s)

inductive Act where
  /-- An operation, with what it says. -/
  | did (step : Step) (reply : Reply)
  /-- A job fires; it takes the timer off or it does not. -/
  | fired (job : Fire) (took : Bool)
  | waited
deriving DecidableEq, Repr

def Stage.over (s : Stage) (t : Timers Fire) : Stage := { s with timers := t }

def Stage.hears (s : Stage) (time : Nat) (job : Fire) : Stage :=
  { s with schedule := (job.claim s.schedule).2
           fired := s.fired ++ [⟨time, job.generation, (job.claim s.schedule).1⟩] }

theorem Stage.over_fire (s : Stage) (t : Timers Fire) (jobs : List (Nat × Fire)) :
    (s.fire jobs).over t = (s.over t).fire jobs := by
  induction jobs generalizing s with
  | nil => rfl
  | cons job jobs ih => exact ih (s.hears job.1 job.2)

theorem Stage.timers_fire (s : Stage) (jobs : List (Nat × Fire)) :
    (s.fire jobs).timers = s.timers := by
  have h := s.over_fire s.timers jobs
  exact (congrArg Stage.timers h).symm

/-- Something happens. A job fires at any time from its deadline on. -/
inductive Happens : Stage → Act → Stage → Prop where
  | did (s : Stage) (step : Step) : (∀ span, step ≠ .advance span) →
    Happens s (.did step (s.perform step).1) (s.perform step).2
  | fired (s : Stage) (u : Timer Fire) : u ∈ s.timers.waiting → u.deadline ≤ s.timers.now →
    Happens s (.fired u.job (u.job.claim s.schedule).1)
      ((s.over (s.timers.take u)).hears s.timers.now u.job)
  | waited (s : Stage) (time : Nat) :
    Happens s .waited (s.over (s.timers.moveTo time))

/-- A refresh timer after some acts. -/
inductive History : List Act → Stage → Prop where
  | new (s : Stage) : s.schedule.generation = 0 → s.schedule.armed = none → s.timers.waiting = [] →
    History [] s
  | act {acts : List Act} {act : Act} {s s' : Stage} : History acts s → Happens s act s' →
    History (acts ++ [act]) s'
  /-- What was heard and logged is put aside. -/
  | forgot {acts : List Act} {s : Stage} : History acts s →
    History acts { s with fired := [], notices := [] }

namespace Act

def arms? : Act → Option Nat
  | .did _ (.armed (.armed generation)) => some generation
  | _ => none

/-- The generation that is claimed, and whether it was the current one. -/
def claim? : Act → Option (Nat × Bool)
  | .did (.takeFired generation) (.took current) => some (generation, current)
  | .fired job took => if job.claims then some (job.generation, took) else none
  | _ => none

/-- The generation that is claimed with success. -/
def taken? (act : Act) : Option Nat :=
  match act.claim? with
  | some (generation, true) => some generation
  | _ => none

/-- The same, if it was not the job of that generation that claimed it. -/
def seized? : Act → Option Nat
  | .did (.takeFired generation) (.took true) => some generation
  | _ => none

/-- A job fires that does not claim its generation. -/
def idles : Act → Bool
  | .fired job _ => !job.claims
  | _ => false

def fired? : Act → Option (Nat × Bool)
  | .fired job took => some (job.generation, took)
  | _ => none

/-- The act leaves nothing armed: the timer is disarmed or claimed, or a deadline is out of range. -/
def ends (act : Act) : Bool :=
  match act with
  | .did .disarm _ | .did _ (.armed (.outOfRange _)) => true
  | _ => act.taken?.isSome

variable {act : Act} {generation : Nat}

theorem taken?_eq_some : act.taken? = some generation ↔ act.claim? = some (generation, true) := by
  unfold taken?
  rcases act.claim? with _ | ⟨g, _ | _⟩ <;> simp

theorem taken?_of_ends (h : act.ends = false) : act.taken? = none := by
  cases ht : act.taken? with
  | none => rfl
  | some g =>
    unfold ends at h
    split at h
    · cases h
    · cases h
    · rw [ht] at h
      cases h

theorem ends_did_takeFired (current : Bool) :
    (Act.did (.takeFired generation) (.took current)).ends = current := by
  cases current <;> rfl

theorem ends_fired (job : Fire) (took : Bool) :
    (Act.fired job took).ends = (job.claims && took) := by
  cases hc : job.claims <;> cases took <;> simp [ends, taken?, claim?, hc]

end Act

/-- The latest timer that was armed has that generation, and nothing has ended it since. -/
def Stands (generation : Nat) (acts : List Act) : Prop :=
  Lately (·.arms? = some generation) (fun act => act.arms? = none ∧ act.ends = false) acts

/-! ## What an act does to the armed timer -/

def current? (s : Schedule) : Option Nat := s.armed.map (·.generation)

/-- What an act does to the armed timer. -/
inductive Change (s : Schedule) (act : Act) (s' : Schedule) : Prop where
  /-- It arms the next timer. -/
  | arms : act.arms? = some (s.generation + 1) → s'.generation = s.generation + 1 →
    current? s' = some (s.generation + 1) → Change s act s'
  | ends : act.arms? = none → act.ends = true → s.generation ≤ s'.generation →
    current? s' = none → Change s act s'
  | keeps : act.arms? = none → act.ends = false → s'.generation = s.generation →
    s'.armed = s.armed → Change s act s'

/-- The effect of an act; a claim succeeds if the generation is the current one. -/
structure Effect (s : Schedule) (act : Act) (s' : Schedule) : Prop where
  change : Change s act s'
  claim : ∀ generation took, act.claim? = some (generation, took) →
    (took = true ↔ current? s = some generation)

theorem Change.effect {s s' : Schedule} {act : Act} (h : Change s act s')
    (hc : act.claim? = none) : Effect s act s' where
  change := h
  claim := by simp [hc]

theorem takeFired_fst (s : Schedule) (generation : Nat) :
    (s.takeFired generation).1 = true ↔ current? s = some generation := by
  unfold takeFired current?
  cases ha : s.armed with
  | none => simp
  | some a => by_cases hg : a.generation = generation <;> simp [hg]

theorem takeFired_snd (s : Schedule) (generation : Nat) :
    (s.takeFired generation).2 =
      if (s.takeFired generation).1 then { s with armed := none } else s := by
  unfold takeFired
  split <;> rfl

theorem effect_takeFired {s : Schedule} {generation : Nat} {act : Act}
    (h : act.arms? = none) (he : act.ends = (s.takeFired generation).1)
    (hc : act.claim? = some (generation, (s.takeFired generation).1)) :
    Effect s act (s.takeFired generation).2 where
  change := by
    rw [takeFired_snd]
    split
    · next ht => exact .ends h (he.trans ht) (Nat.le_refl _) rfl
    · next ht => exact .keeps h (he.trans (Bool.eq_false_iff.2 ht)) rfl rfl
  claim := by
    intro g took hg
    obtain ⟨rfl, rfl⟩ := Prod.mk.inj (Option.some.inj (hc.symm.trans hg))
    exact takeFired_fst s generation

namespace Stage

/-- Arming is refused: the coordinator is shut down, polling is disabled, or there is no interval. -/
def refuses (s : Stage) : Bool :=
  s.shutDown || s.entry.getD false || s.schedule.interval.isNone

def arming (s : Stage) (claims : Bool) : Arming × Schedule × Timers Fire :=
  s.schedule.arm s.timers s.shutDown (s.entry.getD false) fun g => ⟨g, claims⟩

theorem perform_arm (s : Stage) (claims : Bool) :
    (s.perform (.arm claims)).1 = .armed (s.arming claims).1 ∧
      (s.perform (.arm claims)).2.schedule = (s.arming claims).2.1 ∧
      (s.perform (.arm claims)).2.timers = (s.arming claims).2.2 :=
  ⟨rfl, rfl, rfl⟩

/-- A refusal changes nothing: an armed timer stays armed, with its deadline. -/
theorem arming_of_refuses {s : Stage} (h : s.refuses = true) (claims : Bool) :
    ((s.arming claims).1 = .shutDown ∨ (s.arming claims).1 = .pollingDisabled ∨
      (s.arming claims).1 = .noInterval) ∧ (s.arming claims).2 = (s.schedule, s.timers) := by
  unfold arming Schedule.arm
  cases hd : s.shutDown with
  | true => exact ⟨.inl rfl, rfl⟩
  | false =>
    cases hp : s.entry.getD false with
    | true => exact ⟨.inr (.inl rfl), rfl⟩
    | false =>
      cases hi : s.schedule.interval with
      | none => exact ⟨.inr (.inr rfl), rfl⟩
      | some interval => simp [refuses, hd, hp, hi] at h

/-- Otherwise the timer is replaced by one of the next generation, unless the deadline is out of
range: then nothing is armed. -/
theorem arming_of_not_refuses {s : Stage} (h : s.refuses = false) (claims : Bool) :
    ∃ interval, s.schedule.interval = some interval ∧
      let generation := s.schedule.generation + 1
      let deadline := s.schedule.deadlineAt s.timers.now interval
      let cleared := (s.schedule.disarm s.timers).2
      let entered := cleared.schedule deadline (Fire.mk generation claims)
      (clockEnd ≤ deadline → s.arming claims =
        (.outOfRange interval, { s.schedule with generation, armed := none }, cleared)) ∧
      (deadline < clockEnd → s.arming claims = (.armed generation,
        { s.schedule with generation, armed := some ⟨generation, deadline, entered.1⟩ },
        entered.2)) := by
  simp only [refuses, Bool.or_eq_false_iff, Option.isNone_eq_false_iff, Option.isSome_iff_exists]
    at h
  obtain ⟨⟨hd, hp⟩, interval, hi⟩ := h
  have ha : s.arming claims = s.schedule.arm s.timers false false fun g => ⟨g, claims⟩ := by
    rw [arming, hd, hp]
  rw [arm_of_interval hi] at ha
  refine ⟨interval, hi, fun hc => ?_, fun hc => ?_⟩
  · rw [ha, if_pos hc]
  · rw [ha, if_neg (Nat.not_le.2 hc)]

theorem change_arm (s : Stage) (claims : Bool) :
    Change s.schedule (.did (.arm claims) (s.perform (.arm claims)).1)
      (s.perform (.arm claims)).2.schedule := by
  obtain ⟨hr, hs, -⟩ := s.perform_arm claims
  rw [hr, hs]
  cases h : s.refuses with
  | true =>
    obtain ⟨ha, he⟩ := arming_of_refuses h claims
    rw [he]
    obtain ha | ha | ha := ha <;> rw [ha] <;> exact .keeps rfl rfl rfl rfl
  | false =>
    obtain ⟨interval, -, hout, hin⟩ := arming_of_not_refuses h claims
    rcases Nat.lt_or_ge (s.schedule.deadlineAt s.timers.now interval) clockEnd with hc | hc
    · rw [hin hc]
      exact .arms rfl rfl rfl
    · rw [hout hc]
      exact .ends rfl rfl (Nat.le_succ _) rfl

theorem effect_did (s : Stage) {step : Step} (h : ∀ span, step ≠ .advance span) :
    Effect s.schedule (.did step (s.perform step).1) (s.perform step).2.schedule := by
  cases step with
  | arm claims => exact (change_arm s claims).effect rfl
  | disarm =>
    have hs : (s.perform .disarm).2.schedule = { s.schedule with armed := none } :=
      disarm_fst s.schedule s.timers
    rw [hs]
    exact Change.effect (.ends rfl rfl (Nat.le_refl _) rfl) rfl
  | takeFired generation => exact effect_takeFired rfl (Act.ends_did_takeFired _) rfl
  | setInterval interval => exact Change.effect (.keeps rfl rfl rfl rfl) rfl
  | shutdown => exact Change.effect (.keeps rfl rfl rfl rfl) rfl
  | setPolling disabled => exact Change.effect (.keeps rfl rfl rfl rfl) rfl
  | advance span => exact absurd rfl (h span)

end Stage

theorem effect_fired (s : Schedule) (job : Fire) :
    Effect s (.fired job (job.claim s).1) (job.claim s).2 := by
  have he := Act.ends_fired job (job.claim s).1
  cases hc : job.claims with
  | true =>
    have hj : job.claim s = s.takeFired job.generation := by simp [Fire.claim, hc]
    rw [hc, Bool.true_and] at he
    rw [hj] at he ⊢
    exact effect_takeFired rfl he (by simp [Act.claim?, hc])
  | false =>
    have hj : job.claim s = (false, s) := by simp [Fire.claim, hc]
    rw [hc, Bool.false_and] at he
    rw [hj] at he ⊢
    exact (Change.keeps rfl he rfl rfl).effect (by simp [Act.claim?, hc])

theorem Happens.effect {s s' : Stage} {act : Act} (h : Happens s act s') :
    Effect s.schedule act s'.schedule := by
  cases h with
  | did step hs => exact s.effect_did hs
  | fired u hu hd => exact effect_fired s.schedule u.job
  | waited time => exact Change.effect (.keeps rfl rfl rfl rfl) rfl

/-! ## Scripts -/

/-- The stage continues the history; `heard` and the jobs that fire are what has been heard of. -/
def Follows (acts : List Act) (heard : List Fired) (s : Stage) : Prop :=
  ∃ more, History (acts ++ more) s ∧
    s.fired.map (fun f => (f.generation, f.took)) =
      heard.map (fun f => (f.generation, f.took)) ++ more.filterMap Act.fired?

theorem History.follows {acts : List Act} {s : Stage} (h : History acts s) :
    Follows acts s.fired s :=
  ⟨[], by rwa [List.append_nil], (List.append_nil _).symm⟩

theorem Follows.waited {acts : List Act} {heard : List Fired} {s : Stage}
    (h : Follows acts heard s) (time : Nat) :
    Follows acts heard (s.over (s.timers.moveTo time)) := by
  obtain ⟨more, hm, hl⟩ := h
  refine ⟨more ++ [.waited], ?_, ?_⟩
  · rw [← List.append_assoc]
    exact hm.act (.waited s time)
  · rw [filterMap_snoc_of_none rfl]
    exact hl

/-- What is due fires, one job after the other. -/
theorem History.drain {limit : Nat} {t : Timers Fire} {acts : List Act} {s : Stage}
    (h : History acts (s.over t)) :
    Follows acts s.fired ((s.over (t.drain limit).2).fire (t.drain limit).1) := by
  induction t using Timers.drain.induct limit generalizing acts s with
  | case1 t hn =>
    rw [Timers.drain, hn]
    exact h.follows
  | case2 t job t' hd jobs rest hr ih =>
    obtain ⟨u, hu, rfl, -, rfl⟩ := Timers.takeDue?_eq_some hd
    have hw := h.act (.waited _ u.deadline)
    have hf := hw.act (.fired _ u hu (Nat.le_max_right _ _))
    obtain ⟨more, hm, hl⟩ := ih (s := s.hears (max t.now u.deadline) u.job) hf
    rw [Timers.drain, hd]
    rw [List.append_assoc, List.append_assoc] at hm
    refine ⟨_, hm, hl.trans ?_⟩
    simp [Stage.hears, Stage.over, Act.fired?, List.filterMap_cons]

theorem Follows.settle {acts : List Act} {heard : List Fired} {s : Stage}
    (h : Follows acts heard s) : Follows acts heard s.settle := by
  obtain ⟨more, hm, hl⟩ := h
  have hd : Follows (acts ++ more) s.fired s.settle :=
    History.drain (t := s.timers) (s := s) hm
  obtain ⟨rest, hr, hk⟩ := hd
  refine ⟨more ++ rest, ?_, ?_⟩
  · rw [← List.append_assoc]
    exact hr
  · rw [List.filterMap_append, ← List.append_assoc, ← hl]
    exact hk

/-- The act that an operation is; of passing time only what it leads to counts. -/
def Step.act? (step : Step) (reply : Reply) : Option Act :=
  match step with
  | .advance _ => none
  | _ => some (.did step reply)

theorem Step.act?_of_ne {step : Step} (h : ∀ span, step ≠ .advance span) (reply : Reply) :
    step.act? reply = some (.did step reply) := by
  unfold Step.act?
  split
  · next span => exact absurd rfl (h span)
  · rfl

theorem Stage.fired_perform (s : Stage) {step : Step} (h : ∀ span, step ≠ .advance span) :
    (s.perform step).2.fired = s.fired := by
  cases step with
  | advance span => exact absurd rfl (h span)
  | _ => rfl

/-- What an operation of a script does, with all that is due after it, is a history. -/
theorem History.step {acts : List Act} {s : Stage} (h : History acts s) (step : Step) :
    Follows (acts ++ (step.act? (s.step step).1).toList) [] (s.step step).2 := by
  by_cases hs : ∃ span, step = .advance span
  · obtain ⟨span, rfl⟩ := hs
    let s₀ : Stage := { s with fired := [], notices := [] }
    let limit := s.timers.now + span.micros
    have hd : Follows acts [] ((s₀.over (s.timers.drain limit).2).fire (s.timers.drain limit).1) :=
      History.drain (s := s₀) h.forgot
    have hw := (hd.waited limit).settle
    rw [Stage.timers_fire, Stage.over_fire] at hw
    rw [Step.act?, Option.toList_none, List.append_nil]
    exact hw
  · have hs : ∀ span, step ≠ .advance span := fun span he => hs ⟨span, he⟩
    have hd := (h.forgot.act (.did _ step hs)).follows
    rw [Stage.fired_perform _ hs] at hd
    rw [Step.act?_of_ne hs]
    exact hd.settle

/-- So is what a whole script does. -/
theorem History.script {acts : List Act} {s : Stage} (h : History acts s) (steps : List Step) :
    ∃ more, History (acts ++ more) (steps.foldl (fun s step => (s.step step).2) s) := by
  induction steps generalizing acts s with
  | nil => exact ⟨[], by rwa [List.append_nil]⟩
  | cons step steps ih =>
    obtain ⟨more, hm, -⟩ := h.step step
    obtain ⟨rest, hr⟩ := ih hm
    refine ⟨(step.act? (s.step step).1).toList ++ (more ++ rest), ?_⟩
    rw [← List.append_assoc, ← List.append_assoc]
    exact hr

end Freshness.Schedule.Script
