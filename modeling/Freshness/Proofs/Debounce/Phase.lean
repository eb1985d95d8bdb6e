import Freshness.Proofs.Debounce

/-!
# The phases of a debouncer

A debouncer with its timers is in one of four phases, and whatever happens to it is a step of a small
timed automaton.

* `Incident`, `Entry` : what happens to a debouncer, and when;
* `Step`, `Timeline` : one incident, and a debouncer in use with the log of all its incidents. They
  come in any order and at any times, but time does not pass a deadline before its timer has fired;
* `Phase`, `Phase.Step`, `Phase.Trace` : the automaton and its timed runs;
* `InPhase` : a debouncer is in a phase; `InPhase.step`, `Timeline.trace` : it follows the automaton.
-/

namespace Freshness.Debounce

/-! ## What happens -/

inductive Incident where
  | call (answer : Answer)
  | cancel
  | shutdown
  /-- The timer of the cooldown fires; it starts the action or it does not. -/
  | cooldownOver (starts : Bool)
  | endRun (fault : Option Fault)
deriving DecidableEq, Repr

namespace Incident

def begins : Incident → Bool
  | .call answer => answer == .run
  | .cooldownOver starts => starts
  | .cancel | .shutdown | .endRun _ => false

def ends : Incident → Bool
  | .endRun _ => true
  | .call _ | .cancel | .shutdown | .cooldownOver _ => false

def isCall : Incident → Bool
  | .call _ => true
  | .cancel | .shutdown | .cooldownOver _ | .endRun _ => false

def isOver : Incident → Bool
  | .cooldownOver _ => true
  | .call _ | .cancel | .shutdown | .endRun _ => false

/-- It takes away what is armed and pending. -/
def interrupts : Incident → Bool
  | .cancel | .shutdown => true
  | .call _ | .cooldownOver _ | .endRun _ => false

end Incident

structure Entry where
  time : Nat
  incident : Incident
deriving DecidableEq, Repr

variable {ω : Type} {job : Nat → ω} {d d' : Debounce} {t t' : Timers ω} {i : Incident}
  {log : List Entry}

/-- A run of the action may last as long as it likes and use the debouncer meanwhile. -/
inductive Step (job : Nat → ω) (d : Debounce) (t : Timers ω) :
    Incident → Debounce → Timers ω → Prop where
  | call : Step job d t (.call (d.request t job).1) (d.request t job).2.1 (d.request t job).2.2
  | cancel : Step job d t .cancel (d.cancel t).1 (d.cancel t).2
  | shutdown : Step job d t .shutdown (d.shutdown t).1 (d.shutdown t).2
  | cooldownOver (u : Timer ω) (g : Nat) : u ∈ t.waiting → u.job = job g → u.deadline ≤ t.now →
    Step job d t (.cooldownOver (d.cooldownOver g).1) (d.cooldownOver g).2 (t.take u)
  | endRun (fault : Option Fault) : d.running = true →
    Step job d t (.endRun fault) (d.endRun t job).2.1 (d.endRun t job).2.2

inductive Timeline (job : Nat → ω) : List Entry → Debounce → Timers ω → Prop where
  | new (name : String) (cooldown : Duration) (immediate : Bool) (now : Nat) :
    Timeline job [] { name, cooldown, immediate } { now }
  | step {log : List Entry} {d d' : Debounce} {t t' : Timers ω} {i : Incident} :
    Timeline job log d t → Step job d t i d' t' → Timeline job (log ++ [⟨t.now, i⟩]) d' t'
  /-- Time passes, but no further than to the next deadline. -/
  | wait {log : List Entry} {d : Debounce} {t : Timers ω} (time : Nat) : Timeline job log d t →
    (∀ u ∈ t.waiting, time ≤ u.deadline) → Timeline job log d (t.moveTo time)
  | others {log : List Entry} {d : Debounce} {t t' : Timers ω} : Timeline job log d t →
    Others job t t' → Timeline job log d t'

theorem Timeline.history (h : Timeline job log d t) : ∃ acts, History job acts d t := by
  induction h with
  | new name cooldown immediate now => exact ⟨_, .new name cooldown immediate now⟩
  | step _ hs ih =>
    obtain ⟨acts, ih⟩ := ih
    cases hs with
    | call => exact ⟨_, ih.call⟩
    | cancel => exact ⟨_, ih.cancel⟩
    | shutdown => exact ⟨_, ih.shutdown⟩
    | cooldownOver u g hu hg hd => exact ⟨_, ih.cooldownOver u g hu hg hd⟩
    | endRun _ hr => exact ⟨_, ih.endRun hr⟩
  | wait time _ _ ih =>
    obtain ⟨acts, ih⟩ := ih
    exact ⟨_, ih.wait time⟩
  | others _ ho ih =>
    obtain ⟨acts, ih⟩ := ih
    exact ⟨_, ih.others ho⟩

theorem Timeline.sound (h : Timeline job log d t) (hi : Function.Injective job) :
    Sound d t job := by
  obtain ⟨_, h⟩ := h.history
  exact h.sound hi

/-! ## The automaton -/

inductive Phase where
  | idle
  | cooling (deadline : Nat) (pending : Bool)
  | running
  /-- The debouncer is shut down; a run may be under way still. -/
  | shut (busy : Bool)
deriving DecidableEq, Repr

namespace Phase

def isBusy : Phase → Bool
  | .running => true
  | .shut busy => busy
  | .idle | .cooling _ _ => false

def cancelled : Phase → Phase
  | .cooling _ _ => .idle
  | .idle => .idle
  | .running => .running
  | .shut busy => .shut busy

def afterCooldown (pending : Bool) : Phase := if pending then .running else .idle

def Allows (time : Nat) : Phase → Prop
  | .cooling deadline _ => time ≤ deadline
  | .idle | .running | .shut _ => True

/-- One incident at the time `now`. -/
inductive Step (cooldown : Nat) (immediate : Bool) (now : Nat) : Phase → Incident → Phase → Prop where
  | run : immediate = true → Step cooldown immediate now .idle (.call .run) .running
  | defer : immediate = false → now + cooldown < clockEnd →
    Step cooldown immediate now .idle (.call .deferred) (.cooling (now + cooldown) true)
  | breakOff : immediate = false → clockEnd ≤ now + cooldown →
    Step cooldown immediate now .idle (.call .brokenOff) .idle
  | fold (deadline : Nat) (pending : Bool) :
    Step cooldown immediate now (.cooling deadline pending) (.call .folded) (.cooling deadline true)
  | drop : Step cooldown immediate now .running (.call .dropped) .running
  | ignore (busy : Bool) :
    Step cooldown immediate now (.shut busy) (.call .ignored) (.shut busy)
  | cancel (p : Phase) : Step cooldown immediate now p .cancel p.cancelled
  | shutdown (p : Phase) : Step cooldown immediate now p .shutdown (.shut p.isBusy)
  | cooldownOver (pending : Bool) :
    Step cooldown immediate now (.cooling now pending) (.cooldownOver pending)
      (afterCooldown pending)
  | endRun (fault : Option Fault) : now + cooldown < clockEnd →
    Step cooldown immediate now .running (.endRun fault) (.cooling (now + cooldown) false)
  /-- The clock has no room for a cooldown after the run. -/
  | endLate (fault : Option Fault) : clockEnd ≤ now + cooldown →
    Step cooldown immediate now .running (.endRun fault) .idle
  | endLast (fault : Option Fault) :
    Step cooldown immediate now (.shut true) (.endRun fault) (.shut false)

/-- A timed run of the automaton from a phase at a time to a phase at a time. -/
inductive Trace (cooldown : Nat) (immediate : Bool) (start : Nat) (p : Phase) :
    List Entry → Nat → Phase → Prop where
  | rest : Trace cooldown immediate start p [] start p
  | step {log : List Entry} {now : Nat} {q r : Phase} {i : Incident} :
    Trace cooldown immediate start p log now q → Step cooldown immediate now q i r →
    Trace cooldown immediate start p (log ++ [⟨now, i⟩]) now r
  | wait {log : List Entry} {now : Nat} {q : Phase} (time : Nat) :
    Trace cooldown immediate start p log now q → now ≤ time → q.Allows time →
    Trace cooldown immediate start p log time q

end Phase

/-! ## The debouncer follows the automaton -/

inductive InPhase (job : Nat → ω) (d : Debounce) (t : Timers ω) : Phase → Prop where
  | idle : d.shutDown = false → d.running = false → d.armed = none → InPhase job d t .idle
  | cooling (deadline : Nat) (pending : Bool) : d.shutDown = false → d.running = false →
    d.armed ≠ none → d.pending = pending →
    (∀ u ∈ t.waiting, ∀ g, u.job = job g → u.deadline = deadline) → t.now ≤ deadline →
    InPhase job d t (.cooling deadline pending)
  | running : d.shutDown = false → d.running = true → InPhase job d t .running
  | shut : d.shutDown = true → InPhase job d t (.shut d.running)

theorem InPhase.isBusy {p : Phase} (h : InPhase job d t p) : p.isBusy = d.running := by
  cases h with
  | idle _ hr _ => exact hr.symm
  | cooling _ _ _ hr => exact hr.symm
  | running _ hr => exact hr.symm
  | shut _ => rfl

theorem shutdown_fst (d : Debounce) (t : Timers ω) :
    (d.shutdown t).1 = { d with shutDown := true, pending := false, armed := none } := by
  unfold shutdown
  rw [cancel_fst]

theorem inPhase_cooling (ht : t.driven = true) (hj : ∀ u ∈ t.waiting, ∀ g, u.job ≠ job g)
    (hs : d.shutDown = false) (hr : d.running = false) (ha : d.armed ≠ none) {pending : Bool}
    (hq : d.pending = pending) {deadline : Nat} (hle : t.now ≤ deadline) (generation : Nat) :
    InPhase job d (t.schedule deadline (job generation)).2 (.cooling deadline pending) := by
  rw [Timers.schedule_of_driven ht]
  refine .cooling _ _ hs hr ha hq (fun u hu g hg => ?_) hle
  rcases List.mem_append.1 hu with hu | hu
  · exact absurd hg (hj u hu g)
  · obtain rfl := List.mem_singleton.1 hu
    exact Nat.max_eq_right hle

theorem overruns_eq_false_iff {now : Nat} :
    d.overruns now = false ↔ now + d.cooldown.micros < clockEnd := by
  rw [Bool.eq_false_iff, ne_eq, overruns_iff, Nat.not_le]

theorem inPhase_call {p : Phase} (h : Sound d t job) (hp : InPhase job d t p) :
    ∃ q, Phase.Step d.cooldown.micros d.immediate t.now p (.call (d.request t job).1) q ∧
      InPhase job (d.request t job).2.1 (d.request t job).2.2 q := by
  rcases request_cases d t job with ⟨hs, he⟩ | ⟨hs, ha, he⟩ | ⟨hs, ha, hr, he⟩ |
    ⟨hs, ha, hr, hm, ho, he⟩ | ⟨hs, ha, hr, hm, ho, he⟩ | ⟨hs, ha, hr, hm, he⟩ <;> rw [he]
  · cases hp with
    | shut => exact ⟨_, .ignore d.running, .shut hs⟩
    | idle hn | cooling _ _ hn | running hn => cases hs.symm.trans hn
  · cases hp with
    | cooling deadline pending _ hr _ _ hw hn =>
      exact ⟨_, .fold deadline pending, .cooling deadline true hs hr ha rfl hw hn⟩
    | idle _ _ hn => exact absurd hn ha
    | running _ hr => exact absurd (h.running hr) ha
    | shut hn => cases hs.symm.trans hn
  · cases hp with
    | running => exact ⟨_, .drop, .running hs hr⟩
    | idle _ hn | cooling _ _ _ hn => cases hr.symm.trans hn
    | shut hn => cases hs.symm.trans hn
  all_goals
    obtain rfl : p = .idle := by
      cases hp with
      | idle => rfl
      | cooling _ _ _ _ hn => exact absurd ha hn
      | running _ hn => cases hr.symm.trans hn
      | shut hn => cases hs.symm.trans hn
  · rw [startCooldown_of_idle (d := { d with pending := true }) hs ho ha]
    refine ⟨_, .defer hm (overruns_eq_false_iff.1 ho), ?_⟩
    exact inPhase_cooling (d := { d with pending := true, generation := _, armed := some _ })
      h.timers.driven (h.no_job ha) hs hr (Option.some_ne_none _) rfl (Nat.le_add_right ..) _
  · exact ⟨_, .breakOff hm (overruns_iff.1 ho), .idle hs hr ha⟩
  · exact ⟨_, .run hm, .running hs rfl⟩

theorem inPhase_cancel {p : Phase} (hp : InPhase job d t p) :
    InPhase job (d.cancel t).1 (d.cancel t).2 p.cancelled := by
  rw [cancel_fst]
  cases hp with
  | idle hs hr _ | cooling _ _ hs hr =>
    show InPhase _ _ _ .idle
    exact .idle hs hr rfl
  | running hs hr =>
    show InPhase _ _ _ .running
    exact .running hs hr
  | shut hs =>
    show InPhase _ _ _ (.shut d.running)
    exact .shut hs

/-- The timer that fires does so at its deadline. -/
theorem inPhase_cooldownOver {p : Phase} (h : Sound d t job) (hp : InPhase job d t p) {u : Timer ω}
    {g : Nat} (hu : u ∈ t.waiting) (hg : u.job = job g) (hd : u.deadline ≤ t.now) :
    ∃ q, Phase.Step d.cooldown.micros d.immediate t.now p (.cooldownOver (d.cooldownOver g).1) q ∧
      InPhase job (d.cooldownOver g).2 (t.take u) q := by
  obtain ⟨a, ha, -, -, hr⟩ := h.armed_of_job hu hg
  rw [h.cooldownOver_eq hu hg]
  cases hp with
  | idle _ _ hn => cases hn.symm.trans ha
  | running _ hr' => cases hr.symm.trans hr'
  | shut hs => cases (h.shutDown hs).1.symm.trans ha
  | cooling deadline pending hs _ _ hq hw hn =>
    obtain rfl : t.now = deadline := Nat.le_antisymm hn (hw u hu g hg ▸ hd)
    rw [hq]
    refine ⟨_, .cooldownOver pending, ?_⟩
    cases pending with
    | true => exact .running hs rfl
    | false => exact .idle hs rfl rfl

theorem inPhase_endRun {p : Phase} (h : Sound d t job) (hp : InPhase job d t p)
    (hr : d.running = true) (fault : Option Fault) :
    ∃ q, Phase.Step d.cooldown.micros d.immediate t.now p (.endRun fault) q ∧
      InPhase job (d.endRun t job).2.1 (d.endRun t job).2.2 q := by
  have ha := h.running hr
  have hq := h.pending_eq_false hr
  unfold Debounce.endRun
  cases hp with
  | idle _ hn | cooling _ _ _ hn => cases hn.symm.trans hr
  | running hs _ =>
    cases ho : d.overruns t.now with
    | true =>
      rw [startCooldown_of_overruns hs ho]
      exact ⟨_, .endLate fault (overruns_iff.1 ho), .idle hs rfl ha⟩
    | false =>
      rw [startCooldown_of_idle hs ho ha]
      refine ⟨_, .endRun fault (overruns_eq_false_iff.1 ho), ?_⟩
      exact inPhase_cooling (d := { d with running := false, generation := _, armed := some _ })
        h.timers.driven (h.no_job ha) hs rfl (Option.some_ne_none _) hq (Nat.le_add_right ..) _
  | shut hs =>
    rw [startCooldown_of_shutDown hs, hr]
    exact ⟨_, .endLast fault, .shut hs⟩

/-- What happens to a debouncer is a step of the automaton. -/
theorem InPhase.step {p : Phase} (h : Sound d t job) (hp : InPhase job d t p)
    (hs : Step job d t i d' t') :
    ∃ q, Phase.Step d.cooldown.micros d.immediate t.now p i q ∧ InPhase job d' t' q := by
  cases hs with
  | call => exact inPhase_call h hp
  | cancel => exact ⟨_, .cancel p, inPhase_cancel hp⟩
  | shutdown =>
    refine ⟨_, .shutdown p, ?_⟩
    rw [shutdown_fst, hp.isBusy]
    exact .shut rfl
  | cooldownOver u g hu hg hd => exact inPhase_cooldownOver h hp hu hg hd
  | endRun fault hr => exact inPhase_endRun h hp hr fault

theorem now_others (ho : Others job t t') : t'.now = t.now := by
  cases ho with
  | enter deadline other _ => exact Timers.now_schedule _ _ _
  | leave u _ _ => exact Timers.now_cancel _ _

theorem InPhase.others {p : Phase} (h : Sound d t job) (hp : InPhase job d t p)
    (ho : Others job t t') : InPhase job d t' p := by
  cases hp with
  | idle hs hr ha => exact .idle hs hr ha
  | running hs hr => exact .running hs hr
  | shut hs => exact .shut hs
  | cooling deadline pending hs hr ha hq hw hn =>
    refine .cooling deadline pending hs hr ha hq (fun u hu g hg => ?_) ((now_others ho).symm ▸ hn)
    cases ho with
    | enter deadline' other hj =>
      rw [Timers.schedule_of_driven h.timers.driven] at hu
      rcases List.mem_append.1 hu with hu | hu
      · exact hw u hu g hg
      · obtain rfl := List.mem_singleton.1 hu
        exact absurd hg (hj g)
    | leave v hv hj => exact hw u (Timers.mem_cancel.1 hu).1 g hg

/-! ## Times and settings -/

theorem now_startCooldown (d : Debounce) (t : Timers ω) (job : Nat → ω) :
    (d.startCooldown t job).2.2.now = t.now := by
  unfold startCooldown
  split
  · rfl
  · dsimp only
    split
    · rfl
    · split <;> simp

theorem Step.now_eq (hs : Step job d t i d' t') : t'.now = t.now := by
  cases hs with
  | call =>
    rcases request_cases d t job with ⟨-, he⟩ | ⟨-, -, he⟩ | ⟨-, -, -, he⟩ | ⟨-, -, -, -, -, he⟩ |
      ⟨-, -, -, -, -, he⟩ | ⟨-, -, -, -, he⟩ <;> rw [he]
    exact now_startCooldown _ _ _
  | cancel => exact now_cancel d t
  | shutdown => exact now_cancel { d with shutDown := true } t
  | cooldownOver u => exact Timers.now_cancel _ _
  | endRun => exact now_startCooldown _ _ _

theorem Step.settings_eq (hs : Step job d t i d' t') :
    d'.cooldown = d.cooldown ∧ d'.immediate = d.immediate := by
  have hstart : ∀ d : Debounce, (d.startCooldown t job).2.1.cooldown = d.cooldown ∧
      (d.startCooldown t job).2.1.immediate = d.immediate := by
    intro d
    obtain ⟨generation, armed, he⟩ := startCooldown_frame d t job
    simp [he]
  cases hs with
  | call =>
    rcases request_cases d t job with ⟨-, he⟩ | ⟨-, -, he⟩ | ⟨-, -, -, he⟩ | ⟨-, -, -, -, -, he⟩ |
      ⟨-, -, -, -, -, he⟩ | ⟨-, -, -, -, he⟩ <;> rw [he]
    · exact ⟨rfl, rfl⟩
    · exact ⟨rfl, rfl⟩
    · exact ⟨rfl, rfl⟩
    · exact hstart { d with pending := true }
    · exact ⟨rfl, rfl⟩
    · exact ⟨rfl, rfl⟩
  | cancel =>
    rw [cancel_fst]
    exact ⟨rfl, rfl⟩
  | shutdown =>
    rw [shutdown_fst]
    exact ⟨rfl, rfl⟩
  | cooldownOver u g =>
    unfold Debounce.cooldownOver detach tryRun
    grind
  | endRun => exact hstart d

/-- A debouncer in use runs through the automaton from the idle phase on. -/
theorem Timeline.trace (h : Timeline job log d t) (hi : Function.Injective job) :
    ∃ start p, Phase.Trace d.cooldown.micros d.immediate start .idle log t.now p ∧
      InPhase job d t p := by
  induction h with
  | new name cooldown immediate now => exact ⟨now, .idle, .rest, .idle rfl rfl rfl⟩
  | step h hs ih =>
    obtain ⟨start, p, htr, hp⟩ := ih
    obtain ⟨q, hq, hin⟩ := hp.step (h.sound hi) hs
    rw [hs.now_eq, hs.settings_eq.1, hs.settings_eq.2]
    exact ⟨start, q, htr.step hq, hin⟩
  | @wait log d t time h hw ih =>
    obtain ⟨start, p, htr, hp⟩ := ih
    have hle : t.now ≤ (t.moveTo time).now := Nat.le_max_left ..
    cases hp with
    | idle hs hr ha => exact ⟨start, _, htr.wait _ hle trivial, .idle hs hr ha⟩
    | running hs hr => exact ⟨start, _, htr.wait _ hle trivial, .running hs hr⟩
    | shut hs => exact ⟨start, _, htr.wait _ hle trivial, .shut hs⟩
    | cooling deadline pending hs hr ha hq hd hn =>
      obtain ⟨a, ha'⟩ := Option.ne_none_iff_exists'.1 ha
      obtain ⟨-, u, hu, -, hg⟩ := (h.sound hi).armed a ha'
      have hmax : (t.moveTo time).now ≤ deadline := Nat.max_le.2 ⟨hn, hd u hu _ hg ▸ hw u hu⟩
      exact ⟨start, _, htr.wait _ hle hmax, .cooling deadline pending hs hr ha hq hd hmax⟩
  | @others log d t t' h ho ih =>
    obtain ⟨start, p, htr, hp⟩ := ih
    rw [now_others ho]
    exact ⟨start, p, htr, hp.others (h.sound hi) ho⟩

end Freshness.Debounce
