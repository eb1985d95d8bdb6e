import Freshness.Proofs.Debounce.Phase

/-!
# How often a debouncer runs its action

* `Phase.Trace.cooling`, `Phase.Trace.running` : what comes first in a run of the automaton from the
  phase, as long as nothing interrupts it;
* `Requested`, `Served` : a request comes before the cooldown is over; the first run in a log begins
  at a deadline;
* `Phase.backlog` : the runs that are owed. Without a request no more begin than are owed;
* `RateLimited`, `Timeline.rate_limited` : **runs never overlap, keep the cooldown between them, and
  begin as early as it allows**, as long as the clock has room for the cooldown;
* `run_without_cooldown` : at the end of the clock the next run waits for nothing.
-/

namespace Freshness.Debounce

variable {ω : Type} {job : Nat → ω}

/-- A request comes before a deadline, or before the timer of the cooldown has fired. -/
def Requested (deadline : Nat) (log : List Entry) : Prop :=
  ∃ before a answer after, log = before ++ ⟨a, .call answer⟩ :: after ∧
    (a < deadline ∨ ∀ z ∈ before, z.incident.isOver = false)

def Served (deadline : Nat) (log : List Entry) : Prop :=
  ∃ before after, log = before ++ ⟨deadline, .cooldownOver true⟩ :: after ∧
    ∀ z ∈ before, z.incident.begins = false

/-- Nothing has begun yet, the deadline has not passed, and a timer that is to start the action
waits for it. -/
structure Waits (job : Nat → ω) (deadline : Nat) (log : List Entry) (d : Debounce)
    (t : Timers ω) : Prop where
  idle : ∀ z ∈ log, z.incident.begins = false
  time : t.now ≤ deadline
  pending : d.pending = true
  timer : ∃ u ∈ t.waiting, (∃ g, u.job = job g) ∧ u.deadline = deadline

/-- The clock has room for a cooldown after every run that ends in the log. -/
def Roomy (cooldown : Nat) (log : List Entry) : Prop :=
  ∀ z ∈ log, z.incident.ends = true → z.time + cooldown < clockEnd

namespace Phase

variable {cooldown start now deadline : Nat} {immediate pending : Bool} {p q : Phase}
  {i : Incident} {log : List Entry}

/-! ## Steps -/

theorem Step.of_begins (h : Step cooldown immediate now p i q) (hb : i.begins = true) :
    q = .running ∧ (p = .idle ∨ p = .cooling now true) := by
  cases h with
  | run => exact ⟨rfl, .inl rfl⟩
  | cooldownOver pending =>
    obtain rfl : pending = true := hb
    exact ⟨rfl, .inr rfl⟩
  | defer | breakOff | fold | drop | ignore | cancel | shutdown | endRun | endLate | endLast =>
    cases hb

theorem Step.of_isBusy (h : Step cooldown immediate now p i q) (hp : p.isBusy = true)
    (he : i.ends = false) : q.isBusy = true ∧ i.begins = false := by
  cases h with
  | run | defer | breakOff | fold | cooldownOver => cases hp
  | drop => exact ⟨rfl, rfl⟩
  | ignore => exact ⟨hp, rfl⟩
  | cancel p =>
    refine ⟨?_, rfl⟩
    cases p <;> exact hp
  | shutdown => exact ⟨hp, rfl⟩
  | endRun | endLate | endLast => cases he

theorem Step.of_shut {busy : Bool} (h : Step cooldown immediate now (.shut busy) i q) :
    (∃ busy, q = .shut busy) ∧ i.begins = false := by
  cases h with
  | ignore => exact ⟨⟨_, rfl⟩, rfl⟩
  | cancel => exact ⟨⟨_, rfl⟩, rfl⟩
  | shutdown => exact ⟨⟨_, rfl⟩, rfl⟩
  | endLast => exact ⟨⟨_, rfl⟩, rfl⟩

theorem Step.ne_shut (h : Step cooldown immediate now p i q) (hp : ∀ busy, p ≠ .shut busy)
    (hi : i ≠ .shutdown) (busy : Bool) : q ≠ .shut busy := by
  cases h with
  | run | defer | breakOff | fold | drop | endRun | endLate => simp
  | ignore busy => exact absurd rfl (hp busy)
  | cancel p =>
    cases p with
    | shut busy => exact absurd rfl (hp busy)
    | idle | cooling | running => simp [cancelled]
  | shutdown => exact absurd rfl hi
  | cooldownOver pending => cases pending <;> simp [afterCooldown]
  | endLast => exact absurd rfl (hp true)

def backlog : Phase → Nat
  | .cooling _ true => 1
  | .cooling _ false | .idle | .running | .shut _ => 0

theorem Step.backlog_le (h : Step cooldown immediate now p i q) (hc : i.isCall = false) :
    (if i.begins then 1 else 0) + q.backlog ≤ p.backlog := by
  cases h with
  | run | defer | breakOff | fold | drop | ignore => cases hc
  | cancel p => cases p <;> simp [Incident.begins, cancelled, backlog]
  | shutdown => simp [Incident.begins, backlog]
  | cooldownOver pending => cases pending <;> simp [Incident.begins, afterCooldown, backlog]
  | endRun | endLate | endLast => simp [Incident.begins, backlog]

/-! ## Traces -/

theorem Trace.start_le (h : Trace cooldown immediate start p log now q) : start ≤ now := by
  induction h with
  | rest => exact Nat.le_refl _
  | step _ _ ih => exact ih
  | wait _ _ hle _ ih => exact Nat.le_trans ih hle

theorem Trace.start_le_time (h : Trace cooldown immediate start p log now q) {z : Entry}
    (hz : z ∈ log) : start ≤ z.time := by
  induction h with
  | rest => cases hz
  | step h _ ih =>
    rcases List.mem_append.1 hz with hz | hz
    · exact ih hz
    · obtain rfl := List.mem_singleton.1 hz
      exact h.start_le
  | wait _ _ _ _ ih => exact ih hz

theorem Trace.split {before after : List Entry} {z : Entry}
    (h : Trace cooldown immediate start p (before ++ z :: after) now q) :
    ∃ r r', Trace cooldown immediate start p before z.time r ∧
      Step cooldown immediate z.time r z.incident r' ∧
      Trace cooldown immediate z.time r' after now q := by
  generalize hs : before ++ z :: after = log at h
  induction h generalizing after with
  | rest => simp at hs
  | step h hst ih =>
    rcases snoc_eq_append_cons.1 hs.symm with ⟨rfl, rfl, rfl⟩ | ⟨init, rfl, hi⟩
    · exact ⟨_, _, h, hst, .rest⟩
    · obtain ⟨r, r', hb, hz, ha⟩ := ih hi.symm
      exact ⟨r, r', hb, hz, ha.step hst⟩
  | wait time _ hle hal ih =>
    obtain ⟨r, r', hb, hz, ha⟩ := ih hs
    exact ⟨r, r', hb, hz, ha.wait time hle hal⟩

theorem Trace.cons (hs : Step cooldown immediate start p i q) {r : Phase}
    (h : Trace cooldown immediate start q log now r) :
    Trace cooldown immediate start p (⟨start, i⟩ :: log) now r := by
  induction h with
  | rest => exact .step .rest hs
  | step _ hst ih => exact ih.step hst
  | wait time _ hle hal ih => exact ih.wait time hle hal

theorem Trace.take {before after : List Entry}
    (h : Trace cooldown immediate start p (before ++ after) now q) :
    ∃ time r, Trace cooldown immediate start p before time r := by
  cases after with
  | nil => exact ⟨now, q, by simpa using h⟩
  | cons z after =>
    obtain ⟨r, -, hb, -, -⟩ := h.split
    exact ⟨z.time, r, hb⟩

theorem Trace.of_isBusy (h : Trace cooldown immediate start p log now q) (hp : p.isBusy = true)
    (he : ∀ z ∈ log, z.incident.ends = false) :
    q.isBusy = true ∧ ∀ z ∈ log, z.incident.begins = false := by
  induction h with
  | rest => exact ⟨hp, by simp⟩
  | step _ hst ih =>
    obtain ⟨hq, hb⟩ := ih fun z hz => he z (List.mem_append_left _ hz)
    obtain ⟨hr, hi⟩ := hst.of_isBusy hq (he _ (List.mem_append_right _ (.head _)))
    exact ⟨hr, List.forall_mem_append.2 ⟨hb, List.forall_mem_singleton.2 hi⟩⟩
  | wait _ _ _ _ ih => exact ih he

theorem Trace.of_shut {busy : Bool} (h : Trace cooldown immediate start (.shut busy) log now q) :
    (∃ busy, q = .shut busy) ∧ ∀ z ∈ log, z.incident.begins = false := by
  induction h with
  | rest => exact ⟨⟨busy, rfl⟩, by simp⟩
  | step _ hst ih =>
    obtain ⟨⟨busy, rfl⟩, hb⟩ := ih
    obtain ⟨hr, hi⟩ := hst.of_shut
    exact ⟨hr, List.forall_mem_append.2 ⟨hb, List.forall_mem_singleton.2 hi⟩⟩
  | wait _ _ _ _ ih => exact ih

theorem Trace.ne_shut (h : Trace cooldown immediate start p log now q)
    (hp : ∀ busy, p ≠ .shut busy) (hs : ∀ z ∈ log, z.incident ≠ .shutdown) (busy : Bool) :
    q ≠ .shut busy := by
  induction h generalizing busy with
  | rest => exact hp busy
  | step _ hst ih =>
    obtain ⟨hl, hi⟩ := List.forall_mem_append.1 hs
    exact hst.ne_shut (ih hl) (hi _ (.head _)) busy
  | wait _ _ _ _ ih => exact ih hs busy

/-- Without a request no more runs begin than were owed. -/
theorem Trace.begins_le_backlog (h : Trace cooldown immediate start p log now q)
    (hc : ∀ z ∈ log, z.incident.isCall = false) :
    log.countP (·.incident.begins) + q.backlog ≤ p.backlog := by
  induction h with
  | rest => simp
  | step _ hst ih =>
    obtain ⟨hl, hi⟩ := List.forall_mem_append.1 hc
    have hle := ih hl
    have hone := hst.backlog_le (hi _ (.head _))
    rw [List.countP_append, List.countP_singleton]
    dsimp only
    omega
  | wait _ _ _ _ ih => exact ih hc

theorem Trace.eq_of_nil (h : Trace cooldown immediate start p [] now q) : q = p := by
  generalize hl : ([] : List Entry) = log at h
  induction h with
  | rest => rfl
  | step => simp at hl
  | wait _ _ _ _ ih => exact ih hl

/-! ## What comes first -/

theorem Trace.cooling (h : Trace cooldown immediate start (.cooling deadline pending) log now q)
    (hd : start ≤ deadline) (hi : ∀ z ∈ log, z.incident.interrupts = false) :
    (now ≤ deadline ∧ q = .cooling deadline (pending || !log.isEmpty) ∧
      ∀ z ∈ log, z.incident = .call .folded) ∨
    ∃ calls rest, log = calls ++ ⟨deadline, .cooldownOver (pending || !calls.isEmpty)⟩ :: rest ∧
      (∀ z ∈ calls, z.incident = .call .folded) ∧
      Trace cooldown immediate deadline (afterCooldown (pending || !calls.isEmpty)) rest now q := by
  induction h with
  | rest => exact .inl ⟨hd, by simp, by simp⟩
  | @step log now q r i _ hst ih =>
    obtain ⟨hl, hn⟩ := List.forall_mem_append.1 hi
    have hn : i.interrupts = false := hn _ (.head _)
    rcases ih hl with ⟨hle, rfl, hf⟩ | ⟨calls, rest, rfl, hf, htr⟩
    · cases hst with
      | fold =>
        refine .inl ⟨hle, by simp, List.forall_mem_append.2 ⟨hf, ?_⟩⟩
        exact List.forall_mem_singleton.2 rfl
      | cooldownOver => exact .inr ⟨log, [], rfl, hf, .rest⟩
      | cancel | shutdown => cases hn
    · exact .inr ⟨calls, rest ++ [⟨now, i⟩], by simp, hf, htr.step hst⟩
  | wait time _ hle hal ih =>
    rcases ih hi with ⟨-, rfl, hf⟩ | ⟨calls, rest, rfl, hf, htr⟩
    · exact .inl ⟨hal, rfl, hf⟩
    · exact .inr ⟨calls, rest, rfl, hf, htr.wait time hle hal⟩

theorem Trace.running (h : Trace cooldown immediate start .running log now q)
    (hi : ∀ z ∈ log, z.incident.interrupts = false) (hr : Roomy cooldown log) :
    (q = .running ∧ ∀ z ∈ log, z.incident = .call .dropped) ∨
    ∃ calls e fault rest, log = calls ++ ⟨e, .endRun fault⟩ :: rest ∧
      (∀ z ∈ calls, z.incident = .call .dropped) ∧ start ≤ e ∧
      Trace cooldown immediate e (.cooling (e + cooldown) false) rest now q := by
  induction h with
  | rest => exact .inl ⟨rfl, by simp⟩
  | @step log now q r i h hst ih =>
    obtain ⟨hl, hn⟩ := List.forall_mem_append.1 hi
    have hn : i.interrupts = false := hn _ (.head _)
    obtain ⟨hrl, hrn⟩ := List.forall_mem_append.1 hr
    rcases ih hl hrl with ⟨rfl, hf⟩ | ⟨calls, e, fault, rest, rfl, hf, hle, htr⟩
    · cases hst with
      | drop =>
        refine .inl ⟨rfl, List.forall_mem_append.2 ⟨hf, ?_⟩⟩
        exact List.forall_mem_singleton.2 rfl
      | endRun fault => exact .inr ⟨log, now, fault, [], rfl, hf, h.start_le, .rest⟩
      | endLate fault hle => exact absurd (hrn _ (.head _) rfl) (Nat.not_lt.2 hle)
      | cancel | shutdown => cases hn
    · exact .inr ⟨calls, e, fault, rest ++ [⟨now, i⟩], by simp, hf, hle, htr.step hst⟩
  | wait time _ hle hal ih =>
    rcases ih hi hr with ⟨rfl, hf⟩ | ⟨calls, e, fault, rest, rfl, hf, hse, htr⟩
    · exact .inl ⟨rfl, hf⟩
    · exact .inr ⟨calls, e, fault, rest, rfl, hf, hse, htr.wait time hle hal⟩

/-- The end of a run arms a cooldown for which the clock has room, or it was the last one. -/
theorem Trace.after_endRun {before after : List Entry} {e : Nat} {fault : Option Fault}
    (h : Trace cooldown immediate start p (before ++ ⟨e, .endRun fault⟩ :: after) now q)
    (hr : e + cooldown < clockEnd) :
    Trace cooldown immediate e (.cooling (e + cooldown) false) after now q ∨
      Trace cooldown immediate e (.shut false) after now q ∧
        ∃ busy, Trace cooldown immediate start p before e (.shut busy) := by
  obtain ⟨r, r', hb, hst, ha⟩ := h.split
  cases hst with
  | endRun => exact .inl ha
  | endLate _ hle => exact absurd hr (Nat.not_lt.2 hle)
  | endLast => exact .inr ⟨ha, true, hb⟩

theorem Trace.after_endLate {before after : List Entry} {e s : Nat} {fault : Option Fault}
    {answer : Answer}
    (h : Trace cooldown immediate start p
      (before ++ ⟨e, .endRun fault⟩ :: ⟨s, .call answer⟩ :: after) now q)
    (hp : ∀ busy, p ≠ .shut busy) (hs : ∀ z ∈ before, z.incident ≠ .shutdown)
    (hr : clockEnd ≤ e + cooldown) : answer = if immediate then .run else .brokenOff := by
  obtain ⟨r, r', hb, hst, ha⟩ := h.split
  have ha : Trace cooldown immediate e r' ([] ++ ⟨s, .call answer⟩ :: after) now q := ha
  obtain ⟨r'', _, hw, hc, -⟩ := ha.split
  have hse := hw.start_le
  cases hst with
  | endRun _ hlt => exact absurd hlt (Nat.not_lt.2 hr)
  | endLast => exact absurd rfl (hb.ne_shut hp hs true)
  | endLate =>
    obtain rfl : r'' = .idle := hw.eq_of_nil
    cases hc with
    | run hm => simp [hm]
    | breakOff hm => simp [hm]
    | defer _ hlt =>
      dsimp only at hse hlt
      omega

/-! ## Requests before the deadline -/

theorem begins_eq_false_of_folded {calls : List Entry}
    (h : ∀ z ∈ calls, z.incident = .call .folded) : ∀ z ∈ calls, z.incident.begins = false := by
  intro z hz
  rw [h z hz]
  rfl

/-- What was requested before the deadline is served at the deadline. -/
theorem Trace.serves (h : Trace cooldown immediate start (.cooling deadline pending) log now q)
    (hd : start ≤ deadline) (hi : ∀ z ∈ log, z.incident.interrupts = false)
    (hr : pending = true ∨ Requested deadline log) :
    Served deadline log ∨
      (now ≤ deadline ∧ q = .cooling deadline true ∧ ∀ z ∈ log, z.incident.begins = false) := by
  rcases h.cooling hd hi with ⟨hle, rfl, hf⟩ | ⟨calls, rest, rfl, hf, htr⟩
  · refine .inr ⟨hle, ?_, begins_eq_false_of_folded hf⟩
    rcases hr with rfl | ⟨before, a, answer, after, rfl, -⟩ <;> simp
  · refine .inl ⟨calls, rest, ?_, begins_eq_false_of_folded hf⟩
    suffices hb : (pending || !calls.isEmpty) = true by rw [hb]
    rcases hr with rfl | ⟨before, a, answer, after, he, ha⟩
    · rfl
    · cases calls with
      | cons => simp
      | nil =>
        -- the timer came first, and the request after it
        exfalso
        cases before with
        | nil => simp at he
        | cons z before =>
          obtain ⟨rfl, rfl⟩ := List.cons.inj he
          have hm := htr.start_le_time (z := ⟨a, .call answer⟩) (by simp)
          rcases ha with ha | ha
          · exact absurd ha (Nat.not_lt.2 hm)
          · cases ha _ (.head _)

theorem Trace.le_of_begins {s : Nat}
    (h : Trace cooldown immediate start (.cooling deadline pending) log s p)
    (hs : Step cooldown immediate s p i q) (hd : start ≤ deadline)
    (hi : ∀ z ∈ log, z.incident.interrupts = false) (hb : i.begins = true) : deadline ≤ s := by
  rcases h.cooling hd hi with ⟨-, rfl, -⟩ | ⟨_, _, -, -, htr⟩
  · rcases (hs.of_begins hb).2 with hp | hp
    · cases hp
    · obtain ⟨rfl, -⟩ := Phase.cooling.inj hp
      exact Nat.le_refl _
  · exact htr.start_le

/-- All requests within one cooldown start one run at most. -/
theorem Trace.begins_le_one (h : Trace cooldown immediate start (.cooling deadline pending) log now q)
    (hd : start ≤ deadline) (hi : ∀ z ∈ log, z.incident.interrupts = false)
    (hc : ∀ z ∈ log, z.incident.isCall = true → z.time < deadline) :
    log.countP (·.incident.begins) ≤ 1 := by
  rcases h.cooling hd hi with ⟨-, -, hf⟩ | ⟨calls, rest, rfl, hf, htr⟩
  · have hz : log.countP (·.incident.begins) = 0 :=
      List.countP_eq_zero.2 fun z hz => by simp [begins_eq_false_of_folded hf z hz]
    omega
  · have hz : calls.countP (·.incident.begins) = 0 :=
      List.countP_eq_zero.2 fun z hz => by simp [begins_eq_false_of_folded hf z hz]
    have hrest : ∀ z ∈ rest, z.incident.isCall = false := by
      intro z hz
      refine Bool.eq_false_iff.2 fun hcall => ?_
      have := hc z (by simp [hz]) hcall
      have := htr.start_le_time hz
      omega
    have hle := htr.begins_le_backlog hrest
    have hb : (afterCooldown (pending || !calls.isEmpty)).backlog = 0 := by
      cases pending || !calls.isEmpty <;> rfl
    rw [List.countP_append, List.countP_cons]
    split <;> omega

/-- All requests within a cooldown of the first start two runs at most. -/
theorem Trace.begins_le_two (h : Trace cooldown immediate start p log now q)
    (hi : ∀ z ∈ log.tail, z.incident.interrupts = false) (hr : Roomy cooldown log.tail)
    (hc : ∀ z ∈ log.tail, z.incident.isCall = true → z.time < start + cooldown) :
    log.countP (·.incident.begins) ≤ 2 := by
  rw [List.countP_eq_length_filter]
  cases hf : log.filter (·.incident.begins) with
  | nil => simp
  | cons z rest =>
    obtain ⟨before, after, rfl, -, hz, rfl⟩ := List.filter_eq_cons_iff.1 hf
    rw [List.length_cons, ← List.countP_eq_length_filter]
    suffices hle : after.countP (·.incident.begins) ≤ 1 by omega
    obtain ⟨r, r', hb, hst, ha⟩ := h.split
    obtain ⟨rfl, -⟩ := hst.of_begins hz
    have htail : ∀ y ∈ after, y ∈ (before ++ z :: after).tail := by
      intro y hy
      cases before <;> simp [hy]
    have hia : ∀ y ∈ after, y.incident.interrupts = false := fun y hy => hi y (htail y hy)
    have hzt := hb.start_le
    have hra : Roomy cooldown after := fun y hy => hr y (htail y hy)
    rcases ha.running hia hra with ⟨-, hd⟩ | ⟨calls, e, fault, later, rfl, hd, hle, htr⟩
    · have hn : after.countP (·.incident.begins) = 0 :=
        List.countP_eq_zero.2 fun y hy => by simp [hd y hy, Incident.begins]
      omega
    · have hn : calls.countP (·.incident.begins) = 0 :=
        List.countP_eq_zero.2 fun y hy => by simp [hd y hy, Incident.begins]
      have hone := htr.begins_le_one (Nat.le_add_right ..) (fun y hy => hia y (by simp [hy]))
        fun y hy hcall => by
          have := hc y (htail y (by simp [hy])) hcall
          omega
      rw [List.countP_append, List.countP_cons, hn]
      simpa [Incident.begins] using hone

end Phase

/-! ## The whole -/

/-- What is true of the log of every debouncer. -/
structure RateLimited (job : Nat → ω) (log : List Entry) (d : Debounce) (t : Timers ω) : Prop where
  /-- Between the beginnings of two runs a run ends. -/
  apart : ∀ {before between after : List Entry} {x y : Entry},
    log = before ++ x :: (between ++ y :: after) → x.incident.begins = true →
    y.incident.begins = true → ∃ z ∈ between, z.incident.ends = true
  /-- After the end of a run the next one keeps the cooldown, and no more if it was requested. -/
  spacing : ∀ {before between after : List Entry} {e s : Nat} {fault : Option Fault} {i : Incident},
    log = before ++ ⟨e, .endRun fault⟩ :: (between ++ ⟨s, i⟩ :: after) →
    e + d.cooldown.micros < clockEnd → i.begins = true →
    (∀ z ∈ between, z.incident.interrupts = false) →
    e + d.cooldown.micros ≤ s ∧
      ((∀ z ∈ between, z.incident.begins = false) → Requested (e + d.cooldown.micros) between →
        s = e + d.cooldown.micros)
  /-- A request during the cooldown after a run is served at its end. -/
  trailing : ∀ {before rest : List Entry} {e : Nat} {fault : Option Fault},
    log = before ++ ⟨e, .endRun fault⟩ :: rest → e + d.cooldown.micros < clockEnd →
    (∀ z ∈ before, z.incident ≠ .shutdown) → (∀ z ∈ rest, z.incident.interrupts = false) →
    Requested (e + d.cooldown.micros) rest →
    Served (e + d.cooldown.micros) rest ∨ Waits job (e + d.cooldown.micros) rest d t
  /-- A request to a debouncer at rest begins a run at once, or it arms a cooldown, for which the
  clock may have no room. -/
  prompt : d.shutDown = false → d.armed = none → d.running = false →
    (d.request t job).1 = if d.immediate then .run
      else if t.now + d.cooldown.micros < clockEnd then .deferred else .brokenOff
  /-- If it arms a cooldown, it is served at its end. -/
  deferred : ∀ {before rest : List Entry} {a : Nat},
    log = before ++ ⟨a, .call .deferred⟩ :: rest → (∀ z ∈ rest, z.incident.interrupts = false) →
    Served (a + d.cooldown.micros) rest ∨ Waits job (a + d.cooldown.micros) rest d t
  /-- Any number of requests during the cooldown after a run lead to one more at most. -/
  window : ∀ {before rest more : List Entry} {e : Nat} {fault : Option Fault},
    log = before ++ ⟨e, .endRun fault⟩ :: (rest ++ more) → e + d.cooldown.micros < clockEnd →
    (∀ z ∈ rest, z.incident.interrupts = false) →
    (∀ z ∈ rest, z.incident.isCall = true → z.time < e + d.cooldown.micros) →
    rest.countP (·.incident.begins) ≤ 1
  /-- Any number of requests within a cooldown of the first lead to two runs at most. -/
  burst : ∀ {before rest more : List Entry} {a : Nat} {answer : Answer},
    log = before ++ ⟨a, .call answer⟩ :: (rest ++ more) → Roomy d.cooldown.micros rest →
    (∀ z ∈ rest, z.incident.interrupts = false) →
    (∀ z ∈ rest, z.incident.isCall = true → z.time < a + d.cooldown.micros) →
    (⟨a, .call answer⟩ :: rest).countP (·.incident.begins) ≤ 2
  /-- After a run that the clock leaves no room for a cooldown, the next request is not held back. -/
  late : ∀ {before after : List Entry} {e s : Nat} {fault : Option Fault} {answer : Answer},
    log = before ++ ⟨e, .endRun fault⟩ :: ⟨s, .call answer⟩ :: after →
    clockEnd ≤ e + d.cooldown.micros → (∀ z ∈ before, z.incident ≠ .shutdown) →
    answer = if d.immediate then .run else .brokenOff

variable {d : Debounce} {t : Timers ω} {log : List Entry}

theorem Timeline.waits (h : Timeline job log d t) (hi : Function.Injective job) {deadline : Nat}
    {rest : List Entry} (hp : InPhase job d t (.cooling deadline true))
    (hn : ∀ z ∈ rest, z.incident.begins = false) : Waits job deadline rest d t := by
  cases hp with
  | cooling _ _ _ _ ha hq hw hle =>
    obtain ⟨a, ha⟩ := Option.ne_none_iff_exists'.1 ha
    obtain ⟨-, u, hu, -, hg⟩ := (h.sound hi).armed a ha
    exact ⟨hn, hle, hq, u, hu, ⟨_, hg⟩, hw u hu _ hg⟩

theorem request_of_rest (hs : d.shutDown = false) (ha : d.armed = none) (hr : d.running = false) :
    (d.request t job).1 = if d.immediate then .run
      else if t.now + d.cooldown.micros < clockEnd then .deferred else .brokenOff := by
  rcases request_cases d t job with ⟨hn, -⟩ | ⟨-, hn, -⟩ | ⟨-, -, hn, -⟩ |
    ⟨-, -, -, hm, ho, he⟩ | ⟨-, -, -, hm, ho, he⟩ | ⟨-, -, -, hm, he⟩
  · cases hs.symm.trans hn
  · exact absurd ha hn
  · cases hr.symm.trans hn
  · simp [he, hm, overruns_eq_false_iff.1 ho]
  · simp [he, hm, overruns_iff.1 ho]
  · simp [he, hm]

/-- **The rate is limited**, for every cooldown that the clock has room for and both settings of
`immediate`, whenever requests come, however long runs take and whatever comes of them. -/
theorem Timeline.rate_limited (h : Timeline job log d t) (hi : Function.Injective job) :
    RateLimited job log d t := by
  obtain ⟨start, p, htr, hp⟩ := h.trace hi
  refine ⟨?_, ?_, ?_, request_of_rest, ?_, ?_, ?_, ?_⟩
  · rintro before between after x y rfl hx hy
    by_contra hn
    obtain ⟨_, r', -, hst, ha⟩ := htr.split
    obtain ⟨rfl, -⟩ := hst.of_begins hx
    obtain ⟨r, _, hb, hst', -⟩ := ha.split
    have he : ∀ z ∈ between, z.incident.ends = false := fun z hz =>
      Bool.eq_false_iff.2 fun hz' => hn ⟨z, hz, hz'⟩
    have hr := (hb.of_isBusy rfl he).1
    rcases (hst'.of_begins hy).2 with rfl | rfl <;> cases hr
  · rintro before between after e s fault i rfl hroom hb' hn
    rcases htr.after_endRun hroom with ha | ⟨ha, -⟩
    · obtain ⟨r, r', hb, hst, -⟩ := ha.split
      have hle := hb.le_of_begins hst (Nat.le_add_right ..) hn hb'
      refine ⟨hle, fun hq hreq => ?_⟩
      rcases hb.serves (Nat.le_add_right ..) hn (.inr hreq) with ⟨_, _, rfl, -⟩ | ⟨hs, -, -⟩
      · cases hq ⟨e + d.cooldown.micros, .cooldownOver true⟩ (by simp)
      · exact Nat.le_antisymm hs hle
    · cases hb'.symm.trans (ha.of_shut.2 ⟨s, i⟩ (by simp))
  · rintro before rest e fault rfl hroom hs hn hreq
    rcases htr.after_endRun hroom with ha | ⟨-, busy, hb⟩
    · refine (ha.serves (Nat.le_add_right ..) hn (.inr hreq)).imp_right ?_
      rintro ⟨-, rfl, hq⟩
      exact h.waits hi hp hq
    · exact absurd rfl (hb.ne_shut (by simp) hs busy)
  · rintro before rest a rfl hn
    obtain ⟨r, r', -, hst, hb⟩ := htr.split
    cases hst with
    | defer =>
      refine (hb.serves (Nat.le_add_right ..) hn (.inl rfl)).imp_right ?_
      rintro ⟨-, rfl, hq⟩
      exact h.waits hi hp hq
  · rintro before rest more e fault rfl hroom hn hc
    rcases htr.after_endRun hroom with ha | ⟨ha, -⟩
    · obtain ⟨_, _, ha⟩ := ha.take
      exact ha.begins_le_one (Nat.le_add_right ..) hn hc
    · have hz : rest.countP (·.incident.begins) = 0 :=
        List.countP_eq_zero.2 fun z hz => by simp [ha.of_shut.2 z (by simp [hz])]
      omega
  · rintro before rest more a answer rfl hroom hn hc
    obtain ⟨r, r', -, hst, ha⟩ := htr.split
    obtain ⟨_, _, ha⟩ := ha.take
    exact (ha.cons hst).begins_le_two hn hroom hc
  · rintro before after e s fault answer rfl hroom hs
    exact htr.after_endLate (by simp) hs hroom

/-- A run of two seconds that fails, a request three seconds later, and the run at the end of the
cooldown of ten seconds. -/
theorem second_run_after_cooldown :
    ∃ (log : List Entry) (d : Debounce) (t : Timers Nat), Timeline id log d t ∧
      log = [⟨0, .call .run⟩, ⟨2000000, .endRun (some (.timeout "late"))⟩,
        ⟨5000000, .call .folded⟩, ⟨12000000, .cooldownOver true⟩] ∧ RateLimited id log d t := by
  have h₁ := (@Timeline.new Nat id "requests" (.ofSeconds 10) true 0).step .call
  have h₂ := (h₁.wait 2000000 (by decide)).step (.endRun (some (.timeout "late")) rfl)
  have h₃ := (h₂.wait 5000000 (by decide)).step .call
  have h₄ := (h₃.wait 12000000 (by decide)).step
    (.cooldownOver ⟨⟨0⟩, 12000000, 1⟩ 1 (.head _) rfl (by decide))
  exact ⟨_, _, _, h₄, by decide, h₄.rate_limited Function.injective_id⟩

/-- The longest cooldown there is: it cannot be started after the first run, and a request begins
the next one in the same instant. -/
theorem run_without_cooldown :
    ∃ (log : List Entry) (d : Debounce) (t : Timers Nat), Timeline id log d t ∧
      d.cooldown = .ofSeconds 0xffffffffffffffff ∧
      log = [⟨0, .call .run⟩, ⟨0, .endRun none⟩, ⟨0, .call .run⟩] := by
  have h₁ := (@Timeline.new Nat id "requests" (.ofSeconds 0xffffffffffffffff) true 0).step .call
  have h₂ := (h₁.step (.endRun none rfl)).step .call
  exact ⟨_, _, _, h₂, by decide, by decide⟩

end Freshness.Debounce
