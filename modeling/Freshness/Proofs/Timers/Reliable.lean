import Freshness.Proofs.Snoc
import Freshness.Proofs.Timers

/-!
# Jobs run once, and on time

* `Timers.Act`, `Timers.Happens` : a job is scheduled, its handle is used or let go, a job runs, or
  time passes; `Timers.History` : a table after some of these, in any order;
* `Timers.Tally` : what waits in a table is what its history leaves to be run. Every act keeps it so
  (`Tally.act`), and a whole history does (`History.tally`);
* `History.elapse` : what runs while time passes is a history, and nothing that is due is left;
* `Timers.Reliable` : a job runs once at most, when it is due, unless it has been cancelled;
* `History.reliable` : **every table is reliable**.
-/

namespace Freshness.Timers

variable {ω : Type} {t t' : Timers ω} {limit : Nat}

/-! ## Tables in use -/

/-- The table has given out the handle, or it is a detached one. -/
def HasGiven (t : Timers ω) (h : TimerHandle) : Prop :=
  ∀ id, h.timer = some id → id.number < t.nextId

/-- Nothing is due. -/
def AtRest (t : Timers ω) : Prop := t.takeDue? (some t.now) = none

/-- What happens to a table. -/
inductive Act (ω : Type) where
  /-- At a time a job is scheduled for a deadline, and a handle is given out. -/
  | schedule (time deadline : Nat) (job : ω) (handle : TimerHandle)
  | cancel (handle : TimerHandle)
  | drop (handle : TimerHandle)
  /-- At a time the job behind a handle runs. -/
  | run (time : Nat) (job : ω) (handle : TimerHandle)
  | wait (time : Nat)
deriving DecidableEq

/-- Something happens. Time passes to the earliest deadline, whose job runs, whichever that is of
several; or it passes as long as nothing is due. -/
inductive Happens : Timers ω → Act ω → Timers ω → Prop where
  | schedule (t : Timers ω) (deadline : Nat) (job : ω) :
    Happens t (.schedule t.now deadline job (t.schedule deadline job).1) (t.schedule deadline job).2
  | cancel (t : Timers ω) (h : TimerHandle) : t.HasGiven h → Happens t (.cancel h) (t.cancel h)
  | drop (t : Timers ω) (h : TimerHandle) : Happens t (.drop h) t
  | run (t : Timers ω) (u : Timer ω) : u ∈ t.waiting → (∀ v ∈ t.waiting, u.deadline ≤ v.deadline) →
    Happens t (.run (max t.now u.deadline) u.job ⟨some u.id⟩) ((t.moveTo u.deadline).take u)
  | wait (t : Timers ω) (time : Nat) : t.takeDue? (some time) = none →
    Happens t (.wait time) (t.moveTo time)

inductive History : List (Act ω) → Timers ω → Prop where
  | new (now : Nat) : History [] { now }
  | act {log : List (Act ω)} {act : Act ω} {t t' : Timers ω} : History log t → Happens t act t' →
    History (log ++ [act]) t'

variable {log : List (Act ω)} {a : Act ω}

/-- What comes before an act is a history too, and the act happens to its table. -/
theorem History.at_act {before after : List (Act ω)} (h : History log t)
    (hl : log = before ++ a :: after) : ∃ s s', History before s ∧ Happens s a s' := by
  induction h generalizing after with
  | new now => exact absurd hl.symm (by simp)
  | act hh ha ih =>
    rcases snoc_eq_append_cons.1 hl with ⟨-, rfl, rfl⟩ | ⟨init, -, hl⟩
    · exact ⟨_, _, hh, ha⟩
    · exact ih hl

namespace Act

variable {h : TimerHandle} {u : Timer ω}

def given? : Act ω → Option TimerHandle
  | .schedule _ _ _ h => some h
  | _ => none

/-- What is entered into the table. -/
def enters? : Act ω → Option (Timer ω)
  | .schedule time deadline job h => h.timer.map fun id => ⟨id, max time deadline, job⟩
  | _ => none

def ends? : Act ω → Option TimerId
  | .cancel h | .run _ _ h => h.timer
  | _ => none

def ran? : Act ω → Option TimerHandle
  | .run _ _ h => some h
  | _ => none

/-- The job that runs, and when it does. -/
def heard? : Act ω → Option (Nat × ω)
  | .run time job _ => some (time, job)
  | _ => none

theorem given?_eq_some :
    a.given? = some h ↔ ∃ time deadline job, a = .schedule time deadline job h := by
  cases a <;> simp [given?]

theorem enters?_eq_some : a.enters? = some u ↔
    ∃ time deadline, a = .schedule time deadline u.job ⟨some u.id⟩ ∧
      u.deadline = max time deadline := by
  cases a with
  | schedule time deadline job h =>
    rw [enters?, Option.map_eq_some_iff]
    constructor
    · rintro ⟨id, hid, rfl⟩
      exact ⟨time, deadline, by rw [← hid], rfl⟩
    · rintro ⟨_, _, ha, hd⟩
      obtain ⟨rfl, rfl, rfl, rfl⟩ := Act.schedule.inj ha
      exact ⟨u.id, rfl, by rw [← hd]⟩
  | _ => simp [enters?]

theorem ends?_eq_some {id : TimerId} : a.ends? = some id ↔
    a = .cancel ⟨some id⟩ ∨ ∃ time job, a = .run time job ⟨some id⟩ := by
  cases a with
  | cancel k => cases k; simp [ends?]
  | run time job k => cases k; simp [ends?]
  | _ => simp [ends?]

theorem ran?_eq_some : a.ran? = some h ↔ ∃ time job, a = .run time job h := by
  cases a <;> simp [ran?]

end Act

/-! ## What waits -/

theorem moveTo_now (t : Timers ω) : t.moveTo t.now = t := by rw [moveTo, Nat.max_self]

/-- What waits in a table is what its history leaves to be run. -/
structure Tally (log : List (Act ω)) (t : Timers ω) : Prop where
  sound : t.Sound
  /-- Time has not passed the deadline of a job that waits. -/
  ahead : ∀ u ∈ t.waiting, t.now ≤ u.deadline
  waiting : ∀ u, u ∈ t.waiting ↔ u ∈ log.filterMap Act.enters? ∧ u.id ∉ log.filterMap Act.ends?
  entered : ∀ u ∈ log.filterMap Act.enters?, u.id.number < t.nextId
  ended : ∀ id ∈ log.filterMap Act.ends?, id.number < t.nextId
  attached : ∀ h ∈ log.filterMap Act.given?, h.timer ≠ none

theorem tally_new (now : Nat) : Tally [] ({ now } : Timers ω) where
  sound := sound_new now
  ahead := nofun
  waiting _ := iff_of_false List.not_mem_nil fun h => List.not_mem_nil h.1
  entered := nofun
  ended := nofun
  attached := nofun

/-- An act that nothing is entered by and nothing ended. -/
theorem Tally.aside (h : Tally log t) (hg : a.given? = none) (he : a.enters? = none)
    (hn : a.ends? = none) {time : Nat} (ha : ∀ u ∈ t.waiting, max t.now time ≤ u.deadline) :
    Tally (log ++ [a]) (t.moveTo time) where
  sound := h.sound.moveTo time
  ahead := ha
  waiting u := by
    rw [filterMap_snoc_of_none he, filterMap_snoc_of_none hn]
    exact h.waiting u
  entered := by
    rw [filterMap_snoc_of_none he]
    exact h.entered
  ended := by
    rw [filterMap_snoc_of_none hn]
    exact h.ended
  attached := by
    rw [filterMap_snoc_of_none hg]
    exact h.attached

theorem Tally.schedule (h : Tally log t) (deadline : Nat) (job : ω) :
    Tally (log ++ [.schedule t.now deadline job (t.schedule deadline job).1])
      (t.schedule deadline job).2 := by
  have hs := h.sound.schedule deadline job
  rw [schedule_of_driven h.sound.driven] at hs ⊢
  dsimp only at hs ⊢
  obtain ⟨u, hu⟩ : ∃ u : Timer ω, u = ⟨⟨t.nextId⟩, max t.now deadline, job⟩ := ⟨_, rfl⟩
  have hid : u.id.number = t.nextId := by rw [hu]
  have hd : u.deadline = max t.now deadline := by rw [hu]
  have henters : (Act.schedule t.now deadline job ⟨some ⟨t.nextId⟩⟩).enters? = some u := hu ▸ rfl
  rw [← hu] at hs ⊢
  refine ⟨hs, ?_, fun v => ?_, ?_, ?_, ?_⟩
  · exact List.forall_mem_append.2
      ⟨h.ahead, List.forall_mem_singleton.2 (hd ▸ Nat.le_max_left t.now deadline)⟩
  · -- nobody could have cancelled a job with the number that is given out
    have hfresh : u.id ∉ log.filterMap Act.ends? := fun hm =>
      Nat.lt_irrefl _ (hid ▸ h.ended _ hm)
    rw [filterMap_snoc_of_some henters, filterMap_snoc_of_none rfl, List.mem_append,
      List.mem_append, List.mem_singleton, h.waiting, or_and_right]
    refine or_congr_right (iff_self_and.2 ?_)
    rintro rfl
    exact hfresh
  · rw [filterMap_snoc_of_some henters]
    exact List.forall_mem_append.2 ⟨fun v hv => Nat.lt_succ_of_lt (h.entered v hv),
      List.forall_mem_singleton.2 (hid ▸ Nat.lt_succ_self _)⟩
  · rw [filterMap_snoc_of_none rfl]
    exact fun id hid => Nat.lt_succ_of_lt (h.ended id hid)
  · rw [filterMap_snoc_of_some (f := Act.given?) rfl]
    exact List.forall_mem_append.2 ⟨h.attached, List.forall_mem_singleton.2 nofun⟩

/-- An act that ends the job behind a handle, which is taken out of the table. -/
theorem Tally.taken (h : Tally log t) {k : TimerHandle} (hk : t.HasGiven k)
    (hg : a.given? = none) (he : a.enters? = none) (hn : a.ends? = k.timer) {time : Nat}
    (ha : ∀ u ∈ t.waiting, max t.now time ≤ u.deadline) :
    Tally (log ++ [a]) ((t.moveTo time).cancel k) where
  sound := (h.sound.moveTo time).cancel k
  ahead u hu := by
    rw [now_cancel]
    exact ha u (mem_cancel.1 hu).1
  waiting u := by
    rw [mem_cancel, filterMap_snoc_of_none he, filterMap_snoc, hn, List.mem_append, not_or,
      Option.mem_toList, ← and_assoc]
    exact and_congr_left' (h.waiting u)
  entered := by
    rw [filterMap_snoc_of_none he, nextId_cancel]
    exact h.entered
  ended id hid := by
    rw [filterMap_snoc, hn, List.mem_append, Option.mem_toList] at hid
    rw [nextId_cancel]
    exact hid.elim (h.ended id) (hk id)
  attached := by
    rw [filterMap_snoc_of_none hg]
    exact h.attached

theorem Tally.act (h : Tally log t) (ha : Happens t a t') : Tally (log ++ [a]) t' := by
  -- no time passes when a handle is used or let go
  have hnow : ∀ u ∈ t.waiting, max t.now t.now ≤ u.deadline := by simpa using h.ahead
  cases ha with
  | schedule deadline job => exact h.schedule deadline job
  | cancel k hk =>
    have ht := h.taken (a := .cancel k) hk rfl rfl rfl hnow
    rwa [moveTo_now] at ht
  | drop k =>
    have ht := h.aside (a := .drop k) rfl rfl rfl hnow
    rwa [moveTo_now] at ht
  | run u hu hfirst =>
    refine h.taken (fun id hid => ?_) rfl rfl rfl fun v hv => ?_
    · obtain rfl := Option.some.inj hid
      exact h.sound.fresh u hu
    · exact Nat.max_le.2 ⟨h.ahead v hv, hfirst v hv⟩
  | wait time hn =>
    exact h.aside rfl rfl rfl fun u hu =>
      Nat.max_le.2 ⟨h.ahead u hu, Nat.le_of_lt (takeDue?_eq_none hn u hu)⟩

theorem History.tally (h : History log t) : Tally log t := by
  induction h with
  | new now => exact tally_new now
  | act _ ha ih => exact ih.act ha

/-! ## What runs while time passes -/

theorem takeDue?_eq_none_iff :
    t.takeDue? (some limit) = none ↔ ∀ u ∈ t.waiting, limit < u.deadline := by
  refine ⟨takeDue?_eq_none, fun hl => ?_⟩
  cases hd : t.takeDue? (some limit) with
  | none => rfl
  | some next =>
    obtain ⟨u, hu, -, hle, -⟩ := takeDue?_eq_some hd
    exact absurd (of_decide_eq_true hle) (Nat.not_le.2 (hl u hu))

/-- Nothing is left of what is due by the limit. -/
theorem takeDue?_drain (t : Timers ω) (limit : Nat) :
    (t.drain limit).2.takeDue? (some limit) = none := by
  induction t using drain.induct limit with
  | case1 t hn =>
    rw [drain, hn]
    exact hn
  | case2 t job t' hd jobs rest hr ih =>
    rw [drain, hd]
    exact ih

/-- The job that is taken is one of those with the earliest deadline. -/
theorem happens_of_takeDue? {job : ω} (h : t.takeDue? (some limit) = some (job, t')) :
    ∃ u : Timer ω, u.job = job ∧ Happens t (.run t'.now job ⟨some u.id⟩) t' := by
  rw [takeDue?] at h
  split at h
  · cases h
  · next u hu =>
    split at h
    · obtain ⟨rfl, rfl⟩ := Prod.mk.inj (Option.some.inj h)
      exact ⟨u, rfl, .run t u (mem_of_earliest? hu) (le_of_earliest? hu)⟩
    · cases h

/-- What is due runs, one job after the other. -/
theorem History.drain (h : History log t) (limit : Nat) : ∃ more,
    History (log ++ more) (t.drain limit).2 ∧ more.filterMap Act.heard? = (t.drain limit).1 := by
  induction t using Timers.drain.induct limit generalizing log with
  | case1 t hn =>
    rw [Timers.drain, hn]
    exact ⟨[], by rwa [List.append_nil], rfl⟩
  | case2 t job t' hd jobs rest hr ih =>
    obtain ⟨u, rfl, hu⟩ := happens_of_takeDue? hd
    obtain ⟨more, hm, hj⟩ := ih (h.act hu)
    refine ⟨.run t'.now u.job ⟨some u.id⟩ :: more, ?_, ?_⟩
    · rw [Timers.drain, hd, List.append_cons]
      exact hm
    · rw [Timers.drain, hd, List.filterMap_cons_some (f := Act.heard?) rfl, hj]

/-- The time of a table in use is not past the limit up to which jobs have run. -/
theorem now_drain_le {t : Timers ω} (h : t.now ≤ limit) : (t.drain limit).2.now ≤ limit := by
  induction t using drain.induct limit with
  | case1 t hn =>
    rw [drain, hn]
    exact h
  | case2 t job t' hd jobs rest hr ih =>
    obtain ⟨u, -, -, hu, rfl⟩ := takeDue?_eq_some hd
    rw [drain, hd]
    refine ih ?_
    rw [take, now_cancel]
    exact Nat.max_le.2 ⟨h, of_decide_eq_true hu⟩

/-- A while passes: the jobs that are heard run, and at the end of it nothing is due. -/
structure Elapsed (log : List (Act ω)) (t : Timers ω) (span : Duration) : Prop where
  heard : ∃ more, History (log ++ more) (t.elapse span).2 ∧
    more.filterMap Act.heard? = (t.elapse span).1
  now : (t.elapse span).2.now = t.now + span.micros
  rest : (t.elapse span).2.AtRest

theorem History.elapse (h : History log t) (span : Duration) : Elapsed log t span := by
  have hnone := t.takeDue?_drain (t.now + span.micros)
  have hnow : (t.elapse span).2.now = t.now + span.micros :=
    Nat.max_eq_right (now_drain_le (Nat.le_add_right ..))
  refine ⟨?_, hnow, ?_⟩
  · obtain ⟨more, hm, hj⟩ := h.drain (t.now + span.micros)
    refine ⟨more ++ [.wait (t.now + span.micros)], ?_, ?_⟩
    · rw [← List.append_assoc]
      exact hm.act (.wait _ _ hnone)
    · rw [filterMap_snoc_of_none rfl]
      exact hj
  · have hlater := takeDue?_eq_none hnone
    rw [AtRest, hnow]
    exact takeDue?_eq_none_iff.2 hlater

/-! ## The whole -/

/-- A job runs once at most, when it is due, unless it has been cancelled. It is due at its
deadline, or as it is scheduled if that is later. -/
structure Reliable (log : List (Act ω)) (t : Timers ω) : Prop where
  /-- No handle is given out twice. -/
  apart : (log.filterMap Act.given?).Nodup
  /-- No job runs twice. -/
  once : (log.filterMap Act.ran?).Nodup
  /-- What runs has been scheduled, it is due, and it has not been cancelled. -/
  due : ∀ before now job h after, log = before ++ .run now job h :: after →
    ∃ time deadline, .schedule time deadline job h ∈ before ∧ now = max time deadline ∧
      .cancel h ∉ before
  /-- A job that is cancelled before it has run never runs. -/
  cancelled : ∀ before h after, log = before ++ .cancel h :: after →
    (∀ now job, .run now job h ∉ before) → ∀ now job, .run now job h ∉ log
  /-- Once time has passed the time when a job is due, or as soon as there is nothing to run then,
  the job has run when it was due, unless it has been cancelled. -/
  served : ∀ time deadline job h, .schedule time deadline job h ∈ log →
    max time deadline < t.now ∨ (max time deadline = t.now ∧ t.AtRest) →
      .run (max time deadline) job h ∈ log ∨ .cancel h ∈ log
  /-- However long time passes, all that is due runs meanwhile. -/
  elapses : ∀ span, Elapsed log t span

theorem mem_ends?_of_run {now : Nat} {job : ω} {id : TimerId}
    (h : .run now job ⟨some id⟩ ∈ log) : id ∈ log.filterMap Act.ends? :=
  List.mem_filterMap.2 ⟨_, h, rfl⟩

theorem mem_ends?_of_cancel {id : TimerId} (h : .cancel ⟨some id⟩ ∈ log) :
    id ∈ log.filterMap Act.ends? :=
  List.mem_filterMap.2 ⟨_, h, rfl⟩

theorem Tally.mem_enters? (h : Tally log t) {time deadline : Nat} {job : ω} {k : TimerHandle}
    (hs : .schedule time deadline job k ∈ log) :
    ∃ id, k = ⟨some id⟩ ∧ (⟨id, max time deadline, job⟩ : Timer ω) ∈ log.filterMap Act.enters? := by
  obtain ⟨id, hid⟩ := Option.ne_none_iff_exists'.1
    (h.attached k (List.mem_filterMap.2 ⟨_, hs, rfl⟩))
  obtain rfl : k = ⟨some id⟩ := by rw [← hid]
  exact ⟨id, rfl, List.mem_filterMap.2 ⟨_, hs, rfl⟩⟩

theorem History.apart (h : History log t) : (log.filterMap Act.given?).Nodup := by
  induction h with
  | new now => exact List.nodup_nil
  | @act log _ t _ hh ha ih =>
    rw [filterMap_snoc]
    cases ha with
    | schedule deadline job =>
      refine List.nodup_append.2 ⟨ih, List.nodup_singleton _, fun k hk k' hk' => ?_⟩
      obtain rfl := List.mem_singleton.1 hk'
      rintro rfl
      obtain ⟨b, hb, hg⟩ := List.mem_filterMap.1 hk
      obtain ⟨time, deadline', job', rfl⟩ := Act.given?_eq_some.1 hg
      obtain ⟨id, hid, hm⟩ := hh.tally.mem_enters? hb
      -- its number would be one that was used up before
      have hlt := hh.tally.entered _ hm
      rw [schedule_of_driven hh.tally.sound.driven] at hid
      obtain rfl := Option.some.inj (TimerHandle.mk.inj hid)
      exact Nat.lt_irrefl _ hlt
    | _ => simpa [Act.given?] using ih

theorem History.once (h : History log t) : (log.filterMap Act.ran?).Nodup := by
  induction h with
  | new now => exact List.nodup_nil
  | @act log _ t _ hh ha ih =>
    rw [filterMap_snoc]
    cases ha with
    | run u hu hfirst =>
      refine List.nodup_append.2 ⟨ih, List.nodup_singleton _, fun k hk k' hk' => ?_⟩
      obtain rfl := List.mem_singleton.1 hk'
      rintro rfl
      obtain ⟨b, hb, hr⟩ := List.mem_filterMap.1 hk
      obtain ⟨now, job, rfl⟩ := Act.ran?_eq_some.1 hr
      exact ((hh.tally.waiting u).1 hu).2 (mem_ends?_of_run hb)
    | _ => simpa [Act.ran?] using ih

theorem History.due (hh : History log t) {before after : List (Act ω)} {now : Nat} {job : ω}
    {h : TimerHandle} (hl : log = before ++ .run now job h :: after) :
    ∃ time deadline, .schedule time deadline job h ∈ before ∧ now = max time deadline ∧
      .cancel h ∉ before := by
  obtain ⟨s, s', hs, ha⟩ := hh.at_act hl
  cases ha with
  | run u hu hfirst =>
    obtain ⟨henters, hends⟩ := (hs.tally.waiting u).1 hu
    obtain ⟨b, hb, he⟩ := List.mem_filterMap.1 henters
    obtain ⟨time, deadline, rfl, hd⟩ := Act.enters?_eq_some.1 he
    -- time has not passed its deadline before it runs
    have hnow : max s.now u.deadline = u.deadline := Nat.max_eq_right (hs.tally.ahead u hu)
    exact ⟨time, deadline, hb, hnow.trans hd, fun hc => hends (mem_ends?_of_cancel hc)⟩

theorem History.cancelled (hh : History log t) {before after : List (Act ω)} {h : TimerHandle}
    (hl : log = before ++ .cancel h :: after) (hr : ∀ now job, .run now job h ∉ before) (now : Nat)
    (job : ω) : .run now job h ∉ log := by
  intro hm
  rw [hl] at hm
  rcases List.mem_append.1 hm with hm | hm
  · exact hr now job hm
  obtain ⟨mid, rest, rfl⟩ := List.append_of_mem (List.mem_of_ne_of_mem (by nofun) hm)
  have hrun : log = (before ++ .cancel h :: mid) ++ .run now job h :: rest := by
    rw [hl, List.append_assoc, List.cons_append]
  obtain ⟨_, _, -, -, hc⟩ := hh.due hrun
  exact hc (List.mem_append_right _ (.head _))

theorem History.served (hh : History log t) {time deadline : Nat} {job : ω} {h : TimerHandle}
    (hs : .schedule time deadline job h ∈ log)
    (hd : max time deadline < t.now ∨ (max time deadline = t.now ∧ t.AtRest)) :
    .run (max time deadline) job h ∈ log ∨ .cancel h ∈ log := by
  have ht := hh.tally
  obtain ⟨id, rfl, hm⟩ := ht.mem_enters? hs
  -- it does not wait any more, since time does not pass jobs that wait
  have hends : id ∈ log.filterMap Act.ends? := by
    by_contra hn
    have hw := (ht.waiting ⟨id, max time deadline, job⟩).2 ⟨hm, hn⟩
    rcases hd with hd | ⟨hd, hrest⟩
    · exact absurd (ht.ahead _ hw) (Nat.not_le.2 hd)
    · exact absurd (takeDue?_eq_none hrest _ hw) (Nat.not_lt.2 (Nat.le_of_eq hd))
  obtain ⟨b, hb, he⟩ := List.mem_filterMap.1 hends
  rcases Act.ends?_eq_some.1 he with rfl | ⟨now, job', rfl⟩
  · exact .inr hb
  · obtain ⟨before, after, hl⟩ := List.append_of_mem hb
    obtain ⟨time', deadline', hs', rfl, -⟩ := hh.due hl
    have hs' : .schedule time' deadline' job' ⟨some id⟩ ∈ log := by
      rw [hl]
      exact List.mem_append_left _ hs'
    obtain ⟨rfl, rfl, rfl, -⟩ := Act.schedule.inj (eq_of_nodup_filterMap hh.apart hs hs' rfl rfl)
    exact .inl hb

/-- **Every table is reliable**, whatever is scheduled, cancelled and let go while time passes. -/
theorem History.reliable (h : History log t) : Reliable log t where
  apart := h.apart
  once := h.once
  due _ _ _ _ _ := h.due
  cancelled _ _ _ := h.cancelled
  served _ _ _ _ := h.served
  elapses := h.elapse

def handle (n : Nat) : TimerHandle := ⟨some ⟨n⟩⟩

/-- At the time 5: a deadline that has passed, two of which one is called off and the other let go,
and one before those. -/
def bustle : List (Act Char) :=
  [.schedule 5 3 'a' (handle 0), .schedule 5 10 'b' (handle 1), .schedule 5 20 'c' (handle 2),
    .cancel (handle 1), .drop (handle 2), .schedule 5 7 'd' (handle 3)]

theorem history_bustle : History bustle ({
    now := 5, nextId := 4,
    waiting := [⟨⟨0⟩, 5, 'a'⟩, ⟨⟨2⟩, 20, 'c'⟩, ⟨⟨3⟩, 7, 'd'⟩] } : Timers Char) :=
  have given : HasGiven ({
      now := 5, nextId := 3,
      waiting := [⟨⟨0⟩, 5, 'a'⟩, ⟨⟨1⟩, 10, 'b'⟩, ⟨⟨2⟩, 20, 'c'⟩] } : Timers Char) (handle 1) := by
    intro id hid
    obtain rfl := Option.some.inj hid
    decide
  (((((((History.new 5).act (.schedule _ 3 'a')).act (.schedule _ 10 'b')).act
    (.schedule _ 20 'c')).act (.cancel _ _ given)).act (.drop _ (handle 2))).act (.schedule _ 7 'd'))

/-- One wait passes all the deadlines, and each job runs at its own. -/
theorem bustle_reliable : ∃ t : Timers Char, History bustle t ∧
    (t.elapse ⟨100⟩).1 = [(5, 'a'), (7, 'd'), (20, 'c')] ∧ Elapsed bustle t ⟨100⟩ := by
  refine ⟨_, history_bustle, ?_, history_bustle.reliable.elapses ⟨100⟩⟩
  decide +kernel

end Freshness.Timers
