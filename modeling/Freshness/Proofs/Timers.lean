import Freshness.Timers
import Mathlib.Data.List.Nodup

/-!
# Timer tables

* `Timers.take` : the table without a job that runs; `Timers.takeDue?_eq_some`,
  `Timers.takeDue?_earliest`, `Timers.now_takeDue?`, `Timers.takeDue?_eq_none` : what runs next, and
  when;
* `Timers.Sound` : the table is driven, and its jobs have ids of their own, all below the next;
* `Timers.Behind` : nothing but a certain job can wait behind a handle; `Timers.Holds` : it does;
* `Timers.pick` : the waiting jobs of one kind. Cancelling and taking jobs of another kind leaves
  them as they are (`pick_cancel`, `pick_take_of_false`).
-/

namespace Freshness.Timers

variable {ω : Type}

def take (t : Timers ω) (u : Timer ω) : Timers ω := t.cancel ⟨some u.id⟩

@[simp] theorem now_cancel (t : Timers ω) (h : TimerHandle) : (t.cancel h).now = t.now := by
  unfold cancel
  split <;> rfl

@[simp] theorem nextId_cancel (t : Timers ω) (h : TimerHandle) :
    (t.cancel h).nextId = t.nextId := by
  unfold cancel
  split <;> rfl

@[simp] theorem driven_cancel (t : Timers ω) (h : TimerHandle) :
    (t.cancel h).driven = t.driven := by
  unfold cancel
  split <;> rfl

theorem mem_cancel {t : Timers ω} {h : TimerHandle} {u : Timer ω} :
    u ∈ (t.cancel h).waiting ↔ u ∈ t.waiting ∧ h.timer ≠ some u.id := by
  unfold cancel
  cases hh : h.timer with
  | none => simp
  | some id =>
    simp only [List.mem_filter, bne_iff_ne, ne_eq, Option.some.injEq]
    exact and_congr_right fun _ => not_congr eq_comm

@[simp] theorem now_schedule (t : Timers ω) (deadline : Nat) (job : ω) :
    (t.schedule deadline job).2.now = t.now := by
  unfold schedule
  split <;> rfl

theorem schedule_of_driven {t : Timers ω} (ht : t.driven = true) (deadline : Nat) (job : ω) :
    t.schedule deadline job = (⟨some ⟨t.nextId⟩⟩,
      { t with nextId := t.nextId + 1
               waiting := t.waiting ++ [⟨⟨t.nextId⟩, max t.now deadline, job⟩] }) := by
  simp [schedule, ht]

/-- The job that runs next is one of those that wait, and time moves to its deadline. -/
theorem takeDue?_eq_some {t t' : Timers ω} {limit : Option Nat} {job : ω}
    (h : t.takeDue? limit = some (job, t')) :
    ∃ u ∈ t.waiting, u.job = job ∧ limit.all (u.deadline ≤ ·) = true ∧
      t' = (t.moveTo u.deadline).take u := by
  simp only [takeDue?] at h
  split at h
  · simp at h
  · next u hu =>
    split at h
    · next hd =>
      obtain ⟨rfl, rfl⟩ := Prod.mk.inj (Option.some.inj h)
      exact ⟨u, mem_of_earliest? hu, rfl, hd, rfl⟩
    · simp at h

theorem eq_nil_of_earliest? {ts : List (Timer ω)} (h : earliest? ts = none) : ts = [] := by
  cases ts with
  | nil => rfl
  | cons t ts =>
    rw [earliest?] at h
    split at h
    · cases h
    · split at h <;> cases h

theorem le_of_earliest? {ts : List (Timer ω)} {u : Timer ω} (h : earliest? ts = some u) :
    ∀ v ∈ ts, u.deadline ≤ v.deadline := by
  induction ts generalizing u with
  | nil => cases h
  | cons t ts ih =>
    rw [earliest?] at h
    split at h
    · next hn =>
      obtain rfl := Option.some.inj h
      obtain rfl := eq_nil_of_earliest? hn
      simp
    · next x hx =>
      have hx := ih hx
      rw [List.forall_mem_cons]
      split at h
      · obtain rfl := Option.some.inj h
        exact ⟨by omega, hx⟩
      · obtain rfl := Option.some.inj h
        exact ⟨Nat.le_refl _, fun v hv => Nat.le_trans (by omega) (hx v hv)⟩

/-- Time never moves past a job that waits. -/
theorem now_takeDue? {t t' : Timers ω} {limit : Option Nat} {job : ω}
    (h : t.takeDue? limit = some (job, t')) : ∀ v ∈ t.waiting, t'.now ≤ max t.now v.deadline := by
  simp only [takeDue?] at h
  split at h
  · cases h
  · next u hu =>
    split at h
    · obtain ⟨-, rfl⟩ := Prod.mk.inj (Option.some.inj h)
      intro v hv
      have := le_of_earliest? hu v hv
      show max t.now u.deadline ≤ _
      omega
    · cases h

/-- No other job is due earlier. -/
theorem takeDue?_earliest {t t' : Timers ω} {limit : Option Nat} {job : ω}
    (h : t.takeDue? limit = some (job, t')) :
    ∃ u ∈ t.waiting, u.job = job ∧ (∀ v ∈ t.waiting, u.deadline ≤ v.deadline) ∧
      t' = (t.moveTo u.deadline).take u := by
  simp only [takeDue?] at h
  split at h
  · cases h
  · next u hu =>
    split at h
    · obtain ⟨rfl, rfl⟩ := Prod.mk.inj (Option.some.inj h)
      exact ⟨u, mem_of_earliest? hu, rfl, le_of_earliest? hu, rfl⟩
    · cases h

theorem takeDue?_eq_none {t : Timers ω} {limit : Nat} (h : t.takeDue? (some limit) = none) :
    ∀ v ∈ t.waiting, limit < v.deadline := by
  simp only [takeDue?] at h
  intro v hv
  split at h
  · next hn =>
    rw [eq_nil_of_earliest? hn] at hv
    cases hv
  · next u hu =>
    have := le_of_earliest? hu v hv
    split at h
    · cases h
    · next hd =>
      simp only [Option.all_some, decide_eq_true_eq] at hd
      omega

/-! ## Sound tables -/

/-- Something drives the table, and its jobs have ids of their own, all of them used up. -/
structure Sound (t : Timers ω) : Prop where
  driven : t.driven = true
  fresh : ∀ u ∈ t.waiting, u.id.number < t.nextId
  distinct : (t.waiting.map (·.id)).Nodup

theorem sound_new (now : Nat) : Sound ({ now } : Timers ω) :=
  ⟨rfl, by simp, by simp⟩

theorem Sound.schedule {t : Timers ω} (ht : t.Sound) (deadline : Nat) (job : ω) :
    (t.schedule deadline job).2.Sound := by
  rw [schedule_of_driven ht.driven]
  refine ⟨ht.driven, ?_, ?_⟩
  · intro u hu
    rcases List.mem_append.1 hu with hu | hu
    · exact Nat.lt_succ_of_lt (ht.fresh u hu)
    · obtain rfl := List.mem_singleton.1 hu
      exact Nat.lt_succ_self _
  · rw [List.map_append, List.nodup_append]
    refine ⟨ht.distinct, by simp, ?_⟩
    intro a ha b hb hab
    obtain ⟨u, hu, rfl⟩ := List.mem_map.1 ha
    obtain rfl : b = ⟨t.nextId⟩ := by simpa using hb
    have := ht.fresh u hu
    rw [hab] at this
    exact Nat.lt_irrefl _ this

theorem Sound.cancel {t : Timers ω} (ht : t.Sound) (h : TimerHandle) : (t.cancel h).Sound := by
  refine ⟨by rw [driven_cancel, ht.driven], ?_, ?_⟩
  · intro u hu
    rw [nextId_cancel]
    exact ht.fresh u (mem_cancel.1 hu).1
  · unfold Timers.cancel
    split
    · exact ht.distinct
    · exact ht.distinct.sublist (List.Sublist.map _ List.filter_sublist)

theorem Sound.take {t : Timers ω} (ht : t.Sound) (u : Timer ω) : (t.take u).Sound := ht.cancel _

theorem Sound.moveTo {t : Timers ω} (ht : t.Sound) (time : Nat) : (t.moveTo time).Sound :=
  ⟨ht.driven, ht.fresh, ht.distinct⟩

theorem Sound.eq_of_id {t : Timers ω} (ht : t.Sound) {u v : Timer ω} (hu : u ∈ t.waiting)
    (hv : v ∈ t.waiting) (h : u.id = v.id) : u = v :=
  List.inj_on_of_nodup_map ht.distinct hu hv h

/-! ## What waits behind a handle -/

/-- Nothing but this job can wait behind the handle, now or later. -/
def Behind (t : Timers ω) (h : TimerHandle) (job : ω) : Prop :=
  ∃ id, h.timer = some id ∧ id.number < t.nextId ∧ ∀ u ∈ t.waiting, u.id = id → u.job = job

/-- This job waits behind the handle. -/
def Holds (t : Timers ω) (h : TimerHandle) (job : ω) : Prop :=
  ∃ u ∈ t.waiting, h.timer = some u.id ∧ u.job = job

theorem Holds.behind {t : Timers ω} (ht : t.Sound) {h : TimerHandle} {job : ω}
    (hh : t.Holds h job) : t.Behind h job := by
  obtain ⟨u, hu, hid, hjob⟩ := hh
  refine ⟨u.id, hid, ht.fresh u hu, ?_⟩
  intro v hv hvu
  rw [ht.eq_of_id hv hu hvu, hjob]

theorem Sound.behind_self {t : Timers ω} (ht : t.Sound) {u : Timer ω} (hu : u ∈ t.waiting) :
    t.Behind ⟨some u.id⟩ u.job :=
  Holds.behind ht ⟨u, hu, rfl, rfl⟩

theorem Behind.mono {t t' : Timers ω} {h : TimerHandle} {job : ω} (hb : t.Behind h job)
    (hw : ∀ u ∈ t'.waiting, u ∈ t.waiting) (hn : t.nextId ≤ t'.nextId) : t'.Behind h job := by
  obtain ⟨id, hid, hlt, hjob⟩ := hb
  exact ⟨id, hid, Nat.lt_of_lt_of_le hlt hn, fun u hu => hjob u (hw u hu)⟩

theorem Behind.cancel {t : Timers ω} {h : TimerHandle} {job : ω} (hb : t.Behind h job)
    (k : TimerHandle) : (t.cancel k).Behind h job :=
  hb.mono (fun _ hu => (mem_cancel.1 hu).1) (Nat.le_of_eq (nextId_cancel t k).symm)

theorem Behind.schedule {t : Timers ω} (ht : t.Sound) {h : TimerHandle} {job : ω}
    (hb : t.Behind h job) (deadline : Nat) (other : ω) :
    (t.schedule deadline other).2.Behind h job := by
  obtain ⟨id, hid, hlt, hjob⟩ := hb
  rw [schedule_of_driven ht.driven]
  refine ⟨id, hid, Nat.lt_succ_of_lt hlt, ?_⟩
  intro u hu huid
  rcases List.mem_append.1 hu with hu | hu
  · exact hjob u hu huid
  · obtain rfl := List.mem_singleton.1 hu
    rw [← huid] at hlt
    exact absurd hlt (Nat.lt_irrefl _)

theorem holds_schedule {t : Timers ω} (ht : t.Sound) (deadline : Nat) (job : ω) :
    (t.schedule deadline job).2.Holds (t.schedule deadline job).1 job := by
  rw [schedule_of_driven ht.driven]
  exact ⟨_, List.mem_append_right _ (List.mem_singleton_self _), rfl, rfl⟩

theorem Holds.schedule {t : Timers ω} (ht : t.Sound) {h : TimerHandle} {job : ω}
    (hh : t.Holds h job) (deadline : Nat) (other : ω) :
    (t.schedule deadline other).2.Holds h job := by
  obtain ⟨u, hu, hid, hjob⟩ := hh
  rw [schedule_of_driven ht.driven]
  exact ⟨u, List.mem_append_left _ hu, hid, hjob⟩

/-- Cancelling spares every other job. -/
theorem mem_cancel_of_behind {t : Timers ω} {h : TimerHandle} {job : ω} (hb : t.Behind h job)
    {u : Timer ω} (hu : u ∈ t.waiting) (hj : u.job ≠ job) : u ∈ (t.cancel h).waiting := by
  obtain ⟨id, hid, -, hjob⟩ := hb
  refine mem_cancel.2 ⟨hu, ?_⟩
  intro h'
  rw [hid] at h'
  exact hj (hjob u hu (Option.some.inj h').symm)

theorem Holds.cancel {t : Timers ω} {h k : TimerHandle} {job other : ω} (hh : t.Holds h job)
    (hb : t.Behind k other) (hj : job ≠ other) : (t.cancel k).Holds h job := by
  obtain ⟨u, hu, hid, rfl⟩ := hh
  exact ⟨u, mem_cancel_of_behind hb hu hj, hid, rfl⟩

/-! ## The waiting jobs of a kind -/

def pick (p : ω → Bool) (t : Timers ω) : List ω := (t.waiting.map (·.job)).filter p

theorem pick_schedule {t : Timers ω} (ht : t.driven = true) (p : ω → Bool) (deadline : Nat)
    (job : ω) : (t.schedule deadline job).2.pick p = t.pick p ++ [job].filter p := by
  rw [schedule_of_driven ht]
  simp [pick]

theorem pick_cancel {t : Timers ω} {p : ω → Bool} {h : TimerHandle} {job : ω}
    (hb : t.Behind h job) (hp : p job = false) : (t.cancel h).pick p = t.pick p := by
  obtain ⟨id, hid, -, hjob⟩ := hb
  simp only [pick, Timers.cancel, hid, List.filter_map, List.filter_filter]
  congr 1
  refine List.filter_congr fun u hu => ?_
  by_cases huid : u.id = id
  · simp [huid, hjob u hu huid, hp]
  · simp [huid]

theorem pick_take_of_false {t : Timers ω} (ht : t.Sound) {p : ω → Bool} {u : Timer ω}
    (hu : u ∈ t.waiting) (hp : p u.job = false) : (t.take u).pick p = t.pick p :=
  pick_cancel (ht.behind_self hu) hp

/-- Taking a job of the kind takes just that one out. -/
theorem pick_take {t : Timers ω} (ht : t.Sound) {p : ω → Bool} {u : Timer ω}
    (hu : u ∈ t.waiting) (hp : p u.job = true) :
    ∃ xs ys, t.pick p = xs ++ u.job :: ys ∧ (t.take u).pick p = xs ++ ys := by
  obtain ⟨before, after, hw⟩ := List.append_of_mem hu
  have hd := ht.distinct
  rw [hw, List.map_append, List.map_cons, List.nodup_append] at hd
  obtain ⟨-, hcons, hdis⟩ := hd
  have hbefore : before.filter (·.id != u.id) = before := by
    refine List.filter_eq_self.2 fun v hv => ?_
    have := hdis v.id (List.mem_map_of_mem hv) u.id (by simp)
    simpa using this
  have hafter : after.filter (·.id != u.id) = after := by
    refine List.filter_eq_self.2 fun v hv => ?_
    have := (List.nodup_cons.1 hcons).1
    simp only [bne_iff_ne, ne_eq]
    intro h
    exact this (h ▸ List.mem_map_of_mem hv)
  refine ⟨(before.map (·.job)).filter p, (after.map (·.job)).filter p, ?_, ?_⟩
  · simp [pick, hw, hp]
  · simp [pick, take, Timers.cancel, hw, hbefore, hafter]

end Freshness.Timers
