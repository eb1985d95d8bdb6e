import Freshness.Proofs.Schedule.Acts
import Mathlib.Data.List.Perm.Subperm

/-!
# Each armed timer is honoured at most once

* `Script.Counted` : what the acts say about the generation, the armed timer and the claims;
* `Script.Matched` : whose jobs wait in the table: that of the armed timer, and those of timers that
  were claimed from outside. Every act keeps both (`Happens.counted`, `Happens.matched`);
* `Script.Honoured`, `History.honoured` : **a claim succeeds exactly if its generation stands**, so no
  timer leads to two cycles, and one that was replaced or disarmed to none.
-/

namespace Freshness

/-! ## Tables that may have nothing to drive them -/

namespace Timers

variable {ω : Type} {t : Timers ω}

/-- The table is sound, or nothing drives it and nothing waits. -/
def Kept (t : Timers ω) : Prop := t.Sound ∨ (t.driven = false ∧ t.waiting = [])

theorem Kept.cancel (h : t.Kept) (handle : TimerHandle) : (t.cancel handle).Kept := by
  rcases h with h | ⟨hd, hw⟩
  · exact .inl (h.cancel handle)
  · refine .inr ⟨by rw [driven_cancel, hd], ?_⟩
    refine List.eq_nil_iff_forall_not_mem.2 fun u hu => ?_
    have := (mem_cancel.1 hu).1
    rw [hw] at this
    cases this

theorem Kept.moveTo (h : t.Kept) (time : Nat) : (t.moveTo time).Kept := h.imp (·.moveTo time) id

theorem Kept.disarm (h : t.Kept) (s : Schedule) : (s.disarm t).2.Kept := by
  unfold Schedule.disarm
  split
  · exact h
  · exact h.cancel _

theorem Kept.eq_of_id (h : t.Kept) {u v : Timer ω} (hu : u ∈ t.waiting) (hv : v ∈ t.waiting)
    (hid : u.id = v.id) : u = v := by
  rcases h with h | ⟨-, hw⟩
  · exact h.eq_of_id hu hv hid
  · rw [hw] at hu
    cases hu

theorem sublist_cancel (t : Timers ω) (h : TimerHandle) :
    (t.cancel h).waiting.Sublist t.waiting := by
  unfold Timers.cancel
  split
  · exact .refl _
  · exact List.filter_sublist

theorem sublist_disarm (s : Schedule) (t : Timers ω) :
    (s.disarm t).2.waiting.Sublist t.waiting := by
  unfold Schedule.disarm
  split
  · exact .refl _
  · exact sublist_cancel t _

end Timers

namespace Schedule.Script

variable {acts : List Act} {act : Act} {s s' : Stage}

/-! ## What has been armed and claimed -/

/-- The acts agree with the schedule about the armed timer. Generations only grow, and a claimed one
is not armed again. -/
structure Counted (acts : List Act) (s : Schedule) : Prop where
  stands : ∀ generation, current? s = some generation ↔ Stands generation acts
  current_le : ∀ generation, current? s = some generation → generation ≤ s.generation
  armed_le : ∀ generation ∈ acts.filterMap Act.arms?, generation ≤ s.generation
  armed : (acts.filterMap Act.arms?).Pairwise (· < ·)
  taken_le : ∀ generation ∈ acts.filterMap Act.taken?, generation ≤ s.generation
  taken_lt : ∀ generation ∈ acts.filterMap Act.taken?, ∀ c, current? s = some c → generation < c
  taken : (acts.filterMap Act.taken?).Pairwise (· < ·)

theorem counted_new {s : Schedule} (h : s.armed = none) : Counted [] s where
  stands := by simp [current?, h, Stands, not_lately_nil]
  current_le := by simp [current?, h]
  armed_le := by simp
  armed := .nil
  taken_le := by simp
  taken_lt := by simp
  taken := .nil

theorem Change.stands {s s' : Schedule} (h : Change s act s')
    (hs : ∀ generation, current? s = some generation ↔ Stands generation acts) (generation : Nat) :
    current? s' = some generation ↔ Stands generation (acts ++ [act]) := by
  unfold Stands
  rw [lately_snoc]
  cases h with
  | arms ha _ hg => simp [ha, hg]
  | ends ha he _ hg => simp [ha, he, hg]
  | keeps ha he _ hg =>
    have hc : current? s' = current? s := by rw [current?, hg, current?]
    rw [hc, hs]
    simp [ha, he, Stands]

theorem pairwise_snoc {xs : List Nat} (h : xs.Pairwise (· < ·)) {x : Nat} (hx : ∀ y ∈ xs, y < x) :
    (xs ++ [x]).Pairwise (· < ·) := by
  rw [List.pairwise_append]
  refine ⟨h, List.pairwise_singleton _ _, fun y hy z hz => ?_⟩
  rw [List.mem_singleton.1 hz]
  exact hx y hy

theorem Change.generation_le {s s' : Schedule} (h : Change s act s') :
    s.generation ≤ s'.generation := by
  cases h with
  | arms _ hg => exact hg ▸ Nat.le_succ _
  | ends _ _ hg => exact hg
  | keeps _ _ hg => exact Nat.le_of_eq hg.symm

/-- Who claims with success claims the armed generation, which is greater than any claimed before. -/
theorem Counted.taken_snoc {s s' : Schedule} (h : Counted acts s) (he : Effect s act s') :
    (∀ generation ∈ (acts ++ [act]).filterMap Act.taken?, generation ≤ s.generation) ∧
      ((acts ++ [act]).filterMap Act.taken?).Pairwise (· < ·) := by
  cases ht : act.taken? with
  | none =>
    rw [filterMap_snoc_of_none ht]
    exact ⟨h.taken_le, h.taken⟩
  | some g =>
    have hc := (he.claim g true (Act.taken?_eq_some.1 ht)).1 rfl
    rw [filterMap_snoc_of_some ht]
    refine ⟨?_, pairwise_snoc h.taken fun g' hg' => h.taken_lt g' hg' g hc⟩
    exact List.forall_mem_append.2 ⟨h.taken_le, List.forall_mem_singleton.2 (h.current_le g hc)⟩

theorem Counted.effect {s s' : Schedule} (h : Counted acts s) (he : Effect s act s') :
    Counted (acts ++ [act]) s' := by
  have hs := he.change.stands h.stands
  have hle := he.change.generation_le
  obtain ⟨htl, htp⟩ := h.taken_snoc he
  have htl' : ∀ g ∈ (acts ++ [act]).filterMap Act.taken?, g ≤ s'.generation :=
    fun g hg => Nat.le_trans (htl g hg) hle
  cases he.change with
  | arms ha hg hc =>
    refine ⟨hs, ?_, ?_, ?_, htl', ?_, htp⟩
    · simp [hc, hg]
    · rw [filterMap_snoc_of_some ha, hg]
      refine List.forall_mem_append.2 ⟨fun g hg' => ?_, by simp⟩
      exact Nat.le_succ_of_le (h.armed_le g hg')
    · rw [filterMap_snoc_of_some ha]
      exact pairwise_snoc h.armed fun g hg' => Nat.lt_succ_of_le (h.armed_le g hg')
    · intro g hg' c hc'
      obtain rfl := Option.some.inj (hc.symm.trans hc')
      exact Nat.lt_succ_of_le (htl g hg')
  | ends ha _ hg hc =>
    refine ⟨hs, by simp [hc], ?_, ?_, htl', by simp [hc], htp⟩
    · rw [filterMap_snoc_of_none ha]
      exact fun g hg' => Nat.le_trans (h.armed_le g hg') hle
    · rw [filterMap_snoc_of_none ha]
      exact h.armed
  | keeps ha hk hg hc =>
    have hc : current? s' = current? s := by rw [current?, hc, current?]
    refine ⟨hs, ?_, ?_, ?_, htl', ?_, htp⟩
    · rw [hc, hg]
      exact h.current_le
    · rw [filterMap_snoc_of_none ha, hg]
      exact h.armed_le
    · rw [filterMap_snoc_of_none ha]
      exact h.armed
    · rw [filterMap_snoc_of_none (Act.taken?_of_ends hk), hc]
      exact h.taken_lt

theorem History.counted (h : History acts s) : Counted acts s.schedule := by
  induction h with
  | new s _ ha _ => exact counted_new ha
  | act _ hs ih => exact ih.effect hs.effect
  | forgot _ ih => exact ih

/-! ## Whose jobs wait -/

/-- The schedule agrees with the table about the jobs that wait. -/
structure Matched (acts : List Act) (s : Stage) : Prop where
  table : s.timers.Kept
  known : ∀ u ∈ s.timers.waiting, u.job.generation ≤ s.schedule.generation
  distinct : (s.timers.waiting.map (·.job.generation)).Nodup
  /-- The handle of the armed timer cancels its own job. -/
  held : ∀ a, s.schedule.armed = some a → ∀ u ∈ s.timers.waiting,
    (a.handle.timer = some u.id ↔ u.job.generation = a.generation)
  /-- Only a claim from outside leaves a job behind. -/
  left : ∀ u ∈ s.timers.waiting,
    current? s.schedule = some u.job.generation ∨ u.job.generation ∈ acts.filterMap Act.seized?
  alive : s.timers.driven = true → (∀ act ∈ acts, act.idles = false) →
    ∀ a, s.schedule.armed = some a → ∃ u ∈ s.timers.waiting, u.job.generation = a.generation

theorem matched_new (ha : s.schedule.armed = none) (hw : s.timers.waiting = []) :
    Matched [] s where
  table := by
    cases hd : s.timers.driven with
    | true => exact .inl ⟨hd, by simp [hw], by simp [hw]⟩
    | false => exact .inr ⟨hd, hw⟩
  known := by simp [hw]
  distinct := by simp [hw]
  held := by simp [hw]
  left := by simp [hw]
  alive := by simp [ha]

theorem Matched.eq_of_generation (h : Matched acts s) {u v : Timer Fire}
    (hu : u ∈ s.timers.waiting) (hv : v ∈ s.timers.waiting)
    (hg : u.job.generation = v.job.generation) : u = v :=
  List.inj_on_of_nodup_map h.distinct hu hv hg

/-- What arms nothing and enters nothing. -/
theorem Matched.lessen (h : Matched acts s) (table : s'.timers.Kept)
    (hw : s'.timers.waiting.Sublist s.timers.waiting)
    (hd : s'.timers.driven = true → s.timers.driven = true)
    (hg : s.schedule.generation ≤ s'.schedule.generation)
    (ha : ∀ a, s'.schedule.armed = some a → s.schedule.armed = some a)
    (hl : ∀ u ∈ s'.timers.waiting, current? s'.schedule = current? s.schedule ∨
      current? s.schedule ≠ some u.job.generation ∨ act.seized? = some u.job.generation)
    (hk : act.idles = false → ∀ a, s'.schedule.armed = some a → ∀ u ∈ s.timers.waiting,
      u.job.generation = a.generation → u ∈ s'.timers.waiting) :
    Matched (acts ++ [act]) s' where
  table := table
  known := fun u hu => Nat.le_trans (h.known u (hw.subset hu)) hg
  distinct := h.distinct.sublist (hw.map _)
  held := fun a hs u hu => h.held a (ha a hs) u (hw.subset hu)
  left := by
    intro u hu
    rw [filterMap_snoc, List.mem_append, Option.mem_toList]
    rcases hl u hu with hc | hc | hc
    · rw [hc]
      exact (h.left u (hw.subset hu)).imp_right .inl
    · exact .inr (.inl ((h.left u (hw.subset hu)).resolve_left hc))
    · exact .inr (.inr hc)
  alive := by
    intro hd' hi a hs
    rw [List.forall_mem_append, List.forall_mem_singleton] at hi
    obtain ⟨u, hu, hg⟩ := h.alive (hd hd') hi.1 a (ha a hs)
    exact ⟨u, hk hi.2 a hs u hu hg, hg⟩

theorem Matched.same (h : Matched acts s) (ht : s'.timers = s.timers)
    (hg : s'.schedule.generation = s.schedule.generation)
    (ha : s'.schedule.armed = s.schedule.armed) : Matched (acts ++ [act]) s' := by
  refine h.lessen (by rw [ht]; exact h.table) (by rw [ht]) (by rw [ht]; exact id)
    (Nat.le_of_eq hg.symm) ?_ ?_ ?_
  · rw [ha]
    exact fun _ => id
  · exact fun u _ => .inl (by rw [current?, ha, current?])
  · rw [ht]
    exact fun _ _ _ u hu _ => hu

/-- Disarming takes the job of the armed timer out of the table. -/
theorem Matched.disarm_ne (h : Matched acts s) :
    ∀ u ∈ (s.schedule.disarm s.timers).2.waiting,
      current? s.schedule ≠ some u.job.generation := by
  unfold Schedule.disarm current?
  cases ha : s.schedule.armed with
  | none => simp
  | some a =>
    intro u hu hc
    obtain ⟨hu, hid⟩ := Timers.mem_cancel.1 hu
    exact hid ((h.held a ha u hu).2 (Option.some.inj hc).symm)

theorem driven_disarm (s : Schedule) (t : Timers Fire) : (s.disarm t).2.driven = t.driven := by
  unfold Schedule.disarm
  split
  · rfl
  · exact Timers.driven_cancel t _

theorem Matched.disarmed (h : Matched acts s)
    (ht : s'.timers = (s.schedule.disarm s.timers).2)
    (hg : s.schedule.generation ≤ s'.schedule.generation) (ha : s'.schedule.armed = none) :
    Matched (acts ++ [act]) s' := by
  refine h.lessen ?_ ?_ ?_ hg ?_ ?_ ?_
  · rw [ht]
    exact h.table.disarm _
  · rw [ht]
    exact Timers.sublist_disarm _ _
  · rw [ht, driven_disarm]
    exact id
  · simp [ha]
  · rw [ht]
    exact fun u hu => .inr (.inl (h.disarm_ne u hu))
  · simp [ha]

/-- What replaces the timer by the next one. -/
theorem Matched.armed (h : Matched acts s) {deadline : Nat} {claims : Bool}
    (hg : s'.schedule.generation = s.schedule.generation + 1)
    (ht : s'.timers = ((s.schedule.disarm s.timers).2.schedule deadline
      ⟨s.schedule.generation + 1, claims⟩).2)
    (ha : s'.schedule.armed = some ⟨s.schedule.generation + 1, deadline,
      ((s.schedule.disarm s.timers).2.schedule deadline
        ⟨s.schedule.generation + 1, claims⟩).1⟩) :
    Matched (acts ++ [act]) s' := by
  have hne := h.disarm_ne
  have hw := Timers.sublist_disarm s.schedule s.timers
  have hk := h.table.disarm s.schedule
  have hdr := driven_disarm s.schedule s.timers
  generalize (s.schedule.disarm s.timers).2 = t at hne hw hk hdr ht ha
  have hl : ∀ u ∈ t.waiting, u.job.generation ∈ (acts ++ [act]).filterMap Act.seized? := by
    intro u hu
    rw [filterMap_snoc]
    exact List.mem_append_left _ ((h.left u (hw.subset hu)).resolve_left (hne u hu))
  have hle : ∀ u ∈ t.waiting, u.job.generation < s.schedule.generation + 1 :=
    fun u hu => Nat.lt_succ_of_le (h.known u (hw.subset hu))
  have hc : current? s'.schedule = some (s.schedule.generation + 1) := by rw [current?, ha]; rfl
  rcases hk with hk | ⟨hd, hn⟩
  · have hks := hk.schedule deadline (Fire.mk (s.schedule.generation + 1) claims)
    rw [Timers.schedule_of_driven hk.driven] at ht ha hks
    refine ⟨.inl (ht ▸ hks), ?_, ?_, ?_, ?_, ?_⟩
    · rw [ht, hg]
      exact List.forall_mem_append.2 ⟨fun u hu => Nat.le_of_lt (hle u hu), by simp⟩
    · rw [ht, List.map_append, List.nodup_append]
      refine ⟨h.distinct.sublist (hw.map _), List.nodup_singleton _, ?_⟩
      intro x hx y hy
      obtain ⟨u, hu, rfl⟩ := List.mem_map.1 hx
      rw [List.mem_singleton.1 hy]
      exact Nat.ne_of_lt (hle u hu)
    · intro a hs
      obtain rfl := Option.some.inj (ha.symm.trans hs)
      rw [ht]
      refine List.forall_mem_append.2 ⟨fun u hu => ?_, by simp⟩
      have hf := hk.fresh u hu
      refine iff_of_false (fun hid => ?_) (Nat.ne_of_lt (hle u hu))
      rw [← Option.some.inj hid] at hf
      exact Nat.lt_irrefl _ hf
    · rw [ht, hc]
      exact List.forall_mem_append.2 ⟨fun u hu => .inr (hl u hu), by simp⟩
    · intro _ _ a hs
      obtain rfl := Option.some.inj (ha.symm.trans hs)
      rw [ht]
      exact ⟨_, List.mem_append_right _ (List.mem_singleton_self _), rfl⟩
  · have hu : t.schedule deadline (Fire.mk (s.schedule.generation + 1) claims) =
        (.detached, t) := by simp [Timers.schedule, hd]
    rw [hu] at ht
    refine ⟨.inr (by simp [ht, hd, hn]), ?_, ?_, ?_, ?_, ?_⟩ <;> simp [ht, hn, hd]

theorem Matched.arm (h : Matched acts s) (claims : Bool) :
    Matched (acts ++ [act]) (s.perform (.arm claims)).2 := by
  obtain ⟨-, hs, ht⟩ := s.perform_arm claims
  cases hr : s.refuses with
  | true =>
    obtain ⟨-, he⟩ := Stage.arming_of_refuses hr claims
    rw [he] at hs ht
    exact h.same ht (by rw [hs]) (by rw [hs])
  | false =>
    obtain ⟨interval, -, hout, hin⟩ := Stage.arming_of_not_refuses hr claims
    rcases Nat.lt_or_ge (s.schedule.deadlineAt s.timers.now interval) clockEnd with hc | hc
    · rw [hin hc] at hs ht
      exact h.armed (by rw [hs]) ht (by rw [hs])
    · rw [hout hc] at hs ht
      exact h.disarmed ht (by rw [hs]; exact Nat.le_succ _) (by rw [hs])

/-- A claim from outside leaves the job of the timer behind. -/
theorem Matched.takeFired (h : Matched acts s) (generation : Nat) :
    Matched (acts ++ [.did (.takeFired generation) (s.perform (.takeFired generation)).1])
      (s.perform (.takeFired generation)).2 := by
  have hs : (s.perform (.takeFired generation)).2.schedule = (s.schedule.takeFired generation).2 :=
    rfl
  rw [takeFired_snd] at hs
  cases ht : (s.schedule.takeFired generation).1 with
  | false =>
    rw [ht, if_neg Bool.false_ne_true] at hs
    exact h.same rfl (by rw [hs]) (by rw [hs])
  | true =>
    rw [ht, if_pos rfl] at hs
    have hc := (takeFired_fst _ _).1 ht
    have hr : (s.perform (.takeFired generation)).1 = .took true := congrArg Reply.took ht
    rw [hr]
    refine h.lessen h.table (.refl _) id (Nat.le_of_eq (by rw [hs])) (by simp [hs]) (fun u hu => .inr ?_)
      (by simp [hs])
    rw [hc]
    by_cases hg : generation = u.job.generation
    · exact .inr (congrArg some hg)
    · exact .inl fun he => hg (Option.some.inj he)

theorem Matched.fired (h : Matched acts s) {u : Timer Fire} (hu : u ∈ s.timers.waiting) :
    Matched (acts ++ [.fired u.job (u.job.claim s.schedule).1])
      ((s.over (s.timers.take u)).hears s.timers.now u.job) := by
  have he := effect_fired s.schedule u.job
  have hends := Act.ends_fired u.job (u.job.claim s.schedule).1
  have hne : ∀ v ∈ (s.timers.take u).waiting, v.job.generation ≠ u.job.generation := by
    intro v hv hg
    obtain ⟨hv, hid⟩ := Timers.mem_cancel.1 hv
    exact hid (by rw [h.eq_of_generation hv hu hg])
  have htable := h.table.cancel ⟨some u.id⟩
  have hsub := Timers.sublist_cancel s.timers ⟨some u.id⟩
  have hdriven := Timers.driven_cancel s.timers ⟨some u.id⟩
  cases he.change with
  | arms ha => cases ha
  | ends _ hd _ hc =>
    rw [hends, Bool.and_eq_true] at hd
    have hcur := (he.claim u.job.generation true (by simp [Act.claim?, hd.1, hd.2])).1 rfl
    have hn : (u.job.claim s.schedule).2.armed = none := Option.map_eq_none_iff.1 hc
    refine h.lessen htable hsub hdriven.symm.trans he.change.generation_le (fun a ha => ?_)
      (fun v hv => .inr (.inl fun hv' => ?_)) (fun _ a ha => ?_)
    · exact absurd (hn.symm.trans ha) (by simp)
    · exact hne v hv (Option.some.inj (hv'.symm.trans hcur))
    · exact absurd (hn.symm.trans ha) (by simp)
  | keeps _ hk _ hc =>
    refine h.lessen htable hsub hdriven.symm.trans he.change.generation_le
      (fun a ha => hc.symm.trans ha) (fun v hv => .inl ?_) (fun hi a ha v hv hg => ?_)
    · exact congrArg (Option.map (·.generation)) hc
    · have hcl : u.job.claims = true := by simpa [Act.idles] using hi
      rw [hends, hcl, Bool.true_and] at hk
      have hcur : current? s.schedule = some v.job.generation := by
        rw [current?, ← hc, hg]
        exact congrArg (Option.map (·.generation)) ha
      refine Timers.mem_cancel.2 ⟨hv, fun hid => ?_⟩
      obtain rfl := h.table.eq_of_id hu hv (Option.some.inj hid)
      have := (he.claim u.job.generation false (by simp [Act.claim?, hcl, hk])).2 hcur
      cases this

theorem Happens.matched (hs : Happens s act s') (h : Matched acts s) :
    Matched (acts ++ [act]) s' := by
  cases hs with
  | did step hs =>
    cases step with
    | arm claims => exact h.arm claims
    | disarm =>
      have hd : (s.perform .disarm).2.schedule = { s.schedule with armed := none } :=
        disarm_fst s.schedule s.timers
      exact h.disarmed rfl (Nat.le_of_eq (by rw [hd])) (by rw [hd])
    | takeFired generation => exact h.takeFired generation
    | setInterval interval => exact h.same rfl rfl rfl
    | shutdown => exact h.same rfl rfl rfl
    | setPolling disabled => exact h.same rfl rfl rfl
    | advance span => exact absurd rfl (hs span)
  | fired u hu hd => exact h.fired hu
  | waited time =>
    exact h.lessen (h.table.moveTo time) (.refl _) id (Nat.le_refl _) (fun _ => id)
      (fun _ _ => .inl rfl) (fun _ _ _ _ hu _ => hu)

theorem History.matched (h : History acts s) : Matched acts s := by
  induction h with
  | new s _ ha hw => exact matched_new ha hw
  | act _ hs ih => exact hs.matched ih
  | forgot _ ih => exact ⟨ih.table, ih.known, ih.distinct, ih.held, ih.left, ih.alive⟩

/-! ## The law -/

theorem History.claimed (h : History acts s) :
    ∀ before act after generation took, acts = before ++ act :: after →
      act.claim? = some (generation, took) → (took = true ↔ Stands generation before) := by
  induction h with
  | new => exact fun before act after _ _ he => absurd he (by cases before <;> simp)
  | act h hs ih =>
    intro before act after generation took he hc
    rcases snoc_eq_append_cons.1 he with ⟨-, rfl, rfl⟩ | ⟨init, rfl, rfl⟩
    · rw [hs.effect.claim generation took hc]
      exact h.counted.stands generation
    · exact ih before act init generation took rfl hc
  | forgot _ ih => exact ih

/-- The jobs that wait are of different generations, all of them armed or claimed from outside. -/
theorem Matched.length_waiting (h : Matched acts s) :
    s.timers.waiting.length ≤ (acts.filterMap Act.seized?).length + 1 := by
  have hsub : s.timers.waiting.map (·.job.generation) ⊆
      acts.filterMap Act.seized? ++ (current? s.schedule).toList := by
    intro g hg
    obtain ⟨u, hu, rfl⟩ := List.mem_map.1 hg
    rw [List.mem_append, Option.mem_toList]
    exact (h.left u hu).symm
  have hle := (h.distinct.subperm hsub).length_le
  rw [List.length_map, List.length_append] at hle
  have : (current? s.schedule).toList.length ≤ 1 := by cases current? s.schedule <;> simp
  omega

/-- What has become of the timers that were armed, after some acts. -/
structure Honoured (acts : List Act) (s : Stage) : Prop where
  /-- The generations that jobs are given grow. -/
  given : (acts.filterMap Act.arms?).Pairwise (· < ·)
  /-- No generation is claimed twice with success; the later one is the greater. -/
  once : (acts.filterMap Act.taken?).Pairwise (· < ·)
  /-- A claim succeeds exactly if the timer of its generation is the latest one and nothing has
  ended it. -/
  claimed : ∀ before act after generation took, acts = before ++ act :: after →
    act.claim? = some (generation, took) → (took = true ↔ Stands generation before)
  isArmed : s.schedule.isArmed = true ↔ ∃ generation, Stands generation acts
  /-- A refused arming changes nothing. -/
  refused : s.refuses = true → ∀ claims,
    (∀ generation, (s.perform (.arm claims)).1 ≠ .armed (.armed generation)) ∧
      (s.perform (.arm claims)).2.schedule = s.schedule ∧
      (s.perform (.arm claims)).2.timers = s.timers
  outOfRange : ∀ claims interval, (s.perform (.arm claims)).1 = .armed (.outOfRange interval) →
    (s.perform (.arm claims)).2.schedule.isArmed = false
  /-- A job that waits is that of the armed timer, or its timer was claimed by someone else. -/
  left : ∀ u ∈ s.timers.waiting,
    Stands u.job.generation acts ∨ u.job.generation ∈ acts.filterMap Act.seized?
  few : s.timers.waiting.length ≤ (acts.filterMap Act.seized?).length + 1
  /-- If every job claims its generation, the job of an armed timer waits. -/
  alive : s.timers.driven = true → (∀ act ∈ acts, act.idles = false) →
    ∀ generation, Stands generation acts → ∃ u ∈ s.timers.waiting, u.job.generation = generation

/-- **Each armed timer is honoured at most once**, whatever is done to it and whenever its job fires:
a claim succeeds exactly from the arming on until the timer is replaced, disarmed or claimed. Only a
claim that is not its own leaves a job waiting in vain. -/
theorem History.honoured (h : History acts s) : Honoured acts s where
  given := h.counted.armed
  once := h.counted.taken
  claimed := h.claimed
  isArmed := by
    simp only [← h.counted.stands, isArmed, current?, Option.map_eq_some_iff,
      Option.isSome_iff_exists]
    exact ⟨fun ⟨a, ha⟩ => ⟨_, a, ha, rfl⟩, fun ⟨_, a, ha, _⟩ => ⟨a, ha⟩⟩
  refused := by
    intro hr claims
    obtain ⟨hp, hs, ht⟩ := s.perform_arm claims
    obtain ⟨ha, he⟩ := Stage.arming_of_refuses hr claims
    refine ⟨fun generation hg => ?_, by rw [hs, he], by rw [ht, he]⟩
    rw [hp] at hg
    rcases ha with ha | ha | ha <;> rw [ha] at hg <;> cases hg
  outOfRange := by
    intro claims interval ho
    cases (s.change_arm claims) with
    | arms ha => rw [ho] at ha; cases ha
    | ends _ _ _ hc =>
      rw [isArmed, Option.map_eq_none_iff.1 hc]
      rfl
    | keeps _ he => rw [ho] at he; cases he
  left := fun u hu => (h.matched.left u hu).imp_left (h.counted.stands _).1
  few := h.matched.length_waiting
  alive := by
    intro hd hi generation hg
    obtain ⟨a, ha, rfl⟩ := Option.map_eq_some_iff.1 ((h.counted.stands generation).2 hg)
    exact h.matched.alive hd hi a ha

/-- A timer for every two seconds. -/
def twoSeconds : Stage where
  schedule := { name := "dial", jitter := ⟨0⟩, origin := 0, interval := some ⟨2000000⟩ }
  timers := {}

theorem honoured_twoSeconds : ∃ s,
    History [.did (.arm true) (.armed (.armed 1)), .did (.arm true) (.armed (.armed 2)), .waited,
      .fired ⟨2, true⟩ true] s ∧
    Honoured [.did (.arm true) (.armed (.armed 1)), .did (.arm true) (.armed (.armed 2)), .waited,
      .fired ⟨2, true⟩ true] s := by
  have h₁ := (History.new twoSeconds rfl rfl rfl).act (.did _ (.arm true) (by simp))
  have h₂ := h₁.act (.did _ (.arm true) (by simp))
  have h₃ := (h₂.act (.waited _ 2000000)).act (.fired _ ⟨⟨1⟩, 2000000, ⟨2, true⟩⟩ (.head _) (by decide))
  exact ⟨_, h₃, h₃.honoured⟩

/-- A timer that is claimed by other means than its job leaves that job behind: then two wait, one
of them for nothing. -/
theorem two_jobs_wait : ∃ s,
    History [.did (.arm true) (.armed (.armed 1)), .did (.takeFired 1) (.took true),
      .did (.arm true) (.armed (.armed 2))] s ∧
    s.timers.waiting.map (·.job) = [⟨1, true⟩, ⟨2, true⟩] := by
  have h₁ := (History.new twoSeconds rfl rfl rfl).act (.did _ (.arm true) (by simp))
  have h₂ := h₁.act (.did _ (.takeFired 1) (by simp))
  exact ⟨_, h₂.act (.did _ (.arm true) (by simp)), rfl⟩

end Schedule.Script

end Freshness
