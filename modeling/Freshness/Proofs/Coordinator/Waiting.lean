import Freshness.Proofs.Coordinator.History

/-!
# Waiting in line

* `System.InFlight` : a cycle has entered and not ended; it holds the lock;
* `System.Ahead` : a cycle in line, and how many stages of others come before it at most;
* `Ahead.turn`, `Run.approaches` : every stage that is carried out brings it nearer, so that it enters
  after no more than these.
-/

namespace Freshness

variable {α : Type}

/-- The stages that the cycle of a stage has still to go through, this one included. -/
def Task.left : Task α → Nat
  | .enter _ => 3
  | .fetched _ _ _ => 2
  | .conclude _ _ => 1
  | .deed _ | .hear _ | .start _ _ | .refreshDue _ | .cooldownOver _ => 0

namespace System

variable {w v : System α} {cycle : Cycle} {n : Nat}

/-! ## A cycle in flight -/

theorem Orderly.only {stage : Task α} (h : Orderly w) (hs : stage ∈ w.stages) :
    w.stages = [stage] ∧ ∃ cycle, stage.cycle? = some cycle ∧ w.lock.holder = some cycle := by
  have hc := h.carry
  generalize w.stages = stages at hs hc
  generalize w.lock.holder = holder at hc
  cases hc with
  | idle => cases hs
  | busy hc =>
    obtain rfl := List.mem_singleton.1 hs
    exact ⟨rfl, _, hc, rfl⟩

/-- The cycle has entered, and has not ended. -/
def InFlight (w : System α) (cycle : Cycle) : Prop :=
  ∃ stage ∈ w.stages, stage.cycle? = some cycle ∧ stage.enters? = none

theorem InFlight.holder (h : InFlight w cycle) (ho : Orderly w) : w.lock.holder = some cycle := by
  obtain ⟨stage, hs, hc, -⟩ := h
  obtain ⟨-, c, hc', hh⟩ := ho.only hs
  rw [hh, ← hc', hc]

/-- It stays in flight until it ends. -/
theorem InFlight.turn {task : Task α} (h : InFlight w cycle) (hl : Life w task v)
    (he : task.ends? ≠ some cycle) : InFlight v cycle := by
  obtain ⟨stage, hs, hc, hn⟩ := h
  cases hl with
  | quiet _ hst | queued _ _ _ hst => exact ⟨stage, hst ▸ hs, hc, hn⟩
  | admitted _ _ hst =>
    rw [hst] at hs
    cases hs
  | skipped _ _ hst | began _ _ _ _ hst =>
    rw [hst] at hs
    obtain rfl := List.mem_singleton.1 hs
    cases hn
  | landed outcome hst _ hst' =>
    rw [hst] at hs
    obtain rfl := List.mem_singleton.1 hs
    refine ⟨.conclude _ outcome, ?_, hc, rfl⟩
    rw [hst']
    exact .head _
  | ended hst =>
    rw [hst] at hs
    obtain rfl := List.mem_singleton.1 hs
    exact absurd hc he

/-! ## A cycle in line -/

/-- The cycle is to enter once `n` stages of others have been carried out, or fewer if some cycle is
skipped. -/
inductive Ahead (w : System α) (cycle : Cycle) : Nat → Prop where
  | next : w.stages = [.enter cycle] → Ahead w cycle 0
  | behind (stage : Task α) (front back : List Cycle) : w.stages = [stage] →
    w.lock.waiting = front ++ cycle :: back → Ahead w cycle (stage.left + 3 * front.length)

theorem Ahead.stages (h : Ahead w cycle n) : w.stages.length = 1 := by
  cases h with
  | next hs | behind _ _ _ hs => rw [hs]; rfl

theorem Ahead.of_eq (h : Ahead w cycle n) (hs : v.stages = w.stages) (hl : v.lock = w.lock) :
    Ahead v cycle n := by
  cases h with
  | next hw => exact .next (hs.trans hw)
  | behind stage front back hw hf => exact .behind stage front back (hs.trans hw) (hl ▸ hf)

theorem ahead_of_line (hv : Orderly v) (hs : v.stages = v.lock.holder.toList.map .enter)
    {front back : List Cycle} (hl : v.lock.line = front ++ cycle :: back) :
    ∃ m, Ahead v cycle m ∧ m ≤ 3 * front.length := by
  cases hh : v.lock.holder with
  | none =>
    rw [Lock.line, hh, hv.line hh] at hl
    simp at hl
  | some holder =>
    rw [hh] at hs
    rw [Lock.line, hh] at hl
    cases front with
    | nil =>
      obtain ⟨rfl, -⟩ := List.cons.inj hl
      exact ⟨0, .next hs, Nat.zero_le _⟩
    | cons c front =>
      obtain ⟨rfl, hw⟩ := List.cons.inj hl
      refine ⟨_, .behind (.enter holder) front back hs hw, ?_⟩
      rw [Task.left, List.length_cons]
      omega

/-- Another cycle goes on with its next stage. -/
theorem Ahead.carried {stage next : Task α} (h : Ahead w cycle n) (hw : w.stages = [stage])
    (hn : stage ≠ .enter cycle) (hv : v.stages = [next]) (hl : v.lock = w.lock)
    (hlt : next.left < stage.left) : ∃ m, Ahead v cycle m ∧ m + 1 ≤ n := by
  cases h with
  | next hs => exact absurd (List.singleton_inj.1 (hw.symm.trans hs)) hn
  | behind stage' front back hs hf =>
    obtain rfl := List.singleton_inj.1 (hw.symm.trans hs)
    exact ⟨_, .behind next front back hv (hl ▸ hf), by omega⟩

/-- Each stage of another brings it nearer. -/
theorem Ahead.turn {task : Task α} (h : Ahead w cycle n) (hl : Life w task v) (hv : Orderly v)
    (ht : task ≠ .enter cycle) : ∃ m, Ahead v cycle m ∧ m + task.isStage.toNat ≤ n := by
  have hsame : v.stages = w.stages → v.lock = w.lock → task.isStage = false →
      ∃ m, Ahead v cycle m ∧ m + task.isStage.toNat ≤ n := by
    intro hs hk hn
    rw [hn]
    exact ⟨n, h.of_eq hs hk, Nat.le_refl n⟩
  cases hl with
  | quiet hn hst hk => exact hsame hst hk hn
  | admitted _ _ hst =>
    have hone := h.stages
    rw [hst] at hone
    cases hone
  | queued origin _ ho hst _ hk =>
    rw [Task.isStage_of_origin? ho]
    cases h with
    | next hw => exact ⟨0, .next (hst.trans hw), Nat.le_refl 0⟩
    | behind stage front back hw hf =>
      refine ⟨_, .behind stage front (back ++ [⟨w.serial, origin⟩]) (hst.trans hw) ?_, Nat.le_refl _⟩
      rw [hk]
      simp [hf]
  | skipped outcome _ hst _ hst' hk => exact h.carried hst ht hst' hk (by simp [Task.left])
  | began begun result _ _ hst _ hst' hk => exact h.carried hst ht hst' hk (by simp [Task.left])
  | landed outcome hst _ hst' hk => exact h.carried hst ht hst' hk (by simp [Task.left])
  | ended hst _ hst' hk =>
    cases h with
    | next hw => cases (List.cons.inj (hst.symm.trans hw)).1
    | behind stage front back hw hf =>
      obtain ⟨rfl, -⟩ := List.cons.inj (hst.symm.trans hw)
      obtain ⟨m, hm, hle⟩ := ahead_of_line hv hst' (hk.trans hf)
      refine ⟨m, hm, ?_⟩
      show m + 1 ≤ 1 + _
      omega

theorem Ahead.mem_line (h : Ahead w cycle n) (hw : Orderly w) : cycle ∈ w.lock.line := by
  cases h with
  | next hs =>
    have hc := hw.carry
    rw [hs] at hc
    obtain ⟨-, hh⟩ := hc.of_cons
    simp [Lock.line, hh, Task.cycle?]
  | behind stage front back _ hf => simp [Lock.line, hf]

/-- A cycle in line comes nearer with every stage, until it enters. -/
theorem Run.approaches [BEq α] {turns : List (Turn α)} (h : Run w turns v) (hw : Orderly w)
    (ha : Ahead w cycle n)
    (hn : cycle ∉ entered turns) :
    Orderly v ∧ ∃ m, Ahead v cycle m ∧ m + turns.countP (·.task.isStage) ≤ n := by
  induction h with
  | rest => exact ⟨hw, n, ha, Nat.le_refl n⟩
  | prompt _ hp ih =>
    obtain ⟨ho, m, hm, hle⟩ := ih hn
    exact ⟨orderly_prompt ho hp, m, hm.of_eq (prompt_stages ho hp) (prompt_lock hp), hle⟩
  | @work turns u task rest _ hu ih =>
    have he : entered (turns ++ [⟨task, { u with agenda := rest }⟩]) =
        entered turns ++ task.enters?.toList :=
      filterMap_snoc (fun t : Turn α => t.task.enters?) turns _
    rw [he, List.mem_append, not_or] at hn
    obtain ⟨ho, m, hm, hle⟩ := ih hn.1
    have hv := orderly_perform ho hu
    have ht : task ≠ .enter cycle := by
      rintro rfl
      exact hn.2 (.head _)
    obtain ⟨k, hk, hkle⟩ := hm.turn (life_perform ho hu) hv ht
    refine ⟨hv, k, hk, ?_⟩
    have hc : (if task.isStage then 1 else 0) = task.isStage.toNat := by
      cases task.isStage <;> rfl
    rw [List.countP_append, List.countP_singleton, hc]
    omega

end System

end Freshness
