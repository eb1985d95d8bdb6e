import Freshness.Proofs.Snoc
import Freshness.Standing
import Mathlib.Data.List.Induction

/-!
# A standing is what its history says

* `Standing.Act`, `Standing.after` : what may be done to a standing, and what acts make of a new one;
* `Act.value?`, `Act.fault?`, `Act.harms` : the value that an act stores and when, the fault that it
  stores, and whether it says that the source fails;
* `Act.perform_of_value`, `Act.perform_of_fault` : an act stores either a value or a fault, and this
  is all it does;
* `Standing.Recorded`, `Standing.recorded_by_history` : **every field of the standing, read off the
  acts**.
-/

namespace Freshness.Standing

variable {α : Type}

inductive Act (α : Type) where
  | apply (result : Except Fault α) (now : Int)
  | succeed (a : α) (now : Int)
  | fail (f : Fault)
  | injectFault (f : Fault)
  | injectData (a : α) (now : Int)

namespace Act

def value? : Act α → Option (α × Int)
  | apply (.ok a) now | succeed a now | injectData a now => some (a, now)
  | apply (.error _) _ | fail _ | injectFault _ => none

def fault? : Act α → Option Fault
  | apply (.error f) _ | fail f | injectFault f => some f
  | apply (.ok _) _ | succeed _ _ | injectData _ _ => none

/-- The source is said to fail: by any fault from outside, and by a failed fetch unless it was not
implemented. -/
def harms : Act α → Bool
  | apply (.error f) _ | fail f => f.kind != .notImplemented
  | injectFault _ => true
  | apply (.ok _) _ | succeed _ _ | injectData _ _ => false

variable [BEq α]

/-- The standing after the act, and the report on it if it was a fetch. -/
def perform (s : Standing α) : Act α → Standing α × Option Report
  | apply result now => ((s.apply result now).1, some (s.apply result now).2)
  | succeed a now => ((s.succeed a now).1, some (s.succeed a now).2)
  | fail f => ((s.fail f).1, some (s.fail f).2)
  | injectFault f => ((s.injectFault f).1, none)
  | injectData a now => (s.injectData a now, none)

theorem perform_of_value {act : Act α} {a : α} {now : Int} (h : act.value? = some (a, now))
    (s : Standing α) : (perform s act).1 = s.injectData a now := by
  cases act with
  | apply result t =>
    cases result with
    | ok b =>
      obtain ⟨rfl, rfl⟩ := Prod.mk.inj (Option.some.inj h)
      rfl
    | error f => cases h
  | succeed b t | injectData b t =>
    obtain ⟨rfl, rfl⟩ := Prod.mk.inj (Option.some.inj h)
    rfl
  | fail f | injectFault f => cases h

theorem perform_of_fault {act : Act α} (h : act.value? = none) (s : Standing α) :
    ∃ f, act.fault? = some f ∧
      (perform s act).1 =
        { s with lastUpdateSuccess := s.lastUpdateSuccess && !act.harms, lastFault := some f } ∧
      (act.harms = false → f.kind = .notImplemented) := by
  have hk : ∀ f : Fault, f.kind.isFatal = !(f.kind != .notImplemented) := fun f =>
    (Bool.not_not _).symm
  cases act with
  | apply result t =>
    cases result with
    | ok b => cases h
    | error f => exact ⟨f, rfl, by simp [perform, Standing.apply, Standing.fail, harms, hk],
        by simp [harms]⟩
  | fail f => exact ⟨f, rfl, by simp [perform, Standing.fail, harms, hk], by simp [harms]⟩
  | injectFault f =>
    exact ⟨f, rfl, by simp [perform, Standing.injectFault, harms], fun hh => by cases hh⟩
  | succeed b t | injectData b t => cases h

omit [BEq α] in
theorem fault?_of_value {act : Act α} {x : α × Int} (h : act.value? = some x) :
    act.fault? = none ∧ act.harms = false := by
  cases act with
  | apply result t =>
    cases result with
    | ok b => exact ⟨rfl, rfl⟩
    | error f => cases h
  | succeed b t | injectData b t => exact ⟨rfl, rfl⟩
  | fail f | injectFault f => cases h

theorem perform_report {s : Standing α} {act : Act α} {r : Report}
    (h : (perform s act).2 = some r) :
    r.previousSuccess = s.lastUpdateSuccess ∧
      r.success = (perform s act).1.lastUpdateSuccess := by
  cases act with
  | apply result t =>
    obtain rfl := Option.some.inj h
    cases result <;> exact ⟨rfl, rfl⟩
  | succeed b t | fail f =>
    obtain rfl := Option.some.inj h
    exact ⟨rfl, rfl⟩
  | injectFault f | injectData b t => cases h

end Act

/-! ## Histories -/

variable [BEq α]

def after (acts : List (Act α)) : Standing α := acts.foldl (fun s act => (Act.perform s act).1) {}

theorem after_snoc (acts : List (Act α)) (act : Act α) :
    after (acts ++ [act]) = (Act.perform (after acts) act).1 := by
  simp [after]

/-- The value stored last, and when. -/
def lastValue? (acts : List (Act α)) : Option (α × Int) := (acts.filterMap Act.value?).getLast?

omit [BEq α] in
theorem lastValue?_snoc (acts : List (Act α)) (act : Act α) :
    lastValue? (acts ++ [act]) = act.value?.or (lastValue? acts) := by
  unfold lastValue?
  rw [filterMap_snoc]
  cases act.value? <;> simp

/-- The source has been said to fail since a value was stored last. -/
def Ailing (acts : List (Act α)) : Prop :=
  Lately (fun act => act.harms = true) (fun act => act.value? = none) acts

theorem after_value (acts : List (Act α)) :
    (after acts).data = (lastValue? acts).map (·.1) ∧
      (after acts).lastSuccessTime = (lastValue? acts).map (·.2) := by
  induction acts using List.reverseRecOn with
  | nil => exact ⟨rfl, rfl⟩
  | append_singleton acts act ih =>
    rw [after_snoc, lastValue?_snoc]
    cases hv : act.value? with
    | some x =>
      rw [Act.perform_of_value hv]
      exact ⟨rfl, rfl⟩
    | none =>
      obtain ⟨f, -, hs, -⟩ := Act.perform_of_fault hv (after acts)
      rw [hs]
      exact ih

theorem after_fault (acts : List (Act α)) :
    (after acts).lastFault = acts.getLast?.bind Act.fault? := by
  induction acts using List.reverseRecOn with
  | nil => rfl
  | append_singleton acts act =>
    rw [after_snoc, List.getLast?_concat]
    cases hv : act.value? with
    | some x =>
      rw [Act.perform_of_value hv]
      exact (Act.fault?_of_value hv).1.symm
    | none =>
      obtain ⟨f, hf, hs, -⟩ := Act.perform_of_fault hv (after acts)
      rw [hs]
      exact hf.symm

theorem after_health (acts : List (Act α)) :
    (after acts).lastUpdateSuccess = false ↔ Ailing acts := by
  induction acts using List.reverseRecOn with
  | nil => exact iff_of_false (by simp [after]) (not_lately_nil _ _)
  | append_singleton acts act ih =>
    rw [after_snoc, Ailing, lately_snoc]
    cases hv : act.value? with
    | some x =>
      rw [Act.perform_of_value hv, (Act.fault?_of_value hv).2]
      simp [injectData]
    | none =>
      obtain ⟨f, -, hs, -⟩ := Act.perform_of_fault hv (after acts)
      have hi : Lately (fun act => act.harms = true) (fun act => act.value? = none) acts ↔
          (after acts).lastUpdateSuccess = false := ih.symm
      rw [hs, Bool.and_eq_false_iff, hi]
      simp [or_comm]

/-- A failing source has its fault, and a healthy one has none but that of a fetch which is not
implemented. -/
theorem after_ails (acts : List (Act α)) :
    ((after acts).lastUpdateSuccess = false → (after acts).lastFault.isSome = true) ∧
      ((after acts).lastUpdateSuccess = true → ∀ f, (after acts).lastFault = some f →
        f.kind = .notImplemented) := by
  cases acts using List.reverseRecOn with
  | nil => exact ⟨by simp [after], by simp [after]⟩
  | append_singleton acts act =>
    rw [after_snoc]
    cases hv : act.value? with
    | some x =>
      rw [Act.perform_of_value hv]
      exact ⟨by simp [injectData], by simp [injectData]⟩
    | none =>
      obtain ⟨f, -, hs, hk⟩ := Act.perform_of_fault hv (after acts)
      rw [hs]
      refine ⟨fun _ => rfl, fun hh g hg => ?_⟩
      obtain rfl := Option.some.inj hg
      exact hk (by simpa using (Bool.and_eq_true_iff.1 hh).2)

/-- What the acts tell of the standing that they lead to. -/
structure Recorded (acts : List (Act α)) : Prop where
  /-- The value is the one stored last. -/
  data : (after acts).data = (lastValue? acts).map (·.1)
  /-- Once there is a value, there always is one. -/
  kept : ∀ more, (after acts).data.isSome = true → (after (acts ++ more)).data.isSome = true
  time : (after acts).lastSuccessTime = (lastValue? acts).map (·.2)
  timed : (after acts).lastSuccessTime.isSome = (after acts).data.isSome
  /-- The fault is that of the last act, if it had one. -/
  fault : (after acts).lastFault = acts.getLast?.bind Act.fault?
  /-- The source fails exactly if it was said to do so since a value was stored last. -/
  health : (after acts).lastUpdateSuccess = false ↔ Ailing acts
  failing : (after acts).lastUpdateSuccess = false → (after acts).lastFault.isSome = true
  healthy : (after acts).lastUpdateSuccess = true → ∀ f, (after acts).lastFault = some f →
    f.kind = .notImplemented
  /-- A report tells the health before and after its act. -/
  report : ∀ {before rest : List (Act α)} {act : Act α} {r : Report},
    acts = before ++ act :: rest → (Act.perform (after before) act).2 = some r →
    r.previousSuccess = (after before).lastUpdateSuccess ∧
      r.success = (after (before ++ [act])).lastUpdateSuccess

/-- **A standing is exactly what its history says.** -/
theorem recorded_by_history (acts : List (Act α)) : Recorded acts := by
  refine ⟨(after_value acts).1, fun more h => ?_, (after_value acts).2, ?_, after_fault acts,
    after_health acts, (after_ails acts).1, (after_ails acts).2, ?_⟩
  · rw [(after_value _).1, lastValue?, List.filterMap_append, Option.isSome_map]
    rw [(after_value _).1, lastValue?, Option.isSome_map] at h
    rw [List.getLast?_append, Option.isSome_or, h, Bool.or_true]
  · rw [(after_value acts).1, (after_value acts).2, Option.isSome_map, Option.isSome_map]
  · rintro before rest act r - hr
    rw [after_snoc]
    exact Act.perform_report hr

end Freshness.Standing
