import Freshness.Host
import Freshness.Notice

/-!
# Scripts over a host

Stop hooks that use the host while they run, written as data.

* `Deed`, `Hook` : what a hook does when it runs: it may register a hook, which runs at once on a
  host that is stopping, remove one, or stop the host;
* `Stage` : a host with names for its hooks, what is still to do, and what happened so far;
* `Stage.step?` : one step of the work still to do, the newest first;
* `Stage.run` : the steps until nothing is left. It ends because every step takes weight away
  (`Stage.weight_step?`): a hook runs at most once and each of its deeds is done once.
-/

namespace Freshness.Host.Script

/-- What a hook does when it runs. -/
inductive Deed where
  | register (label : String) (deeds : List Deed)
  | remove (label : String)
  | stop
deriving Repr

/-- A hook: the number that its host gives it, its name and what it does. -/
structure Hook where
  id : HookId
  label : String
  deeds : List Deed
deriving Repr

inductive Task where
  | perform (deed : Deed)
  | run (hook : Hook)
  /-- The registration of a hook returns, and the label names its id from now on. -/
  | settle (label : String) (id : HookId)
deriving Repr

/-- A record of a hook that ran: what it saw of the host. -/
structure Ran where
  id : HookId
  label : String
  stopping : Bool
  pending : Nat
deriving DecidableEq, Repr

structure Stage where
  host : Host Hook := {}
  /-- Names, the newest first. -/
  names : List (String × HookId) := []
  agenda : List Task := []
  /-- The hooks that ran, the newest first. -/
  ran : List Ran := []
  /-- What was logged, the newest first. -/
  notices : List Notice := []
deriving Repr

/-! ## One step -/

namespace Stage

def hook (s : Stage) (label : String) (deeds : List Deed) : Hook := ⟨⟨s.host.nextId⟩, label, deeds⟩

/-- A deed, on a stage that has it no longer on its agenda. -/
def perform (s : Stage) : Deed → Stage
  | .register label deeds =>
    let hook := s.hook label deeds
    let (id, host) := s.host.register hook
    let settle := Task.settle label id
    { s with host, agenda := if s.host.stopping then .run hook :: settle :: s.agenda
                             else settle :: s.agenda }
  | .remove label =>
    match s.names.lookup label with
    | none => s
    | some id => { s with host := s.host.remove id }
  | .stop =>
    match s.host.stop with
    | none => { s with notices := .alreadyStopping :: s.notices }
    | some (hooks, host) =>
      { s with host, agenda := hooks.map .run ++ s.agenda
               notices := .hostStopping hooks.length :: s.notices }

def runHook (s : Stage) (hook : Hook) : Stage :=
  { s with agenda := hook.deeds.map .perform ++ s.agenda
           ran := ⟨hook.id, hook.label, s.host.stopping, s.host.pending⟩ :: s.ran }

def work (s : Stage) : Task → Stage
  | .perform deed => s.perform deed
  | .run hook => s.runHook hook
  | .settle label id => { s with names := (label, id) :: s.names }

def step? (s : Stage) : Option Stage :=
  match s.agenda with
  | [] => none
  | task :: rest => some ({ s with agenda := rest }.work task)

end Stage

/-! ## Weight -/

mutual

/-- What a deed may still cause. -/
def Deed.weight : Deed → Nat
  | .register _ deeds => Deed.weights deeds + 4
  | .remove _ => 1
  | .stop => 1

def Deed.weights : List Deed → Nat
  | [] => 0
  | d :: ds => d.weight + Deed.weights ds

end

def Hook.weight (h : Hook) : Nat := Deed.weights h.deeds + 1

def Task.weight : Task → Nat
  | .perform deed => deed.weight
  | .run hook => hook.weight
  | .settle _ _ => 1

def total {β : Type} (weight : β → Nat) : List β → Nat
  | [] => 0
  | x :: xs => weight x + total weight xs

section

variable {β γ : Type} (weight : β → Nat)

@[simp] theorem total_cons (x : β) (xs : List β) :
    total weight (x :: xs) = weight x + total weight xs := rfl

@[simp] theorem total_append (xs ys : List β) :
    total weight (xs ++ ys) = total weight xs + total weight ys := by
  induction xs with
  | nil => exact (Nat.zero_add _).symm
  | cons x xs ih => simp only [List.cons_append, total_cons, ih, Nat.add_assoc]

theorem total_map (f : γ → β) (xs : List γ) :
    total weight (xs.map f) = total (fun x => weight (f x)) xs := by
  induction xs with
  | nil => rfl
  | cons x xs ih => simp only [List.map_cons, total_cons, ih]

theorem total_filter_le (p : β → Bool) (xs : List β) :
    total weight (xs.filter p) ≤ total weight xs := by
  induction xs with
  | nil => exact Nat.le_refl _
  | cons x xs ih =>
    rw [List.filter_cons]
    split <;> simp only [total_cons] <;> omega

end

theorem weights_eq_total (ds : List Deed) : Deed.weights ds = total Deed.weight ds := by
  induction ds with
  | nil => rfl
  | cons d ds ih => rw [Deed.weights, ih, total_cons]

namespace Stage

/-- What the work and the kept hooks may still cause. -/
def weight (s : Stage) : Nat :=
  total Task.weight s.agenda + total (fun h => h.2.weight) s.host.hooks

theorem weight_perform_register (s : Stage) (label : String) (deeds : List Deed) :
    (s.perform (.register label deeds)).weight < s.weight + (Deed.register label deeds).weight := by
  simp only [perform, hook, Host.register, weight, Deed.weight]
  split
  · simp [Task.weight, Hook.weight, total]
    omega
  · simp [Task.weight, Hook.weight, total]
    omega

theorem weight_perform_remove (s : Stage) (label : String) :
    (s.perform (.remove label)).weight < s.weight + (Deed.remove label).weight := by
  simp only [perform, Deed.weight]
  split
  · exact Nat.lt_succ_self _
  · next id _ =>
    have := total_filter_le (fun h => h.2.weight) (fun h => h.1 != id) s.host.hooks
    simp only [weight, Host.remove]
    omega

theorem weight_perform_stop (s : Stage) :
    (s.perform .stop).weight < s.weight + Deed.stop.weight := by
  simp only [perform, Host.stop, Deed.weight]
  by_cases h : s.host.stopping
  · simp [h, weight]
  · simp only [h, Bool.false_eq_true, if_false, weight, total_append, total_map, total,
      Task.weight]
    omega

/-- A deed causes less than it weighs. -/
theorem weight_perform (s : Stage) (deed : Deed) :
    (s.perform deed).weight < s.weight + deed.weight := by
  cases deed with
  | register label deeds => exact weight_perform_register s label deeds
  | remove label => exact weight_perform_remove s label
  | stop => exact weight_perform_stop s

theorem weight_runHook (s : Stage) (hook : Hook) :
    (s.runHook hook).weight < s.weight + hook.weight := by
  have hd : total Task.weight (hook.deeds.map .perform) = Deed.weights hook.deeds :=
    (total_map Task.weight .perform hook.deeds).trans (weights_eq_total hook.deeds).symm
  simp only [runHook, weight, Hook.weight, total_append, hd]
  omega

theorem weight_step? {s t : Stage} (h : s.step? = some t) : t.weight < s.weight := by
  simp only [step?] at h
  split at h
  · simp at h
  · next task rest heq =>
    have hw : s.weight = ({ s with agenda := rest } : Stage).weight + task.weight := by
      simp only [weight, heq, total_cons]
      omega
    rw [hw]
    obtain rfl := Option.some.inj h
    cases task with
    | perform deed => exact weight_perform _ deed
    | run hook => exact weight_runHook _ hook
    | settle label id => exact Nat.lt_succ_self _

/-! ## Running -/

def run (s : Stage) : Stage :=
  match _h : s.step? with
  | none => s
  | some t => run t
termination_by s.weight
decreasing_by exact weight_step? _h

/-- A deed and everything it causes, from a stage on which nothing has been heard of yet. -/
def act (s : Stage) (deed : Deed) : Stage :=
  run { s with agenda := [.perform deed], ran := [], notices := [] }

def quiet (s : Stage) : Stage := { s with ran := [], notices := [] }

/-- The labels in the order of the ids they name, each label once. -/
def inOrder (s : Stage) : List (String × HookId) :=
  let newest := s.names.foldr (fun n seen => n :: seen.filter (·.1 != n.1)) []
  newest.mergeSort fun a b => a.2.number ≤ b.2.number

end Stage

end Freshness.Host.Script
