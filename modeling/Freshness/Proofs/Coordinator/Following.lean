import Freshness.Proofs.Coordinator.FirstRefresh
import Freshness.Proofs.Coordinator.Hooks

/-!
# The host that a coordinator follows

* `registrations`, `Run.pends_latest` : while the coordinator is not shut down, its hook is on the
  host of the latest registration;
* `Run.pends_iff` : where there is a hook at any time, by the turns of the run;
* `Follows`, `Bound`, `Run.follows_last` : **a coordinator follows the host that it registered with
  last**;
* `Unhooked`, `Run.unhooked` : **which hooks there are after a shutdown**; `hooked_after_shutdown` :
  one that should not be.
-/

namespace Freshness.System

variable {α : Type} {w v : System α} {t : Turn α} {n : HostName}

/-! ## What comes next -/

theorem Moored.only (h : Moored w) {m : HostName} (hn : w.Pends n) (hm : w.Pends m) : n = m := by
  obtain ⟨_, hid, -⟩ := h.hooks n hn
  obtain ⟨_, hid', -⟩ := h.hooks m hm
  exact (Prod.mk.inj (Option.some.inj (hid.symm.trans hid'))).1

theorem Moored.pending_eq_one (h : Moored w) (n : HostName) :
    (w.host n).pending = 1 ↔ w.Pends n := by
  rw [h.pending_eq]
  split <;> simp_all

theorem Moored.pending_le_one (h : Moored w) (n : HostName) : (w.host n).pending ≤ 1 := by
  rw [h.pending_eq]
  split <;> omega

/-- What shuts the coordinator down leaves no hook. -/
theorem Moors.of_shuts {registers stops : Option HostName} (h : Moors w v registers stops true) :
    v.shutDown = true ∧ ∀ n, (v.host n).pending = 0 := by
  refine ⟨by rw [h.shutDown, Bool.or_true], fun n => ?_⟩
  rw [h.moored.pending_eq, if_neg]
  simp [h.pends]

variable [BEq α]

theorem Moored.moors_work (h : Moored w) (task : Task α) (rest : List (Task α)) :
    Moors w ({ w with agenda := rest }.perform task)
      (Turn.registers? ⟨task, { w with agenda := rest }⟩)
      (Turn.stops? ⟨task, { w with agenda := rest }⟩)
      (Turn.shuts ⟨task, { w with agenda := rest }⟩) := by
  have ht := Turn.moors (t := ⟨task, { w with agenda := rest }⟩) (h.of_ties rfl)
  exact ⟨ht.moored, ht.shutDown, ht.entry, ht.stopping, ht.pends⟩

/-- If the host with the hook stops, the coordinator is shut down. -/
theorem Moored.stop_of_pends (h : Moored w) (ha : w.alive = true) (hp : w.Pends n) :
    (w.carryOut (.stopHost n)).shutDown = true ∧
      ∀ m, ((w.carryOut (.stopHost n)).host m).pending = 0 := by
  have hr : (w.host n).stopping = false := Bool.eq_false_iff.2 fun hs => h.stopped n hs hp
  have hs : Turn.stops? ⟨.deed (.stopHost n), w⟩ = some n := by simp [Turn.stops?, hr]
  have ht := Turn.moors (t := ⟨.deed (.stopHost n), w⟩) h
  rw [Turn.shuts_of_stops hs ha hp] at ht
  exact ht.of_shuts

theorem Moored.stop_of_not_pends (h : Moored w) (hp : ¬ w.Pends n) :
    (w.carryOut (.stopHost n)).shutDown = w.shutDown ∧
      ∀ m, ((w.carryOut (.stopHost n)).host m).pending = (w.host m).pending := by
  have hs : Turn.shuts ⟨.deed (.stopHost n), w⟩ = false := by simp [Turn.shuts, hp]
  have ht : Moors w (w.carryOut (.stopHost n)) none (Turn.stops? ⟨.deed (.stopHost n), w⟩)
      (Turn.shuts ⟨.deed (.stopHost n), w⟩) := Turn.moors (t := ⟨.deed (.stopHost n), w⟩) h
  rw [hs] at ht
  refine ⟨by rw [ht.shutDown, Bool.or_false], fun m => ?_⟩
  have hm : w.Pends m → Turn.stops? ⟨.deed (.stopHost n), w⟩ ≠ some m := by
    intro hm hs
    simp only [Turn.stops?] at hs
    split at hs
    · cases hs
    · obtain rfl := Option.some.inj hs
      exact hp hm
  have hpends : (w.carryOut (.stopHost n)).Pends m ↔ w.Pends m := by
    rw [ht.pends]
    simpa using hm
  simp only [ht.moored.pending_eq, h.pending_eq, hpends]

omit [BEq α] in
theorem Moored.register_of_stopping (h : Moored w) (hh : w.held = true)
    (he : w.entry.isNone = true) (hs : (w.host n).stopping = true) :
    (w.carryOut (.registerShutdown n)).shutDown = true ∧
      ∀ m, ((w.carryOut (.registerShutdown n)).host m).pending = 0 := by
  have ht := h.moors_registerShutdown n
  rw [hs] at ht
  rw [carryOut_registerShutdown, hh, he]
  exact ht.of_shuts

/-! ## Runs -/

/-- The hosts with which the coordinator has registered, in order. -/
def registrations (turns : List (Turn α)) : List HostName := turns.filterMap Turn.registers?

omit [BEq α] in
theorem registrations_snoc (turns : List (Turn α)) (t : Turn α) :
    registrations (turns ++ [t]) = registrations turns ++ t.registers?.toList :=
  filterMap_snoc Turn.registers? turns t

section Runs

variable {turns before after : List (Turn α)}

theorem Run.moors (h : Run w turns v) (hw : Moored w) :
    Moored v ∧ v.entry.isSome = w.entry.isSome ∧
      v.shutDown = (w.shutDown || turns.any Turn.shuts) := by
  induction h with
  | rest => exact ⟨hw, rfl, by simp⟩
  | prompt _ hp ih =>
    obtain ⟨hm, he, hd⟩ := ih
    have hv := hm.moors_of_ties (ties_prompt hp)
    exact ⟨hv.moored, hv.entry.trans he, by rw [hv.shutDown, Bool.or_false, hd]⟩
  | work task rest _ _ ih =>
    obtain ⟨hm, he, hd⟩ := ih
    have ht := hm.moors_work task rest
    refine ⟨ht.moored, ht.entry.trans he, ht.shutDown.trans ?_⟩
    rw [hd, List.any_append, List.any_cons, List.any_nil, Bool.or_false, Bool.or_assoc]

variable {p : Plan α} {jitter : Duration} {now : Nat}

theorem Run.moored (h : Run (p.system jitter now) turns v) : Moored v :=
  (h.moors (moored_system p jitter now)).1

theorem Run.entry_isSome (h : Run (p.system jitter now) turns v) :
    v.entry.isSome = p.entry.isSome :=
  (h.moors (moored_system p jitter now)).2.1.trans (by simp [Plan.system])

theorem Run.moors_at (h : Run (p.system jitter now) turns v) (ht : t ∈ turns) :
    Moors t.before t.after t.registers? t.stops? t.shuts := by
  obtain ⟨before, after, rfl⟩ := List.append_of_mem ht
  obtain ⟨u, rest, hu, -, hb, -⟩ := h.split
  exact Turn.moors (by rw [hb]; exact hu.moored.of_ties rfl)

/-- A hook is pending on a host if the coordinator has registered with it while it ran, and since
then it has not registered anywhere, has not been shut down, and the host has not stopped. -/
theorem Run.pends_iff (h : Run (p.system jitter now) turns v) (n : HostName) :
    v.Pends n ↔ Lately (fun t => t.registers? = some n ∧ t.shuts = false)
      (fun t => t.registers? = none ∧ t.stops? ≠ some n ∧ t.shuts = false) turns := by
  induction h with
  | rest => simp [not_lately_nil, Pends, Plan.system, host]
  | prompt hr hp ih =>
    rw [(hr.moored.moors_of_ties (ties_prompt hp)).pends, ← ih]
    simp
  | work task rest hr _ ih =>
    rw [(hr.moored.moors_work task rest).pends, lately_snoc, ih]
    tauto

/-! ## The host registered with last -/

/-- While a coordinator is not shut down, its hook is on the host of the latest registration: had
that host stopped, it would have shut the coordinator down. -/
theorem Run.pends_latest (h : Run (p.system jitter now) turns v)
    (hlive : ∀ t ∈ turns, t.stops? ≠ none → t.before.alive = true) (hv : v.shutDown = false)
    (n : HostName) : v.Pends n ↔ (registrations turns).getLast? = some n := by
  induction h with
  | rest => simp [registrations, Pends, Plan.system, host]
  | prompt hr hp ih =>
    have hm := hr.moored.moors_of_ties (ties_prompt hp)
    rw [hm.shutDown, Bool.or_false] at hv
    rw [hm.pends, ← ih hlive hv]
    simp
  | work task rest hr _ ih =>
    have ht := hr.moored.moors_work task rest
    obtain ⟨hu, hs⟩ := Bool.or_eq_false_iff.1 (ht.shutDown.symm.trans hv)
    have hbefore := ih (fun t ht => hlive t (List.mem_append_left _ ht)) hu
    rw [ht.pends, registrations_snoc]
    cases hreg : Turn.registers? ⟨task, _⟩ with
    | some m => simp [hs]
    | none =>
      rw [Option.toList_none, List.append_nil, ← hbefore]
      refine ⟨?_, fun hp => ⟨hs, .inr ⟨rfl, fun hstop => ?_, hp⟩⟩⟩
      · rintro ⟨-, hc | ⟨-, -, hp⟩⟩
        · cases hc
        · exact hp
      · have ha := hlive _ (List.mem_append_right _ (.head _)) (hstop ▸ Option.some_ne_none n)
        cases hs.symm.trans (Turn.shuts_of_stops hstop ha hp)

/-- What a coordinator without an entry has to do with hosts. -/
structure Follows (turns : List (Turn α)) (v : System α) : Prop where
  /-- One hook at most is pending, over all hosts. -/
  one : ∀ n, (v.host n).pending ≤ 1
  only : ∀ n m, (v.host n).pending = 1 → (v.host m).pending = 1 → n = m
  /-- While the coordinator is not shut down, it is on the host of the latest registration. -/
  latest : v.shutDown = false → ∀ n,
    (v.host n).pending = if (registrations turns).getLast? = some n then 1 else 0
  /-- If that host stops, the coordinator is shut down, and no hook is left. -/
  stop : v.shutDown = false → v.alive = true → ∀ n, (registrations turns).getLast? = some n →
    (v.carryOut (.stopHost n)).shutDown = true ∧
      ∀ m, ((v.carryOut (.stopHost n)).host m).pending = 0
  /-- If any other host stops, the coordinator goes on, and its hook stays where it is. -/
  others : v.shutDown = false → ∀ n, (registrations turns).getLast? ≠ some n →
    (v.carryOut (.stopHost n)).shutDown = false ∧
      ∀ m, ((v.carryOut (.stopHost n)).host m).pending = (v.host m).pending
  /-- To register with a host that is stopping shuts the coordinator down at once, and no hook is
  left. -/
  stopped : v.held = true → ∀ n, (v.host n).stopping = true →
    (v.carryOut (.registerShutdown n)).shutDown = true ∧
      ∀ m, ((v.carryOut (.registerShutdown n)).host m).pending = 0

/-- What a coordinator that is bound to an entry has to do with hosts: nothing. -/
structure Bound (p : Plan α) (v : System α) : Prop where
  refused : v.held = true → ∀ n, v.refusal? (.registerShutdown n) = some (.entryBound p.name)
  unchanged : ∀ n, v.carryOut (.registerShutdown n) = v
  none : ∀ n, (v.host n).pending = 0

theorem Run.follows (h : Run (p.system jitter now) turns v) (hp : p.entry = none)
    (hlive : ∀ t ∈ turns, t.stops? ≠ none → t.before.alive = true) : Follows turns v := by
  have hm : Moored v := h.moored
  have hentry : v.entry.isNone = true := by
    have he := h.entry_isSome
    rw [hp] at he
    simpa using he
  have hlatest : v.shutDown = false → ∀ n, v.Pends n ↔ (registrations turns).getLast? = some n :=
    fun hv n => h.pends_latest hlive hv n
  exact
    { one := hm.pending_le_one
      only := fun n m hn hk => hm.only ((hm.pending_eq_one n).1 hn) ((hm.pending_eq_one m).1 hk)
      latest := fun hv n => by
        rw [hm.pending_eq]
        simp only [hlatest hv n]
      stop := fun hv ha n hn => hm.stop_of_pends ha ((hlatest hv n).2 hn)
      others := fun hv n hn => by
        have hs := hm.stop_of_not_pends fun hp => hn ((hlatest hv n).1 hp)
        exact ⟨hs.1.trans hv, hs.2⟩
      stopped := fun hh _ hs => hm.register_of_stopping hh hentry hs }

theorem Run.registers?_eq_none (h : Run (p.system jitter now) turns v) (hp : p.entry.isSome = true)
    (ht : t ∈ turns) : t.registers? = none := by
  obtain ⟨before, after, rfl⟩ := List.append_of_mem ht
  obtain ⟨u, rest, hu, -, hb, -⟩ := h.split
  have he : t.before.entry.isNone = false := by
    have hs := hu.entry_isSome
    rw [hp] at hs
    rw [hb]
    simpa using hs
  unfold Turn.registers?
  split
  · rw [he, Bool.and_false]
    rfl
  · rfl

theorem Run.bound (h : Run (p.system jitter now) turns v) (hp : p.entry.isSome = true) :
    Bound p v := by
  have he : v.entry.isSome = true := h.entry_isSome.trans hp
  exact
    { refused := fun hh n => by
        rw [refusal?, hh, he, h.name]
        rfl
      unchanged := fun n => by
        rw [carryOut_registerShutdown, Option.isNone_eq_false_iff.2 he, Bool.and_false]
        rfl
      none := fun n => by
        rw [h.moored.pending_eq, if_neg]
        rw [h.pends_iff]
        rintro ⟨before, t, after, rfl, ⟨ht, -⟩, -⟩
        rw [h.registers?_eq_none hp (List.mem_append_right _ (.head _))] at ht
        cases ht }

/-- **A coordinator follows the host that it registered with last**, unless it is bound to an entry:
then it does not register at all. -/
theorem Run.follows_last {p : Plan α} {jitter : Duration} {now : Nat} {turns : List (Turn α)}
    {v : System α} (h : Run (p.system jitter now) turns v) :
    (p.entry = none → (∀ t ∈ turns, t.stops? ≠ none → t.before.alive = true) → Follows turns v) ∧
      (p.entry.isSome = true → Bound p v) :=
  ⟨fun hp hlive => h.follows hp hlive, fun hp => h.bound hp⟩

def footloose : Plan Nat := { name := "weather", source := some [{ result := .ok 1 }] }

def tenant : Plan Nat := { footloose with entry := some { id := "entry" } }

/-- Of two hosts the first stops, and the coordinator goes on, since it registered with the second
after that. The one that is bound to an entry is turned away. -/
theorem second_host_followed :
    (∃ (turns : List (Turn Nat)) (v : System Nat), Run (footloose.system .zero 0) turns v ∧
      v.agenda = [] ∧ registrations turns = [⟨0⟩, ⟨1⟩] ∧ (v.host ⟨0⟩).stopping = true ∧
      v.shutDown = false ∧ v.held = true ∧ Follows turns v) ∧
    ∃ (turns : List (Turn Nat)) (v : System Nat), Run (tenant.system .zero 0) turns v ∧
      turns.length = 1 ∧ v.held = true ∧ Bound tenant v := by
  have h₁ : Run (footloose.system .zero 0) _ _ :=
    Run.rest.prompt (.deed (.registerShutdown ⟨0⟩) rfl) |>.work _ _ rfl
  have h₂ := h₁.prompt (.deed (.registerShutdown ⟨1⟩) rfl) |>.work _ _ rfl
  have h₃ := h₂.prompt (.deed (.stopHost ⟨0⟩) rfl) |>.work _ _ rfl
  have h : Run (tenant.system .zero 0) _ _ :=
    Run.rest.prompt (.deed (.registerShutdown ⟨0⟩) rfl) |>.work _ _ rfl
  exact ⟨⟨_, _, h₃, rfl, rfl, rfl, rfl, rfl, h₃.follows_last.1 rfl (by decide)⟩,
    _, _, h, rfl, rfl, h.follows_last.2 rfl⟩

/-! ## After a shutdown -/

/-- Which hooks there are when the coordinator is shut down. -/
structure Unhooked (turns : List (Turn α)) (v : System α) : Prop where
  /-- Whatever shuts the coordinator down takes its hook back, wherever that is. -/
  shuts : ∀ t ∈ turns, t.shuts = true →
    t.after.shutDown = true ∧ ∀ n, (t.after.host n).pending = 0
  /-- It is shut down in no other way. -/
  shutDown : v.shutDown = true ↔ ∃ t ∈ turns, t.shuts = true
  one : ∀ n, (v.host n).pending ≤ 1
  /-- A hook that is pending all the same was registered after the shutdown, with a host that ran.
  Since then the coordinator has not registered anywhere and has not been shut down again, and the
  host has not stopped. -/
  pending : v.shutDown = true → ∀ n, (v.host n).pending = 1 ↔
    Lately (fun t => t.registers? = some n ∧ t.shuts = false ∧ t.before.shutDown = true)
      (fun t => t.registers? = none ∧ t.stops? ≠ some n ∧ t.shuts = false) turns
  /-- So there is none if the coordinator does not register after it was shut down. -/
  clean : v.shutDown = true → (∀ t ∈ turns, t.registers? ≠ none → t.before.shutDown = false) →
    ∀ n, (v.host n).pending = 0

/-- What is pending after a shutdown was registered after it. -/
theorem Run.shutDown_before (h : Run (p.system jitter now) (before ++ t :: after) v)
    (hv : v.shutDown = true) (hs : t.shuts = false) (hafter : ∀ s ∈ after, s.shuts = false) :
    t.before.shutDown = true := by
  have ht := h.moors_at (List.mem_append_right _ (.head _))
  obtain ⟨u, rest, -, -, -, hr⟩ := h.split
  have hany : after.any Turn.shuts = false := by simpa using hafter
  have hv' := (hr.moors ht.moored).2.2
  rw [hany, Bool.or_false, ht.shutDown, hs, Bool.or_false, hv] at hv'
  exact hv'.symm

/-- **What is left of the hooks of a coordinator that is shut down**: a shutdown leaves none behind,
but to register once more leaves one. -/
theorem Run.unhooked {p : Plan α} {jitter : Duration} {now : Nat} {turns : List (Turn α)}
    {v : System α} (h : Run (p.system jitter now) turns v) : Unhooked turns v := by
  obtain ⟨hm, -, hdown⟩ := h.moors (moored_system p jitter now)
  have hpending : v.shutDown = true → ∀ n, (v.host n).pending = 1 ↔
      Lately (fun t => t.registers? = some n ∧ t.shuts = false ∧ t.before.shutDown = true)
        (fun t => t.registers? = none ∧ t.stops? ≠ some n ∧ t.shuts = false) turns := by
    intro hv n
    rw [hm.pending_eq_one, h.pends_iff]
    constructor
    · rintro ⟨before, t, after, rfl, ⟨hr, hs⟩, hafter⟩
      exact ⟨before, t, after, rfl,
        ⟨hr, hs, h.shutDown_before hv hs fun s hm => (hafter s hm).2.2⟩, hafter⟩
    · rintro ⟨before, t, after, rfl, ⟨hr, hs, -⟩, hafter⟩
      exact ⟨before, t, after, rfl, ⟨hr, hs⟩, hafter⟩
  exact
    { shuts := fun t ht hs => (hs ▸ h.moors_at ht).of_shuts
      shutDown := by
        have hfresh : (p.system jitter now).shutDown = false := rfl
        rw [hdown, hfresh, Bool.false_or, List.any_eq_true]
      one := hm.pending_le_one
      pending := hpending
      clean := fun hv hr n => by
        rw [hm.pending_eq, if_neg]
        rw [← hm.pending_eq_one, hpending hv]
        rintro ⟨before, t, after, rfl, ⟨hreg, -, hb⟩, -⟩
        have hf := hr t (List.mem_append_right _ (.head _)) (hreg ▸ Option.some_ne_none n)
        rw [hb] at hf
        cases hf }

end Runs

/-- A shutdown takes the hook back, and so does the second one when the coordinator has registered
again. -/
theorem unhooked_twice :
    ∃ (turns : List (Turn Nat)) (v : System Nat), Run (footloose.system .zero 0) turns v ∧
      v.agenda = [] ∧ v.shutDown = true ∧ registrations turns = [⟨0⟩, ⟨1⟩] ∧
      Unhooked turns v := by
  have h₁ : Run (footloose.system .zero 0) _ _ :=
    Run.rest.prompt (.deed (.registerShutdown ⟨0⟩) rfl) |>.work _ _ rfl
  have h₂ := h₁.prompt (.deed .shutdown rfl) |>.work _ _ rfl
  have h₃ := h₂.prompt (.deed (.registerShutdown ⟨1⟩) rfl) |>.work _ _ rfl
  have h₄ := h₃.prompt (.deed .shutdown rfl) |>.work _ _ rfl
  exact ⟨_, _, h₄, rfl, rfl, rfl, h₄.unhooked⟩

/-- A coordinator that is shut down and at rest, with a hook on a host that runs. -/
theorem hooked_after_shutdown :
    ∃ (turns : List (Turn Nat)) (v : System Nat), Run (footloose.system .zero 0) turns v ∧
      v.agenda = [] ∧ v.timers.waiting = [] ∧ v.shutDown = true ∧ (v.host ⟨0⟩).pending = 1 := by
  have h₁ : Run (footloose.system .zero 0) _ _ :=
    Run.rest.prompt (.deed .shutdown rfl) |>.work _ _ rfl
  have h₂ := h₁.prompt (.deed (.registerShutdown ⟨0⟩) rfl) |>.work _ _ rfl
  exact ⟨_, _, h₂, rfl, rfl, rfl, rfl⟩

end Freshness.System
