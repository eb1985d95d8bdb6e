import Freshness.Proofs.Coordinator.Course
import Freshness.Proofs.Coordinator.Runs

/-!
# One cycle at a time

* `System.stages` : the stages of cycles that wait somewhere: on the agenda, behind a timer, or for
  the driving task;
* `Task.Carry` : one stage if the lock is held, and it belongs to the holder; none if it is free;
* `Task.Stacked` : on the agenda callbacks come first, and calls that have not begun come last;
* `System.Orderly` : the invariant of `Reachable.orderly`;
* `System.Serving`, `Orderly.serving` : while a stage is carried out, no other waits, and nothing is
  on the agenda but calls that have not begun;
* `Run.stage_waits` : a stage goes on waiting until a turn takes it up.
-/

namespace Freshness

variable {α : Type}

/-! ## The stage of the cycle that holds the lock -/

/-- The stages that wait are that of the holder of the lock, if there is one. -/
inductive Task.Carry : List (Task α) → Option Cycle → Prop where
  | idle : Task.Carry [] none
  | busy {stage : Task α} {cycle : Cycle} : stage.cycle? = some cycle →
    Task.Carry [stage] (some cycle)

theorem Task.Carry.of_middle {xs ys : List (Task α)} {x : Task α} {holder : Option Cycle}
    (h : Task.Carry (xs ++ x :: ys) holder) : xs = [] ∧ ys = [] ∧ holder = x.cycle? := by
  generalize hs : xs ++ x :: ys = stages at h
  cases h with
  | idle => simp at hs
  | busy hc =>
    obtain ⟨rfl, hxy⟩ | ⟨_, -, hxy⟩ := List.append_eq_cons_iff.1 hs
    · obtain ⟨rfl, rfl⟩ := List.cons.inj hxy
      exact ⟨rfl, rfl, hc.symm⟩
    · simp at hxy

theorem Task.Carry.of_cons {x : Task α} {ys : List (Task α)} {holder : Option Cycle}
    (h : Task.Carry (x :: ys) holder) : ys = [] ∧ holder = x.cycle? :=
  (show Task.Carry ([] ++ x :: ys) holder from h).of_middle.2

/-- Callbacks come first and calls that have not begun come last, with one task between them at
most. -/
def Task.Stacked (agenda : List (Task α)) : Prop :=
  ∃ calls rest : List (Task α), agenda = calls ++ rest ∧ (∀ x ∈ calls, x.isCallback = true) ∧
    ∀ x ∈ rest.tail, x.isStart = true

namespace Task.Stacked

theorem of_starts {agenda : List (Task α)} (h : ∀ x ∈ agenda, x.isStart = true) :
    Task.Stacked agenda :=
  ⟨[], agenda, rfl, by simp, fun x hx => h x (List.mem_of_mem_tail hx)⟩

theorem cons (task : Task α) {rest : List (Task α)} (h : ∀ x ∈ rest, x.isStart = true) :
    Task.Stacked (task :: rest) :=
  ⟨[], task :: rest, rfl, by simp, h⟩

theorem append {calls agenda : List (Task α)} (hc : ∀ x ∈ calls, x.isCallback = true)
    (h : Task.Stacked agenda) : Task.Stacked (calls ++ agenda) := by
  obtain ⟨calls', rest, rfl, hc', hr⟩ := h
  refine ⟨calls ++ calls', rest, (List.append_assoc ..).symm, ?_, hr⟩
  intro x hx
  rcases List.mem_append.1 hx with hx | hx
  · exact hc x hx
  · exact hc' x hx

theorem starts_of_cons {task : Task α} {rest : List (Task α)} (h : Task.Stacked (task :: rest))
    (ht : task.isCallback = false) : ∀ x ∈ rest, x.isStart = true := by
  obtain ⟨calls, rest', he, hc, hr⟩ := h
  cases calls with
  | nil =>
    obtain rfl : task :: rest = rest' := he
    exact hr
  | cons x calls =>
    obtain ⟨rfl, -⟩ := List.cons.inj he
    have := hc task (by simp)
    rw [ht] at this
    cases this

theorem tail {task : Task α} {rest : List (Task α)} (h : Task.Stacked (task :: rest)) :
    Task.Stacked rest := by
  cases ht : task.isCallback with
  | false => exact of_starts (h.starts_of_cons ht)
  | true =>
    obtain ⟨calls, rest', he, hc, hr⟩ := h
    cases calls with
    | nil =>
      obtain rfl : task :: rest = rest' := he
      exact of_starts hr
    | cons x calls =>
      obtain ⟨rfl, rfl⟩ := List.cons.inj he
      exact ⟨calls, rest', rfl, fun x hx => hc x (List.mem_cons_of_mem _ hx), hr⟩

end Task.Stacked

theorem Task.filter_isStage_eq_nil {tasks : List (Task α)}
    (h : ∀ x ∈ tasks, x.isStage = false) : tasks.filter Task.isStage = [] := by
  rw [List.filter_eq_nil_iff]
  intro x hx
  simp [h x hx]

namespace System

/-- The stages of cycles that wait somewhere. -/
def stages (w : System α) : List (Task α) :=
  w.agenda.filter Task.isStage ++ w.timers.pick Task.isStage ++ w.resuming.toList.map .enter

/-- One cycle at a time. -/
structure Orderly (w : System α) : Prop where
  linked : w.clocks.Linked
  carry : Task.Carry w.stages w.lock.holder
  line : w.lock.holder = none → w.lock.waiting = []
  stacked : Task.Stacked w.agenda

/-! ## The stages after each operation -/

theorem stages_next (w : System α) (tasks : List (Task α)) :
    (w.next tasks).stages = tasks.filter Task.isStage ++ w.stages := by
  simp [stages, next]

theorem Quiet.stages {w v : System α} (h : Quiet w v) (hl : w.clocks.Linked) :
    v.stages = w.stages := by
  obtain ⟨calls, hc, ha⟩ := h.agenda
  have ht : v.timers.pick Task.isStage = w.timers.pick Task.isStage :=
    (h.clocks hl).stages
  have hf : calls.filter Task.isStage = [] :=
    Task.filter_isStage_eq_nil fun x hx => Task.isStage_of_isCallback (hc x hx)
  simp only [System.stages, ha, ht, h.resuming, List.filter_append, hf, List.nil_append]

theorem Quiet.linked {w v : System α} (h : Quiet w v) (hl : w.clocks.Linked) : v.clocks.Linked :=
  (h.clocks hl).linked

theorem stages_eq_nil {w : System α} (h : w.stages = []) :
    w.agenda.filter Task.isStage = [] ∧ w.timers.pick Task.isStage = [] ∧ w.resuming = none := by
  simp only [stages, List.append_eq_nil_iff, List.map_eq_nil_iff, Option.toList_eq_nil_iff] at h
  exact ⟨h.1.1, h.1.2, h.2⟩

theorem stages_spawn {w : System α} (hl : w.clocks.Linked) (hs : w.stages = []) (deadline : Nat)
    (task : Task α) (ht : task.isStage = true) :
    ({ w with timers := w.timers.spawn deadline task } : System α).stages = [task] := by
  obtain ⟨ha, hp, hr⟩ := stages_eq_nil hs
  have hd : w.timers.driven = true := hl.timers.driven
  show _ ++ Timers.pick _ (w.timers.schedule deadline task).2 ++ _ = _
  rw [Timers.pick_schedule hd, hp, hr, ha]
  simp [ht]

theorem stages_beginFetch {w : System α} (hl : w.clocks.Linked) (hs : w.stages = [])
    (cycle : Cycle) : (w.beginFetch cycle).stages = [.fetched cycle w.now w.brings] := by
  unfold beginFetch
  split
  · next hn =>
    rw [show w.brings = .error .missingSource by rw [brings, hn], stages_next, hs]
    rfl
  · next source hn =>
    rw [show w.brings = source.next.1.outcome.2 by rw [brings, hn]]
    dsimp only
    split
    · rw [stages_next]
      show _ ++ w.stages = _
      rw [hs]
      rfl
    · exact stages_spawn (w := { w with source := some source.next.2 }.record
        (.fetchStarted cycle.serial)) hl hs _ (.fetched cycle w.now source.next.1.outcome.2) rfl

theorem lock_beginFetch (w : System α) (cycle : Cycle) : (w.beginFetch cycle).lock = w.lock := by
  rw [beginFetch_frame]

theorem stacked_beginFetch {w : System α} (h : ∀ x ∈ w.agenda, x.isStart = true) (cycle : Cycle) :
    Task.Stacked (w.beginFetch cycle).agenda := by
  unfold beginFetch
  split
  · exact .cons _ h
  · dsimp only
    split
    · exact .cons _ h
    · exact .of_starts h

theorem linked_beginFetch {w : System α} (hl : w.clocks.Linked) (cycle : Cycle) :
    (w.beginFetch cycle).clocks.Linked := by
  unfold beginFetch
  split
  · exact hl
  · dsimp only
    split
    · exact hl
    · exact hl.schedule_job _ _

theorem stages_resume {w : System α} (hl : w.clocks.Linked) (hs : w.stages = []) (cycle : Cycle)
    (releaser : Origin) : (w.resume cycle releaser).stages = [.enter cycle] := by
  unfold resume
  split
  · exact stages_spawn hl hs w.now (.enter cycle) rfl
  split
  · rw [stages_next, hs]
    rfl
  · obtain ⟨ha, hp, -⟩ := stages_eq_nil hs
    simp [stages, ha, hp]

theorem lock_resume (w : System α) (cycle : Cycle) (releaser : Origin) :
    (w.resume cycle releaser).lock = w.lock := by
  unfold resume
  split
  · rfl
  split <;> rfl

theorem linked_resume {w : System α} (hl : w.clocks.Linked) (cycle : Cycle) (releaser : Origin) :
    (w.resume cycle releaser).clocks.Linked := by
  unfold resume
  split
  · exact hl.schedule_job _ _
  split
  · exact hl
  · exact hl

/-! ## While a stage is carried out -/

/-- A stage of the cycle has been taken up: the cycle holds the lock, no stage waits, and only calls
that have not begun are on the agenda. -/
structure Serving (w : System α) (cycle : Cycle) : Prop where
  linked : w.clocks.Linked
  stages : w.stages = []
  holder : w.lock.holder = some cycle
  starts : ∀ x ∈ w.agenda, x.isStart = true

theorem Serving.calm {w v : System α} {cycle : Cycle} (h : Serving w cycle) (hv : Calm w v) :
    Serving v cycle where
  linked := hv.quiet.linked h.linked
  stages := (hv.quiet.stages h.linked).trans h.stages
  holder := hv.lock ▸ h.holder
  starts := hv.agenda ▸ h.starts

theorem orderly_of_stage {w : System α} {cycle : Cycle} (stage : Task α) (hl : w.clocks.Linked)
    (hs : w.stages = [stage]) (hc : stage.cycle? = some cycle)
    (hh : w.lock.holder = some cycle) (ha : Task.Stacked w.agenda) : Orderly w := by
  refine ⟨hl, ?_, ?_, ha⟩
  · rw [hs, hh]
    exact .busy hc
  · intro hn
    rw [hh] at hn
    cases hn

theorem Serving.next {w : System α} {cycle : Cycle} (h : Serving w cycle) (calls : List (Task α))
    {stage : Task α} (hc : ∀ x ∈ calls, x.isCallback = true) (hs : stage.cycle? = some cycle) :
    (w.next (calls ++ [stage])).stages = [stage] ∧ Orderly (w.next (calls ++ [stage])) := by
  have hf : calls.filter Task.isStage = [] :=
    Task.filter_isStage_eq_nil fun x hx => Task.isStage_of_isCallback (hc x hx)
  have hst : (w.next (calls ++ [stage])).stages = [stage] := by
    rw [stages_next, h.stages]
    simp [hf, Task.isStage, hs]
  refine ⟨hst, orderly_of_stage stage h.linked hst hs h.holder ?_⟩
  show Task.Stacked (calls ++ [stage] ++ w.agenda)
  rw [List.append_assoc]
  exact .append hc (.cons stage h.starts)

/-! ## A task is taken from the agenda -/

theorem stages_of_cons {w : System α} {task : Task α} {rest : List (Task α)}
    (ha : w.agenda = task :: rest) :
    w.stages = [task].filter Task.isStage ++ ({ w with agenda := rest } : System α).stages := by
  have hl : w.agenda = [task] ++ rest := ha
  simp only [stages, hl, List.filter_append, List.append_assoc]

/-- A stage that is taken up leaves no other behind. -/
theorem Orderly.serving {w : System α} {task : Task α} {rest : List (Task α)} {cycle : Cycle}
    (h : Orderly w) (ha : w.agenda = task :: rest) (ht : task.cycle? = some cycle) :
    Serving { w with agenda := rest } cycle := by
  have hs : task.isStage = true := by rw [Task.isStage, ht]; rfl
  have hc := h.carry
  rw [stages_of_cons ha, List.filter_cons_of_pos hs, List.filter_nil] at hc
  obtain ⟨hn, hh⟩ := Task.Carry.of_cons hc
  refine ⟨h.linked, hn, hh.trans ht, ?_⟩
  refine Task.Stacked.starts_of_cons (ha ▸ h.stacked) ?_
  cases task <;> first | rfl | simp [Task.cycle?] at ht

theorem Orderly.stages_eq {w : System α} {task : Task α} {rest : List (Task α)} (h : Orderly w)
    (ha : w.agenda = task :: rest) (ht : task.isStage = true) : w.stages = [task] := by
  have hc := h.carry
  have hs := stages_of_cons ha
  rw [List.filter_cons_of_pos ht, List.filter_nil] at hs
  rw [hs] at hc
  obtain ⟨hn, -⟩ := Task.Carry.of_cons hc
  rw [hs]
  exact congrArg ([task] ++ ·) hn

theorem Orderly.eq_of_mem_stages {w : System α} {task stage : Task α} {rest : List (Task α)}
    (h : Orderly w) (ha : w.agenda = task :: rest) (ht : task.isStage = true)
    (hs : stage ∈ w.stages) : stage = task := by
  rw [h.stages_eq ha ht] at hs
  exact List.mem_singleton.1 hs

/-- Any other task leaves things in order. -/
theorem Orderly.rest {w : System α} {task : Task α} {rest : List (Task α)} (h : Orderly w)
    (ha : w.agenda = task :: rest) (ht : task.isStage = false) :
    Orderly { w with agenda := rest } := by
  have hs : w.stages = ({ w with agenda := rest } : System α).stages := by
    rw [stages_of_cons ha]
    simp [ht]
  exact ⟨h.linked, hs ▸ h.carry, h.line, (ha ▸ h.stacked : Task.Stacked (task :: rest)).tail⟩

theorem Quiet.orderly {w v : System α} (h : Quiet w v) (hw : Orderly w) : Orderly v := by
  obtain ⟨calls, hc, ha⟩ := h.agenda
  refine ⟨h.linked hw.linked, ?_, ?_, ?_⟩
  · rw [h.stages hw.linked, h.lock]
    exact hw.carry
  · rw [h.lock]
    exact hw.line
  · rw [ha]
    exact .append hc hw.stacked

/-! ## The lock -/

theorem ask_of_free {w : System α} (h : w.lock.holder = none) (origin : Origin) :
    w.ask origin =
      ({ w with serial := w.serial + 1
                lock := { w.lock with holder := some ⟨w.serial, origin⟩ } } : System α).next
        [.enter ⟨w.serial, origin⟩] := by
  simp only [ask, h]

theorem ask_of_held {w : System α} {cycle : Cycle} (h : w.lock.holder = some cycle)
    (origin : Origin) :
    w.ask origin =
      { w with serial := w.serial + 1
               lock := { w.lock with waiting := w.lock.waiting ++ [⟨w.serial, origin⟩] } } := by
  simp only [ask, h]

theorem Orderly.stages_of_free {w : System α} (h : Orderly w) (hf : w.lock.holder = none) :
    w.stages = [] := by
  have hc := h.carry
  rw [hf] at hc
  generalize w.stages = stages at hc
  cases hc
  rfl

theorem orderly_ask {w : System α} (h : Orderly w) (hs : ∀ x ∈ w.agenda, x.isStart = true)
    (origin : Origin) : Orderly (w.ask origin) := by
  cases hh : w.lock.holder with
  | none =>
    rw [ask_of_free hh]
    refine orderly_of_stage (.enter ⟨w.serial, origin⟩) h.linked ?_ rfl rfl (.cons _ hs)
    rw [stages_next]
    show _ ++ w.stages = _
    rw [h.stages_of_free hh]
    rfl
  | some cycle =>
    rw [ask_of_held hh]
    refine ⟨h.linked, h.carry, ?_, h.stacked⟩
    intro hn
    cases hh.symm.trans hn

theorem Serving.beginFetch {w : System α} {cycle : Cycle} (h : Serving w cycle) :
    Orderly (w.beginFetch cycle) := by
  have hs := stages_beginFetch h.linked h.stages cycle
  refine orderly_of_stage _ (linked_beginFetch h.linked cycle) hs rfl ?_ ?_
  · rw [lock_beginFetch, h.holder]
  · exact stacked_beginFetch h.starts cycle

theorem Serving.resume {w : System α} {cycle : Cycle} (h : Serving w cycle) (releaser : Origin) :
    Orderly (w.resume cycle releaser) := by
  refine orderly_of_stage _ (linked_resume h.linked cycle releaser)
    (stages_resume h.linked h.stages cycle releaser) rfl ?_ ?_
  · rw [lock_resume, h.holder]
  · unfold System.resume
    split
    · exact .of_starts h.starts
    split
    · exact .cons _ h.starts
    · exact .of_starts h.starts

theorem Serving.release {w : System α} {cycle : Cycle} (h : Serving w cycle) (releaser : Origin) :
    Orderly (w.release releaser) := by
  unfold System.release
  split
  · exact ⟨h.linked, h.stages ▸ .idle, fun _ => rfl, .of_starts h.starts⟩
  · next cycle' waiting _ =>
    have hs : Serving { w with lock := { holder := some cycle', waiting } } cycle' :=
      ⟨h.linked, h.stages, rfl, h.starts⟩
    exact hs.resume releaser

theorem stages_ask_of_held {w : System α} {cycle : Cycle} (h : w.lock.holder = some cycle)
    (origin : Origin) : (w.ask origin).stages = w.stages := by
  rw [ask_of_held h]
  rfl

/-! ## Prompts keep the order -/

theorem prompt_stages {w v : System α} (h : Orderly w) (hp : Prompt w v) : v.stages = w.stages := by
  cases hp with
  | fire t ha ht _ =>
    have hd : w.timers.Sound := h.linked.timers
    have hs : w.stages = w.timers.pick Task.isStage ++ w.resuming.toList.map .enter := by
      simp [stages, ha]
    cases hj : t.job.isStage with
    | false =>
      rw [hs]
      simp [stages, Timers.pick_take_of_false hd ht hj, hj]
    | true =>
      -- the only stage there is has come to the agenda
      obtain ⟨xs, ys, hp, hp'⟩ := Timers.pick_take hd ht hj
      have hc := h.carry
      rw [hs, hp, List.append_assoc, List.cons_append] at hc
      obtain ⟨rfl, hy, -⟩ := hc.of_middle
      obtain ⟨rfl, hr⟩ := List.append_eq_nil_iff.1 hy
      rw [hs, hp, hr]
      simp [stages, hp', hj, hr]
  | resume cycle ha hr =>
    have hc := h.carry
    simp only [stages, ha, hr, List.filter_nil, List.nil_append, Option.toList_some, List.map_cons,
      List.map_nil] at hc
    obtain ⟨hn, -, -⟩ := hc.of_middle
    simp [stages, ha, hr, hn, Task.isStage, Task.cycle?]
  | wait time ha => rfl
  | deed deed ha => simp [stages, ha, Task.isStage, Task.cycle?]
  | calls calls ha _ =>
    have hf : (calls.map fun c => (.start c.1 c.2 : Task α)).filter Task.isStage = [] := by
      refine Task.filter_isStage_eq_nil fun x hx => ?_
      obtain ⟨c, -, rfl⟩ := List.mem_map.1 hx
      rfl
    simp [stages, ha, hf]
  | meddle deed ha => simp [stages, Task.isStage, Task.cycle?]

theorem prompt_lock {w v : System α} (hp : Prompt w v) : v.lock = w.lock := by
  cases hp <;> rfl

theorem prompt_linked {w v : System α} (h : w.clocks.Linked) (hp : Prompt w v) :
    v.clocks.Linked := by
  cases hp with
  | fire t => exact h.take t
  | wait time => exact h.moveTo time
  | resume | deed | calls | meddle => exact h

theorem prompt_stacked {w v : System α} (h : Task.Stacked w.agenda) (hp : Prompt w v) :
    Task.Stacked v.agenda := by
  cases hp with
  | fire t => exact .cons _ (by simp)
  | resume cycle => exact .cons _ (by simp)
  | wait time => exact h
  | deed deed => exact .cons _ (by simp)
  | calls calls =>
    refine .of_starts fun x hx => ?_
    obtain ⟨c, -, rfl⟩ := List.mem_map.1 hx
    rfl
  | meddle deed => exact Task.Stacked.append (List.forall_mem_singleton.2 rfl) h

theorem orderly_prompt {w v : System α} (h : Orderly w) (hp : Prompt w v) : Orderly v := by
  refine ⟨prompt_linked h.linked hp, ?_, ?_, prompt_stacked h.stacked hp⟩
  · rw [prompt_stages h hp, prompt_lock hp]
    exact h.carry
  · rw [prompt_lock hp]
    exact h.line

theorem orderly_system (p : Plan α) (jitter : Duration) (now : Nat) :
    Orderly (p.system jitter now) := by
  refine ⟨⟨Timers.sound_new now, ?_, ?_⟩, .idle, fun _ => rfl, .of_starts (by simp [Plan.system])⟩
  · intro a ha
    cases ha
  · intro a ha
    cases ha

/-! ## Tasks keep the order -/

theorem callbacks_of_landed {w : System α} {calls : List (Task α)}
    (h : calls = [] ∨ calls = w.roster.snapshot.map .hear) :
    ∀ x ∈ calls, x.isCallback = true := by
  rcases h with rfl | rfl
  · simp
  · intro x hx
    obtain ⟨k, -, rfl⟩ := List.mem_map.1 hx
    rfl

variable [BEq α]

theorem Serving.applyResult {w : System α} {cycle : Cycle} (h : Serving w cycle)
    (result : Except Fault α) : Serving (w.applyResult cycle result).1 cycle := by
  rw [applyResult_frame]
  exact ⟨h.linked, h.stages, h.holder, h.starts⟩

theorem orderly_perform {w : System α} {task : Task α} {rest : List (Task α)} (h : Orderly w)
    (ha : w.agenda = task :: rest) : Orderly ({ w with agenda := rest }.perform task) := by
  have hc := course_perform { w with agenda := rest } task
  generalize ({ w with agenda := rest } : System α).perform task = v at hc
  cases hc with
  | quiet ht hv => exact hv.quiet.orderly (h.rest ha ht)
  | asked origin ht hu =>
    have hb : task.isCallback = false := by
      cases task <;> first | rfl | cases ht
    have hs := Task.Stacked.starts_of_cons (ha ▸ h.stacked) hb
    exact orderly_ask (hu.calm.quiet.orderly (h.rest ha (Task.isStage_of_origin? ht)))
      (hu.calm.agenda ▸ hs) origin
  | skipped _ hu => exact (((h.serving ha rfl).calm hu.calm).next [] (by simp) rfl).2
  | began _ hu => exact ((h.serving ha rfl).calm hu.calm).beginFetch
  | landed calls outcome hu hcalls =>
    refine (((h.serving ha rfl).applyResult _).calm hu.calm).next calls ?_ rfl |>.2
    exact callbacks_of_landed hcalls
  | ended hv => exact hv.calm.quiet.orderly ((h.serving ha rfl).release _)

/-- **One cycle at a time**, in every run. -/
theorem Reachable.orderly {w : System α} (h : Reachable w) : Orderly w := by
  obtain ⟨p, jitter, now, hm⟩ := h
  exact Moves.induct (fun hp hw => orderly_prompt hw hp) (fun _ _ ha hw => orderly_perform hw ha) hm
    (orderly_system p jitter now)

/-! ## A stage waits until it is taken up -/

/-- Every other task leaves a stage that waits where it is. -/
theorem Orderly.stages_perform {w : System α} {task stage : Task α} {rest : List (Task α)}
    (h : Orderly w) (ha : w.agenda = task :: rest) (ht : task.isStage = false)
    (hs : stage ∈ w.stages) :
    ({ w with agenda := rest }.perform task).stages = w.stages := by
  have hw : ({ w with agenda := rest } : System α).stages = w.stages := by
    rw [stages_of_cons ha]
    simp [ht]
  have hc := course_perform { w with agenda := rest } task
  generalize ({ w with agenda := rest } : System α).perform task = v at hc
  cases hc with
  | quiet _ hv => exact (hv.quiet.stages h.linked).trans hw
  | asked origin _ hu =>
    have hh : ∃ cycle, w.lock.holder = some cycle := by
      cases hh : w.lock.holder with
      | none =>
        rw [h.stages_of_free hh] at hs
        cases hs
      | some cycle => exact ⟨cycle, rfl⟩
    obtain ⟨cycle, hh⟩ := hh
    rw [stages_ask_of_held (hu.calm.lock ▸ hh)]
    exact (hu.calm.quiet.stages h.linked).trans hw
  | skipped | began | landed | ended => cases ht

/-- A stage that waits goes on waiting until a turn takes it up. -/
theorem Run.stage_waits {w v : System α} {turns : List (Turn α)} (hw : Orderly w)
    (h : Run w turns v) {stage : Task α} (hs : stage ∈ w.stages) :
    Orderly v ∧ (stage ∈ v.stages ∨ ∃ t ∈ turns, t.task = stage) := by
  induction h with
  | rest => exact ⟨hw, .inl hs⟩
  | prompt _ hp ih =>
    obtain ⟨ho, ih⟩ := ih
    refine ⟨orderly_prompt ho hp, ?_⟩
    rw [prompt_stages ho hp]
    exact ih
  | @work turns u task rest _ ha ih =>
    obtain ⟨ho, hu | ⟨t, ht, hts⟩⟩ := ih
    · refine ⟨orderly_perform ho ha, ?_⟩
      cases hk : task.isStage with
      | false =>
        rw [ho.stages_perform ha hk hu]
        exact .inl hu
      | true =>
        exact .inr ⟨_, List.mem_append_right _ (.head _), (ho.eq_of_mem_stages ha hk hu).symm⟩
    · exact ⟨orderly_perform ho ha, .inr ⟨t, List.mem_append_left _ ht, hts⟩⟩

end System

end Freshness
