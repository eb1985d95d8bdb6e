import Freshness.Proofs.Coordinator.Orderly

/-!
# The life of a cycle

* `Task.enters?`, `Task.lands?`, `Task.ends?` : the cycle that a stage carries on, stage by stage;
* `System.Life` : what one turn does to the lock, the line, the stage of the cycle that holds the
  lock, the source and the record of fetches, with one case for each step in the life of a cycle;
* `System.life_perform` : in an orderly system every turn is such a step.
-/

namespace Freshness

variable {α : Type}

def Task.enters? : Task α → Option Cycle
  | .enter cycle => some cycle
  | .fetched _ _ _ | .conclude _ _ => none
  | .deed _ | .hear _ | .start _ _ | .refreshDue _ | .cooldownOver _ => none

def Task.lands? : Task α → Option Cycle
  | .fetched cycle _ _ => some cycle
  | .enter _ | .conclude _ _ => none
  | .deed _ | .hear _ | .start _ _ | .refreshDue _ | .cooldownOver _ => none

def Task.ends? : Task α → Option Cycle
  | .conclude cycle _ => some cycle
  | .enter _ | .fetched _ _ _ => none
  | .deed _ | .hear _ | .start _ _ | .refreshDue _ | .cooldownOver _ => none

/-- The cycles that have asked for the lock and not ended, the holder first. -/
def Lock.line (l : Lock) : List Cycle := l.holder.toList ++ l.waiting

namespace System

/-- What a turn does to the cycles, where `w` has the task on its agenda still. -/
inductive Life (w : System α) : Task α → System α → Prop where
  | quiet {task : Task α} {v : System α} : task.isStage = false → v.stages = w.stages →
    v.lock = w.lock → (v.serial, v.source) = (w.serial, w.source) →
    Event.Adds w.journal v.journal → Life w task v
  /-- A new cycle has the lock at once. -/
  | admitted {task : Task α} {v : System α} (origin : Origin) : task.origin? = some origin →
    w.stages = [] → w.lock = {} → v.stages = [.enter ⟨w.serial, origin⟩] →
    v.lock = { holder := some ⟨w.serial, origin⟩ } →
    (v.serial, v.source) = (w.serial + 1, w.source) →
    Event.Adds w.journal v.journal → Life w task v
  /-- A new cycle joins the line. -/
  | queued {task : Task α} {v : System α} (origin : Origin) (holder : Cycle) :
    task.origin? = some origin → v.stages = w.stages → w.lock.holder = some holder →
    v.lock = { w.lock with waiting := w.lock.waiting ++ [⟨w.serial, origin⟩] } →
    (v.serial, v.source) = (w.serial + 1, w.source) →
    Event.Adds w.journal v.journal → Life w task v
  | skipped {cycle : Cycle} {v : System α} (outcome : Except Refusal Health) :
    w.skips cycle = true → w.stages = [.enter cycle] → w.lock.holder = some cycle →
    v.stages = [.conclude cycle outcome] → v.lock = w.lock →
    (v.serial, v.source) = (w.serial, w.source) →
    Event.Adds w.journal v.journal → Life w (.enter cycle) v
  /-- The fetch begins: the source is asked for its next answer. -/
  | began {cycle : Cycle} {v : System α} (begun : Nat) (result : Except Fault α)
      (journal : List (Event α)) :
    w.skips cycle = false → w.stages = [.enter cycle] → w.lock.holder = some cycle →
    v.stages = [.fetched cycle begun result] → v.lock = w.lock →
    (v.serial, v.source) = (w.serial, w.source.map fun s => s.next.2) →
    Event.Adds w.journal journal → v.journal = w.noted (.fetchStarted cycle.serial) ++ journal →
    Life w (.enter cycle) v
  | landed {cycle : Cycle} {begun : Nat} {result : Except Fault α} {v : System α}
      (outcome : Except Refusal Health) :
    w.stages = [.fetched cycle begun result] → w.lock.holder = some cycle →
    v.stages = [.conclude cycle outcome] → v.lock = w.lock →
    (v.serial, v.source) = (w.serial, w.source) →
    Event.Adds (w.noted (.fetchEnded cycle.serial) ++ w.journal) v.journal →
    Life w (.fetched cycle begun result) v
  /-- The next in line has the lock. -/
  | ended {cycle : Cycle} {outcome : Except Refusal Health} {v : System α} :
    w.stages = [.conclude cycle outcome] → w.lock.holder = some cycle →
    v.stages = v.lock.holder.toList.map .enter → v.lock.line = w.lock.waiting →
    (v.serial, v.source) = (w.serial, w.source) →
    Event.Adds w.journal v.journal → Life w (.conclude cycle outcome) v

/-! ## The steps -/

theorem Orderly.lock_of_free {w : System α} (h : Orderly w) (hf : w.lock.holder = none) :
    w.lock = {} := by
  have hw := h.line hf
  generalize w.lock = lock at hf hw
  obtain ⟨holder, waiting⟩ := lock
  obtain rfl : holder = none := hf
  obtain rfl : waiting = [] := hw
  rfl

theorem stages_release {w : System α} {cycle : Cycle} (h : Serving w cycle) (releaser : Origin) :
    (w.release releaser).stages = (w.release releaser).lock.holder.toList.map .enter := by
  unfold release
  split
  · exact h.stages
  · next next waiting _ =>
    have hl : ({ w with lock := { holder := some next, waiting } } : System α).clocks.Linked :=
      h.linked
    rw [lock_resume, stages_resume hl h.stages]
    rfl

theorem line_release (w : System α) (releaser : Origin) :
    (w.release releaser).lock.line = w.lock.waiting := by
  unfold release
  split
  · next hw =>
    rw [hw]
    rfl
  · next hw =>
    rw [lock_resume, hw]
    rfl

theorem seat_beginFetch (w : System α) (cycle : Cycle) :
    ((w.beginFetch cycle).serial, (w.beginFetch cycle).source, (w.beginFetch cycle).journal) =
      (w.serial, w.source.map fun s => s.next.2,
        w.noted (.fetchStarted cycle.serial) ++ w.journal) := by
  unfold beginFetch noted
  split
  · next hs => simp [hs, next]
  · next source hs =>
    dsimp only
    split <;> simp [hs, next, record]

theorem Quiet.seat {w v : System α} (h : Quiet w v) :
    (v.serial, v.source) = (w.serial, w.source) := by
  rw [h.serial, h.source]

/-- A cycle that is asked for is admitted if the lock is free, and queued if it is not. -/
theorem life_ask {w u : System α} {task : Task α} {origin : Origin} (h : Orderly w)
    (ht : task.origin? = some origin) (hs : u.stages = w.stages) (hl : u.lock = w.lock)
    (hq : (u.serial, u.source) = (w.serial, w.source)) (hj : Event.Adds w.journal u.journal) :
    Life w task (u.ask origin) := by
  obtain ⟨hn, ho⟩ := Prod.mk.inj hq
  cases hh : w.lock.holder with
  | none =>
    have hw : w.lock = {} := h.lock_of_free hh
    rw [ask_of_free (hl ▸ hh), hn, hl, hw]
    refine .admitted origin ht (h.stages_of_free hh) hw ?_ rfl (by rw [← ho]; rfl) hj
    rw [stages_next]
    show _ ++ u.stages = _
    rw [hs, h.stages_of_free hh]
    rfl
  | some holder =>
    rw [ask_of_held (hl ▸ hh), hn, hl]
    exact .queued origin holder ht hs hh rfl (by rw [← ho]) hj

variable [BEq α]

/-- A turn of an orderly system is a step in the life of a cycle, or no cycle has part in it. -/
theorem life_perform {w : System α} {task : Task α} {rest : List (Task α)} (h : Orderly w)
    (ha : w.agenda = task :: rest) : Life w task ({ w with agenda := rest }.perform task) := by
  have hc := course_perform { w with agenda := rest } task
  generalize ({ w with agenda := rest } : System α).perform task = v at hc
  cases hc with
  | quiet ht he =>
    have hv := he.quiet
    refine .quiet ht ?_ hv.lock hv.seat hv.journal
    rw [hv.stages h.linked, stages_of_cons ha]
    simp [ht]
  | @asked _ u origin ht he =>
    have hu := he.calm
    refine life_ask h ht ?_ hu.lock hu.quiet.seat hu.journal
    rw [hu.quiet.stages h.linked, stages_of_cons ha]
    simp [Task.isStage_of_origin? ht]
  | @skipped cycle u hk he =>
    have hu := he.calm
    have hv := h.serving ha rfl
    exact .skipped _ hk (h.stages_eq ha rfl) hv.holder ((hv.calm hu).next [] (by simp) rfl).1
      hu.lock hu.quiet.seat hu.journal
  | @began cycle u hk he =>
    have hu := he.calm
    have hv := h.serving ha rfl
    have hc := hv.calm hu
    have hb := stages_beginFetch hc.linked hc.stages cycle
    have hseat := seat_beginFetch u cycle
    have ho : u.source = w.source := hu.quiet.source
    have hn : u.serial = w.serial := hu.quiet.serial
    simp only [Prod.mk.injEq] at hseat
    refine .began u.now u.brings u.journal hk (h.stages_eq ha rfl) hv.holder hb ?_ ?_ hu.journal ?_
    · exact (lock_beginFetch u cycle).trans hu.lock
    · rw [hseat.1, hseat.2.1, ho, hn]
    · rw [hseat.2.2, noted, noted, ho]
  | @landed cycle begun result u calls outcome he hcalls =>
    have hu := he.calm
    have hv := h.serving ha rfl
    have hc := (hv.applyResult result).calm hu
    rw [applyResult_frame] at hu
    refine .landed outcome (h.stages_eq ha rfl) hv.holder
      (hc.next calls (callbacks_of_landed hcalls) rfl).1 ?_ ?_ ?_
    · exact hu.lock
    · exact hu.quiet.seat
    · exact hu.journal
  | @ended cycle outcome _ he =>
    have hv := he.calm
    have hs := h.serving ha rfl
    have hf := release_frame { w with agenda := rest } cycle.origin
    refine .ended (h.stages_eq ha rfl) hs.holder ?_ ?_ ?_ ?_
    · rw [hv.quiet.stages (hs.release _).linked, stages_release hs, hv.lock]
    · rw [hv.lock, line_release]
    · rw [hv.quiet.seat, hf]
    · have hj := hv.journal
      rw [hf] at hj
      exact hj

end System

end Freshness
