import Freshness.Proofs.Coordinator.Effects

/-!
# What one task does to the cycles

* `Task.origin?` : what may ask for a cycle when the task is done;
* `System.skips`, `System.brings` : the cycle that enters now does not fetch; what it brings if it does;
* `System.Course` : what a task does, with one case for each step in the life of a cycle and one for
  all that leaves the cycles alone;
* `System.ask_frame` and the like : what the stages of a cycle leave as it is;
* `System.course_perform` : every task takes one of these courses.
-/

namespace Freshness

variable {α : Type}

def Task.origin? : Task α → Option Origin
  | .start caller call => some (.call caller call)
  | .refreshDue _ => some .timer
  | .cooldownOver _ => some .cooldown
  | .deed _ | .hear _ | .enter _ | .fetched _ _ _ | .conclude _ _ => none

theorem Task.isStage_of_origin? {task : Task α} {origin : Origin}
    (h : task.origin? = some origin) : task.isStage = false := by
  cases task <;> first | rfl | cases h

theorem Task.origin?_of_isCallback {task : Task α} (h : task.isCallback = true) :
    task.origin? = none := by
  cases task <;> first | rfl | cases h

theorem Task.isStage_of_isCallback {task : Task α} (h : task.isCallback = true) :
    task.isStage = false := by
  cases task <;> first | rfl | simp [Task.isCallback] at h

namespace System

/-- The cycle does not fetch if it enters now. -/
def skips (w : System α) (cycle : Cycle) : Bool :=
  w.shutDown || (cycle.origin.manner.isScheduled && w.hostStopping)

/-- What a fetch that begins now brings. -/
def brings (w : System α) : Except Fault α :=
  match w.source with
  | none => .error .missingSource
  | some source => source.next.1.outcome.2

def noted (w : System α) (e : Event α) : List (Event α) := if w.source.isSome then [e] else []

/-- What a task does to a system that has it no longer on its agenda. -/
inductive Course [BEq α] (w : System α) : Task α → System α → Prop where
  | quiet {task : Task α} {v : System α} : task.isStage = false → Effects w v → Course w task v
  | asked {task : Task α} {u : System α} (origin : Origin) : task.origin? = some origin →
    Stirs w u → Course w task (u.ask origin)
  | skipped {cycle : Cycle} {u : System α} : w.skips cycle = true → Stirs w u →
    Course w (.enter cycle) (u.next [.conclude cycle (.ok w.health)])
  | began {cycle : Cycle} {u : System α} : w.skips cycle = false → Stirs w u →
    Course w (.enter cycle) (u.beginFetch cycle)
  /-- The listeners that are registered now are told, or nobody is. -/
  | landed {cycle : Cycle} {begun : Nat} {result : Except Fault α} {u : System α}
      (calls : List (Task α)) (outcome : Except Refusal Health) :
    Stirs (w.applyResult cycle result).1 u →
    (calls = [] ∨ calls = w.roster.snapshot.map .hear) →
    Course w (.fetched cycle begun result) (u.next (calls ++ [.conclude cycle outcome]))
  | ended {cycle : Cycle} {outcome : Except Refusal Health} {v : System α} :
    Stirs (w.release cycle.origin) v → Course w (.conclude cycle outcome) v

/-! ## What the stages of a cycle leave alone -/

theorem ask_frame (w : System α) (origin : Origin) :
    w.ask origin = { w with serial := w.serial + 1, lock := (w.ask origin).lock
                            agenda := (w.ask origin).agenda } := by
  unfold ask
  dsimp only
  split <;> rfl

theorem beginFetch_frame (w : System α) (cycle : Cycle) :
    w.beginFetch cycle = { w with source := (w.beginFetch cycle).source
                                  timers := (w.beginFetch cycle).timers
                                  agenda := (w.beginFetch cycle).agenda
                                  journal := (w.beginFetch cycle).journal } := by
  unfold beginFetch
  split
  · rfl
  · dsimp only
    split <;> rfl

theorem release_frame (w : System α) (releaser : Origin) :
    w.release releaser = { w with lock := (w.release releaser).lock
                                  timers := (w.release releaser).timers
                                  agenda := (w.release releaser).agenda
                                  resuming := (w.release releaser).resuming } := by
  unfold release resume
  split
  · rfl
  split
  · rfl
  split <;> rfl

theorem applyResult_frame [BEq α] (w : System α) (cycle : Cycle) (result : Except Fault α) :
    (w.applyResult cycle result).1 =
      { w with standing := (w.standing.apply result (w.now / 1000 : Nat)).1
               journal := w.noted (.fetchEnded cycle.serial) ++ w.journal } := by
  unfold applyResult noted
  dsimp only
  split <;> rfl

/-! ## What is on the agenda stays there -/

theorem suffix_ask (w : System α) (origin : Origin) : w.agenda <:+ (w.ask origin).agenda := by
  unfold ask
  dsimp only
  split
  · exact List.suffix_cons ..
  · exact List.suffix_refl _

theorem suffix_beginFetch (w : System α) (cycle : Cycle) :
    w.agenda <:+ (w.beginFetch cycle).agenda := by
  unfold beginFetch
  split
  · exact List.suffix_cons ..
  · dsimp only
    split
    · exact List.suffix_cons ..
    · exact List.suffix_refl _

theorem suffix_release (w : System α) (releaser : Origin) :
    w.agenda <:+ (w.release releaser).agenda := by
  unfold release resume
  split
  · exact List.suffix_refl _
  split
  · exact List.suffix_refl _
  split
  · exact List.suffix_cons ..
  · exact List.suffix_refl _

variable [BEq α]

/-! ## Triggers -/

theorem course_start (w : System α) (caller : Caller) (call : Call) :
    Course w (.start caller call) (w.start caller call) := by
  cases call with
  | request =>
    simp only [start]
    have hl : Stirs w _ := (Stir.request (w := w)).stirs.trans (told_logAny _
      ((w.debounce.request w.timers .cooldownOver).1.notice w.debounce.name)).stirs
    split
    · exact .asked _ rfl hl
    · exact .quiet rfl (hl.effects.trans (told_breakOff _ _).effects)
    · exact .quiet rfl (hl.effects.trans (told_answer _ _ _).effects)
  | refresh | first | interval => exact .asked _ rfl .refl

theorem course_refreshDue (w : System α) (generation : Nat) :
    Course w (.refreshDue generation) (w.refreshDue generation) := by
  have hs := Stir.refreshDue (w := w) generation
  unfold refreshDue
  split
  · dsimp only
    split
    · exact .asked _ rfl hs.stirs
    · exact .quiet rfl hs.effects
  · exact .quiet rfl .refl

theorem course_cooldownOver (w : System α) (generation : Nat) :
    Course w (.cooldownOver generation) (w.cooldownOver generation) := by
  have hd := Stir.cooldownOver (w := w) generation
  unfold cooldownOver
  split
  · dsimp only
    split
    · exact .asked _ rfl hd.stirs
    · exact .quiet rfl hd.effects
  · exact .quiet rfl .refl

/-! ## Stages -/

theorem course_enter (w : System α) (cycle : Cycle) :
    Course w (.enter cycle) (w.enter cycle) := by
  have hs := (Stir.standDown (w := w)).stirs
  unfold enter
  dsimp only
  split
  · next hd =>
    have hd' : w.shutDown = true := hd
    refine .skipped ?_ (hs.trans (told_log _ _).stirs)
    simp [skips, hd']
  split
  · next hh =>
    have hh' : (cycle.origin.manner.isScheduled && w.hostStopping) = true := hh
    refine .skipped ?_ (hs.trans (told_log _ _).stirs)
    simp only [skips, hh', Bool.or_true]
  · next hd hh =>
    have hd' : ¬w.shutDown = true := hd
    have hh' : ¬(cycle.origin.manner.isScheduled && w.hostStopping) = true := hh
    refine .began ?_ hs
    simp only [skips, Bool.eq_false_iff.2 hd', Bool.eq_false_iff.2 hh', Bool.or_false]

theorem course_followUp {w u : System α} {cycle : Cycle} {begun : Nat} {result : Except Fault α}
    (hu : Stirs (w.applyResult cycle result).1 u) (verdict : Verdict) (fault : Option Fault)
    (health : Health) :
    Course w (.fetched cycle begun result) (u.followUp cycle verdict fault health) := by
  have hr : ∀ {v : System α}, Stirs (w.applyResult cycle result).1 v →
      Course w (.fetched cycle begun result) ((v.next [.conclude cycle (.ok health)]).notify) := by
    intro v hv
    have hc : v.roster = w.roster := by rw [hv.calm.roster, applyResult_frame]
    have h : Course w (.fetched cycle begun result)
        (v.next (v.roster.snapshot.map .hear ++ [.conclude cycle (.ok health)])) :=
      .landed _ _ hv (.inr (by rw [hc]))
    simpa [notify, next] using h
  have hs : Stirs (w.applyResult cycle result).1
      (if verdict.reschedule then u.scheduleRefresh else u) := by
    split
    · exact hu.tail .scheduleRefresh
    · exact hu
  unfold followUp
  dsimp only
  split
  · exact .landed [] _ hs (.inl rfl)
  · split
    · exact hr hs
    · exact .landed [] _ hs (.inl rfl)

/-- After the result has been applied nothing but logs and the refresh timer comes before the
listeners. -/
theorem course_fetched (w : System α) (cycle : Cycle) (begun : Nat) (result : Except Fault α) :
    Course w (.fetched cycle begun result) (w.fetched cycle begun result) := by
  unfold fetched
  dsimp only
  refine course_followUp ?_ _ _ _
  refine .trans ?_ (told_log _ _).stirs
  split
  · exact (told_logReport _ _ _ _).stirs.trans (told_askForCredentials _).stirs
  · exact (told_logReport _ _ _ _).stirs

/-- When the fetch has ended, what is known of the source is what its result says. -/
theorem standing_fetched (w : System α) (cycle : Cycle) (begun : Nat) (result : Except Fault α) :
    (w.fetched cycle begun result).standing =
      (w.standing.apply result (w.now / 1000 : Nat)).1 := by
  have h := course_fetched w cycle begun result
  generalize w.fetched cycle begun result = v at h
  cases h with
  | quiet hs => cases hs
  | asked _ ht => cases ht
  | landed calls outcome hu => exact hu.calm.standing.trans (by rw [applyResult_frame])

theorem course_conclude (w : System α) (cycle : Cycle) (outcome : Except Refusal Health) :
    Course w (.conclude cycle outcome) (w.conclude cycle outcome) :=
  .ended (stirs_returnTo _ _ _)

/-- Every task takes one of the courses. -/
theorem course_perform (w : System α) (task : Task α) : Course w task (w.perform task) := by
  cases task with
  | deed deed => exact .quiet rfl (effects_carryOut w deed)
  | hear callback => exact .quiet rfl (effects_hear w callback)
  | start caller call => exact course_start w caller call
  | enter cycle => exact course_enter w cycle
  | fetched cycle begun result => exact course_fetched w cycle begun result
  | conclude cycle outcome => exact course_conclude w cycle outcome
  | refreshDue generation => exact course_refreshDue w generation
  | cooldownOver generation => exact course_cooldownOver w generation

theorem suffix_perform (w : System α) (task : Task α) :
    w.agenda <:+ (w.perform task).agenda := by
  have hc := course_perform w task
  generalize w.perform task = v at hc
  cases hc with
  | quiet _ hv =>
    obtain ⟨calls, -, ha⟩ := hv.quiet.agenda
    exact ⟨calls, ha.symm⟩
  | asked origin _ hu => exact hu.calm.agenda ▸ suffix_ask _ origin
  | skipped _ hu => exact hu.calm.agenda ▸ List.suffix_cons ..
  | began _ hu => exact hu.calm.agenda ▸ suffix_beginFetch _ _
  | landed calls outcome hu _ =>
    have ha := hu.calm.agenda
    rw [applyResult_frame] at ha
    exact ha ▸ List.suffix_append ..
  | ended hv => exact hv.calm.agenda ▸ suffix_release w _

end System

end Freshness
