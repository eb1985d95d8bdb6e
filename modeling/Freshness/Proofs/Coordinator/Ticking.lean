import Freshness.Proofs.Coordinator.Orderly

/-!
# The job of the refresh timer

* `System.Ticking` : as long as somebody holds the coordinator, the job of an armed refresh timer
  waits for its time, or it has just fired;
* `System.tends_perform` : no task takes the job from an armed timer;
* `Reachable.ticking` : so it is in every run.
-/

namespace Freshness.System

variable {α : Type}

/-- An armed refresh timer has its job. Once the coordinator is gone, a job that fires does
nothing. -/
def Ticking (w : System α) : Prop :=
  w.held = true → ∀ a, w.schedule.armed = some a →
    w.clocks.Ticks a ∨ .refreshDue a.generation ∈ w.agenda

/-! ## Prompts -/

theorem ticks_take {w : System α} (hl : w.clocks.Linked) {a : Schedule.Armed} {t : Timer (Task α)}
    (ht : t ∈ w.timers.waiting) (h : w.clocks.Ticks a) :
    (w.timers.take t).Holds a.handle (.refreshDue a.generation) ∨
      t.job = .refreshDue a.generation := by
  obtain ⟨u, hu, hid, hjob⟩ := h
  have hs : w.timers.Sound := hl.timers
  have hu' : u ∈ w.timers.waiting := hu
  by_cases he : u.id = t.id
  · refine .inr ?_
    rw [← hs.eq_of_id hu' ht he]
    exact hjob
  · refine .inl ⟨u, Timers.mem_cancel.2 ⟨hu', ?_⟩, hid, hjob⟩
    intro h
    exact he (Option.some.inj h).symm

theorem ticking_prompt {w v : System α} (hl : w.clocks.Linked) (h : w.Ticking) (hp : Prompt w v) :
    v.Ticking := by
  intro hh a ha
  cases hp with
  | fire t hn ht =>
    rcases h hh a ha with hk | hk
    · rcases ticks_take hl ht hk with hk | hj
      · exact .inl hk
      · exact .inr (by simp [hj])
    · rw [hn] at hk
      cases hk
  | resume _ hn | deed _ hn | calls _ hn | wait _ hn =>
    rcases h hh a ha with hk | hk
    · exact .inl hk
    · rw [hn] at hk
      cases hk
  | meddle deed =>
    rcases h hh a ha with hk | hk
    · exact .inl hk
    · exact .inr (List.mem_cons_of_mem _ hk)

/-! ## Tasks -/

theorem tends_beginFetch {w : System α} (hl : w.clocks.Linked) (cycle : Cycle) :
    Clocks.Tends w.clocks (w.beginFetch cycle).clocks := by
  unfold beginFetch
  split
  · exact .refl _
  · dsimp only
    split
    · exact .refl _
    · exact Clocks.tends_schedule hl _ _

theorem tends_release {w : System α} (hl : w.clocks.Linked) (releaser : Origin) :
    Clocks.Tends w.clocks (w.release releaser).clocks ∧ (w.release releaser).clocks.Linked := by
  unfold release resume
  split
  · exact ⟨.refl _, hl⟩
  split
  · exact ⟨Clocks.tends_schedule hl _ _, hl.schedule_job _ _⟩
  split
  · exact ⟨.refl _, hl⟩
  · exact ⟨.refl _, hl⟩

theorem armed_refreshDue {w : System α} (hh : w.held = true) {generation : Nat}
    {a : Schedule.Armed} (ha : (w.refreshDue generation).schedule.armed = some a) :
    a.generation ≠ generation := by
  have hal : w.alive = true := by simp [alive, hh]
  unfold refreshDue Schedule.takeFired at ha
  rw [if_pos hal] at ha
  cases hg : w.schedule.armed.any (·.generation == generation) with
  | true =>
    rw [hg] at ha
    have hs : ({ w with schedule := { w.schedule with armed := none } }.ask .timer).schedule.armed =
        none := by rw [ask_frame]
    cases hs.symm.trans ha
  | false =>
    rw [hg] at ha
    have hs : w.schedule.armed = some a := ha
    rw [hs] at hg
    simpa using hg

variable [BEq α]

/-- No task takes the job from an armed timer, and none gives the handle back. -/
theorem tends_perform {w : System α} (hl : w.clocks.Linked) (task : Task α) :
    Clocks.Tends w.clocks (w.perform task).clocks ∧
      ((w.perform task).held = true → w.held = true) := by
  have hc := course_perform w task
  generalize w.perform task = v at hc
  cases hc with
  | quiet _ he => exact ⟨(he.quiet.clocks hl).ticks, he.quiet.held⟩
  | @asked _ u origin _ hs =>
    have hu := hs.calm
    rw [ask_frame]
    exact ⟨(hu.clocks hl).ticks, hu.quiet.held⟩
  | skipped _ hs => exact ⟨(hs.calm.clocks hl).ticks, hs.calm.quiet.held⟩
  | @began cycle u _ hs =>
    have hu := hs.calm
    refine ⟨(hu.clocks hl).ticks.trans (tends_beginFetch (hu.quiet.linked hl) cycle), ?_⟩
    rw [beginFetch_frame]
    exact hu.quiet.held
  | @landed cycle _ result u calls outcome hs _ =>
    have hu := hs.calm
    rw [applyResult_frame] at hu
    exact ⟨(hu.clocks hl).ticks, hu.quiet.held⟩
  | @ended cycle _ _ he =>
    have hv := he.calm
    obtain ⟨hk, hl'⟩ := tends_release hl cycle.origin
    have hq := hv.quiet.held
    rw [release_frame] at hq
    exact ⟨hk.trans (hv.clocks hl').ticks, hq⟩

theorem ticking_perform {w : System α} {task : Task α} {rest : List (Task α)}
    (hl : w.clocks.Linked) (ha : w.agenda = task :: rest) (h : w.Ticking) :
    ({ w with agenda := rest }.perform task).Ticking := by
  intro hv a hva
  obtain ⟨ht, hh⟩ := tends_perform (w := { w with agenda := rest }) hl task
  have hw : w.held = true := hh hv
  rcases ht a hva with hk | ⟨hwa, hk⟩
  · exact .inl hk
  rcases h hw a hwa with hn | hn
  · exact .inl (hk hn)
  rw [ha] at hn
  rcases List.mem_cons.1 hn with rfl | hn
  · have hg : ({ w with agenda := rest }.refreshDue a.generation).schedule.armed = some a := hva
    exact absurd rfl (armed_refreshDue (w := { w with agenda := rest }) hw hg)
  · exact .inr ((suffix_perform { w with agenda := rest } task).subset hn)

/-- The job of an armed refresh timer waits, or it has just fired. -/
theorem Reachable.ticking {w : System α} (h : Reachable w) : w.Ticking := by
  obtain ⟨p, jitter, now, hm⟩ := h
  have hinv : Orderly w ∧ w.Ticking := by
    refine Moves.induct (P := fun w => Orderly w ∧ w.Ticking) (fun hp hw => ?_)
      (fun _ _ ha hw => ?_) hm ⟨orderly_system p jitter now, ?_⟩
    · exact ⟨orderly_prompt hw.1 hp, ticking_prompt hw.1.linked hw.2 hp⟩
    · exact ⟨orderly_perform hw.1 ha, ticking_perform hw.1.linked ha hw.2⟩
    · intro _ a ha
      cases ha
  exact hinv.2

end Freshness.System
