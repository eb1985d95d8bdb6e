import Freshness.Proofs.Coordinator.Arming
import Freshness.Proofs.Coordinator.Surfacing

/-!
# When the refresh timer fires

* `System.mem_agenda_perform` : only callbacks and stages of cycles come to the agenda;
* `Turn.arms?`, `Turn.fires?` : the timer that a turn arms, and the armed one whose time has come;
* `System.Slated`, `System.Slates` : every job of the refresh timer is that of the armed timer or of
  none, and has been entered for its deadline, or for the instant of arming if that is later;
* `System.Fires`, `Run.slates` : so every timer that fires is due; `Run.armed_by`, `Run.stays` : the
  turn that armed it comes before, and no timer fires in between.
-/

namespace Freshness.System

variable {α : Type}

/-! ## The agenda -/

/-- Stages of cycles have been put in front of the agenda, or nothing has. -/
def Furthers (w v : System α) : Prop :=
  ∃ tasks : List (Task α), (∀ x ∈ tasks, x.isStage = true) ∧ v.agenda = tasks ++ w.agenda

theorem furthers_ask (w : System α) (origin : Origin) : Furthers w (w.ask origin) := by
  unfold ask
  dsimp only
  split
  · exact ⟨[.enter ⟨w.serial, origin⟩], by simp [Task.isStage, Task.cycle?], rfl⟩
  · exact ⟨[], by simp, rfl⟩

theorem furthers_beginFetch (w : System α) (cycle : Cycle) : Furthers w (w.beginFetch cycle) := by
  unfold beginFetch
  split
  · exact ⟨[.fetched cycle w.now (.error .missingSource)], by simp [Task.isStage, Task.cycle?],
      rfl⟩
  · next source _ =>
    dsimp only
    split
    · exact ⟨[.fetched cycle w.now source.next.1.outcome.2], by simp [Task.isStage, Task.cycle?],
        rfl⟩
    · exact ⟨[], by simp, rfl⟩

theorem furthers_release (w : System α) (releaser : Origin) : Furthers w (w.release releaser) := by
  unfold release resume
  split
  · exact ⟨[], by simp, rfl⟩
  · next cycle waiting _ =>
    split
    · exact ⟨[], by simp, rfl⟩
    split
    · exact ⟨[.enter cycle], by simp [Task.isStage, Task.cycle?], rfl⟩
    · exact ⟨[], by simp, rfl⟩

/-- Only callbacks and stages of cycles come to the agenda. -/
theorem mem_agenda_perform [BEq α] {w : System α} {task x : Task α}
    (h : x ∈ (w.perform task).agenda) :
    x ∈ w.agenda ∨ x.isCallback = true ∨ x.isStage = true := by
  have hs : ∀ {u v : System α}, u.agenda = w.agenda → Furthers u v → x ∈ v.agenda →
      x ∈ w.agenda ∨ x.isCallback = true ∨ x.isStage = true := by
    rintro u v hu ⟨tasks, ht, ha⟩ hx
    rw [ha, hu] at hx
    rcases List.mem_append.1 hx with hx | hx
    · exact .inr (.inr (ht x hx))
    · exact .inl hx
  have hc := course_perform w task
  generalize w.perform task = v at hc h
  cases hc with
  | quiet _ hv =>
    obtain ⟨calls, hc, ha⟩ := hv.quiet.agenda
    rw [ha] at h
    rcases List.mem_append.1 h with hx | hx
    · exact .inr (.inl (hc x hx))
    · exact .inl hx
  | asked origin _ hu => exact hs hu.calm.agenda (furthers_ask _ origin) h
  | skipped _ hu =>
    exact hs hu.calm.agenda ⟨[.conclude _ _], by simp [Task.isStage, Task.cycle?], rfl⟩ h
  | began _ hu => exact hs hu.calm.agenda (furthers_beginFetch _ _) h
  | @landed cycle _ result u calls outcome hu hcalls =>
    have ha := hu.calm.agenda
    rw [applyResult_frame] at ha
    have hx : x ∈ (calls ++ [.conclude cycle outcome]) ++ w.agenda := by
      rw [← ha]
      exact h
    rcases List.mem_append.1 hx with hx | hx
    · rcases List.mem_append.1 hx with hx | hx
      · exact .inr (.inl (callbacks_of_landed hcalls x hx))
      · obtain rfl := List.mem_singleton.1 hx
        exact .inr (.inr rfl)
    · exact .inl hx
  | ended hv =>
    have ha := hv.calm.agenda
    rw [ha] at h
    exact hs rfl (furthers_release _ _) h

/-! ## The jobs of the refresh timer -/

/-- A job for the timer of that generation, due at `time`, is that of the armed timer or of none. It
has been entered for its deadline, or for the instant of arming if that is later. -/
structure Slated (s : Schedule) (generation time : Nat) : Prop where
  known : generation ≤ s.generation
  due : ∀ a, s.armed = some a → a.generation = generation → ∃ now interval, s.origin ≤ now ∧
    a.deadline = s.deadlineAt now interval ∧ time = max now a.deadline

/-- Every job of the refresh timer is that of the armed timer or of none; the time when one on the
agenda was due has the relation `R` to the present. -/
structure Slates (R : Nat → Nat → Prop) (w : System α) : Prop where
  origin : w.schedule.origin ≤ w.now
  current : ∀ a, w.schedule.armed = some a → a.generation = w.schedule.generation
  waiting : ∀ u ∈ w.timers.waiting, ∀ g, u.job = .refreshDue g → Slated w.schedule g u.deadline
  agenda : ∀ g, .refreshDue g ∈ w.agenda → ∃ time, R time w.now ∧ Slated w.schedule g time

variable {R : Nat → Nat → Prop}

theorem slates_system (p : Plan α) (jitter : Duration) (now : Nat) :
    Slates R (p.system jitter now) :=
  ⟨Nat.le_refl now, fun _ ha => (nomatch ha), fun _ hu => (nomatch hu), fun _ hg => (nomatch hg)⟩

theorem now_prompt {w v : System α} (h : Prompt w v) : w.now ≤ v.now := by
  cases h with
  | wait time => exact Nat.le_max_left ..
  | fire t => exact Nat.le_of_eq (Timers.now_cancel _ _).symm
  | resume | deed | calls | meddle => exact Nat.le_refl _

theorem schedule_prompt {w v : System α} (h : Prompt w v) : v.schedule = w.schedule := by
  cases h <;> rfl

theorem Slates.prompt {w v : System α} (h : Slates R w) (hp : Prompt w v)
    (hR : ∀ u ∈ w.timers.waiting, u.deadline ≤ w.now → R u.deadline w.now) : Slates R v := by
  refine ⟨?_, ?_, ?_, ?_⟩
  · rw [schedule_prompt hp]
    exact Nat.le_trans h.origin (now_prompt hp)
  · rw [schedule_prompt hp]
    exact h.current
  · rw [schedule_prompt hp]
    cases hp with
    | fire t => exact fun u hu => h.waiting u (Timers.mem_cancel.1 hu).1
    | resume | wait | deed | calls | meddle => exact h.waiting
  · rw [schedule_prompt hp]
    intro g hg
    cases hp with
    | fire t ha ht hd =>
      have hn : (w.timers.take t).now = w.now := Timers.now_cancel _ _
      refine ⟨t.deadline, ?_, h.waiting t ht g (List.mem_singleton.1 hg).symm⟩
      show R t.deadline (w.timers.take t).now
      rw [hn]
      exact hR t ht hd
    | resume | deed => simp at hg
    | calls calls => simp at hg
    | wait time ha =>
      rw [ha] at hg
      cases hg
    | meddle deed => exact h.agenda g (by simpa using hg)

theorem Slated.sets {c c' : Clocks α} (hs : c.Sets c') {g time : Nat}
    (h : Slated c.schedule g time) : Slated c'.schedule g time := by
  refine ⟨Nat.le_trans h.known hs.generation, fun a ha hg => ?_⟩
  rcases hs.armed a ha with ⟨ha', -⟩ | ⟨hlt, -⟩
  · obtain ⟨now, interval, ho, hdl, ht⟩ := h.due a ha' hg
    exact ⟨now, interval, hs.origin ▸ ho, hdl.trans (hs.deadlineAt now interval).symm, ht⟩
  · have := h.known
    omega

/-! ## Timers that fire -/

/-- The armed timer whose time has come. -/
def Turn.fires? (t : Turn α) : Option Schedule.Armed :=
  match t.task with
  | .refreshDue generation =>
    if t.before.alive then t.before.schedule.armed.filter (·.generation == generation) else none
  | _ => none

theorem Turn.fires_iff {t : Turn α} {a : Schedule.Armed} : t.fires? = some a ↔
    t.task = .refreshDue a.generation ∧ t.before.alive = true ∧
      t.before.schedule.armed = some a := by
  unfold Turn.fires?
  split
  · next generation ht =>
    rw [ht]
    split
    · next hal =>
      rw [Option.filter_eq_some_iff, beq_iff_eq]
      constructor
      · rintro ⟨ha, rfl⟩
        exact ⟨rfl, hal, ha⟩
      · rintro ⟨hg, -, ha⟩
        exact ⟨ha, (Task.refreshDue.inj hg).symm⟩
    · next hal => simp [hal]
  · next ht =>
    constructor
    · rintro ⟨⟩
    · rintro ⟨hg, -⟩
      exact absurd hg (ht _)

theorem Turn.armed_of_fires {t : Turn α} {u : System α} {rest : List (Task α)}
    (hb : t.before = { u with agenda := rest }) {a : Schedule.Armed} (h : t.fires? = some a) :
    u.schedule.armed = some a := by
  have ha := (Turn.fires_iff.1 h).2.2
  rwa [hb] at ha

/-- A timer that fires has been entered for its deadline, or for the instant of arming if that is
later. -/
theorem Slates.fires {w : System α} (h : Slates R w) {t : Turn α} {rest : List (Task α)}
    (ha : w.agenda = t.task :: rest) (hb : t.before = { w with agenda := rest })
    {a : Schedule.Armed} (hf : t.fires? = some a) :
    ∃ now interval, t.before.schedule.origin ≤ now ∧
      a.deadline = t.before.schedule.deadlineAt now interval ∧
      R (max now a.deadline) t.before.now := by
  obtain ⟨ht, -, hw⟩ := Turn.fires_iff.1 hf
  rw [hb] at hw ⊢
  obtain ⟨time, hR, hs⟩ := h.agenda a.generation (by rw [ha, ht]; exact List.mem_cons_self)
  obtain ⟨now, interval, ho, hd, rfl⟩ := hs.due a hw rfl
  exact ⟨now, interval, ho, hd, hR⟩

/-- Whenever a timer fires, it has been entered for its deadline, or for the instant of arming if that
is later; that time has the relation `R` to the present. -/
def Fires (R : Nat → Nat → Prop) (turns : List (Turn α)) : Prop :=
  ∀ t ∈ turns, ∀ a, t.fires? = some a → ∃ now interval, t.before.schedule.origin ≤ now ∧
    a.deadline = t.before.schedule.deadlineAt now interval ∧ R (max now a.deadline) t.before.now

variable [BEq α]

theorem Turn.after_eq_of_fires {t : Turn α} {a : Schedule.Armed} (h : t.fires? = some a) :
    t.after = ({ t.before with
      schedule := { t.before.schedule with armed := none } } : System α).ask .timer := by
  obtain ⟨ht, hal, ha⟩ := Turn.fires_iff.1 h
  have hf : t.before.schedule.takeFired a.generation =
      (true, { t.before.schedule with armed := none }) := by
    simp [Schedule.takeFired, ha]
  rw [Turn.after_eq ht]
  show t.before.refreshDue a.generation = _
  rw [refreshDue, if_pos hal, hf]
  rfl

/-- A timer that fires is armed no longer, and its turn asks for a cycle. -/
theorem Turn.after_of_fires {t : Turn α} {a : Schedule.Armed} (h : t.fires? = some a) :
    t.after.schedule.armed = none ∧ t.after.serial = t.before.serial + 1 := by
  rw [Turn.after_eq_of_fires h, ask_frame]
  exact ⟨rfl, rfl⟩

/-! ## Timers that are armed -/

def Turn.arms? (t : Turn α) : Option Schedule.Armed :=
  if t.after.schedule.generation = t.before.schedule.generation then none
  else t.after.schedule.armed

theorem Turn.sets (t : Turn α) : t.before.clocks.Sets t.after.clocks := sets_perform t.before t.task

theorem Turn.deadline_of_arms {t : Turn α} {a : Schedule.Armed} (h : t.arms? = some a) :
    ∃ interval, t.before.schedule.interval = some interval ∧
      a.deadline = t.before.schedule.deadlineAt t.before.now interval := by
  unfold Turn.arms? at h
  split at h
  · cases h
  · next hg =>
    rcases t.sets.armed a h with ⟨-, hg'⟩ | ⟨-, -, hr⟩
    · exact absurd hg' hg
    · exact hr

theorem Turn.armed_after {t : Turn α} {a : Schedule.Armed} (h : t.after.schedule.armed = some a) :
    t.before.schedule.armed = some a ∨ t.arms? = some a := by
  rcases t.sets.armed a h with ⟨ha, -⟩ | ⟨hlt, hg, -⟩
  · exact .inl ha
  · refine .inr ?_
    have hne : t.after.schedule.generation ≠ t.before.schedule.generation := by
      have hlt' : t.before.schedule.generation < a.generation := hlt
      have hg' : a.generation = t.after.schedule.generation := hg
      omega
    rw [Turn.arms?, if_neg hne, h]

theorem Slates.perform {w : System α} {task : Task α} {rest : List (Task α)} (h : Slates R w)
    (ha : w.agenda = task :: rest) : Slates R ({ w with agenda := rest }.perform task) := by
  have hs := sets_perform { w with agenda := rest } task
  have hm : ∀ x ∈ (({ w with agenda := rest } : System α).perform task).agenda,
      x ∈ rest ∨ x.isCallback = true ∨ x.isStage = true := fun _ => mem_agenda_perform
  generalize ({ w with agenda := rest } : System α).perform task = v at hs hm
  have hn : v.now = w.now := hs.now
  have ho : v.schedule.origin = w.schedule.origin := hs.origin
  refine ⟨ho ▸ hn ▸ h.origin, fun a hva => ?_, fun u hu g hg => ?_, fun g hg => ?_⟩
  · rcases hs.armed a hva with ⟨hwa, hg⟩ | ⟨-, hg, -⟩
    · exact (h.current a hwa).trans hg.symm
    · exact hg
  · rcases hs.jobs u hu with hu | ⟨-, hj⟩
    · exact (h.waiting u hu g hg).sets hs
    · obtain ⟨hlt, hle, hdl⟩ := hj g hg
      refine ⟨hle, fun a hva hag => ?_⟩
      rcases hs.armed a hva with ⟨hwa, -⟩ | ⟨-, -, interval, -, hd⟩
      · have : a.generation = w.schedule.generation := h.current a hwa
        have hlt' : w.schedule.generation < g := hlt
        omega
      · exact ⟨w.now, interval, ho ▸ h.origin, hd.trans (hs.deadlineAt w.now interval).symm,
          hdl a hva hag⟩
  · rcases hm _ hg with hg | hg | hg
    · obtain ⟨time, hR, hsl⟩ := h.agenda g (ha ▸ List.mem_cons_of_mem task hg)
      exact ⟨time, hn ▸ hR, Slated.sets hs hsl⟩
    · cases hg
    · cases hg

theorem Slates.work {w : System α} {task : Task α} {rest : List (Task α)} {turns : List (Turn α)}
    (h : Slates R w) (hf : Fires R turns) (ha : w.agenda = task :: rest) :
    Slates R ({ w with agenda := rest }.perform task) ∧
      Fires R (turns ++ [⟨task, { w with agenda := rest }⟩]) := by
  refine ⟨h.perform ha, fun t ht a hta => ?_⟩
  rcases List.mem_append.1 ht with ht | ht
  · exact hf t ht a hta
  · obtain rfl := List.mem_singleton.1 ht
    exact h.fires ha rfl hta

/-! ## Runs -/

/-- Every timer that fires is due. -/
theorem Run.slates {p : Plan α} {jitter : Duration} {now : Nat} {turns : List (Turn α)}
    {v : System α} (h : Run (p.system jitter now) turns v) : Slates (· ≤ ·) v ∧ Fires (· ≤ ·) turns := by
  induction h with
  | rest => exact ⟨slates_system p jitter now, fun _ ht => (nomatch ht)⟩
  | prompt _ hp ih => exact ⟨ih.1.prompt hp fun _ _ => id, ih.2⟩
  | work task rest _ ha ih => exact ih.1.work ih.2 ha

theorem Run.now_le {w v : System α} {turns : List (Turn α)} (h : Run w turns v) :
    w.now ≤ v.now := by
  induction h with
  | rest => exact Nat.le_refl _
  | prompt _ hp ih => exact Nat.le_trans ih (now_prompt hp)
  | @work turns u task rest _ _ ih =>
    exact Nat.le_trans ih (Nat.le_of_eq (sets_perform { u with agenda := rest } task).now.symm)

theorem Run.grid {w v : System α} {turns : List (Turn α)} (h : Run w turns v) :
    v.schedule.origin = w.schedule.origin ∧ v.schedule.jitter = w.schedule.jitter := by
  induction h with
  | rest => exact ⟨rfl, rfl⟩
  | prompt _ hp ih => rwa [schedule_prompt hp]
  | @work _ u task rest _ _ ih =>
    have hs := sets_perform { u with agenda := rest } task
    exact ⟨hs.origin.trans ih.1, hs.jitter.trans ih.2⟩

theorem Run.armed_by {w v : System α} {turns : List (Turn α)} (h : Run w turns v)
    {a : Schedule.Armed} (ha : v.schedule.armed = some a) :
    w.schedule.armed = some a ∨ ∃ before e after, turns = before ++ e :: after ∧
      e.arms? = some a := by
  induction h with
  | rest => exact .inl ha
  | prompt _ hp ih =>
    rw [schedule_prompt hp] at ha
    exact ih ha
  | @work turns u task rest _ _ ih =>
    have ht : (⟨task, { u with agenda := rest }⟩ : Turn α).after.schedule.armed = some a := ha
    rcases Turn.armed_after ht with hu | he
    · refine (ih hu).imp_right ?_
      rintro ⟨before, e, after, rfl, he⟩
      exact ⟨before, e, after ++ [⟨task, { u with agenda := rest }⟩], by simp, he⟩
    · exact .inr ⟨turns, _, [], rfl, he⟩

theorem Run.armed_before {p : Plan α} {jitter : Duration} {now : Nat}
    {before after : List (Turn α)} {f : Turn α} {v : System α}
    (h : Run (p.system jitter now) (before ++ f :: after) v) {a : Schedule.Armed}
    (ha : f.fires? = some a) : ∃ bs e as, before = bs ++ e :: as ∧ e.arms? = some a := by
  obtain ⟨u, rest, hu, -, hb, -⟩ := h.split
  obtain hp | he := hu.armed_by (Turn.armed_of_fires hb ha)
  · cases hp
  · exact he

/-- A timer that is armed at the end of a run, and not by a turn of it, has been armed throughout. -/
theorem Run.stays {w v : System α} {turns : List (Turn α)} (h : Run w turns v)
    {a : Schedule.Armed} (ha : v.schedule.armed = some a)
    (hg : a.generation ≤ w.schedule.generation) :
    w.schedule.armed = some a ∧ ∀ t ∈ turns, t.fires? = none := by
  suffices hw : w.schedule.generation ≤ v.schedule.generation ∧
      (v.schedule.armed = some a → w.schedule.armed = some a ∧ ∀ t ∈ turns, t.fires? = none) from
    hw.2 ha
  clear ha
  induction h with
  | rest => exact ⟨Nat.le_refl _, fun ha => ⟨ha, fun _ ht => (nomatch ht)⟩⟩
  | prompt _ hp ih => rwa [schedule_prompt hp]
  | @work turns u task rest _ _ ih =>
    have hs := sets_perform { u with agenda := rest } task
    refine ⟨Nat.le_trans ih.1 hs.generation, fun ha => ?_⟩
    rcases hs.armed a ha with ⟨hu, -⟩ | ⟨hlt, -⟩
    · obtain ⟨hw, hn⟩ := ih.2 hu
      refine ⟨hw, fun t ht => ?_⟩
      rcases List.mem_append.1 ht with ht | ht
      · exact hn t ht
      · obtain rfl := List.mem_singleton.1 ht
        by_contra hf
        obtain ⟨b, hb⟩ := Option.ne_none_iff_exists'.1 hf
        cases ha.symm.trans (Turn.after_of_fires hb).1
    · have hlt' : u.schedule.generation < a.generation := hlt
      have := ih.1
      omega

theorem Run.before_le {w v : System α} {before between after : List (Turn α)} {s t : Turn α}
    (h : Run w (before ++ s :: (between ++ t :: after)) v) : s.before.now ≤ t.before.now := by
  obtain ⟨-, -, -, -, -, hs⟩ := h.split
  obtain ⟨u, rest, hu, -, hb, -⟩ := hs.split
  rw [hb]
  calc s.before.now = s.after.now := s.sets.now.symm
    _ ≤ u.now := hu.now_le

end Freshness.System
