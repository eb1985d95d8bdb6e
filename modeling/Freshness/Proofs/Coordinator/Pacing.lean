import Freshness.Proofs.Coordinator.Firing

/-!
# The refresh timer keeps its pace

* `System.Punctual`, `System.Timed` : no job waits past its time; runs in which none ever does;
* `Timed.step?`, `Timed.run?`, `Timed.advance?` : the runs that a session drives are among these;
* `System.Whole` : intervals are whole seconds; then deadlines keep to the grid (`Run.onGrid`), and on
  time a timer fires in the second of its deadline (`Timed.fires`);
* `System.Rearms`, `System.Beats` : one cycle from a timer that fires to the next timer; several,
  each within one second;
* `Timed.paced` : **jitter never adds up, and a slow fetch only puts the next refresh off**.
-/

namespace Freshness.System

variable {α : Type}

/-! ## Runs on time -/

/-- No job waits past its time. -/
def Punctual (w : System α) : Prop := ∀ u ∈ w.timers.waiting, w.now ≤ u.deadline

instance (w : System α) : Decidable w.Punctual :=
  inferInstanceAs (Decidable (∀ u ∈ w.timers.waiting, w.now ≤ u.deadline))

variable [BEq α]

/-- A run in which no job ever waits past its time. -/
inductive Timed (w : System α) : List (Turn α) → System α → Prop where
  | rest : Timed w [] w
  | prompt {turns : List (Turn α)} {u v : System α} : Timed w turns u → Prompt u v → v.Punctual →
    Timed w turns v
  | work {turns : List (Turn α)} {u : System α} (task : Task α) (rest : List (Task α)) :
    Timed w turns u → u.agenda = task :: rest →
    Timed w (turns ++ [⟨task, { u with agenda := rest }⟩]) ({ u with agenda := rest }.perform task)

theorem Timed.run {w v : System α} {turns : List (Turn α)} (h : Timed w turns v) :
    Run w turns v := by
  induction h with
  | rest => exact .rest
  | prompt _ hp _ ih => exact ih.prompt hp
  | work task rest _ ha ih => exact ih.work task rest ha

theorem punctual_perform {w : System α} (h : w.Punctual) (task : Task α) :
    (w.perform task).Punctual := by
  have hs := sets_perform w task
  have hn : (w.perform task).now = w.now := hs.now
  intro u hu
  rw [hn]
  rcases hs.jobs u hu with hu | ⟨hle, -⟩
  · exact h u hu
  · exact hle

theorem Timed.punctual {w v : System α} {turns : List (Turn α)} (h : Timed w turns v)
    (hw : w.Punctual) : v.Punctual := by
  induction h with
  | rest => exact hw
  | prompt _ _ hv => exact hv
  | @work _ u task rest _ _ ih =>
    have hu : Punctual { u with agenda := rest } := ih
    exact punctual_perform hu task

/-! ## Sessions are on time -/

theorem Timed.step? {w u v : System α} {turns : List (Turn α)} {limit : Option Nat}
    (h : Timed w turns u) (hu : u.Punctual) (hs : u.step? limit = some v) :
    ∃ more, Timed w (turns ++ more) v := by
  unfold System.step? at hs
  split at hs
  · next task rest ha =>
    obtain rfl := Option.some.inj hs
    exact ⟨_, h.work task rest ha⟩
  refine ⟨[], (List.append_nil turns).symm ▸ ?_⟩
  next ha =>
    split at hs
    · next task timers ht =>
      obtain rfl := Option.some.inj hs
      have hn := Timers.now_takeDue? ht
      obtain ⟨t, htw, rfl, -, rfl⟩ := Timers.takeDue?_eq_some ht
      have hm : Punctual { u with timers := u.timers.moveTo t.deadline } := by
        intro x hx
        have hux : u.now ≤ x.deadline := hu x hx
        have hnx := hn x hx
        rw [Timers.take, Timers.now_cancel] at hnx
        exact Nat.le_trans hnx (Nat.max_le.2 ⟨hux, Nat.le_refl _⟩)
      refine (h.prompt (.wait t.deadline ha) hm).prompt
        (.fire t ha htw (Nat.le_max_right ..)) fun x hx => ?_
      have hxm : (u.timers.moveTo t.deadline).now ≤ x.deadline :=
        hm x (Timers.mem_cancel.1 hx).1
      show ((u.timers.moveTo t.deadline).take t).now ≤ x.deadline
      rw [Timers.take, Timers.now_cancel]
      exact hxm
    · obtain ⟨cycle, hr, rfl⟩ := Option.map_eq_some_iff.1 hs
      exact h.prompt (.resume cycle ha hr) hu

/-- What a session runs is on time, and it stops at the goal or at rest. -/
theorem Timed.run? {w u v : System α} {turns : List (Turn α)} {goal : System α → Bool}
    {limit : Option Nat} (h : Timed w turns u) (hw : w.Punctual)
    (hs : u.run? goal limit = some v) :
    (∃ more, Timed w (turns ++ more) v) ∧
      ((v.agenda = [] ∧ goal v = true) ∨ v.step? limit = none) := by
  suffices hf : ∀ (fuel : Nat) (turns : List (Turn α)) (u : System α), Timed w turns u →
      Motion.run? (fun w => w.step? limit) (fun w => w.agenda.isEmpty && goal w) fuel u = some v →
      (∃ more, Timed w (turns ++ more) v) ∧
        ((v.agenda = [] ∧ goal v = true) ∨ v.step? limit = none) from hf _ turns u h hs
  intro fuel
  induction fuel with
  | zero => exact fun _ _ _ hr => by cases hr
  | succ fuel ih =>
    intro turns u h hr
    rw [Motion.run?] at hr
    split at hr
    · next hg =>
      obtain rfl := Option.some.inj hr
      obtain ⟨ha, hg⟩ := Bool.and_eq_true_iff.1 hg
      exact ⟨⟨[], (List.append_nil turns).symm ▸ h⟩, .inl ⟨List.isEmpty_iff.1 ha, hg⟩⟩
    · split at hr
      · next hn =>
        obtain rfl := Option.some.inj hr
        exact ⟨⟨[], (List.append_nil turns).symm ▸ h⟩, .inr hn⟩
      · next x hx =>
        obtain ⟨more, hm⟩ := h.step? (h.punctual hw) hx
        obtain ⟨⟨rest, hr'⟩, hv⟩ := ih _ x hm hr
        exact ⟨⟨more ++ rest, (List.append_assoc ..) ▸ hr'⟩, hv⟩

theorem rest_of_step? {w : System α} {limit : Option Nat} (h : w.step? limit = none) :
    w.agenda = [] ∧ w.timers.takeDue? limit = none := by
  unfold System.step? at h
  split at h
  · cases h
  · next ha =>
    split at h
    · cases h
    · next ht =>
      rw [Option.map_eq_none_iff.1 h] at ht
      exact ⟨ha, ht⟩

theorem Timed.advance? {w u v : System α} {turns : List (Turn α)} {span : Duration}
    (h : Timed w turns u) (hw : w.Punctual) (hs : u.advance? span = some v) :
    ∃ more, Timed w (turns ++ more) v := by
  unfold System.advance? at hs
  simp only [Option.bind_eq_bind, Option.bind_eq_some_iff, Option.some.injEq] at hs
  obtain ⟨x, hx, rfl⟩ := hs
  obtain ⟨⟨more, hm⟩, ⟨-, hg⟩ | hn⟩ := h.run? hw hx
  · cases hg
  · obtain ⟨ha, ht⟩ := rest_of_step? hn
    refine ⟨more, hm.prompt (.wait _ ha) fun y hy => ?_⟩
    exact Nat.max_le.2 ⟨hm.punctual hw y hy, Nat.le_of_lt (Timers.takeDue?_eq_none ht y hy)⟩

/-! ## Timers on time -/

theorem Timed.slates {p : Plan α} {jitter : Duration} {now : Nat} {turns : List (Turn α)}
    {v : System α} (h : Timed (p.system jitter now) turns v) :
    Slates (· = ·) v ∧ Fires (· = ·) turns := by
  have h₀ : Punctual (p.system jitter now) := fun _ hu => (nomatch hu)
  induction h with
  | rest => exact ⟨slates_system p jitter now, fun _ ht => (nomatch ht)⟩
  | prompt hr hp _ ih =>
    refine ⟨ih.1.prompt hp fun x hx hle => ?_, ih.2⟩
    exact Nat.le_antisymm hle (hr.punctual h₀ x hx)
  | work task rest _ ha ih => exact ih.1.work ih.2 ha

/-- The second, counted from the origin, that the turn falls in. -/
def Turn.second (t : Turn α) : Nat := (t.before.now - t.before.schedule.origin) / 1000000

def Whole (turns : List (Turn α)) : Prop :=
  ∀ t ∈ turns, ∀ interval ∈ t.before.schedule.interval, interval.IsWhole

instance (turns : List (Turn α)) : Decidable (Whole turns) :=
  inferInstanceAs (Decidable (∀ t ∈ turns, ∀ interval ∈ t.before.schedule.interval,
    interval.IsWhole))

section

variable {p : Plan α} {jitter : Duration} {now : Nat} {turns : List (Turn α)} {v : System α}

theorem Run.grid_at (h : Run (p.system jitter now) turns v) {t : Turn α} (ht : t ∈ turns) :
    t.before.schedule.origin = now ∧ t.before.schedule.jitter = jitter ∧ now ≤ t.before.now := by
  obtain ⟨before, after, rfl⟩ := List.append_of_mem ht
  obtain ⟨u, rest, hu, -, hb, -⟩ := h.split
  rw [hb]
  exact ⟨hu.grid.1, hu.grid.2, hu.now_le⟩

theorem Run.onGrid (h : Run (p.system jitter now) turns v) (hw : Whole turns) {t : Turn α}
    (ht : t ∈ turns) {b : Schedule.Armed} (hb : t.arms? = some b) :
    ∃ interval, t.before.schedule.interval = some interval ∧
      Schedule.OnGrid now jitter t.before.now interval b.deadline := by
  obtain ⟨interval, hi, hd⟩ := Turn.deadline_of_arms hb
  obtain ⟨ho, hj, hle⟩ := h.grid_at ht
  have hg := Schedule.onGrid_deadlineAt (s := t.before.schedule) (ho ▸ hle) (hw t ht interval hi)
  rw [← hd, ho, hj] at hg
  exact ⟨interval, hi, hg⟩

/-- On time, a timer fires in the second that its deadline lies in. -/
theorem Timed.fires (h : Timed (p.system jitter now) turns v) (hj : jitter.micros < 1000000)
    (hw : Whole turns) {t : Turn α} (ht : t ∈ turns) {a : Schedule.Armed}
    (ha : t.fires? = some a) : a.deadline = now + t.second * 1000000 + jitter.micros := by
  obtain ⟨m, interval, hm, hd, hn⟩ := h.slates.2 t ht a ha
  obtain ⟨ho, hjt, -⟩ := h.run.grid_at ht
  -- the turn that armed the timer shows that its deadline is on the grid
  obtain ⟨k, hk⟩ : ∃ k, a.deadline = now + jitter.micros + k * 1000000 := by
    obtain ⟨before, after, rfl⟩ := List.append_of_mem ht
    obtain ⟨bs, e, as, rfl, he⟩ := h.run.armed_before ha
    obtain ⟨_, -, hg⟩ := h.run.onGrid hw (t := e) (by simp) he
    exact hg.aligned
  have hg := Schedule.gridPoint_max (s := t.before.schedule) hm (hjt ▸ hj)
    ⟨k, by rw [← hd, hk, ho, hjt]⟩
  rw [← hd, hn, Schedule.gridPoint, ho, hjt] at hg
  rw [← hg, Turn.second, ho]

end

/-! ## From one timer to the next -/

/-- The timer `a` fires in the turn `f`; the turn `e` applies the result of the cycle that `f` asked
for, and arms the timer `b`. -/
structure Rearms (turns : List (Turn α)) (f e : Turn α) (a b : Schedule.Armed) : Prop where
  order : ∃ before between after, turns = before ++ f :: (between ++ e :: after)
  fires : f.fires? = some a
  cycle : ∃ cycle, f.asks? = some cycle ∧ e.task.lands? = some cycle
  arms : e.arms? = some b

/-- From `a` on timers have fired `n` times, up to `b`; each cycle had its result within the second in
which its timer fired, with the same interval in force. -/
inductive Beats (turns : List (Turn α)) (interval : Duration) :
    Nat → Schedule.Armed → Schedule.Armed → Prop where
  | rest (a : Schedule.Armed) : Beats turns interval 0 a a
  | next {n : Nat} {a b c : Schedule.Armed} {f e : Turn α} : Beats turns interval n a b →
    Rearms turns f e b c → e.second = f.second → e.before.schedule.interval = some interval →
    Beats turns interval (n + 1) a c

/-- What is true of the deadlines in a run that began at `now` and comes to `v`. -/
structure Paced (now : Nat) (jitter : Duration) (turns : List (Turn α)) (v : System α) : Prop where
  armed : ∀ a, v.schedule.armed = some a → ∃ t ∈ turns, t.arms? = some a
  /-- Each timer is armed with the interval in force, and its deadline keeps to the grid. -/
  deadline : ∀ t ∈ turns, ∀ b, t.arms? = some b →
    ∃ interval, t.before.schedule.interval = some interval ∧
      Schedule.OnGrid now jitter t.before.now interval b.deadline
  fires : ∀ t ∈ turns, ∀ a, t.fires? = some a →
    a.deadline = now + t.second * 1000000 + jitter.micros
  /-- A cycle that has its result within the second in which its timer fired keeps the pace. -/
  kept : ∀ {f e : Turn α} {a b : Schedule.Armed} {interval : Duration}, Rearms turns f e a b →
    e.before.schedule.interval = some interval → e.second = f.second →
    b.deadline = a.deadline + interval.micros
  /-- A slow fetch only puts the next refresh off. -/
  pushed : ∀ {f e : Turn α} {a b : Schedule.Armed} {interval : Duration}, Rearms turns f e a b →
    e.before.schedule.interval = some interval → a.deadline + interval.micros ≤ b.deadline
  /-- Any number of cycles that keep the pace takes as many intervals. -/
  counted : ∀ {interval : Duration} {n : Nat} {a b : Schedule.Armed}, Beats turns interval n a b →
    b.deadline = a.deadline + n * interval.micros

/-- **Jitter never adds up, and a slow fetch only puts the next refresh off.** Deadlines stay the
jitter and a whole number of seconds after the origin, however many cycles there are and however long
they take. -/
theorem Timed.paced {p : Plan α} {jitter : Duration} {now : Nat} {turns : List (Turn α)}
    {v : System α} (h : Timed (p.system jitter now) turns v) (hj : jitter.micros < 1000000)
    (hw : Whole turns) : Paced now jitter turns v := by
  -- where the next deadline lies, by the seconds of the two turns
  have hnext : ∀ {f e : Turn α} {a b : Schedule.Armed} {interval : Duration},
      Rearms turns f e a b → e.before.schedule.interval = some interval →
      a.deadline = now + f.second * 1000000 + jitter.micros ∧
        b.deadline = now + e.second * 1000000 + jitter.micros + interval.micros := by
    intro f e a b interval hr hi
    obtain ⟨before, between, after, ht⟩ := hr.order
    have hf : f ∈ turns := by simp [ht]
    have he : e ∈ turns := by simp [ht]
    obtain ⟨i, hi', hg⟩ := h.run.onGrid hw he hr.arms
    obtain rfl := Option.some.inj (hi'.symm.trans hi)
    refine ⟨h.fires hj hw hf hr.fires, ?_⟩
    rw [hg.floor, Turn.second, (h.run.grid_at he).1]
  have hkept : ∀ {f e : Turn α} {a b : Schedule.Armed} {interval : Duration},
      Rearms turns f e a b → e.before.schedule.interval = some interval → e.second = f.second →
      b.deadline = a.deadline + interval.micros := by
    intro f e a b interval hr hi hs
    obtain ⟨ha, hb⟩ := hnext hr hi
    rw [hb, ha, hs]
  refine ⟨fun a ha => ?_, fun t ht b => h.run.onGrid hw ht, fun t ht a => h.fires hj hw ht, hkept,
    fun {f e a b interval} hr hi => ?_, fun {interval n a b} hb => ?_⟩
  · obtain hp | ⟨bs, e, as, rfl, he⟩ := h.run.armed_by ha
    · cases hp
    · exact ⟨e, by simp, he⟩
  · obtain ⟨ha, hb⟩ := hnext hr hi
    have hs : f.second ≤ e.second := by
      obtain ⟨before, between, after, rfl⟩ := hr.order
      have hle : f.before.now ≤ e.before.now := h.run.before_le
      rw [Turn.second, Turn.second, (h.run.grid_at (t := f) (by simp)).1,
        (h.run.grid_at (t := e) (by simp)).1]
      omega
    omega
  · induction hb with
    | rest => simp
    | next _ hr hs hi ih =>
      rw [hkept hr hi hs, ih, Nat.add_one_mul, Nat.add_assoc]

/-- A source that takes 20 milliseconds at first and then two and a half seconds. -/
def steady : Plan Nat :=
  { name := "clock", interval := some (.ofSeconds 5)
    source := some [{ result := .ok 7, delay := .ofMillis 20 },
      { result := .ok 8, delay := .ofMillis 2500 }] }

/-- The origin is at 3.1 s and the jitter a quarter of a second. The first refresh, at 8.35 s, keeps
the pace, the second, at 13.35 s, puts the next one off to 20.35 s. -/
theorem slow_fetch_puts_off : ∃ (turns : List (Turn Nat)) (v : System Nat),
    Timed (steady.system (.ofMillis 250) 3100000) turns v ∧ Whole turns ∧
      (∃ a b c f e, a.deadline = 8350000 ∧ Beats turns (.ofSeconds 5) 1 a b ∧
        b.deadline = 13350000 ∧ Rearms turns f e b c ∧ c.deadline = 20350000) ∧
      Paced 3100000 (.ofMillis 250) turns v := by
  have h₁ : Timed (steady.system (.ofMillis 250) 3100000) _ _ :=
    Timed.rest.prompt (.deed (.addListener "dial" none []) rfl) (by decide) |>.work _ _ rfl
  -- the timer fires, and the first fetch begins and ends
  have h₂ := h₁.prompt (.wait 8350000 rfl) (by decide)
    |>.prompt (.fire _ rfl (.head _) (Nat.le_refl _)) (by decide) |>.work _ _ rfl |>.work _ _ rfl
  have h₃ := h₂.prompt (.wait 8370000 rfl) (by decide)
    |>.prompt (.fire _ rfl (.head _) (Nat.le_refl _)) (by decide) |>.work _ _ rfl |>.work _ _ rfl
    |>.work _ _ rfl
  -- so it goes once more
  have h₄ := h₃.prompt (.wait 13350000 rfl) (by decide)
    |>.prompt (.fire _ rfl (.head _) (Nat.le_refl _)) (by decide) |>.work _ _ rfl |>.work _ _ rfl
  have h₅ := h₄.prompt (.wait 15850000 rfl) (by decide)
    |>.prompt (.fire _ rfl (.head _) (Nat.le_refl _)) (by decide) |>.work _ _ rfl
  refine ⟨_, _, h₅, ?whole, ?beats, h₅.paced (by decide) ?whole⟩
  case whole => decide
  case beats =>
    refine ⟨_, _, _, _, _, ?_, .next (.rest _) ⟨⟨[_], [_], _, rfl⟩, rfl, ⟨_, rfl, rfl⟩, rfl⟩ rfl rfl,
      ?_, ⟨⟨[_, _, _, _, _, _], [_], [], rfl⟩, rfl, ⟨_, rfl, rfl⟩, rfl⟩, ?_⟩
    all_goals rfl

end Freshness.System
