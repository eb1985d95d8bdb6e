import Freshness.Coordinator.Plan
import Freshness.Coordinator.Run
import Freshness.Proofs.Snoc
import Freshness.Proofs.Timers
import Mathlib.Logic.Relation

/-!
# Runs of a coordinator, in any order

`System.step?` takes the timers in the order of their deadlines and nothing else into account. Here
the surroundings are free: whatever a single thread allows may come next.

* `System.Prompt` : what sets the system to work while nothing is under way: a timer that is due,
  whichever it is, the driving task, the passing of time, a deed or calls from outside;
* `System.Move`, `System.Moves` : a prompt, or one task of the work at hand; any number of them;
* `System.Reachable` : what a newly built coordinator may come to; `Moves.induct` is the rule for
  what every move keeps;
* `System.Turn`, `System.Run` : moves with the tasks that were done on the way; `Run.split`,
  `Run.divide` and `Run.next_turn` take a run apart, `Run.append` puts two together;
* `System.moves_of_step?`, `System.moves_of_run?` : the runs that a session drives are among these.
-/

namespace Freshness.System

variable {α : Type} [BEq α]

/-- What sets the system to work. Work that has begun goes on without waiting, so that all but the
last of these find nothing on the agenda. -/
inductive Prompt : System α → System α → Prop where
  /-- A job whose time has come, no matter which of those it is. -/
  | fire {w : System α} (t : Timer (Task α)) : w.agenda = [] → t ∈ w.timers.waiting →
    t.deadline ≤ w.now → Prompt w { w with timers := w.timers.take t, agenda := [t.job] }
  /-- The driving task goes on with the lock that it has been handed. -/
  | resume {w : System α} (cycle : Cycle) : w.agenda = [] → w.resuming = some cycle →
    Prompt w { w with resuming := none, agenda := [.enter cycle] }
  | wait {w : System α} (time : Nat) : w.agenda = [] →
    Prompt w { w with timers := w.timers.moveTo time }
  | deed {w : System α} (deed : Deed α) : w.agenda = [] → Prompt w { w with agenda := [.deed deed] }
  /-- Calls that begin together, in this order. -/
  | calls {w : System α} (calls : List (Caller × Call)) : w.agenda = [] → w.held = true →
    Prompt w { w with agenda := calls.map fun c => .start c.1 c.2 }
  /-- The source itself does something before it answers at once. -/
  | meddle {w : System α} {cycle : Cycle} {begun : Nat} {result : Except Fault α}
      {rest : List (Task α)} (deed : Deed α) : w.agenda = .fetched cycle begun result :: rest →
    Prompt w { w with agenda := .deed deed :: w.agenda }

/-- One move: a prompt, or the first task of the agenda. -/
inductive Move : System α → System α → Prop where
  | prompt {w v : System α} : Prompt w v → Move w v
  | work {w : System α} (task : Task α) (rest : List (Task α)) : w.agenda = task :: rest →
    Move w ({ w with agenda := rest }.perform task)

def Moves : System α → System α → Prop := Relation.ReflTransGen Move

/-- A newly built coordinator may come to this. -/
def Reachable (w : System α) : Prop :=
  ∃ (p : Plan α) (jitter : Duration) (now : Nat), Moves (p.system jitter now) w

theorem Reachable.moves {w v : System α} (hw : Reachable w) (hv : Moves w v) : Reachable v := by
  obtain ⟨p, jitter, now, h⟩ := hw
  exact ⟨p, jitter, now, h.trans hv⟩

/-- What prompts and tasks keep, a run keeps. -/
theorem Moves.induct {P : System α → Prop}
    (prompt : ∀ {w v : System α}, Prompt w v → P w → P v)
    (work : ∀ {w : System α} (task : Task α) (rest : List (Task α)), w.agenda = task :: rest → P w →
      P ({ w with agenda := rest }.perform task))
    {w v : System α} (h : Moves w v) (hw : P w) : P v := by
  induction h with
  | refl => exact hw
  | tail _ hm ih =>
    cases hm with
    | prompt hp => exact prompt hp ih
    | work task rest ha => exact work task rest ha ih

/-! ## Runs with their turns -/

/-- One task done, and the system that it was done to, which has it no longer on its agenda. -/
structure Turn (α : Type) where
  task : Task α
  before : System α

def Turn.after (t : Turn α) : System α := t.before.perform t.task

theorem Turn.after_eq {t : Turn α} {task : Task α} (h : t.task = task) :
    t.after = t.before.perform task := by
  rw [Turn.after, h]

/-- A run from `w`, with the turns taken, in order. -/
inductive Run (w : System α) : List (Turn α) → System α → Prop where
  | rest : Run w [] w
  | prompt {turns : List (Turn α)} {u v : System α} : Run w turns u → Prompt u v → Run w turns v
  | work {turns : List (Turn α)} {u : System α} (task : Task α) (rest : List (Task α)) :
    Run w turns u → u.agenda = task :: rest →
    Run w (turns ++ [⟨task, { u with agenda := rest }⟩]) ({ u with agenda := rest }.perform task)

theorem Run.moves {w v : System α} {turns : List (Turn α)} (h : Run w turns v) : Moves w v := by
  induction h with
  | rest => exact .refl
  | prompt _ hp ih => exact ih.tail (.prompt hp)
  | work task rest _ ha ih => exact ih.tail (.work task rest ha)

theorem Run.reachable {p : Plan α} {jitter : Duration} {now : Nat} {turns : List (Turn α)}
    {v : System α} (h : Run (p.system jitter now) turns v) : Reachable v := ⟨p, jitter, now, h.moves⟩

theorem Moves.run {w v : System α} (h : Moves w v) : ∃ turns, Run w turns v := by
  induction h with
  | refl => exact ⟨[], .rest⟩
  | tail _ hm ih =>
    obtain ⟨turns, hr⟩ := ih
    cases hm with
    | prompt hp => exact ⟨turns, hr.prompt hp⟩
    | work task rest ha => exact ⟨_, hr.work task rest ha⟩

/-- A turn of a run stands between a run before it and a run after it. -/
theorem Run.split {w v : System α} {before after : List (Turn α)} {t : Turn α}
    (h : Run w (before ++ t :: after) v) :
    ∃ u rest, Run w before u ∧ u.agenda = t.task :: rest ∧ t.before = { u with agenda := rest } ∧
      Run t.after after v := by
  generalize hs : before ++ t :: after = turns at h
  induction h generalizing after with
  | rest => simp at hs
  | prompt _ hp ih =>
    obtain ⟨u, rest, hb, ha, ht, hr⟩ := ih hs
    exact ⟨u, rest, hb, ha, ht, hr.prompt hp⟩
  | @work turns u task rest hr ha ih =>
    rcases snoc_eq_append_cons.1 hs.symm with ⟨rfl, rfl, rfl⟩ | ⟨init, rfl, hi⟩
    · exact ⟨u, rest, hr, ha, rfl, .rest⟩
    · obtain ⟨u', rest', hb, ha', ht, hr'⟩ := ih hi.symm
      exact ⟨u', rest', hb, ha', ht, hr'.work task rest ha⟩

theorem Run.append {w u v : System α} {before after : List (Turn α)} (h : Run w before u)
    (h' : Run u after v) : Run w (before ++ after) v := by
  induction h' with
  | rest =>
    rw [List.append_nil]
    exact h
  | prompt _ hp ih => exact ih.prompt hp
  | work task rest _ ha ih =>
    rw [← List.append_assoc]
    exact ih.work task rest ha

theorem Run.divide {w v : System α} {before after : List (Turn α)} (h : Run w (before ++ after) v) :
    ∃ u, Run w before u ∧ Run u after v := by
  cases after with
  | nil =>
    rw [List.append_nil] at h
    exact ⟨v, h, .rest⟩
  | cons t after =>
    obtain ⟨u, rest, hb, ha, ht, hr⟩ := h.split
    have ht' : t = ⟨t.task, { u with agenda := rest }⟩ := by rw [← ht]
    rw [Turn.after, ht] at hr
    rw [ht']
    exact ⟨u, hb, (Run.rest.work t.task rest ha).append hr⟩

theorem Run.upto {w v : System α} {before after : List (Turn α)} (h : Run w (before ++ after) v) :
    ∃ u, Run w before u := by
  obtain ⟨u, hb, -⟩ := h.divide
  exact ⟨u, hb⟩

theorem Run.at_turn {w v : System α} {before after : List (Turn α)} {t : Turn α}
    (h : Run w (before ++ t :: after) v) : Run w (before ++ [t]) t.after := by
  obtain ⟨u, rest, hb, ha, ht, -⟩ := h.split
  have hw := hb.work t.task rest ha
  rw [← ht] at hw
  exact hw

/-- What is on the agenda comes next, unless the source does something before it answers. -/
theorem Run.next_turn {w v : System α} {turns : List (Turn α)} {task : Task α}
    {rest : List (Task α)} (h : Run w turns v) (ha : w.agenda = task :: rest)
    (hm : ∀ cycle begun result, task ≠ .fetched cycle begun result) :
    (turns = [] ∧ v = w) ∨ ∃ later, turns = ⟨task, { w with agenda := rest }⟩ :: later := by
  induction h with
  | rest => exact .inl ⟨rfl, rfl⟩
  | prompt _ hp ih =>
    rcases ih with ⟨rfl, rfl⟩ | ⟨later, rfl⟩
    · cases hp with
      | meddle deed ha' => exact absurd (List.cons.inj (ha.symm.trans ha')).1 (hm _ _ _)
      | fire _ ha' | resume _ ha' | wait _ ha' | deed _ ha' | calls _ ha' => simp [ha] at ha'
    · exact .inr ⟨later, rfl⟩
  | work task' rest' _ ha' ih =>
    rcases ih with ⟨rfl, rfl⟩ | ⟨later, rfl⟩
    · obtain ⟨rfl, rfl⟩ := List.cons.inj (ha.symm.trans ha')
      exact .inr ⟨[], rfl⟩
    · exact .inr ⟨later ++ [⟨task', _⟩], rfl⟩

/-! ## The runs of sessions -/

theorem moves_of_step? {w v : System α} {limit : Option Nat} (h : w.step? limit = some v) :
    Moves w v := by
  unfold step? at h
  split at h
  · next task rest ha =>
    obtain rfl := Option.some.inj h
    exact .single (.work task rest ha)
  · next ha =>
    split at h
    · next task timers ht =>
      obtain rfl := Option.some.inj h
      obtain ⟨u, hu, rfl, -, rfl⟩ := Timers.takeDue?_eq_some ht
      have hw : Moves w { w with timers := w.timers.moveTo u.deadline } :=
        .single (.prompt (.wait u.deadline ha))
      exact hw.tail (.prompt (.fire u ha hu (Nat.le_max_right ..)))
    · obtain ⟨cycle, hr, rfl⟩ := Option.map_eq_some_iff.1 h
      exact .single (.prompt (.resume cycle ha hr))

theorem moves_of_run? {w v : System α} {goal : System α → Bool} {limit : Option Nat}
    (h : w.run? goal limit = some v) : Moves w v := by
  suffices hf : ∀ (fuel : Nat) (w : System α), Motion.run? (fun w => w.step? limit)
      (fun w => w.agenda.isEmpty && goal w) fuel w = some v → Moves w v from hf _ w h
  intro fuel
  induction fuel with
  | zero =>
    intro w h
    simp [Motion.run?] at h
  | succ fuel ih =>
    intro w h
    simp only [Motion.run?] at h
    split at h
    · obtain rfl := Option.some.inj h
      exact .refl
    · split at h
      · obtain rfl := Option.some.inj h
        exact .refl
      · next u hu => exact (moves_of_step? hu).trans (ih u h)

end Freshness.System
