import Freshness.Host.Script
import Freshness.Proofs.Snoc
import Mathlib.Data.List.Nodup
import Mathlib.Data.List.Perm.Basic

/-!
# Every stop hook runs once, in order, and none is lost

* `Script.Turn`, `Script.History` : a host in use, with all that was done to it, also by hooks that
  were running; every call returns, and what it did is a history (`History.act`);
* `Script.registered`, `Script.ran`, `Script.withdrawn` : the hooks by their ids;
* `Script.Books` : a hook that was registered has run, is about to run, is kept, or was taken out;
  `Books.turn` : every turn keeps the books;
* `Script.Ordered` : the hooks that wait for the first stop run in the order of their registration;
* `Script.Orderly`, `History.hooks_run_once` : **no hook runs twice, and after the first stop none is
  left**.

A hook runs at most once, so what it does is a list of deeds, whatever it may decide by.
-/

namespace Freshness.Host.Script

/-! ## A host in use -/

/-- One piece of work done, and the stage that it was done on, which has it no longer on its agenda. -/
structure Turn where
  task : Task
  before : Stage

def Turn.after (t : Turn) : Stage := t.before.work t.task

theorem Turn.after_eq {t : Turn} {task : Task} (h : t.task = task) :
    t.after = t.before.work task := by
  rw [Turn.after, h]

/-- A host after some turns. When everything has returned, something else is called from outside. -/
inductive History : List Turn → Stage → Prop where
  | new : History [] {}
  | call {turns : List Turn} {s : Stage} (deed : Deed) : History turns s → s.agenda = [] →
    History turns { s with agenda := [.perform deed], ran := [], notices := [] }
  | work {turns : List Turn} {s : Stage} (t : Turn) (rest : List Task) : History turns s →
    s.agenda = t.task :: rest → t.before = { s with agenda := rest } →
    History (turns ++ [t]) t.after

def Task.hook? : Task → Option HookId
  | .run hook => some hook.id
  | .perform _ | .settle _ _ => none

def Turn.runs? (t : Turn) : Option HookId := t.task.hook?

/-- The id that a turn gives away. -/
def Turn.registers? (t : Turn) : Option HookId :=
  match t.task with
  | .perform (.register label deeds) => some (t.before.host.register (t.before.hook label deeds)).1
  | _ => none

/-- The hook that is kept and that a turn takes out. -/
def Turn.withdraws? (t : Turn) : Option HookId :=
  match t.task with
  | .perform (.remove label) =>
    (t.before.names.lookup label).filter fun id => t.before.host.hooks.any (·.1 == id)
  | _ => none

/-- The hooks that were registered. -/
def registered (turns : List Turn) : List HookId := turns.filterMap Turn.registers?

def ran (turns : List Turn) : List HookId := turns.filterMap Turn.runs?

def withdrawn (turns : List Turn) : List HookId := turns.filterMap Turn.withdraws?

namespace Stage

def due (s : Stage) : List HookId := s.agenda.filterMap Task.hook?

def kept (s : Stage) : List HookId := s.host.hooks.map (·.1)

/-! ## What the work does -/

variable (s : Stage)

theorem register_of_running (h : s.host.stopping = false) (label : String) (deeds : List Deed) :
    s.perform (.register label deeds) =
      { s with
        host := { s.host with
          nextId := s.host.nextId + 1
          hooks := s.host.hooks ++ [((s.hook label deeds).id, s.hook label deeds)] }
        agenda := .settle label (s.hook label deeds).id :: s.agenda } := by
  simp [perform, register, h, hook]

theorem register_of_stopping (h : s.host.stopping = true) (label : String) (deeds : List Deed) :
    s.perform (.register label deeds) =
      { s with
        host := { s.host with nextId := s.host.nextId + 1 }
        agenda := .run (s.hook label deeds) :: .settle label (s.hook label deeds).id ::
          s.agenda } := by
  simp [perform, register, h, hook]

theorem stop_of_running (h : s.host.stopping = false) :
    s.perform .stop =
      { s with
        host := { s.host with stopping := true, hooks := [] }
        agenda := s.host.hooks.map (fun h => .run h.2) ++ s.agenda
        notices := .hostStopping s.host.hooks.length :: s.notices } := by
  simp [perform, stop, h]

theorem stop_of_stopping (h : s.host.stopping = true) :
    s.perform .stop = { s with notices := .alreadyStopping :: s.notices } := by
  simp [perform, stop, h]

theorem agenda_remove (label : String) : (s.perform (.remove label)).agenda = s.agenda := by
  simp only [perform]
  split <;> rfl

/-- Deeds run nothing by themselves. -/
theorem due_runHook (hook : Hook) : (s.runHook hook).due = s.due := by
  have hd : (hook.deeds.map Task.perform).filterMap Task.hook? = [] := by
    simp [List.filterMap_map, Function.comp_def, Task.hook?]
  rw [due, runHook, List.filterMap_append, hd]
  rfl

end Stage

/-! ## Where hooks go -/

/-- The ids in the order in which a host gives them. -/
def firstIds (n : Nat) : List HookId := (List.range n).map HookId.mk

theorem firstIds_succ (n : Nat) : firstIds (n + 1) = firstIds n ++ [⟨n⟩] := by
  simp [firstIds, List.range_succ]

theorem nodup_firstIds (n : Nat) : (firstIds n).Nodup :=
  List.Nodup.map (fun _ _ h => HookId.mk.inj h) List.nodup_range

/-- The hooks that a host keeps stand in the order of their ids; a host that is stopping keeps none. -/
structure Tidy (host : Host Hook) : Prop where
  named : ∀ h ∈ host.hooks, h.2.id = h.1
  sorted : (host.hooks.map (·.1)).Pairwise (·.number < ·.number)
  below : ∀ id ∈ host.hooks.map (·.1), id.number < host.nextId
  stopped : host.stopping = true → host.hooks = []

theorem Tidy.nodup {host : Host Hook} (h : Tidy host) : (host.hooks.map (·.1)).Nodup := by
  refine h.sorted.imp fun {a b} hlt he => ?_
  rw [he] at hlt
  exact Nat.lt_irrefl _ hlt

/-- What a turn does to the host and to the hooks that are about to run. -/
structure Turn.Moves (t : Turn) : Prop where
  ids : firstIds t.after.host.nextId = firstIds t.before.host.nextId ++ t.registers?.toList
  tidy : Tidy t.before.host → Tidy t.after.host
  /-- Whatever was about to run or kept still is, or is taken out. -/
  hooks : Tidy t.before.host → (t.before.due ++ t.before.kept ++ t.registers?.toList).Perm
    (t.after.due ++ t.after.kept ++ t.withdraws?.toList)
  stopping : t.after.host.stopping = true ↔
    t.before.host.stopping = true ∨ t.task = .perform .stop
  /-- On a host that runs, a turn leaves one thing to do at most, and no hook. -/
  calm : t.after.host.stopping = false → t.runs? = none → t.before.agenda = [] →
    t.after.due = [] ∧ t.after.agenda.length ≤ 1

theorem Turn.moves_of_same {t : Turn} (hh : t.after.host = t.before.host)
    (hd : t.after.due = t.before.due) (hr : t.registers? = none) (hw : t.withdraws? = none)
    (hs : t.task = .perform .stop → t.before.host.stopping = true)
    (ha : t.runs? = none → t.after.agenda = t.before.agenda) : t.Moves where
  ids := by rw [hh, hr, Option.toList_none, List.append_nil]
  tidy := by rw [hh]; exact id
  hooks := by
    intro _
    rw [hd, hr, hw, Stage.kept, Stage.kept, hh]
  stopping := by
    rw [hh]
    exact ⟨.inl, fun h => h.elim id hs⟩
  calm := by
    intro _ hn hb
    rw [hd, Stage.due, ha hn, hb]
    exact ⟨rfl, Nat.zero_le 1⟩

theorem moves_run (b : Stage) (hook : Hook) : Turn.Moves ⟨.run hook, b⟩ := by
  refine Turn.moves_of_same rfl (b.due_runHook hook) rfl rfl nofun nofun

theorem moves_settle (b : Stage) (label : String) (id : HookId) :
    Turn.Moves ⟨.settle label id, b⟩ :=
  Turn.moves_of_same rfl rfl rfl rfl nofun fun _ => rfl

theorem moves_register (b : Stage) (label : String) (deeds : List Deed) :
    Turn.Moves ⟨.perform (.register label deeds), b⟩ := by
  have hids := firstIds_succ b.host.nextId
  cases hs : b.host.stopping with
  | false =>
    have ha : Turn.after ⟨.perform (.register label deeds), b⟩ = _ :=
      b.register_of_running hs label deeds
    refine ⟨by rw [ha]; exact hids, fun h => ?_, fun _ => ?_, by rw [ha]; simp, fun _ _ hb => ?_⟩
    · rw [ha]
      refine ⟨?_, ?_, ?_, fun hc => absurd (hs.symm.trans hc) Bool.false_ne_true⟩
      · exact List.forall_mem_append.2 ⟨h.named, by simp⟩
      · rw [List.map_append, List.pairwise_append]
        refine ⟨h.sorted, List.pairwise_singleton _ _, fun id hid id' hid' => ?_⟩
        rw [List.mem_singleton.1 hid']
        exact h.below id hid
      · rw [List.map_append]
        refine List.forall_mem_append.2 ⟨fun id hid => Nat.lt_succ_of_lt (h.below id hid), ?_⟩
        exact List.forall_mem_singleton.2 (Nat.lt_succ_self _)
    · rw [ha]
      simp [Stage.kept, Stage.due, List.filterMap_cons, Task.hook?, Turn.registers?,
        Turn.withdraws?, Stage.hook, Host.register]
    · rw [ha]
      have hb : b.agenda = [] := hb
      simp [Stage.due, Task.hook?, hb]
  | true =>
    have ha : Turn.after ⟨.perform (.register label deeds), b⟩ = _ :=
      b.register_of_stopping hs label deeds
    refine ⟨by rw [ha]; exact hids, fun h => ?_, fun _ => ?_, by rw [ha]; simp, fun hc => ?_⟩
    · rw [ha]
      exact ⟨h.named, h.sorted, fun id hid => Nat.lt_succ_of_lt (h.below id hid), h.stopped⟩
    · rw [ha]
      exact (List.perm_append_singleton _ _).trans (.of_eq (List.append_nil _).symm)
    · rw [ha] at hc
      exact absurd (hs.symm.trans hc) Bool.false_ne_true.symm

/-- What a removal takes out. -/
theorem Tidy.remove {host : Host Hook} (h : Tidy host) (id : HookId) : Tidy (host.remove id) where
  named := fun x hx => h.named x (List.mem_filter.1 hx).1
  sorted := h.sorted.sublist (List.filter_sublist.map _)
  below := fun x hx => h.below x ((List.filter_sublist.map _).subset hx)
  stopped := fun hs => by rw [Host.remove, h.stopped hs, List.filter_nil]

theorem moves_remove (b : Stage) (label : String) : Turn.Moves ⟨.perform (.remove label), b⟩ := by
  have hw : Turn.withdraws? ⟨.perform (.remove label), b⟩ =
    (b.names.lookup label).filter fun id => b.host.hooks.any (·.1 == id) := rfl
  have ha : Turn.after ⟨.perform (.remove label), b⟩ = b.perform (.remove label) := rfl
  have hs : Task.perform (.remove label) = .perform .stop → b.host.stopping = true :=
    fun hs => by cases hs
  rw [Stage.perform] at ha
  cases hl : b.names.lookup label with
  | none =>
    rw [hl] at ha hw
    exact Turn.moves_of_same (by rw [ha]) (by rw [ha]) rfl hw hs fun _ => by rw [ha]
  | some id =>
    rw [hl] at ha hw
    cases hk : b.host.hooks.any (·.1 == id) with
    | false =>
      have hr : b.host.remove id = b.host := by
        have hf : b.host.hooks.filter (·.1 != id) = b.host.hooks := by
          refine List.filter_eq_self.2 fun x hx => ?_
          simpa [bne] using List.any_eq_false.1 hk x hx
        rw [Host.remove, hf]
      rw [Option.filter_some, hk] at hw
      exact Turn.moves_of_same (by rw [ha]; exact hr) (by rw [ha]; rfl) rfl hw hs
        fun _ => by rw [ha]
    | true =>
      rw [Option.filter_some, hk, if_pos rfl] at hw
      refine ⟨by rw [ha]; exact (List.append_nil _).symm, fun h => ?_, fun h => ?_,
        by rw [ha]; simp [Host.remove], fun _ _ hb => ?_⟩
      · rw [ha]
        exact h.remove id
      · have hmem : id ∈ b.kept := by
          obtain ⟨x, hx, he⟩ := List.any_eq_true.1 hk
          exact List.mem_map.2 ⟨x, hx, beq_iff_eq.1 he⟩
        have hkept : Stage.kept { b with host := b.host.remove id } = b.kept.erase id := by
          have hn : b.kept.Nodup := h.nodup
          rw [hn.erase_eq_filter, Stage.kept, Stage.kept, Host.remove, List.filter_map]
          rfl
        rw [hw, ha, hkept]
        have hp : b.kept.Perm (b.kept.erase id ++ [id]) :=
          (List.perm_cons_erase hmem).trans (List.perm_append_singleton _ _).symm
        refine (List.Perm.append_right _ (hp.append_left b.due)).trans ?_
        simp [Turn.registers?, Stage.due]
      · rw [ha]
        have hb : b.agenda = [] := hb
        simp [Stage.due, hb]

/-- The first stop has every hook run that is kept. -/
theorem due_stop {b : Stage} (h : Tidy b.host) (hs : b.host.stopping = false) :
    (b.perform .stop).due = b.kept ++ b.due := by
  have hk : b.host.hooks.map (fun h => h.2.id) = b.kept := List.map_congr_left h.named
  rw [b.stop_of_running hs, Stage.due, List.filterMap_append, List.filterMap_map, ← hk]
  simp [Function.comp_def, Task.hook?, Stage.due]

theorem moves_stop (b : Stage) : Turn.Moves ⟨.perform .stop, b⟩ := by
  cases hs : b.host.stopping with
  | true =>
    have ha : Turn.after ⟨.perform .stop, b⟩ = _ := b.stop_of_stopping hs
    exact Turn.moves_of_same (by rw [ha]) (by rw [ha]; rfl) rfl rfl (fun _ => hs)
      fun _ => by rw [ha]
  | false =>
    have ha : Turn.after ⟨.perform .stop, b⟩ = _ := b.stop_of_running hs
    refine ⟨by rw [ha]; exact (List.append_nil _).symm, fun _ => ?_, fun h => ?_, by rw [ha]; simp,
      fun hc => ?_⟩
    · rw [ha]
      exact ⟨by simp, by simp, by simp, fun _ => rfl⟩
    · have hd : (Turn.after ⟨.perform .stop, b⟩).due = b.kept ++ b.due := due_stop h hs
      rw [hd, ha]
      simpa [Turn.registers?, Turn.withdraws?, Stage.kept] using List.perm_append_comm
    · rw [ha] at hc
      cases hc

theorem Turn.moves (t : Turn) : t.Moves := by
  obtain ⟨task, b⟩ := t
  cases task with
  | perform deed =>
    cases deed with
    | register label deeds => exact moves_register b label deeds
    | remove label => exact moves_remove b label
    | stop => exact moves_stop b
  | run hook => exact moves_run b hook
  | settle label id => exact moves_settle b label id

/-! ## The books -/

/-- Every hook is accounted for. -/
structure Books (turns : List Turn) (s : Stage) : Prop where
  tidy : Tidy s.host
  ids : registered turns = firstIds s.host.nextId
  /-- A hook that was registered has run, is about to, is kept, or was taken out. -/
  account : (registered turns).Perm (ran turns ++ s.due ++ s.kept ++ withdrawn turns)
  stopping : s.host.stopping = true ↔ ∃ t ∈ turns, t.task = .perform .stop
  /-- While the host runs, hooks do not, and so one call is under way at most. -/
  running : s.host.stopping = false → ran turns = [] ∧ s.due = [] ∧ s.agenda.length ≤ 1

variable {turns : List Turn} {s : Stage}

theorem books_new : Books [] {} where
  tidy := ⟨by simp, .nil, by simp, fun _ => rfl⟩
  ids := rfl
  account := .refl _
  stopping := by simp
  running := fun _ => ⟨rfl, rfl, Nat.zero_le 1⟩

theorem Books.call (h : Books turns s) (ha : s.agenda = []) (deed : Deed) :
    Books turns { s with agenda := [.perform deed], ran := [], notices := [] } where
  tidy := h.tidy
  ids := h.ids
  account := by
    have hd : s.due = [] := by rw [Stage.due, ha]; rfl
    have hacc := h.account
    rw [hd] at hacc
    exact hacc
  stopping := h.stopping
  running := fun hs => ⟨(h.running hs).1, rfl, Nat.le_refl 1⟩

theorem due_of_agenda {t : Turn} {rest : List Task} (ha : s.agenda = t.task :: rest)
    (hb : t.before = { s with agenda := rest }) : s.due = t.runs?.toList ++ t.before.due := by
  rw [Stage.due, ha, List.filterMap_cons, hb, Stage.due, Turn.runs?]
  cases t.task.hook? <;> rfl

theorem Books.work (h : Books turns s) {t : Turn} {rest : List Task}
    (ha : s.agenda = t.task :: rest) (hb : t.before = { s with agenda := rest }) :
    Books (turns ++ [t]) t.after := by
  have hm := t.moves
  have hd := due_of_agenda ha hb
  have hhost : t.before.host = s.host := by rw [hb]
  have htidy : Tidy t.before.host := hhost ▸ h.tidy
  refine ⟨hm.tidy htidy, ?_, ?_, ?_, fun hs => ?_⟩
  · rw [hm.ids, hhost, ← h.ids, registered, filterMap_snoc, registered]
  · -- what was about to run now has run, and the rest has moved
    have hacc := h.account
    have hh := hm.hooks htidy
    have hk : t.before.kept = s.kept := by rw [Stage.kept, hhost, Stage.kept]
    rw [hk] at hh
    rw [hd] at hacc
    unfold registered ran withdrawn at hacc ⊢
    rw [List.perm_iff_count] at hacc hh ⊢
    intro id
    have hacc := hacc id
    have hh := hh id
    simp only [filterMap_snoc, List.count_append] at hacc hh ⊢
    omega
  · rw [hm.stopping, hhost, h.stopping]
    simp [or_and_right, exists_or]
  · have hnot : ¬ (t.before.host.stopping = true ∨ t.task = .perform .stop) := by
      rw [← hm.stopping, hs]
      exact Bool.false_ne_true
    rw [hhost] at hnot
    obtain ⟨hr, hdue, hlen⟩ := h.running (Bool.eq_false_iff.2 fun hc => hnot (.inl hc))
    have hrest : t.before.agenda = [] := by
      rw [hb]
      rw [ha] at hlen
      exact List.length_eq_zero_iff.1 (Nat.le_zero.1 (Nat.le_of_succ_le_succ hlen))
    have hnone : t.runs? = none := by
      rw [hd] at hdue
      exact Option.toList_eq_nil_iff.1 (List.append_eq_nil_iff.1 hdue).1
    obtain ⟨hdue', hlen'⟩ := hm.calm hs hnone hrest
    refine ⟨?_, hdue', hlen'⟩
    rw [ran, filterMap_snoc_of_none hnone]
    exact hr

theorem History.books (h : History turns s) : Books turns s := by
  induction h with
  | new => exact books_new
  | call deed _ ha ih => exact ih.call ha deed
  | work t rest _ ha hb ih => exact ih.work ha hb

/-! ## What comes when -/

theorem History.split {before after : List Turn} {t : Turn} (h : History (before ++ t :: after) s) :
    ∃ u rest, History before u ∧ u.agenda = t.task :: rest ∧ t.before = { u with agenda := rest } := by
  generalize hs : before ++ t :: after = turns at h
  induction h generalizing after with
  | new => simp at hs
  | call _ _ _ ih => exact ih hs
  | @work turns u x rest hu ha hb ih =>
    rcases snoc_eq_append_cons.1 hs.symm with ⟨rfl, rfl, rfl⟩ | ⟨init, rfl, hi⟩
    · exact ⟨u, rest, hu, ha, hb⟩
    · exact ih hi.symm

theorem History.next_turn (h : History turns s) {before after : List Turn} {t : Turn}
    (ht : turns = before ++ t :: after) {task : Task} {rest : List Task}
    (ha : t.after.agenda = task :: rest) :
    (after = [] ∧ s = t.after) ∨
      ∃ later, after = ⟨task, { t.after with agenda := rest }⟩ :: later := by
  induction h generalizing after with
  | new => simp at ht
  | call _ _ hs ih =>
    rcases ih ht with ⟨-, rfl⟩ | hl
    · rw [ha] at hs
      cases hs
    · exact .inr hl
  | work x rest' _ hx hb ih =>
    rcases snoc_eq_append_cons.1 ht with ⟨rfl, rfl, -⟩ | ⟨init, rfl, hi⟩
    · exact .inl ⟨rfl, rfl⟩
    · rcases ih hi with ⟨rfl, rfl⟩ | ⟨later, rfl⟩
      · obtain ⟨rfl, rfl⟩ := List.cons.inj (ha.symm.trans hx)
        exact .inr ⟨[], by rw [← hb]; rfl⟩
      · exact .inr ⟨_, List.cons_append ..⟩

/-- On a host that is stopping only what is registered comes to run. -/
theorem due_of_stopping {t : Turn} (hs : t.before.host.stopping = true) :
    t.after.due = t.registers?.toList ++ t.before.due := by
  obtain ⟨task, b⟩ := t
  cases task with
  | perform deed =>
    cases deed with
    | register label deeds =>
      show (b.perform _).due = _
      rw [b.register_of_stopping hs]
      rfl
    | remove label =>
      show (b.perform _).due = _
      rw [Stage.due, b.agenda_remove]
      rfl
    | stop =>
      show (b.perform _).due = _
      rw [b.stop_of_stopping hs]
      rfl
  | run hook => exact b.due_runHook hook
  | settle label id => rfl

theorem Turn.registers?_eq_some {t : Turn} {id : HookId} (h : t.registers? = some id) :
    id.number = t.before.host.nextId := by
  unfold Turn.registers? at h
  split at h
  · rw [← Option.some.inj h]
    rfl
  · cases h

theorem Turn.nextId_le (t : Turn) : t.before.host.nextId ≤ t.after.host.nextId := by
  have h := congrArg List.length t.moves.ids
  simp only [firstIds, List.length_append, List.length_map, List.length_range] at h
  omega

/-- The hooks that wait for the first stop run in order: those that have, followed by those that are
about to, are all of them. -/
theorem History.inOrder (h : History turns s) {before after : List Turn} {t : Turn}
    (ht : turns = before ++ t :: after) (hstop : t.task = .perform .stop)
    (hs : t.before.host.stopping = false) :
    (∀ id ∈ t.before.kept, id.number < s.host.nextId) ∧
      (ran after ++ s.due).filter (· ∈ t.before.kept) = t.before.kept := by
  induction h generalizing after with
  | new => simp at ht
  | call deed _ ha ih =>
    obtain ⟨hlt, hf⟩ := ih ht
    refine ⟨hlt, ?_⟩
    rw [Stage.due, ha] at hf
    exact hf
  | @work turns u x rest hu ha hb ih =>
    have hd := due_of_agenda ha hb
    have hle := x.nextId_le
    have hhost : x.before.host = u.host := by rw [hb]
    rcases snoc_eq_append_cons.1 ht with ⟨rfl, rfl, -⟩ | ⟨init, rfl, hi⟩
    · have htidy : Tidy x.before.host := hhost ▸ hu.books.tidy
      rw [(hu.books.running (hhost ▸ hs)).2.1] at hd
      have hdue : x.after.due = x.before.kept ++ x.before.due := by
        rw [Turn.after_eq hstop]
        exact due_stop htidy hs
      rw [(List.append_eq_nil_iff.1 hd.symm).2, List.append_nil] at hdue
      refine ⟨fun id hid => Nat.lt_of_lt_of_le (htidy.below id hid) hle, ?_⟩
      rw [hdue]
      exact List.filter_eq_self.2 fun id hid => decide_eq_true hid
    · obtain ⟨hlt, hf⟩ := ih hi
      have hst : u.host.stopping = true := hu.books.stopping.2 ⟨t, by simp [hi], hstop⟩
      rw [← hhost] at hlt hst
      refine ⟨fun id hid => Nat.lt_of_lt_of_le (hlt id hid) hle, ?_⟩
      -- an id that is new now is none of those
      have hreg : x.registers?.toList.filter (· ∈ t.before.kept) = [] := by
        refine List.filter_eq_nil_iff.2 fun id hid hm => ?_
        have hn := Turn.registers?_eq_some (Option.mem_toList.1 hid)
        exact Nat.lt_irrefl _ (hn ▸ hlt id (of_decide_eq_true hm))
      rw [hd] at hf
      rw [due_of_stopping hst, ran, filterMap_snoc, ← ran]
      simp only [List.filter_append, hreg, List.nil_append, List.append_assoc] at hf ⊢
      exact hf

/-! ## Every call returns -/

/-- The hooks that a stage shows to have run, in order. -/
def Stage.shownRan (s : Stage) : List HookId := s.ran.reverse.map (·.id)

theorem Turn.shownRan_after (t : Turn) :
    t.after.shownRan = t.before.shownRan ++ t.runs?.toList := by
  obtain ⟨task, b⟩ := t
  cases task with
  | perform deed =>
    have hr : (b.perform deed).ran = b.ran := by
      cases deed with
      | register label deeds => rfl
      | remove label => simp only [Stage.perform]; split <;> rfl
      | stop => simp only [Stage.perform]; split <;> rfl
    show (b.perform deed).shownRan = b.shownRan ++ []
    rw [List.append_nil, Stage.shownRan, hr, Stage.shownRan]
  | run hook =>
    show (b.runHook hook).shownRan = b.shownRan ++ [hook.id]
    simp [Stage.shownRan, Stage.runHook]
  | settle label id => exact (List.append_nil _).symm

/-- What is under way comes to an end. -/
theorem History.run (h : History turns s) : ∃ more, History (turns ++ more) s.run ∧
    s.run.agenda = [] ∧ s.run.shownRan = s.shownRan ++ Script.ran more := by
  induction s using Stage.run.induct generalizing turns with
  | case1 s hn =>
    have ha : s.agenda = [] := by
      unfold Stage.step? at hn
      split at hn
      · assumption
      · cases hn
    rw [Stage.run, hn]
    exact ⟨[], by rwa [List.append_nil], ha, (List.append_nil _).symm⟩
  | case2 s s' hs ih =>
    obtain ⟨task, rest, ha, rfl⟩ : ∃ task rest, s.agenda = task :: rest ∧
        ({ s with agenda := rest } : Stage).work task = s' := by
      unfold Stage.step? at hs
      split at hs
      · cases hs
      · next task rest ha => exact ⟨task, rest, ha, Option.some.inj hs⟩
    obtain ⟨more, hm, hd, hr⟩ := ih (h.work ⟨task, { s with agenda := rest }⟩ rest ha rfl)
    rw [Stage.run, hs]
    refine ⟨⟨task, { s with agenda := rest }⟩ :: more, by simpa using hm, hd, hr.trans ?_⟩
    have hx := Turn.shownRan_after ⟨task, { s with agenda := rest }⟩
    have hc : Script.ran (⟨task, { s with agenda := rest }⟩ :: more) =
        (Turn.runs? ⟨task, { s with agenda := rest }⟩).toList ++ Script.ran more := by
      rw [Script.ran, List.filterMap_cons, Script.ran]
      cases Turn.runs? ⟨task, { s with agenda := rest }⟩ <;> rfl
    rw [hc, ← List.append_assoc]
    exact congrArg (· ++ Script.ran more) hx

/-- A call from outside returns, with all that its hooks did; it shows the hooks that ran. -/
theorem History.act (h : History turns s) (ha : s.agenda = []) (deed : Deed) :
    ∃ more, History (turns ++ more) (s.act deed) ∧ (s.act deed).agenda = [] ∧
      (s.act deed).shownRan = Script.ran more :=
  (h.call deed ha).run

/-! ## The whole -/

/-- What is true of the hooks of a host, however they use it while they run. -/
structure Orderly (turns : List Turn) (s : Stage) : Prop where
  /-- Ids are given in order, each once. -/
  ids : registered turns = firstIds s.host.nextId
  /-- A hook that was registered has run, is about to, is kept, or was taken out. -/
  account : (registered turns).Perm (ran turns ++ s.due ++ s.kept ++ withdrawn turns)
  /-- No hook runs twice. -/
  once : (ran turns).Nodup
  /-- The host is stopping from the first stop on; hooks do not run before. -/
  stopping : s.host.stopping = true ↔ ∃ t ∈ turns, t.task = .perform .stop
  idle : s.host.stopping = false → ran turns = []
  /-- From then on none is kept. -/
  pending : s.host.stopping = true → s.host.pending = 0
  /-- The hooks that are kept at the first stop run in the order of their registration, all of them
  before everything has returned. -/
  inOrder : ∀ before t after, turns = before ++ t :: after → t.task = .perform .stop →
    t.before.host.stopping = false → t.before.kept.Pairwise (·.number < ·.number) ∧
      (ran after).filter (· ∈ t.before.kept) <+: t.before.kept ∧
      (s.agenda = [] → (ran after).filter (· ∈ t.before.kept) = t.before.kept)
  /-- A hook that is registered later runs next, before the call that registers it returns. -/
  atOnce : ∀ before t after label deeds, turns = before ++ t :: after →
    t.task = .perform (.register label deeds) → t.before.host.stopping = true →
    ∃ hook, t.registers? = some hook.id ∧ hook.deeds = deeds ∧
      t.after.agenda = .run hook :: .settle label hook.id :: t.before.agenda ∧
      (after = [] ∨ ∃ x later, after = x :: later ∧ x.task = .run hook)
  /-- Another stop changes nothing and runs nothing. -/
  again : ∀ t ∈ turns, t.task = .perform .stop → t.before.host.stopping = true →
    t.after.host = t.before.host ∧ t.after.agenda = t.before.agenda
  /-- When everything has returned after a stop, every hook that was registered and not taken out has
  run exactly once. -/
  none_left : s.agenda = [] → s.host.stopping = true → ∀ id ∈ registered turns,
    id ∉ withdrawn turns → (ran turns).count id = 1
  /-- Every call returns. -/
  returns : s.agenda = [] → ∀ deed, ∃ more, History (turns ++ more) (s.act deed) ∧
    (s.act deed).agenda = [] ∧ (s.act deed).shownRan = ran more

theorem Books.nodup (h : Books turns s) : (ran turns ++ s.due ++ s.kept ++ withdrawn turns).Nodup := by
  rw [← h.account.nodup_iff, h.ids]
  exact nodup_firstIds _

/-- **Every stop hook runs once, in order, and none is lost**, even if hooks that run register others,
take some out or stop the host again. -/
theorem History.hooks_run_once (h : History turns s) : Orderly turns s := by
  have hb := h.books
  have honce : (ran turns).Nodup := by
    have hn := hb.nodup
    rw [List.append_assoc, List.append_assoc] at hn
    exact hn.of_append_left
  have hkept : s.host.stopping = true → s.kept = [] := by
    intro hs
    rw [Stage.kept, hb.tidy.stopped hs, List.map_nil]
  have hdue : s.agenda = [] → s.due = [] := by
    intro ha
    rw [Stage.due, ha, List.filterMap_nil]
  refine ⟨hb.ids, hb.account, honce, hb.stopping, fun hs => (hb.running hs).1, fun hs => ?_,
    fun before t after ht hstop hs => ?_, fun before t after label deeds ht hreg hs => ?_,
    fun t ht hstop hs => ?_, fun ha hs id hid hw => ?_, fun ha deed => h.act ha deed⟩
  · rw [Host.pending, hb.tidy.stopped hs, List.length_nil]
  · obtain ⟨-, hf⟩ := h.inOrder ht hstop hs
    rw [List.filter_append] at hf
    refine ⟨?_, ⟨_, hf⟩, fun ha => ?_⟩
    · subst ht
      obtain ⟨u, rest, hu, -, hub⟩ := h.split
      rw [hub]
      exact hu.books.tidy.sorted
    · rwa [hdue ha, List.filter_nil, List.append_nil] at hf
  · have hafter := (Turn.after_eq hreg).trans (t.before.register_of_stopping hs label deeds)
    have hag : t.after.agenda = .run (t.before.hook label deeds) ::
        .settle label (t.before.hook label deeds).id :: t.before.agenda := by rw [hafter]
    refine ⟨t.before.hook label deeds, by rw [Turn.registers?, hreg]; rfl, rfl, hag, ?_⟩
    rcases h.next_turn ht hag with ⟨rfl, -⟩ | ⟨later, rfl⟩
    · exact .inl rfl
    · exact .inr ⟨_, later, rfl, rfl⟩
  · have hafter := (Turn.after_eq hstop).trans (t.before.stop_of_stopping hs)
    rw [hafter]
    exact ⟨rfl, rfl⟩
  · have hm := hb.account.mem_iff.1 hid
    rw [hdue ha, hkept hs, List.append_nil, List.append_nil, List.mem_append] at hm
    exact List.count_eq_one_of_mem honce (hm.resolve_right hw)

/-- A hook that registers another and takes out the third; the new one stops the host again. -/
def meddling : List Deed := [.register "late" [.stop], .remove "third"]

theorem hooks_run_once_meddling : ∃ turns s, History turns s ∧ s.agenda = [] ∧
    registered turns = [⟨0⟩, ⟨1⟩, ⟨2⟩, ⟨3⟩] ∧ withdrawn turns = [⟨1⟩] ∧
    ran turns = [⟨0⟩, ⟨3⟩, ⟨2⟩] ∧ Orderly turns s := by
  have step {turns : List Turn} {s : Stage} {task : Task} {rest : List Task}
      (h : History turns s) (ha : s.agenda = task :: rest) :
      History (turns ++ [⟨task, { s with agenda := rest }⟩]) ({ s with agenda := rest }.work task) :=
    h.work ⟨task, _⟩ rest ha rfl
  have h₁ := step (step (History.new.call (.register "first" meddling) rfl) rfl) rfl
  have h₂ := step (step (h₁.call (.register "second" []) rfl) rfl) rfl
  have h₃ := step (step (h₂.call (.register "third" []) rfl) rfl) rfl
  have h₄ := step (h₃.call (.remove "second") rfl) rfl
  -- the stop, the first hook, and what it does
  have h₅ := step (step (h₄.call .stop rfl) rfl) rfl
  have h₆ := step (step (step (step h₅ rfl) rfl) rfl) rfl
  -- the removal, which comes too late, and the third hook
  have h₇ := step (step h₆ rfl) rfl
  exact ⟨_, _, h₇, rfl, rfl, rfl, rfl, h₇.hooks_run_once⟩

end Freshness.Host.Script
