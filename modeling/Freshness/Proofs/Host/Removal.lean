import Freshness.Proofs.Host

/-!
# When a stop hook can be removed

* `Turn.removes?` : the hook that a turn is to take out, whether or not the host keeps it;
* `History.named` : a name stands for a hook that was registered;
* `Turn.agenda_suffix`, `History.due_runs` : a hook that is about to run does;
* `Removals`, `History.removals` : **a hook that is removed before the host stops never runs, and from
  then on a removal changes nothing**;
* `ran_after_removal` : so a hook that another hook removes may still run.
-/

namespace Freshness.Host.Script

variable {turns before after : List Turn} {s : Stage} {t : Turn} {id : HookId}

/-- The hook that a turn is to take out. -/
def Turn.removes? (t : Turn) : Option HookId :=
  match t.task with
  | .perform (.remove label) => t.before.names.lookup label
  | _ => none

theorem Turn.removes?_eq_some (h : t.removes? = some id) :
    ∃ label, t.task = .perform (.remove label) ∧ t.before.names.lookup label = some id := by
  unfold Turn.removes? at h
  split at h
  · next label ht => exact ⟨label, ht, h⟩
  · cases h

/-! ## Names -/

/-- A name stands for a hook that was registered, and so does one that is about to be given. -/
structure Named (turns : List Turn) (s : Stage) : Prop where
  names : ∀ n ∈ s.names, n.2 ∈ registered turns
  settles : ∀ label id, .settle label id ∈ s.agenda → id ∈ registered turns

theorem registered_snoc : registered (turns ++ [t]) = registered turns ++ t.registers?.toList :=
  filterMap_snoc Turn.registers? turns t

theorem Named.keep (h : Named turns s) (hn : t.after.names = s.names)
    (ha : ∀ label id, .settle label id ∈ t.after.agenda → .settle label id ∈ s.agenda) :
    Named (turns ++ [t]) t.after where
  names := by
    rw [hn, registered_snoc]
    exact fun n hm => List.mem_append_left _ (h.names n hm)
  settles := by
    rw [registered_snoc]
    exact fun label id hm => List.mem_append_left _ (h.settles label id (ha label id hm))

theorem Named.register (h : Named turns s) {label : String} {deeds : List Deed}
    (ht : t.task = .perform (.register label deeds)) (hn : t.before.names = s.names)
    (hb : ∀ task ∈ t.before.agenda, task ∈ s.agenda) : Named (turns ++ [t]) t.after := by
  have hr : t.registers? = some (t.before.hook label deeds).id := by
    rw [Turn.registers?, ht]
    rfl
  have hafter := Turn.after_eq ht
  refine ⟨?_, ?_⟩
  · rw [hafter, registered_snoc]
    exact fun n hm => List.mem_append_left _ (h.names n (hn ▸ hm))
  · intro label' id hm
    rw [registered_snoc, hr]
    rw [hafter] at hm
    have hm : .settle label' id ∈ (t.before.perform (.register label deeds)).agenda := hm
    cases hs : t.before.host.stopping with
    | false =>
      rw [t.before.register_of_running hs] at hm
      rcases List.mem_cons.1 hm with he | hm
      · cases he
        exact List.mem_append_right _ (.head _)
      · exact List.mem_append_left _ (h.settles label' id (hb _ hm))
    | true =>
      rw [t.before.register_of_stopping hs] at hm
      rcases List.mem_cons.1 hm with he | hm
      · cases he
      rcases List.mem_cons.1 hm with he | hm
      · cases he
        exact List.mem_append_right _ (.head _)
      · exact List.mem_append_left _ (h.settles label' id (hb _ hm))

theorem Named.work (h : Named turns s) {rest : List Task} (ha : s.agenda = t.task :: rest)
    (hb : t.before = { s with agenda := rest }) : Named (turns ++ [t]) t.after := by
  have hn : t.before.names = s.names := by rw [hb]
  have hrest : ∀ task ∈ t.before.agenda, task ∈ s.agenda := by
    rw [hb, ha]
    exact fun task hm => List.mem_cons_of_mem _ hm
  obtain ⟨task, b⟩ := t
  cases task with
  | perform deed =>
    cases deed with
    | register label deeds => exact h.register rfl hn hrest
    | remove label =>
      refine h.keep ?_ fun label' id hm => hrest _ ?_
      · show (b.perform (.remove label)).names = s.names
        rw [← hn, Stage.perform]
        split <;> rfl
      · have hm : .settle label' id ∈ (b.perform (.remove label)).agenda := hm
        rwa [b.agenda_remove] at hm
    | stop =>
      cases hs : b.host.stopping with
      | true =>
        have hafter : Turn.after ⟨.perform .stop, b⟩ = _ := b.stop_of_stopping hs
        exact h.keep (by rw [hafter]; exact hn) fun _ _ hm => hrest _ (by rwa [hafter] at hm)
      | false =>
        have hafter : Turn.after ⟨.perform .stop, b⟩ = _ := b.stop_of_running hs
        refine h.keep (by rw [hafter]; exact hn) fun label' id hm => hrest _ ?_
        rw [hafter] at hm
        simpa using hm
  | run hook =>
    refine h.keep hn fun label' id hm => hrest _ ?_
    have hm : .settle label' id ∈ hook.deeds.map Task.perform ++ b.agenda := hm
    simpa using hm
  | settle label id =>
    have hid : id ∈ registered turns := h.settles label id (by rw [ha]; exact .head _)
    refine ⟨?_, fun label' id' hm => ?_⟩
    · rw [registered_snoc]
      intro n hm
      have hm : n ∈ (label, id) :: b.names := hm
      rcases List.mem_cons.1 hm with rfl | hm
      · exact List.mem_append_left _ hid
      · exact List.mem_append_left _ (h.names n (hn ▸ hm))
    · rw [registered_snoc]
      exact List.mem_append_left _ (h.settles label' id' (hrest _ hm))

theorem History.named (h : History turns s) : Named turns s := by
  induction h with
  | new => exact ⟨by simp, by simp⟩
  | call deed _ _ ih => exact ⟨ih.names, by simp⟩
  | work t rest _ ha hb ih => exact ih.work ha hb

theorem History.registered_of_removes? (h : History before s) (hb : t.before.names = s.names)
    (hr : t.removes? = some id) : id ∈ registered before := by
  obtain ⟨label, -, hl⟩ := Turn.removes?_eq_some hr
  rw [hb] at hl
  obtain ⟨xs, ys, hn, -⟩ := List.lookup_eq_some_iff.1 hl
  exact h.named.names (label, id) (by rw [hn]; simp)

/-! ## What is about to run -/

theorem Turn.agenda_suffix (t : Turn) : t.before.agenda <:+ t.after.agenda := by
  obtain ⟨task, b⟩ := t
  cases task with
  | perform deed =>
    cases deed with
    | register label deeds =>
      show b.agenda <:+ (b.perform (.register label deeds)).agenda
      cases hs : b.host.stopping with
      | false =>
        rw [b.register_of_running hs]
        exact List.suffix_cons ..
      | true =>
        rw [b.register_of_stopping hs]
        exact (List.suffix_cons ..).trans (List.suffix_cons ..)
    | remove label => exact (b.agenda_remove label).symm ▸ List.suffix_refl b.agenda
    | stop =>
      show b.agenda <:+ (b.perform .stop).agenda
      cases hs : b.host.stopping with
      | false =>
        rw [b.stop_of_running hs]
        exact List.suffix_append ..
      | true => simp only [b.stop_of_stopping hs, List.suffix_refl]
  | run hook => exact List.suffix_append ..
  | settle label id => exact List.suffix_refl _

theorem Turn.due_after (t : Turn) (h : id ∈ t.before.due) : id ∈ t.after.due :=
  (t.agenda_suffix.sublist.filterMap _).subset h

/-- A hook that is about to run has run later, or is still about to. -/
theorem History.due_runs (h : History (before ++ t :: after) s) (hd : id ∈ t.after.due) :
    id ∈ ran after ++ s.due := by
  generalize hs : before ++ t :: after = turns at h
  induction h generalizing after with
  | new => simp at hs
  | call deed _ ha ih =>
    have hm := ih hs
    rwa [Stage.due, ha] at hm
  | @work turns u x rest _ ha hb ih =>
    rcases snoc_eq_append_cons.1 hs.symm with ⟨rfl, rfl, -⟩ | ⟨init, rfl, hi⟩
    · exact hd
    · rw [ran, filterMap_snoc, ← ran, List.append_assoc]
      have hm := ih hi.symm
      rw [due_of_agenda ha hb] at hm
      rcases List.mem_append.1 hm with hm | hm
      · exact List.mem_append_left _ hm
      · refine List.mem_append_right _ ?_
        rcases List.mem_append.1 hm with hm | hm
        · exact List.mem_append_left _ hm
        · exact List.mem_append_right _ (x.due_after hm)

/-! ## The whole -/

/-- What is true of the removals of hooks, whoever asks for them. -/
structure Removals (turns : List Turn) (s : Stage) : Prop where
  /-- A hook that is removed while the host runs never runs. -/
  inTime : ∀ before t after id, turns = before ++ t :: after → t.removes? = some id →
    t.before.host.stopping = false → id ∉ ran turns ∧ id ∉ s.due ∧ id ∉ s.kept
  /-- From the stop on a removal changes nothing. -/
  void : ∀ t ∈ turns, ∀ id, t.removes? = some id → t.before.host.stopping = true →
    t.after = t.before
  /-- So a hook that is removed only then, and has not run before, runs all the same. -/
  late : ∀ before t after id, turns = before ++ t :: after → t.removes? = some id →
    t.before.host.stopping = true → id ∉ ran before → id ∉ withdrawn before →
    id ∈ ran after ++ s.due ∧ (s.agenda = [] → id ∈ ran after)

theorem Books.never_runs (h : Books turns s) (hw : id ∈ withdrawn turns) :
    id ∉ ran turns ∧ id ∉ s.due ∧ id ∉ s.kept := by
  have hd := (List.nodup_append'.1 h.nodup).2.2
  refine ⟨fun hm => hd ?_ hw, fun hm => hd ?_ hw, fun hm => hd ?_ hw⟩
  all_goals simp [hm]

/-- **A hook that is removed before the host stops never runs**, and from the stop on, when the hooks
have been taken out to be run, a removal changes nothing. -/
theorem History.removals (h : History turns s) : Removals turns s := by
  refine ⟨?_, ?_, ?_⟩
  · rintro before t after id rfl hr hs
    obtain ⟨u, rest, hu, -, hb⟩ := h.split
    obtain ⟨label, ht, hl⟩ := Turn.removes?_eq_some hr
    have hreg := hu.registered_of_removes? (by rw [hb]) hr
    refine h.books.never_runs ?_
    rw [withdrawn, List.filterMap_append]
    -- before the stop a hook that was registered is kept, or has been taken out already
    obtain ⟨hran, hdue, -⟩ := hu.books.running (by rw [hb] at hs; exact hs)
    have hm := hu.books.account.mem_iff.1 hreg
    rw [hran, hdue, List.nil_append, List.nil_append] at hm
    rcases List.mem_append.1 hm with hk | hw
    · refine List.mem_append_right _ (List.mem_filterMap.2 ⟨t, .head _, ?_⟩)
      obtain ⟨x, hx, rfl⟩ := List.mem_map.1 hk
      rw [Turn.withdraws?, ht]
      show (t.before.names.lookup label).filter _ = _
      rw [hl, Option.filter_some, if_pos]
      refine List.any_eq_true.2 ⟨x, ?_, beq_self_eq_true _⟩
      rw [hb]
      exact hx
    · exact List.mem_append_left _ hw
  · intro t ht id hr hs
    obtain ⟨before, after, rfl⟩ := List.append_of_mem ht
    obtain ⟨u, rest, hu, -, hb⟩ := h.split
    obtain ⟨label, htask, hl⟩ := Turn.removes?_eq_some hr
    have hk : t.before.host.hooks = [] := by
      have htidy := hu.books.tidy
      rw [hb] at hs ⊢
      exact htidy.stopped hs
    have he : t.before.host.remove id = t.before.host := by
      rw [Host.remove, hk, List.filter_nil, ← hk]
    rw [Turn.after_eq htask]
    show t.before.perform (.remove label) = t.before
    simp only [Stage.perform, hl, he]
  · rintro before t after id rfl hr hs hran hw
    obtain ⟨u, rest, hu, ha, hb⟩ := h.split
    obtain ⟨label, htask, -⟩ := Turn.removes?_eq_some hr
    have hk : u.kept = [] := by
      have htidy := hu.books.tidy
      rw [hb] at hs
      rw [Stage.kept, htidy.stopped hs, List.map_nil]
    have hm := hu.books.account.mem_iff.1 (hu.registered_of_removes? (by rw [hb]) hr)
    have hdue : id ∈ t.before.due := by
      have hd := due_of_agenda ha hb
      rw [Turn.runs?, htask] at hd
      simp only [Task.hook?, Option.toList_none, List.nil_append] at hd
      simpa [hran, hw, hk, hd] using hm
    have hruns := h.due_runs (t.due_after hdue)
    refine ⟨hruns, fun hd => ?_⟩
    rwa [Stage.due, hd, List.filterMap_nil, List.append_nil] at hruns

theorem History.next {task : Task} {rest : List Task} (h : History turns s)
    (ha : s.agenda = task :: rest) :
    History (turns ++ [⟨task, { s with agenda := rest }⟩]) ({ s with agenda := rest }.work task) :=
  h.work ⟨task, _⟩ rest ha rfl

/-- The second hook is removed before the host stops, and the third one while it does. -/
theorem removals_of_two : ∃ turns s, History turns s ∧ s.agenda = [] ∧
    turns.filterMap Turn.removes? = [⟨1⟩, ⟨2⟩] ∧ ran turns = [⟨0⟩, ⟨2⟩] ∧ Removals turns s := by
  have h₁ := History.new.call (.register "first" [.remove "third"]) rfl |>.next rfl |>.next rfl
  have h₂ := h₁.call (.register "second" []) rfl |>.next rfl |>.next rfl
  have h₃ := h₂.call (.register "third" []) rfl |>.next rfl |>.next rfl
  have h₄ := h₃.call (.remove "second") rfl |>.next rfl
  -- the stop, the first hook, the removal that comes too late, and the third hook
  have h₅ := h₄.call .stop rfl |>.next rfl |>.next rfl |>.next rfl |>.next rfl
  exact ⟨_, _, h₅, rfl, rfl, rfl, h₅.removals⟩

/-- A hook that is removed before it has begun to run may run all the same: the one that removes it
runs when the hooks have been taken out. -/
theorem ran_after_removal : ∃ before t after s, History (before ++ t :: after) s ∧
    t.removes? = some ⟨1⟩ ∧ ⟨1⟩ ∉ ran before ∧ ⟨1⟩ ∈ ran after := by
  have h₁ := History.new.call (.register "first" [.remove "second"]) rfl |>.next rfl |>.next rfl
  have h₂ := h₁.call (.register "second" []) rfl |>.next rfl |>.next rfl
  have h₃ := h₂.call .stop rfl |>.next rfl |>.next rfl |>.next rfl |>.next rfl
  have split {turns : List Turn} {s : Stage} {t x : Turn} (h : History (turns ++ [t] ++ [x]) s) :
      History (turns ++ t :: [x]) s := by rwa [List.append_assoc] at h
  exact ⟨_, _, _, _, split h₃, rfl, by decide, .head _⟩

end Freshness.Host.Script
