import Freshness.Proofs.Coordinator.News

/-!
# Rounds of notification

* `Turn.round` : the callbacks that a turn puts on the agenda; `System.heard`, `System.hearings` :
  the callbacks that were called, and those that are still to be;
* `Turn.opens`, `Turn.closes` : the turn begins or ends an episode of failure;
* `Turn.announces`, `Turn.leavesHealthy` : what a turn comes to, read off its task; `Turn.round_eq`
  and `Turn.success_after` : that is what it does;
* `Run.down`, `Run.opened` : in and before an episode; `Run.called` : who was to be called is called;
* `Run.rounds` : **one round for each end of an episode, and none within**.
-/

namespace Freshness.System

variable {α : Type}

def hearings (tasks : List (Task α)) : List Callback := tasks.filterMap Task.hears?

def heard (turns : List (Turn α)) : List Callback := turns.filterMap (·.task.hears?)

theorem hearings_append (xs ys : List (Task α)) :
    hearings (xs ++ ys) = hearings xs ++ hearings ys := List.filterMap_append

theorem hearings_cons (task : Task α) (rest : List (Task α)) :
    hearings (task :: rest) = task.hears?.toList ++ hearings rest := by
  cases h : task.hears? <;> simp [hearings, h]

theorem hearings_round (w : System α) (told : Bool) :
    hearings (w.round told) = if told then w.roster.snapshot else [] := by
  cases told with
  | false => rfl
  | true =>
    show (w.roster.snapshot.map Task.hear).filterMap Task.hears? = w.roster.snapshot
    rw [List.filterMap_map]
    exact List.filterMap_some

theorem hearings_eq_nil {tasks : List (Task α)} (h : ∀ x ∈ tasks, x.hears? = none) :
    hearings tasks = [] := List.filterMap_eq_nil_iff.2 h

theorem hearings_deeds (deeds : List (Deed α)) : hearings (deeds.map Task.deed) = [] := by
  refine hearings_eq_nil fun x hx => ?_
  obtain ⟨deed, -, rfl⟩ := List.mem_map.1 hx
  rfl

theorem prompt_standing {w v : System α} (h : Prompt w v) : v.standing = w.standing := by
  cases h <;> rfl

theorem prompt_hearings {w v : System α} (hw : w.timers.Mute) (h : Prompt w v) :
    hearings v.agenda = hearings w.agenda := by
  cases h with
  | fire t ha ht =>
    rw [ha]
    exact hearings_eq_nil (List.forall_mem_singleton.2 (hw t ht))
  | resume cycle ha => rw [ha]; rfl
  | wait time => rfl
  | deed deed ha => rw [ha]; rfl
  | calls calls ha =>
    rw [ha]
    refine hearings_eq_nil fun x hx => ?_
    obtain ⟨c, -, rfl⟩ := List.mem_map.1 hx
    rfl
  | meddle deed => rfl

variable [BEq α]

/-! ## What a task comes to -/

/-- The listeners are to be told. -/
def announces (w : System α) : Task α → Bool
  | .fetched _ _ (.ok a) =>
    !w.standing.lastUpdateSuccess || w.policy.alwaysUpdate || !w.standing.data.any (· == a)
  | .fetched cycle begun (.error f) =>
    w.standing.lastUpdateSuccess && !f.isFatal &&
      !(Task.fetched cycle begun (.error f : Except Fault α)).isMuted
  | .deed (.setData _) => w.held
  | .deed (.setFault _) => w.held && w.standing.lastUpdateSuccess
  | _ => false

def healthAfter (w : System α) : Task α → Bool
  | .fetched _ _ (.ok _) => true
  | .fetched _ _ (.error f) => w.standing.lastUpdateSuccess && f.isFatal
  | .deed (.setData _) => w.held || w.standing.lastUpdateSuccess
  | .deed (.setFault _) => !w.held && w.standing.lastUpdateSuccess
  | _ => w.standing.lastUpdateSuccess

theorem silent_of_tells {w : System α} {task : Task α} (h : task.tells = false) :
    w.announces task = false ∧ w.healthAfter task = w.standing.lastUpdateSuccess := by
  cases task with
  | fetched => cases h
  | hear | start | enter | conclude | refreshDue | cooldownOver => exact ⟨rfl, rfl⟩
  | deed deed =>
    cases deed with
    | setData | setFault => cases h
    | addListener | unsubscribe | setInterval | shutdown | registerShutdown | stopHost | unload
    | setPolling | spawn | drop => exact ⟨rfl, rfl⟩

/-- From `w` to `v` a task has told the listeners and left the health flag as it should. -/
structure Accounts (w : System α) (task : Task α) (v : System α) : Prop where
  agenda : ∃ tasks, v.agenda = tasks ++ w.agenda ∧
    hearings tasks = if w.announces task then w.roster.snapshot else []
  success : v.standing.lastUpdateSuccess = w.healthAfter task
  standing : task.tells = false → v.standing = w.standing

theorem accounts_of_round {w v : System α} {task : Task α} {standing : Standing α}
    {reports : List (Event α)} (t : List (Task α))
    (h : Yields w v standing (w.round (w.announces task) ++ t) reports)
    (hn : hearings t = []) (hs : standing.lastUpdateSuccess = w.healthAfter task)
    (ht : task.tells = true) : Accounts w task v := by
  refine ⟨⟨_, h.agenda, ?_⟩, h.standing ▸ hs, fun hf => ?_⟩
  · rw [hearings_append, hearings_round, hn, List.append_nil]
  · rw [ht] at hf
    cases hf

theorem accounts_of_silence {w v : System α} {task : Task α} {tasks : List (Task α)}
    (ht : task.tells = false) (hs : v.standing = w.standing) (ha : v.agenda = tasks ++ w.agenda)
    (hn : hearings tasks = []) : Accounts w task v := by
  have hq := silent_of_tells (w := w) ht
  refine ⟨⟨tasks, ha, ?_⟩, ?_, fun _ => hs⟩
  · rw [hq.1, hn]
    rfl
  · rw [hq.2, hs]

theorem News.accounts {w v : System α} {task : Task α} (h : News w task v) :
    Accounts w task v := by
  cases h with
  | @landed cycle begun result _ h =>
    have hn : (w.verdictOn cycle result).notify = w.announces (.fetched cycle begun result) := by
      cases result with
      | ok a => exact notify_of_ok w cycle a
      | error f => exact notify_of_error w cycle begun f
    rw [hn] at h
    refine accounts_of_round _ h rfl ?_ rfl
    cases result with
    | ok a => rfl
    | error f => rfl
  | @data a _ time hh h =>
    have ha : w.announces (.deed (.setData a)) = true := hh
    refine accounts_of_round [] (by rwa [ha, List.append_nil]) rfl ?_ rfl
    show true = (w.held || w.standing.lastUpdateSuccess)
    rw [hh, Bool.true_or]
  | @fault f _ hh h =>
    have ha : w.announces (.deed (.setFault f)) = w.standing.lastUpdateSuccess := by
      show (w.held && w.standing.lastUpdateSuccess) = _
      rw [hh, Bool.true_and]
    refine accounts_of_round [] (by rwa [ha, List.append_nil]) rfl ?_ rfl
    show false = (!w.held && w.standing.lastUpdateSuccess)
    rw [hh, Bool.not_true, Bool.false_and]
  | heard h => exact accounts_of_silence rfl h.standing h.agenda (hearings_deeds _)
  | joined label context hd h => exact accounts_of_silence hd h.standing h.agenda rfl
  | left id hd h => exact accounts_of_silence hd h.standing h.agenda rfl
  | @barred deed hd hh =>
    have hq : w.announces (.deed deed) = false ∧
        w.healthAfter (.deed deed) = w.standing.lastUpdateSuccess := by
      cases deed with
      | setData | setFault => simp [announces, healthAfter, hh]
      | addListener | unsubscribe | setInterval | shutdown | registerShutdown | stopHost | unload
      | setPolling | spawn | drop => cases hd
    exact ⟨⟨[], rfl, by rw [hq.1]; rfl⟩, hq.2.symm, fun _ => rfl⟩
  | routine ht _ h =>
    obtain ⟨tasks, hc, h⟩ := h
    exact accounts_of_silence ht h.standing h.agenda
      (hearings_eq_nil fun x hx => Task.hears?_of_isCallback (hc x hx))

theorem announces_of_failing {w : System α} {task : Task α}
    (h : w.standing.lastUpdateSuccess = false) : w.announces task = w.healthAfter task := by
  cases task with
  | fetched cycle begun result => cases result <;> simp [announces, healthAfter, h]
  | hear | start | enter | conclude | refreshDue | cooldownOver => exact h.symm
  | deed deed =>
    cases deed with
    | setData | setFault => simp [announces, healthAfter, h]
    | addListener | unsubscribe | setInterval | shutdown | registerShutdown | stopHost | unload
    | setPolling | spawn | drop => exact h.symm

theorem announces_of_healthy {w : System α} {task : Task α}
    (h : w.standing.lastUpdateSuccess = true) (ha : w.healthAfter task = false) :
    w.announces task = !task.isMuted := by
  cases task with
  | fetched cycle begun result =>
    cases result with
    | ok a => cases ha
    | error f =>
      have hf : f.isFatal = false := by simpa [healthAfter, h] using ha
      simp [announces, h, hf]
  | hear | start | enter | conclude | refreshDue | cooldownOver => cases h.symm.trans ha
  | deed deed =>
    cases deed with
    | setData => simp [healthAfter, h] at ha
    | setFault =>
      have hh : w.held = true := by simpa [healthAfter, h] using ha
      simp [announces, Task.isMuted, hh, h]
    | addListener | unsubscribe | setInterval | shutdown | registerShutdown | stopHost | unload
    | setPolling | spawn | drop => cases h.symm.trans ha

/-! ## Turns -/

namespace Turn

/-- The callbacks that the turn puts on the agenda, on top of what was there. -/
def round (t : Turn α) : List Callback :=
  hearings (t.after.agenda.take (t.after.agenda.length - t.before.agenda.length))

def opens (t : Turn α) : Bool :=
  t.before.standing.lastUpdateSuccess && !t.after.standing.lastUpdateSuccess

def closes (t : Turn α) : Bool :=
  !t.before.standing.lastUpdateSuccess && t.after.standing.lastUpdateSuccess

theorem opens_iff {t : Turn α} : t.opens = true ↔
    t.before.standing.lastUpdateSuccess = true ∧ t.after.standing.lastUpdateSuccess = false := by
  simp [opens]

theorem closes_iff {t : Turn α} : t.closes = true ↔
    t.before.standing.lastUpdateSuccess = false ∧ t.after.standing.lastUpdateSuccess = true := by
  simp [closes]

theorem accounts (t : Turn α) : Accounts t.before t.task t.after :=
  (news_perform t.before t.task).accounts

theorem round_eq (t : Turn α) :
    t.round = if t.before.announces t.task then t.before.roster.snapshot else [] := by
  obtain ⟨tasks, ha, hr⟩ := t.accounts.agenda
  rw [round, ha, List.length_append, Nat.add_sub_cancel, List.take_left, hr]

theorem hearings_after (t : Turn α) :
    hearings t.after.agenda = t.round ++ hearings t.before.agenda := by
  obtain ⟨tasks, ha, hr⟩ := t.accounts.agenda
  rw [t.round_eq, ha, hearings_append, hr]

theorem round_of_opens {t : Turn α} (h : t.opens = true) :
    t.round = if t.task.isMuted then [] else t.before.roster.snapshot := by
  obtain ⟨hb, ha⟩ := opens_iff.1 h
  rw [t.accounts.success] at ha
  rw [t.round_eq, announces_of_healthy hb ha]
  cases t.task.isMuted <;> rfl

theorem round_of_closes {t : Turn α} (h : t.closes = true) :
    t.round = t.before.roster.snapshot := by
  obtain ⟨hb, ha⟩ := closes_iff.1 h
  rw [t.accounts.success] at ha
  rw [t.round_eq, announces_of_failing hb, ha, if_pos rfl]

theorem round_of_failing {t : Turn α} (hb : t.before.standing.lastUpdateSuccess = false)
    (ha : t.after.standing.lastUpdateSuccess = false) : t.round = [] := by
  rw [t.accounts.success] at ha
  rw [t.round_eq, announces_of_failing hb, ha]
  rfl

end Turn

/-! ## Episodes -/

/-- Until a turn ends it, an episode of failure goes on. -/
theorem Run.down {w v : System α} {turns : List (Turn α)} (h : Run w turns v)
    (hw : w.standing.lastUpdateSuccess = false) (hc : ∀ t ∈ turns, t.closes = false) :
    v.standing.lastUpdateSuccess = false ∧ ∀ t ∈ turns,
      t.before.standing.lastUpdateSuccess = false ∧ t.after.standing.lastUpdateSuccess = false := by
  induction h with
  | rest => exact ⟨hw, by simp⟩
  | prompt _ hp ih => exact ⟨prompt_standing hp ▸ (ih hc).1, (ih hc).2⟩
  | @work turns u task rest _ ha ih =>
    obtain ⟨hu, ht⟩ := ih fun t ht => hc t (List.mem_append_left _ ht)
    have hk := hc _ (List.mem_append_right _ (List.mem_singleton_self _))
    have hv : ({ u with agenda := rest }.perform task).standing.lastUpdateSuccess = false := by
      rw [← Bool.not_eq_true]
      exact fun hv => Bool.false_ne_true (hk.symm.trans (Turn.closes_iff.2 ⟨hu, hv⟩))
    refine ⟨hv, fun t h => ?_⟩
    rcases List.mem_append.1 h with h | h
    · exact ht t h
    · rw [List.mem_singleton.1 h]
      exact ⟨hu, hv⟩

/-- A turn has begun the episode of failure that is going on. -/
theorem Run.opened {w v : System α} {turns : List (Turn α)} (h : Run w turns v)
    (hw : w.standing.lastUpdateSuccess = true) (hv : v.standing.lastUpdateSuccess = false) :
    ∃ before t inside, turns = before ++ t :: inside ∧ t.opens = true ∧
      ∀ s ∈ inside, s.closes = false := by
  induction h with
  | rest => cases hw.symm.trans hv
  | prompt _ hp ih => exact ih (prompt_standing hp ▸ hv)
  | @work turns u task rest _ ha ih =>
    cases hu : u.standing.lastUpdateSuccess with
    | true =>
      exact ⟨turns, ⟨task, _⟩, [], rfl, Turn.opens_iff.2 ⟨hu, hv⟩, by simp⟩
    | false =>
      obtain ⟨before, t, inside, rfl, ht, hi⟩ := ih hu
      refine ⟨before, t, inside ++ [_], List.append_assoc .., ht, fun s hs => ?_⟩
      rcases List.mem_append.1 hs with hs | hs
      · exact hi s hs
      · rw [List.mem_singleton.1 hs]
        exact Bool.and_eq_false_iff.2 (.inr hv)

/-! ## Who is called -/

/-- Whoever was to be called or came to be has been called, as often as that, or is still to be. -/
theorem Run.called {w v : System α} {turns : List (Turn α)} (hw : Reachable w)
    (h : Run w turns v) : (heard turns ++ hearings v.agenda).Perm
      (hearings w.agenda ++ turns.flatMap Turn.round) := by
  induction h with
  | rest => rw [List.flatMap_nil, List.append_nil]; exact .refl _
  | prompt hr hp ih => rwa [prompt_hearings (hw.moves hr.moves).mute hp]
  | @work turns u task rest hr ha ih =>
    have ht := (Turn.mk task { u with agenda := rest }).hearings_after
    have hh : heard (turns ++ [⟨task, { u with agenda := rest }⟩]) =
        heard turns ++ task.hears?.toList := filterMap_snoc (fun t : Turn α => t.task.hears?) _ _
    rw [hh, List.flatMap_append, List.flatMap_singleton, ← List.append_assoc]
    refine .trans ?_ (ih.append_right _)
    rw [ha, hearings_cons]
    show (heard turns ++ task.hears?.toList ++
      hearings (Turn.mk task { u with agenda := rest }).after.agenda).Perm _
    rw [ht, List.append_assoc, List.append_assoc, List.append_assoc]
    exact (List.perm_append_comm.append_left _).append_left _

/-! ## The whole -/

/-- What is true of the rounds of notification in every run of a new coordinator. -/
structure Announced (turns : List (Turn α)) (v : System α) : Prop where
  /-- The turn that begins an episode of failure tells all listeners once, or nobody if the failure
  is muted. -/
  opening : ∀ t ∈ turns, t.opens = true →
    t.round = if t.task.isMuted then [] else t.before.roster.snapshot
  /-- Within the episode nobody is told of anything. -/
  inside : ∀ {before inside after : List (Turn α)} {t : Turn α},
    turns = before ++ t :: (inside ++ after) → t.opens = true →
    (∀ s ∈ inside, s.closes = false) → ∀ s ∈ inside,
      s.before.standing.lastUpdateSuccess = false ∧
        s.after.standing.lastUpdateSuccess = false ∧ s.round = []
  /-- The turn that ends it tells all once. -/
  closing : ∀ t ∈ turns, t.closes = true → t.round = t.before.roster.snapshot
  /-- There is no failure but in an episode that has begun and not ended. -/
  episode : ∀ {before after : List (Turn α)} {t : Turn α}, turns = before ++ t :: after →
    t.before.standing.lastUpdateSuccess = false →
    ∃ start s inside, before = start ++ s :: inside ∧ s.opens = true ∧
      ∀ x ∈ inside, x.closes = false
  /-- While all is well a value is announced if every value is or if it is new. -/
  value : ∀ t ∈ turns, ∀ {cycle : Cycle} {begun : Nat} {a : α},
    t.task = .fetched cycle begun (.ok a) → t.before.standing.lastUpdateSuccess = true →
    t.round = if t.before.policy.alwaysUpdate || !t.before.standing.data.any (· == a)
      then t.before.roster.snapshot else []
  /-- A fetch that is not implemented is never announced, and says nothing about the source. -/
  defect : ∀ t ∈ turns, ∀ {cycle : Cycle} {begun : Nat} {f : Fault},
    t.task = .fetched cycle begun (.error f) → f.kind = .notImplemented →
    t.round = [] ∧ t.after.standing.lastUpdateSuccess = t.before.standing.lastUpdateSuccess
  /-- A value told from outside always is, whoever has the handle to tell it. -/
  injection : ∀ t ∈ turns, ∀ {a : α}, t.task = .deed (.setData a) → t.before.held = true →
    t.round = t.before.roster.snapshot ∧ t.after.standing.lastUpdateSuccess = true
  /-- No other turn tells anybody or changes what is known. -/
  other : ∀ t ∈ turns, t.task.tells = false →
    t.round = [] ∧ t.after.standing = t.before.standing
  /-- A round has each listener's callback once. -/
  distinct : ∀ t ∈ turns, t.before.roster.snapshot.Nodup ∧
    t.before.roster.snapshot.Perm (t.before.roster.listeners.map (·.callback))
  /-- Each callback of each round is called once, and no other is called. -/
  called : ∀ {before later : List (Turn α)} {t : Turn α}, turns = before ++ t :: later →
    (heard later ++ hearings v.agenda).Perm
      ((t.round ++ hearings t.before.agenda) ++ later.flatMap Turn.round)

/-- **One round of notification for each end of an episode of failure, and none within.** -/
theorem Run.rounds {p : Plan α} {jitter : Duration} {now : Nat} {turns : List (Turn α)}
    {v : System α} (h : Run (p.system jitter now) turns v) : Announced turns v := by
  have hreach : ∀ {before after : List (Turn α)} {t : Turn α}, turns = before ++ t :: after →
      Reachable t.after ∧ t.before.roster.Sound := by
    rintro before after t rfl
    obtain ⟨u, rest, hb, ha, ht, -⟩ := h.split
    have hu : Reachable u := hb.reachable
    refine ⟨?_, ?_⟩
    · have hm := hu.moves (.single (.work t.task rest ha))
      rwa [← ht] at hm
    · rw [ht]
      exact hu.roster_sound
  refine ⟨fun t _ => Turn.round_of_opens, ?_, fun t _ => Turn.round_of_closes, ?_, ?_, ?_, ?_, ?_,
    ?_, ?_⟩
  · rintro before inside after t rfl ht hc s hs
    obtain ⟨_, _, -, -, -, hr⟩ := h.split
    obtain ⟨u, hi⟩ := hr.upto
    obtain ⟨hb, ha⟩ := (hi.down (Turn.opens_iff.1 ht).2 hc).2 s hs
    exact ⟨hb, ha, Turn.round_of_failing hb ha⟩
  · rintro before after t rfl ht
    obtain ⟨u, rest, hb, -, htb, -⟩ := h.split
    rw [htb] at ht
    exact hb.opened rfl ht
  · intro t _ cycle begun a ht hb
    rw [t.round_eq, ht, announces, hb]
    rfl
  · intro t _ cycle begun f ht hf
    have hfatal : f.isFatal = true := by rw [Fault.isFatal, hf]; rfl
    rw [t.round_eq, t.accounts.success, ht, announces, healthAfter, hfatal]
    simp
  · intro t _ a ht hh
    rw [t.round_eq, t.accounts.success, ht, announces, healthAfter, hh]
    exact ⟨rfl, rfl⟩
  · intro t _ ht
    rw [t.round_eq, (silent_of_tells ht).1]
    exact ⟨rfl, t.accounts.standing ht⟩
  · intro t ht
    obtain ⟨before, after, hs⟩ := List.append_of_mem ht
    exact ⟨(hreach hs).2.nodup_snapshot, t.before.roster.snapshot_perm⟩
  · rintro before later t hs
    have hr := (hreach hs).1
    subst hs
    obtain ⟨_, _, -, -, -, hl⟩ := h.split
    rw [← t.hearings_after]
    exact hl.called hr

/-- Two faults are told from outside, then a value. -/
theorem two_faults_one_round :
    ∃ (p : Plan Nat) (turns : List (Turn Nat)) (v : System Nat),
      Run (p.system .zero 0) turns v ∧
      turns.map (·.round) = [[], [⟨"dial", 0⟩], [], [], [⟨"dial", 0⟩], []] ∧
      turns.map (·.opens) = [false, true, false, false, false, false] ∧
      turns.map (·.closes) = [false, false, false, false, true, false] ∧ Announced turns v := by
  have h₁ : Run (({ name := "clock" } : Plan Nat).system .zero 0) _ _ :=
    Run.rest.prompt (.deed (.addListener "dial" none []) rfl) |>.work _ _ rfl
  have h₂ := h₁.prompt (.deed (.setFault (.timeout "slow")) rfl) |>.work _ _ rfl |>.work _ _ rfl
  have h₃ := h₂.prompt (.deed (.setFault (.transport "gone")) rfl) |>.work _ _ rfl
  have h₄ := h₃.prompt (.deed (.setData (7 : Nat)) rfl) |>.work _ _ rfl |>.work _ _ rfl
  exact ⟨_, _, _, h₄, by decide +kernel, by decide +kernel, by decide +kernel, h₄.rounds⟩

end Freshness.System
