import Freshness.Proofs.Coordinator.Rounds
import Freshness.Proofs.Coordinator.SingleFlight

/-!
# What listeners have read

A listener reads what is known of the source when it registers and each time it is called.

* `System.lastRead` : what a listener read last in a run;
* `System.Current` : what was read is what is known, but for a failure that was not announced;
* `System.Attended` : every listener is up to date or is going to be called, in every run
  (`Run.attended`);
* `System.Discreet`, `System.Layered` : callbacks tell nothing themselves, and then whoever does
  interrupts no round;
* `Run.informed` : **no listener is left with stale data**.
-/

namespace Freshness

variable {α : Type}

def Standing.sight (s : Standing α) : Sight α :=
  ⟨s.data, s.lastUpdateSuccess, s.lastFault.map (·.kind)⟩

def Roster.has {κ χ : Type} (r : Roster κ χ) (id : ListenerId) : Bool :=
  r.listeners.any (·.id == id)

theorem Roster.has_of_mem {κ χ : Type} {r : Roster κ χ} {l : Listener κ χ}
    (h : l ∈ r.listeners) : r.has l.id = true :=
  List.any_eq_true.2 ⟨l, h, beq_self_eq_true _⟩

theorem Roster.Sound.has_freshId {r : Roster Callback String} (h : r.Sound) :
    r.has r.freshId = false := by
  rw [has, List.any_eq_false]
  intro l hl he
  have hn := h.fresh l hl
  rw [beq_iff_eq.1 he] at hn
  exact Nat.lt_irrefl _ hn

/-- Both are the same, or they compare equal. -/
def Alike [BEq α] (x y : Option α) : Prop :=
  x = y ∨ ∃ a b, x = some a ∧ y = some b ∧ (a == b) = true

theorem Alike.trans [BEq α] (ht : ∀ a b c : α, (a == b) = true → (b == c) = true → (a == c) = true)
    {x y z : Option α} (h₁ : Alike x y) (h₂ : Alike y z) : Alike x z := by
  rcases h₁ with rfl | ⟨a, b, rfl, rfl, hab⟩
  · exact h₂
  · rcases h₂ with rfl | ⟨b', c, hb, rfl, hbc⟩
    · exact .inr ⟨a, b, rfl, rfl, hab⟩
    · obtain rfl := Option.some.inj hb
      exact .inr ⟨a, c, rfl, rfl, ht a b c hab hbc⟩

def Task.injects : Task α → Bool
  | .deed d => d.injects
  | .hear _ | .start _ _ | .enter _ | .fetched _ _ _ | .conclude _ _ => false
  | .refreshDue _ | .cooldownOver _ => false

namespace System

/-- No callback is due behind whoever tells the coordinator something. -/
def Layered (agenda : List (Task α)) : Prop :=
  agenda.Pairwise fun x y => x.injects = true → y.hears? = none

variable [BEq α]

/-! ## Reading -/

/-- The listener reads in this turn: it is called, or it registers. -/
def Turn.reads (t : Turn α) (id : ListenerId) : Bool :=
  match t.task with
  | .hear k => k.key == id.number
  | _ => !t.before.roster.has id && t.after.roster.has id

/-- What the listener read last. -/
def lastRead (turns : List (Turn α)) (id : ListenerId) : Option (Sight α) :=
  (turns.filter (·.reads id)).getLast?.map (·.after.standing.sight)

theorem lastRead_of_reads {t : Turn α} {id : ListenerId} (h : t.reads id = true)
    (turns : List (Turn α)) : lastRead (turns ++ [t]) id = some t.after.standing.sight := by
  simp [lastRead, h]

theorem lastRead_of_not_reads {t : Turn α} {id : ListenerId} (h : t.reads id = false)
    (turns : List (Turn α)) : lastRead (turns ++ [t]) id = lastRead turns id := by
  simp [lastRead, h]

/-- Whoever is registered after a turn was so before, or has just read. -/
theorem mem_before_or_reads {t : Turn α} (hs : t.before.roster.Sound)
    {l : Listener Callback String} (hl : l ∈ t.after.roster.listeners) :
    l ∈ t.before.roster.listeners ∨ t.reads l.id = true := by
  have h := news_perform t.before t.task
  rw [show t.before.perform t.task = t.after from rfl] at h
  generalize htask : t.task = task at h
  generalize hafter : t.after = v at h hl
  cases h with
  | landed h | data _ _ h | fault _ h | heard h => exact .inl (h.roster ▸ hl)
  | joined label context _ h =>
    rw [h.roster] at hl
    rcases List.mem_append.1 hl with hl | hl
    · exact .inl hl
    · obtain rfl := List.mem_singleton.1 hl
      refine .inr ?_
      have hh : t.after.roster.has t.before.roster.freshId = true := by
        rw [hafter, h.roster]
        exact Roster.has_of_mem (l := ⟨t.before.roster.freshId, _, _⟩)
          (List.mem_append_right _ (List.mem_singleton_self _))
      simp only [Turn.reads, htask, hs.has_freshId, hh]
      rfl
  | left id _ h =>
    rw [h.roster] at hl
    exact .inl (List.mem_filter.1 hl).1
  | barred => exact .inl hl
  | routine _ _ h =>
    obtain ⟨tasks, -, h⟩ := h
    exact .inl (h.roster ▸ hl)

/-! ## Up to date -/

/-- An episode of failure is going on that began with a failure that was not announced. -/
def MutedEpisode (turns : List (Turn α)) : Prop :=
  ∃ before t inside, turns = before ++ t :: inside ∧ t.opens = true ∧ t.task.isMuted = true ∧
    ∀ s ∈ inside, s.closes = false

/-- What was read is what is known, but for a failure that was not announced. -/
structure Current (turns : List (Turn α)) (standing : Standing α) (s : Sight α) : Prop where
  data : Alike s.data standing.data
  success : s.success = standing.lastUpdateSuccess ∨
    (standing.lastUpdateSuccess = false ∧ MutedEpisode turns)

theorem Current.refl (turns : List (Turn α)) (standing : Standing α) :
    Current turns standing standing.sight := ⟨.inl rfl, .inl rfl⟩

/-- What is not announced is no other value, and at most the failure that begins a muted episode. -/
theorem News.unannounced {w v : System α} {task : Task α} (h : News w task v)
    (hu : w.announces task = false) : Alike w.standing.data v.standing.data ∧
      (v.standing.lastUpdateSuccess = w.standing.lastUpdateSuccess ∨
        (w.standing.lastUpdateSuccess = true ∧ v.standing.lastUpdateSuccess = false ∧
          task.isMuted = true)) := by
  have hsame : ∀ {v : System α}, v.standing = w.standing →
      Alike w.standing.data v.standing.data ∧
        (v.standing.lastUpdateSuccess = w.standing.lastUpdateSuccess ∨
          (w.standing.lastUpdateSuccess = true ∧ v.standing.lastUpdateSuccess = false ∧
            task.isMuted = true)) := by
    intro v hs
    rw [hs]
    exact ⟨.inl rfl, .inl rfl⟩
  cases h with
  | @landed cycle begun result _ h =>
    rw [h.standing]
    cases result with
    | ok a =>
      simp only [announces, Bool.or_eq_false_iff, Bool.not_eq_false'] at hu
      obtain ⟨⟨hb, -⟩, ha⟩ := hu
      obtain ⟨d, hd, hda⟩ := (Option.any_eq_true _ _).1 ha
      exact ⟨.inr ⟨d, a, hd, rfl, hda⟩, .inl hb.symm⟩
    | error f =>
      refine ⟨.inl rfl, ?_⟩
      have hl : (w.learned (.error f)).lastUpdateSuccess =
        (w.standing.lastUpdateSuccess && f.isFatal) := rfl
      rw [hl]
      cases hb : w.standing.lastUpdateSuccess with
      | false => exact .inl rfl
      | true =>
        cases hf : f.isFatal with
        | true => exact .inl rfl
        | false =>
          rw [announces_of_healthy hb (by rw [healthAfter, hb, hf]; rfl)] at hu
          exact .inr ⟨rfl, rfl, by simpa using hu⟩
  | data _ hh => cases hh.symm.trans hu
  | @fault f _ hh h =>
    have hb : w.standing.lastUpdateSuccess = false := by
      simpa [announces, hh] using hu
    rw [h.standing, hb]
    exact ⟨.inl rfl, .inl rfl⟩
  | heard h | joined _ _ _ h | left _ _ h => exact hsame h.standing
  | barred => exact hsame rfl
  | routine _ _ h =>
    obtain ⟨tasks, -, h⟩ := h
    exact hsame h.standing

/-- Whoever was up to date is so after a turn that tells nobody. -/
theorem Current.turn (ht : ∀ a b c : α, (a == b) = true → (b == c) = true → (a == c) = true)
    {turns : List (Turn α)} {t : Turn α} {s : Sight α} (h : Current turns t.before.standing s)
    (hu : t.before.announces t.task = false) :
    Current (turns ++ [t]) t.after.standing s := by
  obtain ⟨hd, hf⟩ := (news_perform t.before t.task).unannounced hu
  refine ⟨h.data.trans ht hd, ?_⟩
  rcases hf with hf | ⟨hb, ha, hm⟩
  · rcases h.success with hs | ⟨hb, before, t', inside, rfl, ho, hm, hi⟩
    · exact .inl (hs.trans hf.symm)
    · have ha := hf.trans hb
      refine .inr ⟨ha, before, t', inside ++ [t], List.append_assoc .., ho, hm, fun s hs => ?_⟩
      rcases List.mem_append.1 hs with hs | hs
      · exact hi s hs
      · rw [List.mem_singleton.1 hs]
        exact Bool.and_eq_false_iff.2 (.inr ha)
  · exact .inr ⟨ha, turns, t, [], rfl, Turn.opens_iff.2 ⟨hb, ha⟩, hm, by simp⟩

/-! ## Every listener is up to date or is going to be called -/

def UpToDate (turns : List (Turn α)) (v : System α) (l : Listener Callback String) : Prop :=
  ∃ s, lastRead turns l.id = some s ∧ Current turns v.standing s

/-- Every listener is up to date or is going to be called. -/
def Attended (turns : List (Turn α)) (v : System α) : Prop :=
  ∀ l ∈ v.roster.listeners, l.callback ∈ hearings v.agenda ∨ UpToDate turns v l

theorem Attended.turn (ht : ∀ a b c : α, (a == b) = true → (b == c) = true → (a == c) = true)
    {turns : List (Turn α)} {u : System α} {t : Turn α} (h : Attended turns u)
    (hr : u.roster = t.before.roster) (hs : u.standing = t.before.standing)
    (ha : u.agenda = t.task :: t.before.agenda) (hsound : t.before.roster.Sound) :
    Attended (turns ++ [t]) t.after := by
  intro l hl
  cases hread : t.reads l.id with
  | true => exact .inr ⟨_, lastRead_of_reads hread turns, .refl _ _⟩
  | false =>
    have hl' : l ∈ t.before.roster.listeners := by
      rcases mem_before_or_reads hsound hl with hl' | hl'
      · exact hl'
      · cases hread.symm.trans hl'
    rw [t.hearings_after, t.round_eq]
    cases hu : t.before.announces t.task with
    | true => exact .inl (List.mem_append_left _ (Roster.callback_mem_snapshot hl'))
    | false =>
      rcases h l (hr ▸ hl') with hc | ⟨s, hread', hc⟩
      · rw [ha, hearings_cons] at hc
        rcases List.mem_append.1 hc with hc | hc
        · -- the callback that is called is not its own, since it does not read
          have hk : t.task = .hear l.callback := by
            cases htask : t.task with
            | hear k =>
              rw [htask] at hc
              rw [List.mem_singleton.1 hc]
            | deed | start | enter | fetched | conclude | refreshDue | cooldownOver =>
              rw [htask] at hc
              cases hc
          rw [Turn.reads, hk] at hread
          have hkey := hsound.keys l hl'
          simp [hkey] at hread
        · exact .inl hc
      · refine .inr ⟨s, (lastRead_of_not_reads hread turns).trans hread', ?_⟩
        exact Current.turn ht (hs ▸ hc) hu

theorem Run.attended (ht : ∀ a b c : α, (a == b) = true → (b == c) = true → (a == c) = true)
    {p : Plan α} {jitter : Duration} {now : Nat} {turns : List (Turn α)} {v : System α}
    (h : Run (p.system jitter now) turns v) : Attended turns v := by
  induction h with
  | rest =>
    intro l hl
    cases hl
  | @prompt turns u v hr hp ih =>
    have hu : Reachable u := hr.reachable
    intro l hl
    have hro : v.roster = u.roster := by cases hp <;> rfl
    rw [prompt_hearings hu.mute hp, UpToDate, prompt_standing hp]
    exact ih l (hro ▸ hl)
  | @work turns u task rest hr ha ih =>
    have hu : Reachable u := hr.reachable
    exact ih.turn ht (t := ⟨task, { u with agenda := rest }⟩) rfl rfl ha hu.roster_sound

/-! ## Callbacks that tell nothing themselves -/

/-- No callback tells the coordinator of a value or a fault. -/
def Discreet (turns : List (Turn α)) : Prop :=
  ∀ t ∈ turns, ∀ k, t.task = .hear k → ∀ deed ∈ t.before.conduct k, deed.injects = false

omit [BEq α] in
theorem layered_append {xs ys : List (Task α)} (hx : ∀ x ∈ xs, x.injects = false)
    (h : Layered ys) : Layered (xs ++ ys) := by
  induction xs with
  | nil => exact h
  | cons x xs ih =>
    refine List.Pairwise.cons (fun y _ hi => ?_) (ih fun x hx' => hx x (List.mem_cons_of_mem _ hx'))
    rw [hx x (.head _)] at hi
    cases hi

theorem News.leaves {w v : System α} {task : Task α} (h : News w task v)
    (hd : ∀ k, task = .hear k → ∀ deed ∈ w.conduct k, deed.injects = false) :
    ∃ tasks : List (Task α), v.agenda = tasks ++ w.agenda ∧ ∀ x ∈ tasks, x.injects = false := by
  have hround : ∀ told, ∀ x ∈ w.round told, x.injects = false := by
    intro told x hx
    cases told with
    | false => cases hx
    | true =>
      obtain ⟨k, -, rfl⟩ := List.mem_map.1 hx
      rfl
  cases h with
  | landed h =>
    refine ⟨_, h.agenda, fun x hx => ?_⟩
    rcases List.mem_append.1 hx with hx | hx
    · exact hround _ x hx
    · rw [List.mem_singleton.1 hx]
      rfl
  | data _ _ h => exact ⟨_, h.agenda, hround _⟩
  | fault _ h => exact ⟨_, h.agenda, hround _⟩
  | @heard k _ h =>
    refine ⟨_, h.agenda, fun x hx => ?_⟩
    obtain ⟨deed, hm, rfl⟩ := List.mem_map.1 hx
    exact hd k rfl deed hm
  | joined _ _ _ h | left _ _ h => exact ⟨[], h.agenda, by simp⟩
  | barred => exact ⟨[], rfl, by simp⟩
  | routine _ _ h =>
    obtain ⟨tasks, hc, h⟩ := h
    refine ⟨tasks, h.agenda, fun x hx => ?_⟩
    have hx := hc x hx
    cases x with
    | deed | hear => cases hx
    | start | enter | fetched | conclude | refreshDue | cooldownOver => rfl

omit [BEq α] in
theorem layered_prompt {u v : System α} (ho : Orderly u) (h : Layered u.agenda)
    (hp : Prompt u v) : Layered v.agenda := by
  cases hp with
  | fire t => exact List.pairwise_singleton _ _
  | resume cycle => exact List.pairwise_singleton _ _
  | wait time => exact h
  | deed deed => exact List.pairwise_singleton _ _
  | calls calls =>
    have hx : ∀ x ∈ calls.map fun c => (.start c.1 c.2 : Task α), x.injects = false := by
      intro x hx
      obtain ⟨c, -, rfl⟩ := List.mem_map.1 hx
      rfl
    have hl := layered_append hx List.Pairwise.nil
    rwa [List.append_nil] at hl
  | meddle deed ha =>
    -- a fetch that ends has only calls behind it
    refine List.Pairwise.cons (fun y hy _ => ?_) h
    rw [ha] at hy
    rcases List.mem_cons.1 hy with rfl | hy
    · rfl
    · have hs := Task.Stacked.starts_of_cons (ha ▸ ho.stacked) rfl y hy
      cases y with
      | start => rfl
      | deed | hear | enter | fetched | conclude | refreshDue | cooldownOver => cases hs

theorem Run.layered {p : Plan α} {jitter : Duration} {now : Nat} {turns : List (Turn α)}
    {v : System α} (h : Run (p.system jitter now) turns v) (hd : Discreet turns) :
    Layered v.agenda := by
  induction h with
  | rest => exact List.Pairwise.nil
  | prompt hr hp ih =>
    exact layered_prompt hr.history.1 (ih hd) hp
  | @work turns u task rest _ ha ih =>
    have hu := ih fun t ht => hd t (List.mem_append_left _ ht)
    rw [ha] at hu
    have ht := hd ⟨task, { u with agenda := rest }⟩
      (List.mem_append_right _ (List.mem_singleton_self _))
    obtain ⟨tasks, hag, hx⟩ := (news_perform { u with agenda := rest } task).leaves ht
    rw [hag]
    exact layered_append hx hu.of_cons

/-! ## The whole -/

/-- What listeners have read, in every run of a new coordinator. -/
structure NoneStale (turns : List (Turn α)) (v : System α) : Prop where
  /-- Whoever is called reads what is known then. -/
  reading : ∀ t ∈ turns, ∀ k, t.task = .hear k → t.before.held = true →
    t.after.journal = .heard k.label (some t.after.standing.sight) :: t.before.journal
  /-- When no callback is due, every listener is up to date. -/
  settled : ∀ {before after : List (Turn α)} {t : Turn α}, turns = before ++ t :: after →
    hearings t.after.agenda = [] → ∀ l ∈ t.after.roster.listeners,
      UpToDate (before ++ [t]) t.after l
  /-- So it is when a cycle has ended. -/
  cycle : ∀ {before after : List (Turn α)} {t : Turn α} {cycle : Cycle}
    {outcome : Except Refusal Health}, turns = before ++ t :: after →
    t.task = .conclude cycle outcome → hearings t.after.agenda = [] ∧
      ∀ l ∈ t.after.roster.listeners, UpToDate (before ++ [t]) t.after l
  /-- So it is, unless callbacks tell the coordinator things themselves, when all has been done that
  somebody who told it something gave rise to. -/
  injection : Discreet turns → ∀ {before during after : List (Turn α)} {t s : Turn α}
    {deed : Deed α}, turns = (before ++ t :: during) ++ after → t.task = .deed deed →
    deed.injects = true → (t :: during).getLast? = some s → s.after.agenda = t.before.agenda →
    hearings s.after.agenda = [] ∧
      ∀ l ∈ s.after.roster.listeners, UpToDate (before ++ t :: during) s.after l
  /-- What ends an episode of failure, a muted one or not, calls every listener. -/
  ending : ∀ {before after : List (Turn α)} {t : Turn α}, turns = before ++ t :: after →
    t.closes = true → t.round = t.before.roster.snapshot ∧ (hearings v.agenda = [] →
      ∀ l ∈ t.before.roster.listeners, l.callback ∈ heard after)

/-- **No listener is left with stale data.** Whatever the fetches bring and whatever is told from
outside, what a listener read last is what is known, or compares equal to it; only a failure that was
not announced may escape it. -/
theorem Run.informed (ht : ∀ a b c : α, (a == b) = true → (b == c) = true → (a == c) = true)
    {p : Plan α} {jitter : Duration} {now : Nat} {turns : List (Turn α)} {v : System α}
    (h : Run (p.system jitter now) turns v) : NoneStale turns v := by
  have hsettled : ∀ {before after : List (Turn α)} {t : Turn α}, turns = before ++ t :: after →
      hearings t.after.agenda = [] → ∀ l ∈ t.after.roster.listeners,
        UpToDate (before ++ [t]) t.after l := by
    rintro before after t rfl hn l hl
    rcases h.at_turn.attended ht l hl with hc | hc
    · rw [hn] at hc
      cases hc
    · exact hc
  refine ⟨?_, hsettled, ?_, ?_, ?_⟩
  · intro t _ k hk hh
    have hafter : t.after = t.before.hear k := Turn.after_eq hk
    have hsight : t.before.sight = some t.before.standing.sight := if_pos hh
    rw [hafter]
    show .heard k.label t.before.sight :: t.before.journal = _
    rw [hsight]
    rfl
  · rintro before after t cycle outcome hs htask
    have hn : hearings t.after.agenda = [] := by
      subst hs
      obtain ⟨u, rest, hb, ha, htb, -⟩ := h.split
      rw [htask] at ha
      have hv := hb.history.1.serving ha rfl
      rw [t.hearings_after, t.round_eq, htask, htb]
      refine hearings_eq_nil fun x hx => ?_
      have hx := hv.starts x hx
      cases x with
      | start => rfl
      | deed | hear | enter | fetched | conclude | refreshDue | cooldownOver => cases hx
    exact ⟨hn, hsettled hs hn⟩
  · rintro hd before during after t s deed hs htask hi hlast hag
    have hn : hearings s.after.agenda = [] := by
      subst hs
      rw [List.append_assoc] at h
      obtain ⟨u, rest, hb, ha, htb, -⟩ := h.split
      have hl := hb.layered fun t ht => hd t (by simp [ht])
      rw [ha, htask] at hl
      rw [hag, htb]
      exact hearings_eq_nil fun x hx => (List.pairwise_cons.1 hl).1 x hx hi
    obtain ⟨init, hinit⟩ := List.getLast?_eq_some_iff.1 hlast
    rw [hinit, ← List.append_assoc] at hs ⊢
    rw [List.append_assoc] at hs
    exact ⟨hn, hsettled hs hn⟩
  · rintro before after t rfl hc
    refine ⟨Turn.round_of_closes hc, fun hn l hl => ?_⟩
    obtain ⟨_, _, -, -, -, hr⟩ := h.split
    have hp := hr.called h.at_turn.reachable
    rw [hn, List.append_nil, t.hearings_after, Turn.round_of_closes hc] at hp
    exact hp.symm.subset
      (List.mem_append_left _ (List.mem_append_left _ (Roster.callback_mem_snapshot hl)))

/-- A source that brings the value that is known already, and then turns its caller away. -/
def fickle : Plan Nat :=
  { name := "clock", policy := { alwaysUpdate := false }
    source := some [{ result := .ok 7 }, { result := .error (.authFailed "revoked") }] }

/-- The listener has been told of the value, and not of the failure. -/
theorem told_of_value_only :
    ∃ (turns : List (Turn Nat)) (v : System Nat), Run (fickle.system .zero 0) turns v ∧
      v.standing.data = some 7 ∧ v.standing.lastUpdateSuccess = false ∧
      lastRead turns ⟨0⟩ = some ⟨some 7, true, none⟩ ∧ NoneStale turns v := by
  have h₁ : Run (fickle.system .zero 0) _ _ :=
    Run.rest.prompt (.deed (.addListener "dial" none []) rfl) |>.work _ _ rfl
  have h₂ := h₁.prompt (.deed (.setData 7) rfl) |>.work _ _ rfl |>.work _ _ rfl
  -- the call begins, its cycle enters, the fetch ends, and the cycle ends
  have h₃ := h₂.prompt (.calls [(.main 0, .refresh)] rfl rfl)
    |>.work _ _ rfl |>.work _ _ rfl |>.work _ _ rfl |>.work _ _ rfl
  have h₄ := h₃.prompt (.calls [(.main 1, .refresh)] rfl rfl)
    |>.work _ _ rfl |>.work _ _ rfl |>.work _ _ rfl |>.work _ _ rfl
  exact ⟨_, _, h₄, rfl, rfl, rfl, h₄.informed fun a b c hab hbc => by
    rw [beq_iff_eq] at hab hbc ⊢
    exact hab.trans hbc⟩

end System

end Freshness
