import Freshness.Proofs.Coordinator.News
import Freshness.Proofs.Coordinator.SingleFlight

/-!
# Where the outcome of a cycle comes from

* `System.outcomeOf_eq_error` : which faults are passed on, unless it is to a first refresh;
* `System.Derived` : a stage of a cycle goes on with what the cycle's own fetch brought, in every run
  (`Run.derived`); `Run.once` : no cycle asks, enters, fetches or ends twice;
* `System.start_cases`, `System.asks_of_life` : a call or a timer asks for one cycle of its own, or a
  request is declined at once.
-/

namespace Freshness.System

variable {α : Type} [BEq α]

/-- Of all faults only a fetch that is not implemented is passed on, and it is passed on as it is. -/
theorem outcomeOf_eq_error {cycle : Cycle} (h : cycle.origin.isFirst = false) (w : System α)
    {result : Except Fault α} {r : Refusal} : w.outcomeOf cycle result = .error r ↔
      ∃ m, result = .error (.notImplemented m) ∧ r = .fatal (.notImplemented m) := by
  obtain ⟨he, ha, -⟩ := cycle.origin.manner_eq
  rw [h] at he ha
  cases result with
  | ok a => simp [outcomeOf, passOn, faultOf?]
  | error f =>
    rw [outcomeOf, escalate_verdictOn_error]
    cases f <;>
      simp [Fault.kind, Policy.escalation, he, ha, passOn, faultOf?, Refusal.escalated, eq_comm]

/-! ## The stages of a cycle -/

theorem stages_skip {w : System α} {cycle : Cycle} (h : Serving w cycle)
    (hk : w.skips cycle = true) : (w.enter cycle).stages = [.conclude cycle (.ok w.health)] := by
  have hc := course_enter w cycle
  generalize w.enter cycle = v at hc
  cases hc with
  | quiet hs => cases hs
  | asked _ ht => cases ht
  | skipped _ hu => exact ((h.calm hu.calm).next [] (by simp) rfl).1
  | began hk' => cases hk'.symm.trans hk

theorem stages_begin {w : System α} {cycle : Cycle} (h : Serving w cycle)
    (hk : w.skips cycle = false) :
    ∃ begun, (w.enter cycle).stages = [.fetched cycle begun w.brings] := by
  have hc := course_enter w cycle
  generalize w.enter cycle = v at hc
  cases hc with
  | quiet hs => cases hs
  | asked _ ht => cases ht
  | skipped hk' => cases hk'.symm.trans hk
  | @began _ u _ hu =>
    have hs := h.calm hu.calm
    have hb : u.brings = w.brings := by rw [brings, brings, hu.calm.quiet.source]
    exact ⟨u.now, hb ▸ stages_beginFetch hs.linked hs.stages cycle⟩

theorem stages_fetched {w : System α} {cycle : Cycle} (h : Serving w cycle) (begun : Nat)
    (result : Except Fault α) :
    (w.fetched cycle begun result).stages = [.conclude cycle (w.outcomeOf cycle result)] := by
  have ha := (yields_fetched w cycle begun result).agenda
  have hc := course_fetched w cycle begun result
  generalize w.fetched cycle begun result = v at ha hc
  cases hc with
  | quiet hs => cases hs
  | asked _ ht => cases ht
  | @landed _ _ _ u calls outcome hu hcalls =>
    have hag := hu.calm.agenda
    rw [applyResult_frame] at hag
    have hl : (calls ++ [.conclude cycle outcome]) ++ w.agenda =
        (w.round (w.verdictOn cycle result).notify ++
          [.conclude cycle (w.outcomeOf cycle result)]) ++ w.agenda := by
      rw [← ha, ← hag]
      rfl
    obtain ⟨-, ho⟩ := List.append_inj' (List.append_cancel_right hl) rfl
    rw [← ho]
    exact (((h.applyResult result).calm hu.calm).next calls (callbacks_of_landed hcalls) rfl).1

/-- A task that neither enters nor ends a fetch leaves no stage but one that waited or one that is to
enter. -/
theorem Orderly.stages_other {u : System α} {task : Task α} {rest : List (Task α)} (ho : Orderly u)
    (ha : u.agenda = task :: rest) (he : task.enters? = none) (hl : task.lands? = none) :
    ∀ stage ∈ ({ u with agenda := rest }.perform task).stages,
      stage ∈ u.stages ∨ ∃ cycle, stage = .enter cycle := by
  have h := life_perform ho ha
  generalize ({ u with agenda := rest } : System α).perform task = v at h
  intro stage hs
  cases h with
  | quiet _ hst | queued _ _ _ hst => exact .inl (hst ▸ hs)
  | admitted origin _ _ _ hst =>
    rw [hst] at hs
    exact .inr ⟨_, List.mem_singleton.1 hs⟩
  | ended _ _ hst =>
    rw [hst] at hs
    obtain ⟨cycle, -, rfl⟩ := List.mem_map.1 hs
    exact .inr ⟨cycle, rfl⟩
  | skipped | began => cases he
  | landed => cases hl

/-- The stage goes on with what the cycle's own fetch brought, unless the cycle was skipped. -/
def Derived (turns : List (Turn α)) : Task α → Prop
  | .fetched cycle _ result => ∃ e ∈ turns, e.task = .enter cycle ∧
    e.before.skips cycle = false ∧ result = e.before.brings
  | .conclude cycle outcome => ∃ e ∈ turns, e.task = .enter cycle ∧
    if e.before.skips cycle then outcome = .ok e.before.health
    else ∃ s ∈ turns, ∃ begun, s.task = .fetched cycle begun e.before.brings ∧
      outcome = s.before.outcomeOf cycle e.before.brings
  | _ => True

theorem Derived.snoc {turns : List (Turn α)} {stage : Task α} (h : Derived turns stage)
    (t : Turn α) : Derived (turns ++ [t]) stage := by
  cases stage with
  | fetched =>
    obtain ⟨e, he, h⟩ := h
    exact ⟨e, List.mem_append_left _ he, h⟩
  | conclude =>
    obtain ⟨e, he, ht, h⟩ := h
    refine ⟨e, List.mem_append_left _ he, ht, ?_⟩
    split
    · next hk => rwa [if_pos hk] at h
    · next hk =>
      rw [if_neg hk] at h
      obtain ⟨s, hs, h⟩ := h
      exact ⟨s, List.mem_append_left _ hs, h⟩
  | deed | hear | start | enter | refreshDue | cooldownOver => trivial

theorem Run.derived {p : Plan α} {jitter : Duration} {now : Nat} {turns : List (Turn α)}
    {v : System α} (h : Run (p.system jitter now) turns v) :
    ∀ stage ∈ v.stages, Derived turns stage := by
  induction h with
  | rest => exact fun stage hs => by cases hs
  | prompt hr hp ih =>
    have ho := hr.history.1
    rw [prompt_stages ho hp]
    exact ih
  | @work turns u task rest hr ha ih =>
    have ho := hr.history.1
    have hself : (⟨task, { u with agenda := rest }⟩ : Turn α) ∈ turns ++ [⟨task, _⟩] :=
      List.mem_append_right _ (List.mem_singleton_self _)
    have hother : task.enters? = none → task.lands? = none →
        ∀ stage ∈ ({ u with agenda := rest }.perform task).stages,
          Derived (turns ++ [⟨task, { u with agenda := rest }⟩]) stage := by
      intro he hl stage hs
      rcases ho.stages_other ha he hl stage hs with hs | ⟨cycle, rfl⟩
      · exact (ih stage hs).snoc _
      · trivial
    cases task with
    | enter cycle =>
      have hv := ho.serving ha rfl
      intro stage hs
      cases hk : skips { u with agenda := rest } cycle with
      | true =>
        rw [show stage = _ from List.mem_singleton.1 (stages_skip hv hk ▸ hs)]
        exact ⟨_, hself, rfl, by rw [if_pos hk]⟩
      | false =>
        obtain ⟨begun, hst⟩ := stages_begin hv hk
        rw [show stage = _ from List.mem_singleton.1 (hst ▸ hs)]
        exact ⟨_, hself, rfl, hk, rfl⟩
    | fetched cycle begun result =>
      obtain ⟨e, he, hte, hk, rfl⟩ := ih (.fetched cycle begun result) (by
        rw [stages_of_cons ha]
        exact .head _)
      intro stage hs
      have hst := stages_fetched (ho.serving ha rfl) begun e.before.brings
      rw [show stage = _ from List.mem_singleton.1 (hst ▸ hs)]
      refine ⟨e, List.mem_append_left _ he, hte, ?_⟩
      rw [if_neg (by rw [hk]; exact Bool.false_ne_true)]
      exact ⟨_, hself, begun, rfl, rfl⟩
    | deed | hear | start | conclude | refreshDue | cooldownOver => exact hother rfl rfl

/-! ## Who asks -/

omit [BEq α] in
/-- A call asks for a cycle, unless it is a request that is declined at once, or breaks off since the
clock has no room for the cooldown it is to start. -/
theorem start_cases (w : System α) (caller : Caller) (call : Call) :
    (∃ u, Stirs w u ∧ w.start caller call = u.ask (.call caller call) ∧
      w.declines caller call = []) ∨
    (call = .request ∧ Stirs w (w.start caller call) ∧
      (w.declines caller call = [.answered caller none] ∨
        w.declines caller call = [.brokeOff caller] ∧ w.debounce.Spent w.now)) := by
  cases call with
  | request =>
    have hl : Stirs w _ := (Stir.request (w := w)).stirs.trans (told_logAny _
      ((w.debounce.request w.timers .cooldownOver).1.notice w.debounce.name)).stirs
    have hb := @Debounce.request_eq_brokenOff_iff _ w.debounce w.timers .cooldownOver
    simp only [start, declines]
    generalize (w.debounce.request w.timers .cooldownOver).1 = answer at hl hb ⊢
    cases answer with
    | run => exact .inl ⟨_, hl, rfl, rfl⟩
    | brokenOff =>
      obtain ⟨-, -, -, hs⟩ := hb.1 rfl
      exact .inr ⟨trivial, hl.trans (told_breakOff _ _).stirs, .inr ⟨rfl, hs⟩⟩
    | ignored | folded | dropped | deferred | overtaken =>
      exact .inr ⟨trivial, hl.trans (told_answer _ _ _).stirs, .inl rfl⟩
  | refresh | first | interval => exact .inl ⟨w, .refl, rfl, rfl⟩

theorem asks_of_life {u : System α} {t : Turn α} (hb : t.before.serial = u.serial)
    (h : Life u t.task t.after) :
    t.asks? = none ∧ t.after.serial = u.serial ∨
      ∃ origin, t.task.origin? = some origin ∧ t.asks? = some ⟨u.serial, origin⟩ := by
  have hn : t.after.serial = u.serial → t.asks? = none ∧ t.after.serial = u.serial :=
    fun hs => ⟨Turn.asks?_of_eq (hs.trans hb.symm), hs⟩
  have ha : t.after.serial = u.serial + 1 → t.asks? = t.after.lock.line.getLast? :=
    fun hs => Turn.asks?_of_succ (by rw [hs, hb])
  generalize t.task = task at h
  generalize t.after = v at h hn ha
  cases h with
  | quiet _ _ _ hq | skipped _ _ _ _ _ _ hq | began _ _ _ _ _ _ _ _ hq | landed _ _ _ _ _ hq
  | ended _ _ _ _ hq => exact .inl (hn (Prod.mk.inj hq).1)
  | admitted origin ho _ _ _ hl hq =>
    refine .inr ⟨origin, ho, ?_⟩
    rw [ha (Prod.mk.inj hq).1, hl]
    rfl
  | queued origin holder ho _ _ hl hq =>
    refine .inr ⟨origin, ho, ?_⟩
    rw [ha (Prod.mk.inj hq).1, hl, Lock.line, ← List.append_assoc, List.getLast?_concat]

/-- No cycle asks, enters, fetches or ends twice. -/
theorem Run.once {p : Plan α} {jitter : Duration} {now : Nat} {turns : List (Turn α)}
    {v : System α} (h : Run (p.system jitter now) turns v) :
    ((asked turns).map (·.serial)).Nodup ∧ ((entered turns).map (·.serial)).Nodup ∧
      ((landed turns).map (·.serial)).Nodup ∧ ((ended turns).map (·.serial)).Nodup := by
  obtain ⟨-, hr, hf⟩ := h.history
  have hn : ((asked turns).map (·.serial)).Nodup := hr.serials ▸ List.nodup_range
  have hentered : (entered turns).Sublist (asked turns) := by
    have he : entered turns ++ (v.stages.filterMap Task.enters? ++ v.lock.waiting) =
        asked turns := by
      rw [← List.append_assoc, hr.entries, List.append_assoc]
      exact hr.line.symm
    exact he ▸ List.sublist_append_left ..
  have hlanded : (landed turns).Sublist (launched turns) :=
    hf.landings ▸ List.sublist_append_left ..
  have hended : (ended turns).Sublist (asked turns) := hr.line ▸ List.sublist_append_left ..
  exact ⟨hn, hn.sublist (hentered.map _),
    hn.sublist (((hlanded.trans (launched_sublist turns)).trans hentered).map _),
    hn.sublist (hended.map _)⟩

end Freshness.System
