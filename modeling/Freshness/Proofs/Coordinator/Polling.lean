import Freshness.Proofs.Coordinator.Manning
import Freshness.Proofs.Coordinator.Ticking

/-!
# Polling runs exactly for listeners

* `System.Favourable` : nothing stands in the way of the refresh timer; `System.Favoured` : nothing
  does in the whole run;
* `System.Polled` : if anyone listens, the timer is armed or a cycle is going to arm it; every move
  of a favoured run keeps it (`Favoured.polled`);
* `System.polling` : **polling runs exactly for listeners**.
-/

namespace Freshness.System

variable {α : Type}

/-- Nothing stands in the way of the refresh timer. -/
structure Favourable (w : System α) : Prop where
  ready : w.Ready
  host : w.hostStopping = false
  policy : w.policy.rescheduleOnAuthFailure = true

/-! ## A cycle is going to arm the timer -/

/-- Some cycle has not come to its verdict. -/
def Rearming (w : System α) : Prop :=
  w.lock.waiting ≠ [] ∨ ∃ x ∈ w.stages, x.ends? = none

/-- If anyone listens, the timer is armed or a cycle is going to arm it. -/
def Polled (w : System α) : Prop := w.Served ∨ w.Rearming

theorem polled_of_same {u v : System α} (h : u.Polled) (hs : v.stages = u.stages)
    (hl : v.lock = u.lock) (hd : u.Served → v.Served) : v.Polled := by
  rcases h with h | h
  · exact .inl (hd h)
  · unfold Polled Rearming
    rw [hs, hl]
    exact .inr h

/-- A trigger asks for a cycle, which is going to arm the timer, or leaves things as they are. -/
theorem polled_of_idles {u v : System α} {task : Task α} (ht : task.isStage = false)
    (hl : Life u task v) (hi : Idles u v) (h : u.Polled) : v.Polled := by
  cases hl with
  | quiet _ hs hk hq =>
    refine polled_of_same h hs hk fun hd => ?_
    unfold Served
    rw [hi.1, hi.2.2 (Prod.mk.inj hq).1]
    exact hd
  | admitted origin _ _ _ hs => exact .inr (.inr ⟨.enter ⟨u.serial, origin⟩, by simp [hs], rfl⟩)
  | queued origin holder _ _ _ hk => exact .inr (.inl (by simp [hk]))
  | skipped | began | landed | ended => cases ht

theorem polled_of_callback {u v : System α} {task : Task α} (ht : task.isCallback = true)
    (hl : Life u task v) (hd : u.Served → v.Served) (h : u.Polled) : v.Polled := by
  cases hl with
  | quiet _ hs hk => exact polled_of_same h hs hk hd
  | admitted _ htr | queued _ _ htr =>
    rw [Task.origin?_of_isCallback ht] at htr
    cases htr
  | skipped | began | landed | ended => cases ht

theorem Favourable.skips {w : System α} (h : w.Favourable) (cycle : Cycle) :
    w.skips cycle = false := by
  simp [System.skips, h.ready.shutDown, h.host]

theorem polled_prompt {u v : System α} (ho : Orderly u) (hp : Prompt u v) (h : u.Polled) :
    v.Polled := by
  refine polled_of_same h (prompt_stages ho hp) (prompt_lock hp) ?_
  cases hp <;> exact id

/-- Whatever the result was, whoever listens is polled for again. -/
theorem reschedule_judge {p : Policy} (hp : p.rescheduleOnAuthFailure = true) (report : Report)
    (manner : Manner) (hasListeners : Bool) :
    (p.judge report manner hasListeners false).reschedule = hasListeners := by
  simp [Policy.judge, hp]

variable [BEq α]

/-! ## Tasks -/

/-- After a fetch every listener is polled for again, whatever the result was. -/
theorem served_fetched {w : System α} (h : w.Favourable) (cycle : Cycle) (begun : Nat)
    (result : Except Fault α) : (w.fetched cycle begun result).Served := by
  unfold Served
  rw [roster_fetched]
  intro hr
  obtain ⟨u, fault, health, ⟨standing, journal, rfl⟩, hf⟩ :=
    fetched_eq_followUp w cycle begun result
  have hv : (w.policy.judge (w.applyResult cycle result).2 cycle.origin.manner
      (!w.roster.isEmpty) w.hostStopping).reschedule = true := by
    rw [h.host, reschedule_judge h.policy, hr]
    rfl
  rw [hf, (aside_followUp _ _ _ _ _).2, if_pos hv]
  exact armed_scheduleRefresh ⟨h.ready.shutDown, h.ready.polling, h.ready.interval⟩

theorem polled_perform {u : System α} {task : Task α} {rest : List (Task α)} (ho : Orderly u)
    (ha : u.agenda = task :: rest) (hf : u.Favourable)
    (hv : ({ u with agenda := rest }.perform task).shutDown = false) (h : u.Polled) :
    ({ u with agenda := rest }.perform task).Polled := by
  have hl := life_perform ho ha
  have hr : Ready { u with agenda := rest } :=
    ⟨hf.ready.shutDown, hf.ready.polling, hf.ready.interval⟩
  cases task with
  | deed deed => exact polled_of_callback rfl hl ((attends_carryOut _ deed).served hr hv) h
  | hear callback => exact polled_of_callback rfl hl id h
  | start caller call => exact polled_of_idles rfl hl (idles_start _ caller call) h
  | refreshDue generation => exact polled_of_idles rfl hl (idles_refreshDue _ generation) h
  | cooldownOver generation => exact polled_of_idles rfl hl (idles_cooldownOver _ generation) h
  | enter cycle =>
    generalize ({ u with agenda := rest } : System α).perform (.enter cycle) = v at hl
    cases hl with
    | quiet hst => cases hst
    | admitted _ htr | queued _ _ htr => cases htr
    | skipped _ hk =>
      rw [hf.skips cycle] at hk
      cases hk
    | began begun result _ _ _ _ hs =>
      exact .inr (.inr ⟨.fetched cycle begun result, by simp [hs], rfl⟩)
  | fetched cycle begun result =>
    have hf' : Favourable { u with agenda := rest } := ⟨hr, hf.host, hf.policy⟩
    exact .inl (served_fetched hf' cycle begun result)
  | conclude cycle outcome =>
    have hk := orderly_perform ho ha
    obtain ⟨hro, hsc⟩ := aside_conclude { u with agenda := rest } cycle outcome
    have hd : u.Served → ({ u with agenda := rest }.perform (.conclude cycle outcome)).Served := by
      intro hd
      show (conclude { u with agenda := rest } cycle outcome).roster.isEmpty = false →
        (conclude { u with agenda := rest } cycle outcome).schedule.isArmed = true
      rw [hro, hsc]
      exact hd
    generalize ({ u with agenda := rest } : System α).perform (.conclude cycle outcome) = v at *
    cases hl with
    | quiet hst => cases hst
    | admitted _ htr | queued _ _ htr => cases htr
    | ended hs hh hs' hline =>
      cases hv' : v.lock.holder with
      | some next =>
        rw [hv'] at hs'
        exact .inr (.inr ⟨.enter next, by simp [hs'], rfl⟩)
      | none =>
        rw [Lock.line, hv', hk.line hv'] at hline
        rcases h with h | hw | ⟨x, hx, he⟩
        · exact .inl (hd h)
        · exact absurd hline.symm hw
        · rw [hs] at hx
          obtain rfl := List.mem_singleton.1 hx
          cases he

/-! ## Favoured runs -/

/-- A run in which nothing ever stands in the way of the timer. -/
inductive Favoured (w : System α) : System α → Prop where
  | rest : w.Favourable → Favoured w w
  | move {u v : System α} : Favoured w u → Move u v → v.Favourable → Favoured w v

theorem Favoured.moves {w v : System α} (h : Favoured w v) : Moves w v := by
  induction h with
  | rest => exact .refl
  | move _ hm _ ih => exact ih.tail hm

theorem Favoured.favourable {w v : System α} (h : Favoured w v) : v.Favourable := by
  cases h with
  | rest hw => exact hw
  | move _ _ hv => exact hv

theorem Favoured.polled {w v : System α} (hw : Reachable w) (hp : w.Polled) (h : Favoured w v) :
    v.Polled := by
  induction h with
  | rest => exact hp
  | move hu hm hv ih =>
    have ho := (hw.moves hu.moves).orderly
    cases hm with
    | prompt hp => exact polled_prompt ho hp ih
    | work task rest ha => exact polled_perform ho ha hu.favourable hv.ready.shutDown ih

/-- **Polling runs exactly for listeners.** The refresh timer is never armed unless somebody listens
and the coordinator is not shut down, and at rest its job waits. As long as nothing stands in its
way, it is armed whenever somebody listens and no cycle holds the lock or waits for it, whatever
fetches bring and callbacks do. -/
theorem polling {p : Plan α} {jitter : Duration} {now : Nat} {v : System α} :
    (Moves (p.system jitter now) v → ∀ a, v.schedule.armed = some a →
      v.roster.isEmpty = false ∧ v.shutDown = false ∧
        (v.held = true → v.agenda = [] → v.clocks.Ticks a)) ∧
    (Favoured (p.system jitter now) v → v.lock.line = [] → v.roster.isEmpty = false →
      v.schedule.isArmed = true) := by
  refine ⟨?_, ?_⟩
  · intro hm a ha
    have hr : Reachable v := ⟨p, jitter, now, hm⟩
    have hi : v.schedule.isArmed = true := by
      rw [Schedule.isArmed, ha]
      rfl
    refine ⟨hr.manned hi, ?_, fun hh hn => ?_⟩
    · cases hs : v.shutDown with
      | false => rfl
      | true =>
        rw [(hr.inert hs).schedule] at ha
        cases ha
    · rcases hr.ticking hh a ha with hk | hk
      · exact hk
      · rw [hn] at hk
        cases hk
  · intro hf hl
    have hr : Reachable v := ⟨p, jitter, now, hf.moves⟩
    obtain ⟨hh, hw⟩ := List.append_eq_nil_iff.1 hl
    have hn := hr.orderly.stages_of_free (Option.toList_eq_nil_iff.1 hh)
    have h₀ : (p.system jitter now).Polled := .inl fun h => by cases h
    rcases hf.polled ⟨p, jitter, now, .refl⟩ h₀ with h | h | ⟨x, hx, -⟩
    · exact h
    · exact absurd hw h
    · rw [hn] at hx
      cases hx

def barred : Plan Nat :=
  { name := "clock", interval := some (.ofSeconds 60)
    source := some [{ result := .error (.authFailed "revoked") }] }

theorem polled_after_refusal :
    ∃ v a, Favoured (barred.system .zero 0) v ∧ v.lock.line = [] ∧
      v.standing.lastUpdateSuccess = false ∧ v.schedule.isArmed = true ∧
      v.schedule.armed = some a ∧ v.clocks.Ticks a := by
  have h₀ : Favoured (barred.system .zero 0) _ := .rest ⟨⟨rfl, rfl, _, rfl, by decide⟩, rfl, rfl⟩
  have h₁ := h₀.move (.prompt (.deed (.addListener "dial" none []) rfl))
    ⟨⟨rfl, rfl, _, rfl, by decide⟩, rfl, rfl⟩
  have h₂ := h₁.move (.work _ _ rfl) ⟨⟨rfl, rfl, _, rfl, by decide⟩, rfl, rfl⟩
  have h₃ := h₂.move (.prompt (.calls [(.main 0, .refresh)] rfl rfl))
    ⟨⟨rfl, rfl, _, rfl, by decide⟩, rfl, rfl⟩
  -- the call begins, its cycle enters, the fetch fails, and the cycle ends
  have h₄ := h₃.move (.work _ _ rfl) ⟨⟨rfl, rfl, _, rfl, by decide⟩, rfl, rfl⟩
  have h₅ := h₄.move (.work _ _ rfl) ⟨⟨rfl, rfl, _, rfl, by decide⟩, rfl, rfl⟩
  have h₆ := h₅.move (.work _ _ rfl) ⟨⟨rfl, rfl, _, rfl, by decide⟩, rfl, rfl⟩
  have h₇ := h₆.move (.work _ _ rfl) ⟨⟨rfl, rfl, _, rfl, by decide⟩, rfl, rfl⟩
  exact ⟨_, _, h₇, rfl, rfl, polling.2 h₇ rfl rfl, rfl, (polling.1 h₇.moves _ rfl).2.2 rfl rfl⟩

end Freshness.System
