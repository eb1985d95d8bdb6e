import Freshness.Proofs.Coordinator.Attribution
import Freshness.Proofs.Coordinator.Waiting

/-!
# A cycle can always go on

* `Deed.effort` : how many deeds come of one;
* `System.toil`, `System.errands` : the deeds that callbacks and listeners are still to do, and what
  else is on the agenda;
* `System.Lighter`, `System.lighter_perform` : every task that is no stage leaves less of the two;
* `Orderly.comes_up` : a stage that waits can come to the top of the agenda;
* `Ahead.can_enter` : a cycle in line can come to enter.
-/

namespace Freshness

variable {α : Type}

/-! ## What remains to be done -/

mutual

/-- The deed, and the deeds of the listener that it registers. -/
def Deed.effort : Deed α → Nat
  | .addListener _ _ conduct => 1 + Deed.conductEffort conduct
  | .unsubscribe _ | .setData _ | .setFault _ | .setInterval _ | .shutdown | .registerShutdown _ => 1
  | .stopHost _ | .unload | .setPolling _ | .spawn _ _ | .drop => 1

def Deed.efforts : List (Deed α) → Nat
  | [] => 0
  | deed :: deeds => Deed.effort deed + Deed.efforts deeds

def Deed.conductEffort : List (List (Deed α)) → Nat
  | [] => 0
  | deeds :: conduct => Deed.efforts deeds + Deed.conductEffort conduct

end

theorem Deed.effort_pos (deed : Deed α) : 0 < deed.effort := by
  cases deed with
  | addListener =>
    rw [effort]
    omega
  | unsubscribe | setData | setFault | setInterval | shutdown | registerShutdown | stopHost | unload
  | setPolling | spawn | drop => exact Nat.one_pos

theorem Deed.efforts_append (ds es : List (Deed α)) :
    Deed.efforts (ds ++ es) = Deed.efforts ds + Deed.efforts es := by
  induction ds with
  | nil => simp [efforts]
  | cons d ds ih => simp [efforts, ih, Nat.add_assoc]

theorem Deed.conductEffort_split (conduct : List (List (Deed α))) :
    Deed.efforts (conduct.headD []) + Deed.conductEffort conduct.tail =
      Deed.conductEffort conduct := by
  cases conduct with
  | nil => rfl
  | cons deeds conduct => rfl

def Task.deed? : Task α → Option (Deed α)
  | deed d => some d
  | hear _ | start _ _ | enter _ | fetched _ _ _ | conclude _ _ | refreshDue _ | cooldownOver _ => none

namespace System

variable {w v : System α} {cycle : Cycle} {n : Nat}

/-- The deeds that listeners are still to do. -/
def conductsToil : List (Nat × List (List (Deed α))) → Nat
  | [] => 0
  | (_, conduct) :: conducts => Deed.conductEffort conduct + conductsToil conducts

/-- The deeds on the agenda, and those that listeners are still to do. -/
def toil (w : System α) : Nat :=
  Deed.efforts (w.agenda.filterMap Task.deed?) + conductsToil w.conducts

/-- What is on the agenda besides. -/
def errands (w : System α) : Nat := w.agenda.countP (·.deed?.isNone)

/-- Less is to be done: fewer deeds, or as many and less besides. -/
def Lighter (v w : System α) : Prop :=
  Prod.Lex (· < ·) (· < ·) (v.toil, v.errands) (w.toil, w.errands)

theorem conductsToil_lookup (key : Nat) (conducts : List (Nat × List (List (Deed α)))) :
    Deed.conductEffort ((conducts.lookup key).getD []) +
      conductsToil (conducts.filter (·.1 != key)) ≤ conductsToil conducts := by
  induction conducts with
  | nil => exact Nat.zero_le _
  | cons c conducts ih =>
    obtain ⟨k, conduct⟩ := c
    rw [conductsToil]
    by_cases hk : key = k
    · subst hk
      simp only [List.lookup_cons_self, Option.getD_some, List.filter_cons, bne_self_eq_false,
        Bool.false_eq_true, if_false]
      omega
    · have hb : (key == k) = false := beq_eq_false_iff_ne.2 hk
      have hb' : (k != key) = true := bne_iff_ne.2 (Ne.symm hk)
      simp only [List.lookup_cons, hb, List.filter_cons, hb', if_true, conductsToil]
      omega

theorem toil_hear (w : System α) (k : Callback) : (w.hear k).toil ≤ w.toil := by
  have hl := conductsToil_lookup k.key w.conducts
  generalize hc : (w.conducts.lookup k.key).getD [] = conduct at hl
  have hs := Deed.conductEffort_split conduct
  have ha : (w.hear k).agenda = (conduct.headD []).map .deed ++ w.agenda := by rw [← hc]; rfl
  have hd : (w.hear k).conducts =
      (k.key, conduct.tail) :: w.conducts.filter (·.1 != k.key) := by rw [← hc]; rfl
  have hm : ((conduct.headD []).map Task.deed).filterMap Task.deed? = conduct.headD [] := by
    rw [List.filterMap_map]
    exact List.filterMap_some
  rw [toil, toil, ha, hd, List.filterMap_append, hm, Deed.efforts_append, conductsToil]
  omega

/-! ## What leaves the listeners as they are -/

theorem conducts_scheduleRefresh (w : System α) : w.scheduleRefresh.conducts = w.conducts := by
  rw [(calm_scheduleRefresh w).frame]

theorem conducts_removeHook (w : System α) (hook : Option (HostName × HookId)) :
    (w.removeHook hook).conducts = w.conducts := by
  unfold removeHook
  split <;> rfl

theorem conducts_shutdown (w : System α) : w.shutdown.conducts = w.conducts := by
  unfold shutdown
  dsimp only
  split
  · exact conducts_removeHook _ _
  · exact conducts_removeHook _ _

theorem conducts_shutdownIfAlive (w : System α) : w.shutdownIfAlive.conducts = w.conducts := by
  unfold shutdownIfAlive
  split
  · exact conducts_shutdown w
  · rfl

theorem conducts_unsubscribe (w : System α) (label : String) :
    (w.unsubscribe label).conducts = w.conducts := by
  unfold unsubscribe
  split
  · rfl
  split
  · dsimp only
    split <;> rfl
  · rfl

theorem conducts_setData (w : System α) (a : α) : (w.setData a).conducts = w.conducts := by
  unfold setData
  dsimp only
  split
  · rfl
  · exact conducts_scheduleRefresh _

theorem conducts_setFault (w : System α) (f : Fault) : (w.setFault f).conducts = w.conducts := by
  unfold setFault
  dsimp only
  split <;> rfl

theorem conducts_registerShutdown (w : System α) (name : HostName) :
    (w.registerShutdown name).conducts = w.conducts := by
  unfold registerShutdown
  dsimp only
  rw [conducts_removeHook]
  split
  · exact conducts_shutdown _
  · rfl

theorem conducts_stopHost (w : System α) (name : HostName) :
    (w.stopHost name).conducts = w.conducts := by
  have hf : ∀ (hooks : List Unit) (w : System α),
      (hooks.foldl (fun w _ => w.shutdownIfAlive) w).conducts = w.conducts := by
    intro hooks
    induction hooks with
    | nil => exact fun w => rfl
    | cons _ hooks ih => exact fun w => (ih _).trans (conducts_shutdownIfAlive w)
  unfold stopHost
  split
  · rfl
  · exact hf _ _

theorem conducts_unload (w : System α) : w.unload.conducts = w.conducts := by
  unfold unload
  split
  · split
    · exact conducts_shutdownIfAlive _
    · rfl
  · rfl

theorem conducts_addListener (w : System α) (label : String) (context : Option String)
    (conduct : List (List (Deed α))) : (w.addListener label context conduct).conducts =
      (w.roster.freshId.number, conduct) :: w.conducts := by
  unfold addListener
  dsimp only
  split
  · exact conducts_scheduleRefresh _
  · rfl

/-- A deed adds to what listeners are to do no more than it brings itself. -/
theorem conductsToil_carryOut (w : System α) (deed : Deed α) :
    conductsToil (w.carryOut deed).conducts < conductsToil w.conducts + deed.effort := by
  have hk : ∀ {v : System α}, v.conducts = w.conducts →
      conductsToil v.conducts < conductsToil w.conducts + deed.effort := by
    intro v hv
    rw [hv]
    exact Nat.lt_add_of_pos_right deed.effort_pos
  unfold carryOut
  split
  · exact hk rfl
  · cases deed with
    | addListener label context conduct =>
      show conductsToil (w.addListener label context conduct).conducts < _
      rw [conducts_addListener, conductsToil, Deed.effort]
      omega
    | unsubscribe label => exact hk (conducts_unsubscribe w label)
    | setData a => exact hk (conducts_setData w a)
    | setFault f => exact hk (conducts_setFault w f)
    | shutdown => exact hk (conducts_shutdown w)
    | registerShutdown host => exact hk (conducts_registerShutdown w host)
    | stopHost host => exact hk (conducts_stopHost w host)
    | unload => exact hk (conducts_unload w)
    | setInterval | setPolling | spawn | drop => exact hk rfl

/-! ## A task that is no stage -/

def chores (w : System α) : List (Task α) × List (Nat × List (List (Deed α))) :=
  (w.agenda, w.conducts)

theorem chores_ask (h : w.lock.holder = some cycle) (origin : Origin) :
    (w.ask origin).chores = w.chores := by
  rw [ask_of_held h]
  rfl

theorem Stirs.chores (h : Stirs w v) : v.chores = w.chores := by
  rw [h.calm.frame]
  rfl

theorem chores_refreshDue (h : w.lock.holder = some cycle) (generation : Nat) :
    (w.refreshDue generation).chores = w.chores := by
  unfold refreshDue
  split
  · have hf := (Stir.refreshDue (w := w) generation).stirs
    dsimp only
    split
    · exact (chores_ask (hf.calm.lock ▸ h) _).trans hf.chores
    · exact hf.chores
  · rfl

theorem chores_cooldownOver (h : w.lock.holder = some cycle) (generation : Nat) :
    (w.cooldownOver generation).chores = w.chores := by
  unfold cooldownOver
  split
  · have hf := (Stir.cooldownOver (w := w) generation).stirs
    dsimp only
    split
    · exact (chores_ask (hf.calm.lock ▸ h) _).trans hf.chores
    · exact hf.chores
  · rfl

theorem chores_start [BEq α] (h : w.lock.holder = some cycle) (caller : Caller) (call : Call) :
    (w.start caller call).chores = w.chores := by
  rcases start_cases w caller call with ⟨u, hu, he, -⟩ | ⟨-, hu, -⟩
  · rw [he]
    exact (chores_ask (hu.calm.lock ▸ h) _).trans hu.chores
  · exact hu.chores

theorem deeds_round (w : System α) (told : Bool) :
    (w.round told).filterMap Task.deed? = [] := by
  cases told with
  | false => rfl
  | true =>
    refine List.filterMap_eq_nil_iff.2 fun x hx => ?_
    obtain ⟨k, -, rfl⟩ := List.mem_map.1 hx
    rfl

theorem lighter_hear {k : Callback} {rest : List (Task α)} (ha : w.agenda = .hear k :: rest) :
    Lighter (hear { w with agenda := rest } k) w := by
  have hw : toil { w with agenda := rest } = w.toil := by
    rw [toil, toil, ha]
    rfl
  have hle : (hear { w with agenda := rest } k).toil ≤ w.toil := hw ▸ toil_hear _ k
  have hlt : (hear { w with agenda := rest } k).errands < w.errands := by
    have hv : (hear { w with agenda := rest } k).agenda = (w.conduct k).map .deed ++ rest := rfl
    have hz : ((w.conduct k).map Task.deed).countP (·.deed?.isNone) = 0 := by
      rw [List.countP_map]
      exact List.countP_eq_zero.2 fun d _ => Bool.false_ne_true
    rw [errands, errands, hv, ha, List.countP_append, hz, Nat.zero_add,
      List.countP_cons_of_pos rfl]
    exact Nat.lt_succ_self _
  rcases Nat.lt_or_eq_of_le hle with h | h
  · exact .left _ _ h
  · rw [Lighter, h]
    exact .right _ hlt

theorem lighter_of_chores {task : Task α} {rest : List (Task α)} (ha : w.agenda = task :: rest)
    (hd : task.deed? = none) (hv : v.chores = (rest, w.conducts)) : Lighter v w := by
  obtain ⟨hva, hvc⟩ := Prod.mk.inj hv
  have ht : v.toil = w.toil := by rw [toil, toil, hva, hvc, ha, List.filterMap_cons_none hd]
  have hlt : v.errands < w.errands := by
    rw [errands, errands, hva, ha, List.countP_cons, hd]
    exact Nat.lt_succ_self _
  rw [Lighter, ht]
  exact .right _ hlt

variable [BEq α]

theorem agenda_carryOut (w : System α) (deed : Deed α) : ∃ tasks : List (Task α),
    tasks.filterMap Task.deed? = [] ∧ (w.carryOut deed).agenda = tasks ++ w.agenda := by
  have h := news_carryOut w deed
  generalize w.carryOut deed = v at h
  cases h with
  | data _ _ h | fault _ h => exact ⟨_, deeds_round w _, h.agenda⟩
  | joined _ _ _ h | left _ _ h => exact ⟨[], rfl, h.agenda⟩
  | barred => exact ⟨[], rfl, rfl⟩
  | routine _ _ h =>
    obtain ⟨tasks, hc, h⟩ := h
    refine ⟨tasks, List.filterMap_eq_nil_iff.2 fun x hx => ?_, h.agenda⟩
    have hx := hc x hx
    cases x with
    | deed => cases hx
    | hear | start | enter | fetched | conclude | refreshDue | cooldownOver => rfl

theorem toil_carryOut (w : System α) (deed : Deed α) :
    (w.carryOut deed).toil < w.toil + deed.effort := by
  obtain ⟨tasks, ht, ha⟩ := agenda_carryOut w deed
  have hc := conductsToil_carryOut w deed
  rw [toil, toil, ha, List.filterMap_append, ht, List.nil_append]
  omega

theorem lighter_carryOut {deed : Deed α} {rest : List (Task α)} (ha : w.agenda = .deed deed :: rest) :
    Lighter (carryOut { w with agenda := rest } deed) w := by
  have hw : toil { w with agenda := rest } + deed.effort = w.toil := by
    rw [Nat.add_comm, toil, toil, ha, ← Nat.add_assoc]
    rfl
  exact .left _ _ (hw ▸ toil_carryOut _ deed)

/-- Every task that is no stage leaves less to be done, as long as a cycle is under way. -/
theorem lighter_perform {task : Task α} {rest : List (Task α)} (hh : w.lock.holder = some cycle)
    (ha : w.agenda = task :: rest) (ht : task.isStage = false) :
    Lighter ({ w with agenda := rest }.perform task) w := by
  have hu : ({ w with agenda := rest } : System α).lock.holder = some cycle := hh
  cases task with
  | deed deed => exact lighter_carryOut ha
  | hear k => exact lighter_hear ha
  | start caller call => exact lighter_of_chores ha rfl (chores_start hu caller call)
  | refreshDue generation => exact lighter_of_chores ha rfl (chores_refreshDue hu generation)
  | cooldownOver generation => exact lighter_of_chores ha rfl (chores_cooldownOver hu generation)
  | enter | fetched | conclude => cases ht

/-! ## Going on -/

/-- With nothing on the agenda, a stage that waits for its time or for the driving task is next. -/
theorem comes_up_at_rest {stage : Task α} (ha : w.agenda = []) (hs : stage ∈ w.stages) :
    ∃ v rest, Run w [] v ∧ v.agenda = stage :: rest := by
  rw [stages, ha, List.filter_nil, List.nil_append] at hs
  rcases List.mem_append.1 hs with hs | hs
  · obtain ⟨t, ht, rfl⟩ := List.mem_map.1 (List.mem_filter.1 hs).1
    have hw : Run w [] { w with timers := w.timers.moveTo t.deadline } := .prompt .rest (.wait _ ha)
    exact ⟨_, [], hw.prompt (.fire t ha ht (Nat.le_max_right ..)), rfl⟩
  · obtain ⟨cycle, hc, rfl⟩ := List.mem_map.1 hs
    exact ⟨_, [], .prompt .rest (.resume cycle ha (Option.mem_toList.1 hc)), rfl⟩

/-- A stage that waits can come to the top of the agenda: what stands before it gets less. -/
theorem Orderly.comes_up {w : System α} {stage : Task α} (h : Orderly w) (hs : stage ∈ w.stages) :
    ∃ turns v rest, Run w turns v ∧ v.agenda = stage :: rest := by
  cases ha : w.agenda with
  | nil =>
    obtain ⟨v, rest, hr, hv⟩ := comes_up_at_rest ha hs
    exact ⟨[], v, rest, hr, hv⟩
  | cons task rest =>
    cases ht : task.isStage with
    | true =>
      obtain rfl := h.eq_of_mem_stages ha ht hs
      exact ⟨[], w, rest, .rest, ha⟩
    | false =>
      have hst := h.stages_perform ha ht hs
      obtain ⟨-, cycle, -, hh⟩ := h.only hs
      have hlt := lighter_perform hh ha ht
      obtain ⟨turns, v, rest', hr, hv⟩ := (orderly_perform h ha).comes_up (hst ▸ hs)
      exact ⟨_, v, rest', (Run.rest.work task rest ha).append hr, hv⟩
termination_by (w.toil, w.errands)
decreasing_by exact hlt

theorem Ahead.can_enter (h : Ahead w cycle n) (hw : Orderly w) :
    ∃ turns v, Run w turns v ∧ cycle ∈ entered turns := by
  induction n using Nat.strongRecOn generalizing w with
  | ind n ih =>
    obtain ⟨stage, hst⟩ := List.length_eq_one_iff.1 h.stages
    have hs : stage ∈ w.stages := hst ▸ .head _
    obtain ⟨turns, u, rest, hr, ha⟩ := hw.comes_up hs
    have hwork := hr.work stage rest ha
    by_cases he : cycle ∈ entered (turns ++ [⟨stage, { u with agenda := rest }⟩])
    · exact ⟨_, _, hwork, he⟩
    · obtain ⟨hv, m, hm, hle⟩ := hwork.approaches hw h he
      obtain ⟨-, c, hc, -⟩ := hw.only hs
      have hst : stage.isStage = true := by rw [Task.isStage, hc]; rfl
      rw [List.countP_append, List.countP_singleton, if_pos hst] at hle
      obtain ⟨later, v, hlater, hin⟩ := ih m (by omega) hm hv
      refine ⟨_, v, hwork.append hlater, ?_⟩
      rw [entered_append]
      exact List.mem_append_right _ hin

end System

end Freshness
