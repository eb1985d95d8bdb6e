import Freshness.Proofs.Coordinator.Life

/-!
# What the turns of a run add up to

* `System.asked`, `System.entered`, `System.launched`, `System.landed`, `System.ended` : the cycles
  that asked for the lock in a run, entered, began their fetch, had its result applied and ended,
  each in order;
* `Event.inFlight`, `Event.launches` : the fetches that a journal shows in flight, and all that it
  shows begun;
* `System.Ranks`, `System.Flights` : how these hang together, and with the lock and the source;
  `Ranks.turn`, `Flights.turn` : every turn keeps them so.
-/

namespace Freshness

variable {α : Type}

/-! ## Fetches in the journal -/

namespace Event

/-- The fetches that have begun and not ended, by a journal with the latest event first. -/
def inFlight : List (Event α) → List Nat
  | [] => []
  | .fetchStarted serial :: es => serial :: inFlight es
  | .fetchEnded serial :: es => (inFlight es).erase serial
  | .notice _ :: es | .heard _ _ :: es | .answered _ _ :: es | .brokeOff _ :: es
  | .reauthStarted :: es => inFlight es

/-- The fetches that have begun, the latest first. -/
def launches : List (Event α) → List Nat
  | [] => []
  | .fetchStarted serial :: es => serial :: launches es
  | .fetchEnded _ :: es => launches es
  | .notice _ :: es | .heard _ _ :: es | .answered _ _ :: es | .brokeOff _ :: es
  | .reauthStarted :: es => launches es

theorem inFlight_append {news journal : List (Event α)} (h : ∀ e ∈ news, e.isFlight = false) :
    inFlight (news ++ journal) = inFlight journal := by
  induction news with
  | nil => rfl
  | cons e news ih =>
    have he := h e (by simp)
    have ih := ih fun e he => h e (List.mem_cons_of_mem _ he)
    cases e with
    | fetchStarted | fetchEnded => cases he
    | notice | heard | answered | brokeOff | reauthStarted => exact ih

theorem launches_append {news journal : List (Event α)} (h : ∀ e ∈ news, e.isFlight = false) :
    launches (news ++ journal) = launches journal := by
  induction news with
  | nil => rfl
  | cons e news ih =>
    have he := h e (by simp)
    have ih := ih fun e he => h e (List.mem_cons_of_mem _ he)
    cases e with
    | fetchStarted | fetchEnded => cases he
    | notice | heard | answered | brokeOff | reauthStarted => exact ih

/-- At no moment that the journal tells of have two fetches been in flight. -/
def Single (journal : List (Event α)) : Prop :=
  ∀ earlier : List (Event α), earlier <:+ journal → (inFlight earlier).length ≤ 1

theorem Single.cons {journal : List (Event α)} {e : Event α} (h : Single journal)
    (he : (inFlight (e :: journal)).length ≤ 1) : Single (e :: journal) := by
  intro earlier hs
  rcases List.suffix_cons_iff.1 hs with rfl | hs
  · exact he
  · exact h earlier hs

theorem Single.adds {j j' : List (Event α)} (h : Single j) (ha : Event.Adds j j') : Single j' := by
  obtain ⟨news, hn, rfl⟩ := ha
  induction news with
  | nil => exact h
  | cons e news ih =>
    have hs : Single (news ++ j) := ih fun e he => hn e (List.mem_cons_of_mem _ he)
    refine hs.cons ?_
    have hf : inFlight (e :: (news ++ j)) = inFlight j := inFlight_append hn
    rw [hf]
    exact h j (List.suffix_refl j)

theorem Adds.inFlight {j j' : List (Event α)} (h : Event.Adds j j') : inFlight j' = inFlight j := by
  obtain ⟨news, hn, rfl⟩ := h
  exact inFlight_append hn

theorem Adds.launches {j j' : List (Event α)} (h : Event.Adds j j') :
    launches j' = launches j := by
  obtain ⟨news, hn, rfl⟩ := h
  exact launches_append hn

end Event

def Source.after (s : Source α) : Nat → Source α
  | 0 => s
  | n + 1 => (s.after n).next.2

namespace System

/-! ## The cycles of a run -/

section

variable [BEq α]

/-- The cycle that a turn asked for: the one that is new in the line. -/
def Turn.asks? (t : Turn α) : Option Cycle :=
  if t.before.serial < t.after.serial then t.after.lock.line.getLast? else none

def asked (turns : List (Turn α)) : List Cycle := turns.filterMap Turn.asks?

end

/-- The cycle whose fetch begins, if there is a source to fetch from. -/
def Turn.launches? (t : Turn α) : Option Cycle :=
  t.task.enters?.filter fun cycle => !t.before.skips cycle

def entered (turns : List (Turn α)) : List Cycle := turns.filterMap (·.task.enters?)

/-- Those of them that were not skipped. -/
def launched (turns : List (Turn α)) : List Cycle := turns.filterMap Turn.launches?

def landed (turns : List (Turn α)) : List Cycle := turns.filterMap (·.task.lands?)

def ended (turns : List (Turn α)) : List Cycle := turns.filterMap (·.task.ends?)

theorem entered_append (before after : List (Turn α)) :
    entered (before ++ after) = entered before ++ entered after := List.filterMap_append

theorem launched_sublist (turns : List (Turn α)) : (launched turns).Sublist (entered turns) :=
  filterMap_sublist_filterMap (fun _ _ ht => (Option.filter_eq_some_iff.1 ht).1) turns

theorem stages?_eq_none {task : Task α} (h : task.isStage = false) :
    task.enters? = none ∧ task.lands? = none ∧ task.ends? = none := by
  cases task with
  | enter | fetched | conclude => cases h
  | deed | hear | start | refreshDue | cooldownOver => exact ⟨rfl, rfl, rfl⟩

/-! ## The fetches -/

/-- Every cycle that is not skipped fetches once, and one after the other. -/
structure Flights (w : System α) (turns : List (Turn α)) (v : System α) : Prop where
  landings : launched turns = landed turns ++ v.stages.filterMap Task.lands?
  source : v.source = w.source.map fun s => s.after (launched turns).length
  flights : Event.inFlight v.journal =
    if w.source.isSome then (v.stages.filterMap Task.lands?).map (·.serial) else []
  single : Event.Single v.journal
  launches : Event.launches v.journal =
    if w.source.isSome then ((launched turns).map (·.serial)).reverse else []

theorem flights_system (p : Plan α) (jitter : Duration) (now : Nat) :
    Flights (p.system jitter now) [] (p.system jitter now) := by
  refine ⟨rfl, ?_, ?_, ?_, ?_⟩
  · show p.source = p.source.map fun s => s
    cases p.source <;> rfl
  · exact (ite_self _).symm
  · refine Event.Single.cons ?_ (by simp [Event.inFlight])
    intro earlier hs
    rw [List.suffix_nil.1 hs]
    exact Nat.zero_le 1
  · exact (ite_self _).symm

theorem Flights.prompt {w u v : System α} {turns : List (Turn α)} (h : Flights w turns u)
    (ho : Orderly u) (hp : Prompt u v) : Flights w turns v := by
  have hs := prompt_stages ho hp
  have he : (v.source, v.journal) = (u.source, u.journal) := by cases hp <;> rfl
  obtain ⟨hsrc, hj⟩ := Prod.mk.inj he
  refine ⟨?_, ?_, ?_, ?_, ?_⟩
  · rw [hs, h.landings]
  · rw [hsrc, h.source]
  · rw [hj, hs, h.flights]
  · exact hj ▸ h.single
  · rw [hj, h.launches]

theorem Flights.noted {w u : System α} {turns : List (Turn α)} (h : Flights w turns u)
    (e : Event α) : u.noted e = if w.source.isSome then [e] else [] := by
  rw [System.noted, h.source, Option.isSome_map]

theorem single_noted {u : System α} {e : Event α} {journal : List (Event α)}
    (h : Event.Single journal) (he : (Event.inFlight (u.noted e ++ journal)).length ≤ 1) :
    Event.Single (u.noted e ++ journal) := by
  unfold noted at he ⊢
  by_cases hs : u.source.isSome
  · rw [if_pos hs] at he ⊢
    exact h.cons he
  · rw [if_neg hs]
    exact h

variable [BEq α]

theorem Turn.asks?_of_eq {t : Turn α} (h : t.after.serial = t.before.serial) : t.asks? = none := by
  simp [asks?, h]

theorem Turn.asks?_of_succ {t : Turn α} (h : t.after.serial = t.before.serial + 1) :
    t.asks? = t.after.lock.line.getLast? := by
  simp [asks?, h]

/-! ## The line -/

/-- The cycles take the lock in the order of asking. -/
structure Ranks (turns : List (Turn α)) (v : System α) : Prop where
  line : asked turns = ended turns ++ v.lock.line
  serials : (asked turns).map (·.serial) = List.range v.serial
  entries : entered turns ++ v.stages.filterMap Task.enters? = ended turns ++ v.lock.holder.toList

theorem ranks_system (p : Plan α) (jitter : Duration) (now : Nat) :
    Ranks [] (p.system jitter now) := ⟨rfl, rfl, rfl⟩

theorem Ranks.prompt {turns : List (Turn α)} {u v : System α} (h : Ranks turns u) (ho : Orderly u)
    (hp : Prompt u v) : Ranks turns v := by
  have hn : v.serial = u.serial := by cases hp <;> rfl
  refine ⟨?_, ?_, ?_⟩
  · rw [prompt_lock hp, h.line]
  · rw [hn, h.serials]
  · rw [prompt_stages ho hp, prompt_lock hp, h.entries]

theorem Ranks.hold {turns : List (Turn α)} {u : System α} {t : Turn α} (h : Ranks turns u)
    (hb : t.before.serial = u.serial) (hl : t.after.lock = u.lock)
    (hn : t.after.serial = u.serial) (hend : t.task.ends? = none)
    (hs : t.task.enters?.toList ++ t.after.stages.filterMap Task.enters? =
      u.stages.filterMap Task.enters?) : Ranks (turns ++ [t]) t.after := by
  have hask : t.asks? = none := Turn.asks?_of_eq (by rw [hn, hb])
  have hended : ended (turns ++ [t]) = ended turns :=
    filterMap_snoc_of_none (f := fun t : Turn α => t.task.ends?) hend turns
  have hasked : asked (turns ++ [t]) = asked turns := filterMap_snoc_of_none hask turns
  have hentered : entered (turns ++ [t]) = entered turns ++ t.task.enters?.toList :=
    filterMap_snoc (fun t : Turn α => t.task.enters?) turns t
  refine ⟨?_, ?_, ?_⟩
  · rw [hasked, hended, hl, h.line]
  · rw [hasked, hn, h.serials]
  · rw [hentered, hended, List.append_assoc, hs, hl, h.entries]

theorem Ranks.ask {turns : List (Turn α)} {u : System α} {t : Turn α} (h : Ranks turns u)
    (origin : Origin) (ht : t.task.origin? = some origin) (hb : t.before.serial = u.serial)
    (hl : t.after.lock.line = u.lock.line ++ [⟨u.serial, origin⟩])
    (hn : t.after.serial = u.serial + 1)
    (hs : entered turns ++ t.after.stages.filterMap Task.enters? =
      ended turns ++ t.after.lock.holder.toList) : Ranks (turns ++ [t]) t.after := by
  obtain ⟨hent, -, hend⟩ := stages?_eq_none (Task.isStage_of_origin? ht)
  have hask : t.asks? = some ⟨u.serial, origin⟩ := by
    rw [Turn.asks?_of_succ (by rw [hn, hb]), hl, List.getLast?_concat]
  have hended : ended (turns ++ [t]) = ended turns :=
    filterMap_snoc_of_none (f := fun t : Turn α => t.task.ends?) hend turns
  have hentered : entered (turns ++ [t]) = entered turns :=
    filterMap_snoc_of_none (f := fun t : Turn α => t.task.enters?) hent turns
  have hasked : asked (turns ++ [t]) = asked turns ++ [⟨u.serial, origin⟩] :=
    filterMap_snoc_of_some hask turns
  refine ⟨?_, ?_, ?_⟩
  · rw [hasked, hended, hl, h.line, List.append_assoc]
  · rw [hasked, hn, List.range_succ, List.map_append, h.serials]
    rfl
  · rw [hentered, hended, hs]

theorem Ranks.handOver {turns : List (Turn α)} {u : System α} {t : Turn α} (h : Ranks turns u)
    {cycle : Cycle} {outcome : Except Refusal Health} (ht : t.task = .conclude cycle outcome)
    (hb : t.before.serial = u.serial) (hs : u.stages = [.conclude cycle outcome])
    (hh : u.lock.holder = some cycle) (hl : t.after.lock.line = u.lock.waiting)
    (hn : t.after.serial = u.serial)
    (hs' : t.after.stages = t.after.lock.holder.toList.map .enter) :
    Ranks (turns ++ [t]) t.after := by
  have hask : t.asks? = none := Turn.asks?_of_eq (by rw [hn, hb])
  have hended : ended (turns ++ [t]) = ended turns ++ [cycle] :=
    filterMap_snoc_of_some (by rw [ht]; rfl) turns
  have hentered : entered (turns ++ [t]) = entered turns :=
    filterMap_snoc_of_none (by rw [ht]; rfl) turns
  have hasked : asked (turns ++ [t]) = asked turns := filterMap_snoc_of_none hask turns
  have hent : entered turns = ended turns ++ [cycle] := by
    have he := h.entries
    rw [hs, hh] at he
    simpa [List.filterMap_cons, Task.enters?] using he
  refine ⟨?_, ?_, ?_⟩
  · rw [hasked, hended, hl, h.line, Lock.line, hh, List.append_assoc]
    rfl
  · rw [hasked, hn, h.serials]
  · rw [hentered, hended, hent, hs']
    cases t.after.lock.holder <;> rfl

theorem Ranks.turn {turns : List (Turn α)} {u : System α} {t : Turn α} (h : Ranks turns u)
    (hb : t.before.serial = u.serial) (hl : Life u t.task t.after) :
    Ranks (turns ++ [t]) t.after := by
  generalize htask : t.task = task at hl
  generalize hafter : t.after = v at hl
  cases hl with
  | quiet hst hs hk hq =>
    obtain ⟨hent, -, hend⟩ := stages?_eq_none hst
    subst hafter htask
    exact h.hold hb hk (Prod.mk.inj hq).1 hend (by rw [hent, hs]; rfl)
  | admitted origin htr hs hk hs' hk' hq =>
    subst hafter htask
    refine h.ask origin htr hb ?_ (Prod.mk.inj hq).1 ?_
    · rw [hk, hk']
      rfl
    · have he := h.entries
      rw [hs, hk] at he
      rw [hs', hk']
      simpa [List.filterMap_cons, Task.enters?] using he
  | queued origin holder htr hs hh hk hq =>
    subst hafter htask
    refine h.ask origin htr hb ?_ (Prod.mk.inj hq).1 ?_
    · rw [hk]
      exact (List.append_assoc ..).symm
    · rw [hs, hk, h.entries]
  | skipped outcome _ hs hh hs' hk hq =>
    subst hafter
    refine h.hold hb hk (Prod.mk.inj hq).1 (by rw [htask]; rfl) ?_
    rw [htask, hs, hs']
    rfl
  | began begun result journal _ hs hh hs' hk hq =>
    subst hafter
    refine h.hold hb hk (Prod.mk.inj hq).1 (by rw [htask]; rfl) ?_
    rw [htask, hs, hs']
    rfl
  | landed outcome hs hh hs' hk hq =>
    subst hafter
    refine h.hold hb hk (Prod.mk.inj hq).1 (by rw [htask]; rfl) ?_
    rw [htask, hs, hs']
    rfl
  | ended hs hh hs' hk hq =>
    subst hafter
    exact h.handOver htask hb hs hh hk (Prod.mk.inj hq).1 hs'

/-! ## Every turn keeps the account of the fetches -/

theorem Flights.keep {w u : System α} {turns : List (Turn α)} {t : Turn α} (h : Flights w turns u)
    (hn : t.launches? = none) (hd : t.task.lands? = none)
    (hs : t.after.stages.filterMap Task.lands? = u.stages.filterMap Task.lands?)
    (hsrc : t.after.source = u.source) (hj : Event.Adds u.journal t.after.journal) :
    Flights w (turns ++ [t]) t.after := by
  have hlaunched : launched (turns ++ [t]) = launched turns := filterMap_snoc_of_none hn turns
  have hlanded : landed (turns ++ [t]) = landed turns :=
    filterMap_snoc_of_none (f := fun t : Turn α => t.task.lands?) hd turns
  refine ⟨?_, ?_, ?_, h.single.adds hj, ?_⟩
  · rw [hlaunched, hlanded, hs, h.landings]
  · rw [hlaunched, hsrc, h.source]
  · rw [hj.inFlight, hs, h.flights]
  · rw [hj.launches, hlaunched, h.launches]

theorem Flights.launch {w u : System α} {turns : List (Turn α)} {t : Turn α} (h : Flights w turns u)
    {cycle : Cycle} {begun : Nat} {result : Except Fault α} {journal : List (Event α)}
    (ht : t.task = .enter cycle) (hk : t.before.skips cycle = false)
    (hs : u.stages = [.enter cycle]) (hs' : t.after.stages = [.fetched cycle begun result])
    (hsrc : t.after.source = u.source.map fun s => s.next.2)
    (hj : Event.Adds u.journal journal)
    (hj' : t.after.journal = u.noted (.fetchStarted cycle.serial) ++ journal) :
    Flights w (turns ++ [t]) t.after := by
  have hlaunches : t.launches? = some cycle := by
    rw [Turn.launches?, ht]
    simp [Task.enters?, hk]
  have hlaunched : launched (turns ++ [t]) = launched turns ++ [cycle] :=
    filterMap_snoc_of_some hlaunches turns
  have hlanded : landed (turns ++ [t]) = landed turns :=
    filterMap_snoc_of_none (by rw [ht]; rfl) turns
  have hland : launched turns = landed turns := by
    have hl := h.landings
    rw [hs] at hl
    simpa [List.filterMap_cons, Task.lands?] using hl
  have hfree : Event.inFlight journal = [] := by
    rw [hj.inFlight, h.flights, hs]
    exact ite_self _
  have hflight : Event.inFlight t.after.journal =
      if w.source.isSome then [cycle.serial] else [] := by
    rw [hj', h.noted]
    split
    · show cycle.serial :: Event.inFlight journal = [cycle.serial]
      rw [hfree]
    · exact hfree
  refine ⟨?_, ?_, ?_, ?_, ?_⟩
  · rw [hlaunched, hlanded, hland, hs']
    rfl
  · rw [hlaunched, List.length_append, hsrc, h.source, Option.map_map]
    rfl
  · rw [hflight, hs']
    rfl
  · have hle : (Event.inFlight t.after.journal).length ≤ 1 := by
      rw [hflight]
      split <;> simp
    rw [hj'] at hle ⊢
    exact single_noted (h.single.adds hj) hle
  · have hl := hj.launches.trans h.launches
    rw [hj', hlaunched, h.noted]
    by_cases hw : w.source.isSome
    · rw [if_pos hw] at hl ⊢
      rw [if_pos hw, List.map_append, List.reverse_append, ← hl]
      rfl
    · rw [if_neg hw] at hl ⊢
      rw [if_neg hw]
      exact hl

theorem Flights.land {w u : System α} {turns : List (Turn α)} {t : Turn α} (h : Flights w turns u)
    {cycle : Cycle} {begun : Nat} {result : Except Fault α} {outcome : Except Refusal Health}
    (ht : t.task = .fetched cycle begun result) (hs : u.stages = [.fetched cycle begun result])
    (hs' : t.after.stages = [.conclude cycle outcome]) (hsrc : t.after.source = u.source)
    (hj : Event.Adds (u.noted (.fetchEnded cycle.serial) ++ u.journal) t.after.journal) :
    Flights w (turns ++ [t]) t.after := by
  have hlaunched : launched (turns ++ [t]) = launched turns :=
    filterMap_snoc_of_none (by rw [Turn.launches?, ht]; rfl) turns
  have hlanded : landed (turns ++ [t]) = landed turns ++ [cycle] :=
    filterMap_snoc_of_some (by rw [ht]; rfl) turns
  have hfree : Event.inFlight (u.noted (.fetchEnded cycle.serial) ++ u.journal) = [] := by
    have hf := h.flights
    rw [hs] at hf
    rw [h.noted]
    by_cases hw : w.source.isSome
    · rw [if_pos hw] at hf ⊢
      show (Event.inFlight u.journal).erase cycle.serial = []
      rw [hf]
      exact List.erase_cons_head ..
    · rw [if_neg hw] at hf ⊢
      exact hf
  have hlaunch : Event.launches (u.noted (.fetchEnded cycle.serial) ++ u.journal) =
      Event.launches u.journal := by
    unfold System.noted
    split <;> rfl
  refine ⟨?_, ?_, ?_, ?_, ?_⟩
  · rw [hlaunched, hlanded, hs', h.landings, hs]
    exact (List.append_nil _).symm
  · rw [hlaunched, hsrc, h.source]
  · rw [hj.inFlight, hfree, hs']
    exact (ite_self _).symm
  · refine Event.Single.adds (single_noted h.single ?_) hj
    rw [hfree]
    exact Nat.zero_le 1
  · rw [hj.launches, hlaunch, hlaunched, h.launches]

theorem Flights.turn {w u : System α} {turns : List (Turn α)} {t : Turn α} (h : Flights w turns u)
    (hb : ∀ cycle, t.before.skips cycle = u.skips cycle) (hl : Life u t.task t.after) :
    Flights w (turns ++ [t]) t.after := by
  generalize htask : t.task = task at hl
  generalize hafter : t.after = v at hl
  have hnone : t.task.enters? = none → t.launches? = none := by
    intro he
    rw [Turn.launches?, he]
    rfl
  cases hl with
  | quiet hst hs hk hq hj =>
    subst hafter htask
    obtain ⟨hent, hland, -⟩ := stages?_eq_none hst
    exact h.keep (hnone hent) hland (by rw [hs]) (Prod.mk.inj hq).2 hj
  | admitted origin htr hs hk hs' hk' hq hj =>
    subst hafter htask
    obtain ⟨hent, hland, -⟩ := stages?_eq_none (Task.isStage_of_origin? htr)
    exact h.keep (hnone hent) hland (by rw [hs, hs']; rfl) (Prod.mk.inj hq).2 hj
  | queued origin holder htr hs hh hk hq hj =>
    subst hafter htask
    obtain ⟨hent, hland, -⟩ := stages?_eq_none (Task.isStage_of_origin? htr)
    exact h.keep (hnone hent) hland (by rw [hs]) (Prod.mk.inj hq).2 hj
  | @skipped cycle _ outcome hk hs hh hs' _ hq hj =>
    subst hafter
    refine h.keep ?_ (by rw [htask]; rfl) (by rw [hs, hs']; rfl) (Prod.mk.inj hq).2 hj
    rw [Turn.launches?, htask]
    simp [Task.enters?, hb, hk]
  | @began cycle _ begun result journal hk hs hh hs' _ hq hj hj' =>
    subst hafter
    exact h.launch htask ((hb cycle).trans hk) hs hs' (Prod.mk.inj hq).2 hj hj'
  | landed outcome hs hh hs' _ hq hj =>
    subst hafter
    exact h.land htask hs hs' (Prod.mk.inj hq).2 hj
  | ended hs hh hs' _ hq hj =>
    subst hafter
    refine h.keep (hnone (by rw [htask]; rfl)) (by rw [htask]; rfl) ?_ (Prod.mk.inj hq).2 hj
    rw [hs, hs']
    cases t.after.lock.holder <;> rfl

end System

end Freshness
