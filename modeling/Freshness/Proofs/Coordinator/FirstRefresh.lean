import Freshness.Proofs.Coordinator.Rounds
import Freshness.Proofs.Coordinator.Surfacing

/-!
# The first refresh

* `Fault.isRaised`, `System.firstReply` : what the caller of a first refresh is to be told, by what the
  fetch of its own cycle brought; `System.firstAnswer_outcomeOf` : that is what it is told;
* `Event.disturbs`, `Event.Spares` : nobody else has been bothered; `System.spares_perform` : nobody
  is by the stages of a first refresh themselves;
* `System.givens`, `Run.givens`, `Run.data_isSome` : what a coordinator is built with stays, and what is
  known of the source is never lost;
* `Run.first_ended` : how a first refresh is answered;
* `System.FirstRefreshes`, `Run.first_refreshes` : **a first refresh reports its own cycle**;
* `System.FirstData`, `Run.first_data` : **a first refresh that succeeds leaves data behind**, unless
  the coordinator was shut down when its cycle entered.
-/

namespace Freshness

variable {α : Type}

/-- The caller of a first refresh hears of the fault itself. -/
def Fault.isRaised (f : Fault) : Bool :=
  f.kind == .authFailed || f.kind == .configEntry || f.kind == .notImplemented

/-! ## Events that bother others -/

/-- A listener is called, or credentials are asked for. -/
def Event.disturbs : Event α → Bool
  | .heard _ _ | .reauthStarted => true
  | .notice _ | .answered _ _ | .brokeOff _ | .fetchStarted _ | .fetchEnded _ => false

/-- Nothing has been added to the journal that bothers anyone. -/
def Event.Spares (journal journal' : List (Event α)) : Prop :=
  ∃ news : List (Event α), (∀ e ∈ news, e.disturbs = false) ∧ journal' = news ++ journal

theorem Event.Spares.refl (journal : List (Event α)) : Event.Spares journal journal :=
  ⟨[], by simp, rfl⟩

theorem Event.Spares.trans {j₁ j₂ j₃ : List (Event α)} (h₁ : Event.Spares j₁ j₂)
    (h₂ : Event.Spares j₂ j₃) : Event.Spares j₁ j₃ := by
  obtain ⟨news₁, hn₁, rfl⟩ := h₁
  obtain ⟨news₂, hn₂, rfl⟩ := h₂
  exact ⟨news₂ ++ news₁, List.forall_mem_append.2 ⟨hn₂, hn₁⟩, (List.append_assoc ..).symm⟩

theorem Event.spares_cons {e : Event α} (he : e.disturbs = false) (journal : List (Event α)) :
    Event.Spares journal (e :: journal) := ⟨[e], by simpa using he, rfl⟩

namespace System

theorem spares_logAny (w : System α) (n : Option Notice) :
    Event.Spares w.journal (w.logAny n).journal := by
  cases n with
  | none => exact .refl _
  | some n => exact Event.spares_cons rfl _

theorem spares_scheduleRefresh (w : System α) :
    Event.Spares w.journal w.scheduleRefresh.journal := by
  unfold scheduleRefresh
  exact spares_logAny _ _

theorem spares_logReport (w : System α) (manner : Manner) (report : Report)
    (fault : Option Fault) : Event.Spares w.journal (w.logReport manner report fault).journal := by
  have hr : ∀ {u : System α}, Event.Spares w.journal u.journal →
      Event.Spares w.journal
        (if report.closes then u.log (.recovered u.name) else u).journal := by
    intro u hu
    split
    · exact hu.trans (Event.spares_cons rfl _)
    · exact hu
  unfold logReport
  refine hr ?_
  cases fault with
  | none => exact .refl _
  | some f =>
    dsimp only
    split
    · exact Event.spares_cons rfl _
    · exact .refl _

theorem spares_enter (w : System α) (cycle : Cycle) :
    Event.Spares w.journal (w.enter cycle).journal := by
  have hb : ∀ u : System α, Event.Spares u.journal (u.beginFetch cycle).journal := by
    intro u
    unfold beginFetch
    split
    · exact .refl _
    · dsimp only
      split <;> exact Event.spares_cons rfl _
  unfold enter
  dsimp only
  split
  · exact Event.spares_cons rfl _
  split
  · exact Event.spares_cons rfl _
  · exact hb _

theorem spares_conclude (w : System α) (cycle : Cycle) (outcome : Except Refusal Health) :
    Event.Spares w.journal (w.conclude cycle outcome).journal := by
  have hr : (w.release cycle.origin).journal = w.journal := by rw [release_frame]
  unfold conclude
  rw [← hr]
  generalize w.release cycle.origin = u
  cases cycle.origin with
  | call caller call =>
    cases call with
    | request =>
      rw [returnTo_request]
      refine Event.spares_cons ?_ _
      split <;> rfl
    | refresh | first | interval => exact Event.spares_cons rfl _
  | timer | cooldown => exact spares_logAny u _

/-! ## What the caller is told -/

/-- What the caller of a first refresh is to be told, by what the cycle's own fetch brought. -/
def firstReply (name : String) : Except Fault α → Option Refusal
  | .ok _ => none
  | .error f =>
    match f.kind with
    | .authFailed => some (.authFailed f)
    | .configEntry => some (.configEntry f)
    | .notImplemented => some (.fatal f)
    | .timeout | .transport | .updateFailed | .unknown => some (.notReady name (some f))

theorem firstReply_eq_none {name : String} {result : Except Fault α} :
    firstReply name result = none ↔ ∃ a, result = .ok a := by
  cases result with
  | ok a => exact ⟨fun _ => ⟨a, rfl⟩, fun _ => rfl⟩
  | error f => cases f <;> simp [firstReply, Fault.kind]

theorem firstAnswer_eq_none {name : String} {health : Health} :
    firstAnswer name (.ok health) = none ↔ health.success = true := by
  cases hs : health.success <;> simp [firstAnswer, hs]

theorem skips_of_isFirst {cycle : Cycle} (h : cycle.origin.isFirst = true) (w : System α) :
    w.skips cycle = w.shutDown := by
  obtain ⟨serial, origin⟩ := cycle
  cases origin with
  | call caller call =>
    cases call with
    | first => exact Bool.or_false _
    | refresh | request | interval => cases h
  | timer | cooldown => cases h

/-! ## What stays -/

/-- What a coordinator is built with and keeps: its name and the host that it follows. -/
def givens (w : System α) : String × Option HostName := (w.name, w.followed)

theorem givens_shutdown (w : System α) : w.shutdown.givens = w.givens := by
  have hr : ∀ (u : System α) (hook : Option (HostName × HookId)),
      (u.removeHook hook).givens = u.givens := by
    intro u hook
    cases hook <;> rfl
  unfold shutdown
  dsimp only
  split
  · exact hr _ _
  · exact hr _ _

theorem Effects.givens {w v : System α} (h : Effects w v) : v.givens = w.givens := by
  induction h with
  | refl => rfl
  | tail _ he ih =>
    rw [← ih]
    cases he with
    | stir h =>
      rw [(calm_of_stir h).frame]
      rfl
    | shutdown => exact givens_shutdown _
    | calls | spawn | interval | standing | listeners | hosts | drop => rfl

variable [BEq α]

theorem givens_perform (w : System α) (task : Task α) : (w.perform task).givens = w.givens := by
  have hc := course_perform w task
  generalize w.perform task = v at hc
  cases hc with
  | quiet _ hv => exact hv.givens
  | asked origin _ hu =>
    rw [ask_frame]
    exact hu.effects.givens
  | skipped _ hu => exact hu.effects.givens
  | began _ hu =>
    rw [beginFetch_frame]
    exact hu.effects.givens
  | landed calls outcome hu _ =>
    refine hu.effects.givens.trans ?_
    rw [applyResult_frame]
    rfl
  | ended hv =>
    refine hv.effects.givens.trans ?_
    rw [release_frame]
    rfl

theorem Run.givens {w v : System α} {turns : List (Turn α)} (h : Run w turns v) :
    v.givens = w.givens := by
  induction h with
  | rest => rfl
  | prompt _ hp ih =>
    rw [← ih]
    cases hp <;> rfl
  | work task rest _ _ ih =>
    rw [givens_perform]
    exact ih

theorem Run.name {w v : System α} {turns : List (Turn α)} (h : Run w turns v) :
    v.name = w.name := (Prod.mk.inj h.givens).1

theorem Run.followed {w v : System α} {turns : List (Turn α)} (h : Run w turns v) :
    v.followed = w.followed := (Prod.mk.inj h.givens).2

/-! ## What is known is not lost -/

theorem News.data_isSome {w v : System α} {task : Task α} (h : News w task v)
    (hw : w.standing.data.isSome = true) : v.standing.data.isSome = true := by
  cases h with
  | @landed _ _ result _ h =>
    rw [h.standing]
    cases result with
    | ok a => rfl
    | error f => exact hw
  | data time _ h =>
    rw [h.standing]
    rfl
  | fault _ h =>
    rw [h.standing]
    exact hw
  | heard h | joined _ _ _ h | left _ _ h =>
    rw [h.standing]
    exact hw
  | barred => exact hw
  | routine _ _ h =>
    obtain ⟨_, -, h⟩ := h
    rw [h.standing]
    exact hw

theorem Run.data_isSome {w v : System α} {turns : List (Turn α)} (h : Run w turns v)
    (hw : w.standing.data.isSome = true) : v.standing.data.isSome = true := by
  induction h with
  | rest => exact hw
  | prompt _ hp ih =>
    rw [prompt_standing hp]
    exact ih
  | @work _ u task rest _ _ ih =>
    exact (news_perform { u with agenda := rest } task).data_isSome ih

/-! ## The stages of a first refresh -/

theorem spares_applyResult (w : System α) (cycle : Cycle) (result : Except Fault α) :
    Event.Spares w.journal (w.applyResult cycle result).1.journal := by
  rw [applyResult_frame]
  show Event.Spares w.journal (w.noted _ ++ w.journal)
  unfold noted
  split
  · exact Event.spares_cons rfl _
  · exact .refl _

theorem spares_fetched {w : System α} {cycle : Cycle} {result : Except Fault α} (begun : Nat)
    (h : (w.verdictOn cycle result).startReauth = false) :
    Event.Spares w.journal (w.fetched cycle begun result).journal := by
  have hf : ∀ (u : System α) (verdict : Verdict) (fault : Option Fault) (health : Health),
      Event.Spares u.journal (u.followUp cycle verdict fault health).journal := by
    intro u verdict fault health
    have hs : Event.Spares u.journal (if verdict.reschedule then u.scheduleRefresh else u).journal := by
      split
      · exact spares_scheduleRefresh u
      · exact .refl _
    unfold followUp
    dsimp only
    split
    · exact hs
    · split <;> exact hs
  obtain ⟨standing, journal, hx⟩ := (noted_applyResult w cycle result).told
    (told_logReport _ cycle.origin.manner (w.reportOn result) (faultOf? result))
  have ha := (spares_applyResult w cycle result).trans
    (spares_logReport _ cycle.origin.manner (w.reportOn result) (faultOf? result))
  unfold fetched
  dsimp only
  rw [applyResult_snd, hx]
  rw [hx] at ha
  have hn : ¬ (w.verdictOn cycle result).startReauth = true := by rw [h]; exact Bool.false_ne_true
  refine Event.Spares.trans ?_ (hf _ _ _ _)
  refine Event.Spares.trans ?_ (Event.spares_cons rfl _)
  show Event.Spares w.journal (if (w.verdictOn cycle result).startReauth then
    ({ w with standing, journal } : System α).askForCredentials
    else { w with standing, journal }).journal
  rw [if_neg hn]
  exact ha

/-- Credentials are not asked for when the caller hears of their rejection. -/
theorem startReauth_of_isFirst {cycle : Cycle} (h : cycle.origin.isFirst = true) (w : System α)
    (result : Except Fault α) : (w.verdictOn cycle result).startReauth = false := by
  obtain ⟨-, ha, -⟩ := cycle.origin.manner_eq
  rw [h] at ha
  cases result with
  | ok a => rfl
  | error f =>
    cases f <;> simp [verdictOn, reportOn, Policy.judge, Policy.escalation, Standing.apply,
      Standing.fail, Fault.kind, ha]

theorem spares_perform {task : Task α} {cycle : Cycle} (ht : task.cycle? = some cycle)
    (h : cycle.origin.isFirst = true) (w : System α) :
    Event.Spares w.journal (w.perform task).journal := by
  cases task with
  | enter => exact spares_enter w _
  | fetched c begun result =>
    obtain rfl := Option.some.inj ht
    exact spares_fetched begun (startReauth_of_isFirst h w result)
  | conclude => exact spares_conclude w _ _
  | deed | hear | start | refreshDue | cooldownOver => cases ht

/-- A first refresh is answered by its own fetch alone. -/
theorem firstAnswer_outcomeOf {cycle : Cycle} (h : cycle.origin.isFirst = true) (w : System α)
    (name : String) (result : Except Fault α) :
    firstAnswer name (w.outcomeOf cycle result) = firstReply name result := by
  obtain ⟨he, ha, -⟩ := cycle.origin.manner_eq
  rw [h] at he ha
  cases result with
  | ok a => rfl
  | error f =>
    rw [outcomeOf, escalate_verdictOn_error]
    cases f <;>
      simp [Fault.kind, Policy.escalation, he, ha, passOn, faultOf?, Refusal.escalated, firstAnswer,
        firstReply, learned, Standing.apply, Standing.fail, Fault.Kind.isFatal]

/-- When a fault is raised, the cycle ends without a round of notification. -/
theorem agenda_of_isRaised {cycle : Cycle} (h : cycle.origin.isFirst = true) (w : System α)
    (begun : Nat) {f : Fault} (hf : f.isRaised = true) :
    (w.fetched cycle begun (.error f)).agenda =
      .conclude cycle (w.outcomeOf cycle (.error f)) :: w.agenda := by
  obtain ⟨he, ha, -⟩ := cycle.origin.manner_eq
  rw [h] at he ha
  have hn : (w.verdictOn cycle (.error f)).notify = false := by
    refine notify_of_escalate ?_
    rw [← verdictOn, escalate_verdictOn_error]
    cases f <;> simp [Fault.isRaised, Fault.kind] at hf <;>
      simp [Policy.escalation, Fault.kind, he, ha]
  rw [(yields_fetched w cycle begun (.error f)).agenda, hn]
  rfl

/-! ## How a first refresh is answered -/

section

variable {p : Plan α} {jitter : Duration} {now : Nat} {turns before after : List (Turn α)}
  {t : Turn α} {v : System α}

/-- A first refresh has a cycle of its own, which is in line or has ended. -/
theorem Run.asks_first (h : Run (p.system jitter now) turns v) (ht : t ∈ turns) {caller : Caller}
    (hs : t.task = .start caller .first) : t.reports = [] ∧
      ∃ cycle, t.asks? = some cycle ∧ cycle.origin = .call caller .first ∧
        cycle ∈ ended turns ++ v.lock.line := by
  obtain ⟨ha, hr⟩ | ⟨hc, -⟩ := h.starts ht hs
  · refine ⟨hr, _, ha, rfl, ?_⟩
    rw [← h.history.2.1.line]
    exact List.mem_filterMap.2 ⟨t, ht, ha⟩
  · cases hc

/-- When its cycle ends, a first refresh is answered by what the cycle's own fetch brought. Without a
fetch, since the coordinator was shut down, it is answered by the health that the cycle found. -/
theorem Run.first_ended (h : Run (p.system jitter now) (before ++ t :: after) v) {cycle : Cycle}
    {outcome : Except Refusal Health} {caller : Caller} (ht : t.task = .conclude cycle outcome)
    (hc : cycle.origin = .call caller .first) : ∃ e ∈ before, e.task = .enter cycle ∧
      if e.before.shutDown then
        t.reports = [.answered caller (firstAnswer p.name (.ok e.before.health))]
      else (∃ s ∈ before, ∃ begun, s.task = .fetched cycle begun e.before.brings) ∧
        t.reports = [.answered caller (firstReply p.name e.before.brings)] := by
  have hf : cycle.origin.isFirst = true := by rw [hc]; rfl
  have hn : t.before.name = p.name := by
    obtain ⟨u, rest, hb, -, htb, -⟩ := h.split
    rw [htb]
    exact hb.name
  have hr : t.reports = [.answered caller (firstAnswer p.name outcome)] := by
    rw [Turn.reports, ht, ← hn]
    show t.before.returns outcome cycle.origin = _
    rw [hc]
    rfl
  obtain ⟨e, he, hte, hd⟩ := ht ▸ h.derived_at (by rw [ht]; rfl)
  rw [skips_of_isFirst hf] at hd
  refine ⟨e, he, hte, ?_⟩
  split
  · next hk =>
    rw [if_pos hk] at hd
    rw [hr, hd]
  · next hk =>
    rw [if_neg hk] at hd
    obtain ⟨s, hs, begun, hts, rfl⟩ := hd
    refine ⟨⟨s, hs, begun, hts⟩, ?_⟩
    rw [hr, firstAnswer_outcomeOf hf]

theorem Run.ends_of_isRaised (h : Run (p.system jitter now) (before ++ t :: after) v) {cycle : Cycle}
    {begun : Nat} {f : Fault} (ht : t.task = .fetched cycle begun (.error f))
    (hc : cycle.origin.isFirst = true) (hf : f.isRaised = true) :
    t.after.agenda = .conclude cycle (t.before.outcomeOf cycle (.error f)) :: t.before.agenda ∧
      ∀ s later, after = s :: later →
        s.task = .conclude cycle (t.before.outcomeOf cycle (.error f)) := by
  have ha : t.after.agenda = .conclude cycle (t.before.outcomeOf cycle (.error f)) ::
      t.before.agenda := by
    rw [Turn.after_eq ht]
    exact agenda_of_isRaised hc t.before begun hf
  obtain ⟨-, -, -, -, -, hr⟩ := h.split
  refine ⟨ha, ?_⟩
  rintro s later rfl
  obtain ⟨hn, -⟩ | ⟨_, hl⟩ := hr.next_turn ha (by simp)
  · cases hn
  · rw [(List.cons.inj hl).1]

theorem Run.data_later (h : Run (p.system jitter now) (before ++ t :: after) v) {s : Turn α}
    (hs : s ∈ before) (hd : s.after.standing.data.isSome = true) :
    t.after.standing.data.isSome = true := by
  obtain ⟨xs, ys, rfl⟩ := List.append_of_mem hs
  have ht := h.at_turn
  rw [List.append_assoc] at ht
  obtain ⟨_, _, -, -, -, hr⟩ := ht.split
  exact hr.data_isSome hd

/-- There is data when the caller of a first refresh hears of success, unless there was none when its
cycle found the coordinator shut down. -/
theorem Run.data_of_answer (h : Run (p.system jitter now) (before ++ t :: after) v) {cycle : Cycle}
    {outcome : Except Refusal Health} {caller : Caller} (ht : t.task = .conclude cycle outcome)
    (hc : cycle.origin = .call caller .first) : ∃ e ∈ before, e.task = .enter cycle ∧
      ∃ refusal, t.reports = [.answered caller refusal] ∧
        (refusal = none ↔ if e.before.shutDown then e.before.standing.lastUpdateSuccess = true
          else ∃ a, e.before.brings = .ok a) ∧
        (refusal = none → t.after.standing.data.isSome = true ∨
          e.before.shutDown = true ∧ e.before.standing.data = none) := by
  obtain ⟨e, he, hte, hd⟩ := h.first_ended ht hc
  refine ⟨e, he, hte, ?_⟩
  cases hk : e.before.shutDown with
  | true =>
    rw [hk, if_pos rfl] at hd
    refine ⟨_, hd, firstAnswer_eq_none, fun _ => ?_⟩
    cases hx : e.before.standing.data with
    | none => exact .inr ⟨rfl, rfl⟩
    | some a =>
      have hb : e.before.standing.data.isSome = true := by rw [hx]; rfl
      exact .inl (h.data_later he ((news_perform e.before e.task).data_isSome hb))
  | false =>
    rw [hk, if_neg Bool.false_ne_true] at hd
    obtain ⟨⟨s, hs, begun, hts⟩, hr⟩ := hd
    refine ⟨_, hr, by simpa using firstReply_eq_none, fun hn => .inl ?_⟩
    obtain ⟨a, ha⟩ := firstReply_eq_none.1 hn
    refine h.data_later hs ?_
    rw [Turn.after_eq (ha ▸ hts)]
    show (s.before.fetched cycle begun (.ok a)).standing.data.isSome = true
    rw [standing_fetched]
    rfl

end

/-! ## The whole -/

/-- What is true of the first refreshes in every run of a new coordinator of that name. -/
structure FirstRefreshes (name : String) (turns : List (Turn α)) (v : System α) : Prop where
  /-- A first refresh has a cycle of its own, which is in line or has ended, and is not answered
  yet. -/
  call : ∀ t ∈ turns, ∀ {caller : Caller}, t.task = .start caller .first → t.reports = [] ∧
    ∃ cycle, t.asks? = some cycle ∧ cycle.origin = .call caller .first ∧
      cycle ∈ ended turns ++ v.lock.line
  /-- No cycle enters, fetches or ends twice. -/
  once : ((entered turns).map (·.serial)).Nodup ∧ ((landed turns).map (·.serial)).Nodup ∧
    ((ended turns).map (·.serial)).Nodup
  /-- At the end of its cycle it is answered by what the cycle's own fetch has brought, unless the
  coordinator was shut down when the cycle entered. -/
  answered : ∀ {before after : List (Turn α)} {t : Turn α} {cycle : Cycle}
      {outcome : Except Refusal Health} {caller : Caller},
    turns = before ++ t :: after → t.task = .conclude cycle outcome →
    cycle.origin = .call caller .first →
    ∃ e ∈ before, e.task = .enter cycle ∧ (e.before.shutDown = false →
      (∃ s ∈ before, ∃ begun, s.task = .fetched cycle begun e.before.brings) ∧
        t.reports = [.answered caller (firstReply name e.before.brings)])
  /-- A fault that is raised ends the cycle at once, and no listener is called before. -/
  raised : ∀ {before after : List (Turn α)} {t : Turn α} {cycle : Cycle} {begun : Nat} {f : Fault},
    turns = before ++ t :: after → t.task = .fetched cycle begun (.error f) →
    cycle.origin.isFirst = true → f.isRaised = true →
    t.after.agenda = .conclude cycle (t.before.outcomeOf cycle (.error f)) :: t.before.agenda ∧
      ∀ s later, after = s :: later →
        s.task = .conclude cycle (t.before.outcomeOf cycle (.error f))
  /-- The stages of the cycle call no listener themselves and do not ask for credentials. -/
  spared : ∀ t ∈ turns, ∀ {cycle : Cycle}, t.task.cycle? = some cycle →
    cycle.origin.isFirst = true → Event.Spares t.before.journal t.after.journal
  /-- When it has fetched, the cycle comes to an end. -/
  ending : ∀ {before after : List (Turn α)} {t : Turn α} {cycle : Cycle} {begun : Nat}
      {result : Except Fault α},
    turns = before ++ t :: after → t.task = .fetched cycle begun result →
    .conclude cycle (t.before.outcomeOf cycle result) ∈ v.agenda ++ after.map (·.task)
  /-- The answers are those that the turns report, in order. -/
  reported : v.journal.reverse.filter Event.isReport = turns.flatMap Turn.reports

/-- **A first refresh reports its own cycle.** Whatever its listeners do and whatever else goes on,
the caller hears what the cycle's own fetch brought. -/
theorem Run.first_refreshes {p : Plan α} {jitter : Duration} {now : Nat} {turns : List (Turn α)}
    {v : System α} (h : Run (p.system jitter now) turns v) : FirstRefreshes p.name turns v := by
  refine ⟨fun t ht _ => h.asks_first ht, h.once.2, ?_, ?_, ?_, ?_, h.reported⟩
  · rintro before after t cycle outcome caller rfl ht hc
    obtain ⟨e, he, hte, hd⟩ := h.first_ended ht hc
    refine ⟨e, he, hte, fun hk => ?_⟩
    rwa [hk, if_neg Bool.false_ne_true] at hd
  · rintro before after t cycle begun f rfl
    exact h.ends_of_isRaised
  · exact fun t _ cycle ht hc => spares_perform ht hc t.before
  · rintro before after t cycle begun result rfl
    exact h.comes

/-- A source that answers once, and then wants other credentials. -/
def expiring : Plan Nat :=
  { name := "clock", source := some [{ result := .ok 7 }, { result := .error (.authFailed "expired") }] }

/-- Its listener tells of a fault while the first refresh is under way, which succeeds all the
same. -/
theorem answered_by_own_fetch :
    ∃ (turns : List (Turn Nat)) (v : System Nat), Run (expiring.system .zero 0) turns v ∧
      v.agenda = [] ∧
      turns.flatMap Turn.reports =
        [.notice (.faultInjected "clock" (.timeout "slow")), .answered (.main 0) none,
          .answered (.main 1) (some (.authFailed (.authFailed "expired")))] ∧
      FirstRefreshes "clock" turns v := by
  have h₁ : Run (expiring.system .zero 0) _ _ :=
    Run.rest.prompt (.deed (.addListener "dial" none [[.setFault (.timeout "slow")]]) rfl)
      |>.work _ _ rfl
  have h₂ := h₁.prompt (.calls [(.main 0, .first)] rfl rfl) |>.work _ _ rfl |>.work _ _ rfl
    |>.work _ _ rfl |>.work _ _ rfl |>.work _ _ rfl |>.work _ _ rfl |>.work _ _ rfl
  have h₃ := h₂.prompt (.calls [(.main 1, .first)] rfl rfl) |>.work _ _ rfl |>.work _ _ rfl
    |>.work _ _ rfl |>.work _ _ rfl
  exact ⟨_, _, h₃, rfl, rfl, h₃.first_refreshes⟩

/-- What the success of a first refresh says in every run of a new coordinator. -/
structure FirstData (turns : List (Turn α)) : Prop where
  /-- A first refresh is answered when its cycle ends: if the cycle has fetched, by what the fetch
  brought, and if the coordinator was shut down before, by the health flag. In the second case there
  need be no data. -/
  answered : ∀ {before after : List (Turn α)} {t : Turn α} {cycle : Cycle}
      {outcome : Except Refusal Health} {caller : Caller},
    turns = before ++ t :: after → t.task = .conclude cycle outcome →
    cycle.origin = .call caller .first →
    ∃ e ∈ before, e.task = .enter cycle ∧ ∃ refusal, t.reports = [.answered caller refusal] ∧
      (refusal = none ↔ if e.before.shutDown then e.before.standing.lastUpdateSuccess = true
        else ∃ a, e.before.brings = .ok a) ∧
      (refusal = none → t.after.standing.data.isSome = true ∨
        e.before.shutDown = true ∧ e.before.standing.data = none)
  /-- What is known is never lost. -/
  kept : ∀ {before after : List (Turn α)} {t : Turn α}, turns = before ++ t :: after →
    t.after.standing.data.isSome = true → ∀ s ∈ after, s.after.standing.data.isSome = true

/-- **A first refresh that succeeds leaves data behind**, unless the coordinator was shut down when
its cycle entered. -/
theorem Run.first_data {p : Plan α} {jitter : Duration} {now : Nat} {turns : List (Turn α)}
    {v : System α} (h : Run (p.system jitter now) turns v) : FirstData turns := by
  refine ⟨?_, ?_⟩
  · rintro before after t cycle outcome caller rfl ht hc
    exact h.data_of_answer ht hc
  · rintro before after t rfl hd s hs
    obtain ⟨xs, ys, rfl⟩ := List.append_of_mem hs
    rw [← List.cons_append, ← List.append_assoc] at h
    exact h.data_later (List.mem_append_right _ (.head _)) hd

def weather : Plan Nat :=
  { name := "weather", interval := some (.ofSeconds 30), source := some [{ result := .ok 1 }] }

/-- A first refresh fetches, and another one after the shutdown succeeds without. -/
theorem data_from_before_shutdown :
    ∃ (turns : List (Turn Nat)) (v : System Nat), Run (weather.system .zero 0) turns v ∧
      v.agenda = [] ∧ v.standing.data = some 1 ∧
      turns.flatMap Turn.reports = [.answered (.main 0) none, .answered (.main 1) none] ∧
      FirstData turns := by
  have h₁ : Run (weather.system .zero 0) _ _ :=
    Run.rest.prompt (.calls [(.main 0, .first)] rfl rfl) |>.work _ _ rfl |>.work _ _ rfl
      |>.work _ _ rfl |>.work _ _ rfl
  have h₂ := h₁.prompt (.deed .shutdown rfl) |>.work _ _ rfl
  have h₃ := h₂.prompt (.calls [(.main 1, .first)] rfl rfl) |>.work _ _ rfl |>.work _ _ rfl
    |>.work _ _ rfl
  exact ⟨_, _, h₃, rfl, rfl, rfl, h₃.first_data⟩

/-- After a shutdown a first refresh succeeds though nothing has ever been fetched. -/
theorem success_without_data :
    ∃ (turns : List (Turn Nat)) (v : System Nat), Run (weather.system .zero 0) turns v ∧
      v.agenda = [] ∧ turns.flatMap Turn.reports = [.answered (.main 0) none] ∧
      v.standing.data = none := by
  have h₁ : Run (weather.system .zero 0) _ _ :=
    Run.rest.prompt (.deed .shutdown rfl) |>.work _ _ rfl
  have h₂ := h₁.prompt (.calls [(.main 0, .first)] rfl rfl) |>.work _ _ rfl |>.work _ _ rfl
    |>.work _ _ rfl
  exact ⟨_, _, h₂, rfl, rfl, rfl⟩

end System

end Freshness
