import Freshness.Settings.File
import Freshness.Settings.Plan

/-!
# Which settings are accepted, and what is built from them

Settings are looked over twice: in seconds and milliseconds as they are loaded, and in lengths of time
as a coordinator is built from them.

* `Settings.Acceptable`, `Plan.Acceptable` : what may pass; `Settings.acceptable_plan` : it is the same;
* `Settings.refusal?_cases`, `Plan.refusal?_cases` : nothing else passes;
* `Settings.Drawable`, `Settings.build?_cases` : if the range of the jitter fits into words, a
  coordinator is built or the plan is refused;
* `Settings.Realizes` : a coordinator is as the settings say; `Settings.Agreement` : settings are
  accepted twice or refused twice;
* `Settings.accepted_alike` : **all settings are, and those that are loaded are accepted**.
-/

namespace Freshness

variable {α : Type}

theorem drawJitter?_of_le {low high : Nat} (h : low ≤ high) (hw : high * 1000 < wordBound)
    (r : Nat) : drawJitter? low high r = some ⟨low * 1000 + r % (high * 1000 - low * 1000 + 1)⟩ := by
  have hl : low * 1000 < wordBound := Nat.lt_of_le_of_lt (Nat.mul_le_mul_right 1000 h) hw
  simp [drawJitter?, drawBound?, Nat.min_eq_left h, Nat.max_eq_right h, hl, hw]

/-! ## What may pass -/

/-- A name that can be seen, an interval that lasts, and a range with something in it. -/
structure Settings.Acceptable (s : Settings) : Prop where
  name : Text.isBlankText s.name = false
  interval : s.intervalSecs ≠ some 0
  range : s.jitterMinMs ≤ s.jitterMaxMs

theorem Settings.refusal?_cases (s : Settings) :
    (s.Acceptable ∧ s.refusal? = none) ∨
      (¬ s.Acceptable ∧ ∃ detail, s.refusal? = some (.invalidConfig detail)) := by
  unfold refusal?
  split
  · next hn => exact .inr ⟨fun h => Bool.false_ne_true (h.name.symm.trans hn), _, rfl⟩
  split
  · next hi => exact .inr ⟨fun h => h.interval hi, _, rfl⟩
  split
  · next hr => exact .inr ⟨fun h => Nat.not_lt.2 h.range hr, _, rfl⟩
  · next hn hi hr => exact .inl ⟨⟨Bool.not_eq_true _ ▸ hn, hi, Nat.not_lt.1 hr⟩, rfl⟩

theorem Settings.refusal?_eq_none_iff {s : Settings} : s.refusal? = none ↔ s.Acceptable := by
  rcases s.refusal?_cases with ⟨h, hr⟩ | ⟨h, detail, hr⟩
  · exact iff_of_true hr h
  · exact iff_of_false (by rw [hr]; exact Option.some_ne_none _) h

structure Plan.Acceptable (p : Plan α) : Prop where
  name : Text.isBlankText p.name = false
  interval : p.interval ≠ some .zero
  range : p.jitterRange.1 ≤ p.jitterRange.2

theorem Plan.refusal?_cases (p : Plan α) :
    (p.Acceptable ∧ p.refusal? = none) ∨
      (¬ p.Acceptable ∧ ∃ detail, p.refusal? = some (.invalidConfig detail)) := by
  unfold refusal?
  dsimp only
  split
  · next hn => exact .inr ⟨fun h => Bool.false_ne_true (h.name.symm.trans hn), _, rfl⟩
  split
  · next hi => exact .inr ⟨fun h => h.interval hi, _, rfl⟩
  split
  · next hr => exact .inr ⟨fun h => Nat.not_lt.2 h.range hr, _, rfl⟩
  · next hn hi hr => exact .inl ⟨⟨Bool.not_eq_true _ ▸ hn, hi, Nat.not_lt.1 hr⟩, rfl⟩

theorem Plan.refusal?_eq_none_iff {p : Plan α} : p.refusal? = none ↔ p.Acceptable := by
  rcases p.refusal?_cases with ⟨h, hr⟩ | ⟨h, detail, hr⟩
  · exact iff_of_true hr h
  · exact iff_of_false (by rw [hr]; exact Option.some_ne_none _) h

namespace Settings

/-- No seconds are no time, and nothing else is. -/
theorem interval_plan (s : Settings) :
    (s.plan : Plan α).interval = some .zero ↔ s.intervalSecs = some 0 := by
  show s.intervalSecs.map Duration.ofSeconds = _ ↔ _
  cases s.intervalSecs with
  | none => simp
  | some n =>
    simp only [Option.map_some, Option.some.injEq, Duration.ofSeconds, Duration.zero,
      Duration.mk.injEq]
    omega

theorem acceptable_plan {s : Settings} : (s.plan : Plan α).Acceptable ↔ s.Acceptable :=
  ⟨fun h => ⟨h.name, mt s.interval_plan.2 h.interval, h.range⟩,
    fun h => ⟨h.name, mt s.interval_plan.1 h.interval, h.range⟩⟩

/-! ## What is built -/

/-- The range of the jitter fits into words, in microseconds. -/
def Drawable (s : Settings) : Prop :=
  s.jitterMinMs * 1000 < wordBound ∧ s.jitterMaxMs * 1000 < wordBound

instance (s : Settings) : Decidable s.Drawable := inferInstanceAs (Decidable (_ ∧ _))

/-- The coordinator is as the settings say. -/
structure Realizes (s : Settings) (w : System α) : Prop where
  name : w.name = s.name
  interval : w.schedule.interval = s.intervalSecs.map .ofSeconds
  jitter : s.jitterMinMs * 1000 ≤ w.schedule.jitter.micros ∧
    w.schedule.jitter.micros ≤ s.jitterMaxMs * 1000
  policy : w.policy = s.policy
  cooldown : w.debounce.cooldown = .ofMillis s.cooldownMs
  immediate : w.debounce.immediate = s.immediate

/-- A coordinator is built that is as the settings say, or the settings are refused. -/
theorem build?_cases {s : Settings} (hd : s.Drawable) (now r : Nat) :
    (s.Acceptable ∧ ∃ w : System α, s.plan.build? now r = some (.ok w) ∧ s.Realizes w) ∨
      (¬ s.Acceptable ∧
        ∃ detail, (s.plan : Plan α).build? now r = some (.error (.invalidConfig detail))) := by
  rcases (s.plan : Plan α).refusal?_cases with ⟨h, hr⟩ | ⟨h, detail, hr⟩
  · have ha := acceptable_plan.1 h
    refine .inl ⟨ha, (s.plan : Plan α).system ⟨s.jitterMinMs * 1000 +
      r % (s.jitterMaxMs * 1000 - s.jitterMinMs * 1000 + 1)⟩ now, ?_, rfl, rfl, ?_, rfl, rfl, rfl⟩
    · rw [Plan.build?, hr]
      show ((none : Option Duration) <|> drawJitter? s.jitterMinMs s.jitterMaxMs r).bind _ = _
      rw [drawJitter?_of_le ha.range hd.2]
      rfl
    · have hle := ha.range
      have hlt : r % (s.jitterMaxMs * 1000 - s.jitterMinMs * 1000 + 1) <
          s.jitterMaxMs * 1000 - s.jitterMinMs * 1000 + 1 := Nat.mod_lt _ (Nat.succ_pos _)
      show _ ≤ s.jitterMinMs * 1000 + _ ∧ s.jitterMinMs * 1000 + _ ≤ _
      omega
  · refine .inr ⟨mt acceptable_plan.2 h, detail, ?_⟩
    rw [Plan.build?, hr]

/-! ## The whole -/

/-- A coordinator can be built from the settings at that time, whatever is drawn. -/
def Builds (α : Type) (s : Settings) (now : Nat) : Prop :=
  ∀ r, ∃ w : System α, s.plan.build? now r = some (.ok w)

/-- The settings are accepted twice or refused twice, and what is built is as they say. -/
structure Agreement (α : Type) (s : Settings) (now : Nat) : Prop where
  accepted : s.refusal? = none ↔ s.Builds α now
  refused : s.refusal? ≠ none → (∃ detail, s.refusal? = some (.invalidConfig detail)) ∧
    ∀ r, ∃ detail, (s.plan : Plan α).build? now r = some (.error (.invalidConfig detail))
  realized : ∀ r (w : System α), s.plan.build? now r = some (.ok w) → s.Realizes w

theorem agreement {s : Settings} (hd : s.Drawable) (now : Nat) : s.Agreement α now := by
  rcases s.refusal?_cases with ⟨ha, hr⟩ | ⟨ha, hr⟩
  · have hb : ∀ r, ∃ w : System α, s.plan.build? now r = some (.ok w) ∧ s.Realizes w := by
      intro r
      rcases build?_cases (α := α) hd now r with ⟨-, h⟩ | ⟨h, -⟩
      · exact h
      · exact absurd ha h
    refine ⟨iff_of_true hr fun r => ?_, fun h => absurd hr h, fun r w hw => ?_⟩
    · obtain ⟨w, hw, -⟩ := hb r
      exact ⟨w, hw⟩
    · obtain ⟨v, hv, h⟩ := hb r
      obtain rfl : v = w := Except.ok.inj (Option.some.inj (hv.symm.trans hw))
      exact h
  · have hb : ∀ r, ∃ detail,
        (s.plan : Plan α).build? now r = some (.error (.invalidConfig detail)) := by
      intro r
      rcases build?_cases (α := α) hd now r with ⟨h, -⟩ | ⟨-, h⟩
      · exact absurd h ha
      · exact h
    have hn : ∀ r (w : System α), s.plan.build? now r ≠ some (.ok w) := by
      intro r w hw
      obtain ⟨detail, h⟩ := hb r
      cases hw.symm.trans h
    refine ⟨iff_of_false (mt refusal?_eq_none_iff.1 ha) fun h => ?_, fun _ => ⟨hr, hb⟩,
      fun r w hw => absurd hw (hn r w)⟩
    obtain ⟨w, hw⟩ := h 0
    exact hn 0 w hw

theorem refusal?_of_load {site : Site} {env : Environment} {s : Settings}
    (h : (load site env).outcome = .ok s) : s.refusal? = none := by
  simp only [load] at h
  split at h
  · cases h
  · simp only [checked] at h
    split at h
    · cases h
    · next hr =>
      obtain rfl := Except.ok.inj h
      exact hr

theorem refusal?_loadOrDefault (site : Site) (env : Environment) :
    (loadOrDefault site env).1.refusal? = none := by
  simp only [loadOrDefault]
  split
  · next h => exact refusal?_of_load h
  · exact refusal?_default

/-- **The two validators agree**: what is accepted as it is loaded is what a coordinator can be built
from, and the coordinator is as it says. What is loaded is always accepted. -/
theorem accepted_alike (α : Type) (now : Nat) :
    (∀ s : Settings, s.Drawable → s.Agreement α now) ∧
      ∀ site env,
        (∀ s, (load site env).outcome = .ok s →
          s.refusal? = none ∧ (s.Drawable → s.Builds α now)) ∧
        (loadOrDefault site env).1.refusal? = none ∧
          ((loadOrDefault site env).1.Drawable → (loadOrDefault site env).1.Builds α now) := by
  have hb : ∀ {s : Settings}, s.refusal? = none → s.Drawable → s.Builds α now :=
    fun hr hd => (agreement hd now).accepted.1 hr
  refine ⟨fun s hd => agreement hd now, fun site env => ⟨fun s hs => ?_, ?_, ?_⟩⟩
  · exact ⟨refusal?_of_load hs, hb (refusal?_of_load hs)⟩
  · exact refusal?_loadOrDefault site env
  · exact hb (refusal?_loadOrDefault site env)

def utmost : Settings :=
  { name := "\u2003x", intervalSecs := some 0xFFFFFFFFFFFFFFFF, jitterMinMs := 0
    jitterMaxMs := 18446744073709551, cooldownMs := 0xFFFFFFFFFFFFFFFF }

/-- The utmost is accepted; a name of nothing but a wide blank is refused, by both. -/
theorem utmost_builds :
    utmost.Drawable ∧ utmost.Builds Nat 0 ∧ ({ utmost with name := "\u2003" }).Drawable ∧
      ¬ ({ utmost with name := "\u2003" } : Settings).Builds Nat 0 := by
  have hu := (accepted_alike Nat 0).1 utmost (by decide +kernel)
  have hb := (accepted_alike Nat 0).1 { utmost with name := "\u2003" } (by decide +kernel)
  refine ⟨by decide +kernel, hu.accepted.1 (by decide +kernel), by decide +kernel, fun h => ?_⟩
  exact absurd (hb.accepted.2 h) (by decide +kernel)

end Settings

end Freshness
