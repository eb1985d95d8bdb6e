import Freshness.Proofs.Settings.Acceptance
import Mathlib.Logic.ExistsUnique

/-!
# Which jitter is drawn

* `JitterFits` : a range of milliseconds whose end is a word of microseconds;
* `Draws` : from such a range every draw gives a jitter that lies in it, and each jitter that lies in
  it is one draw in as many as there are; the order of the bounds does not matter;
* `JitterFits.draws`, `drawJitter?_of_not_fits` : from any other range nothing is drawn;
* `jitter_drawn` : **so a plan that is accepted is built with a jitter from its range if the range
  fits, and is not built if it does not**;
* `accepted_undrawable` : settings are accepted whose range does not fit.
-/

namespace Freshness

variable {α : Type} {low high : Nat}

theorem drawJitter?_swap (low high r : Nat) : drawJitter? high low r = drawJitter? low high r := by
  rw [drawJitter?, drawJitter?, Nat.min_comm, Nat.max_comm]

/-- The end of a range of milliseconds fits into a word, in microseconds. -/
def JitterFits (low high : Nat) : Prop := max low high * 1000 < wordBound

instance (low high : Nat) : Decidable (JitterFits low high) := inferInstanceAs (Decidable (_ < _))

/-! ## Draws from a range -/

/-- The jitter is as long as the milliseconds `low`, or longer, but no longer than `high`. -/
def Duration.Between (d : Duration) (low high : Nat) : Prop :=
  (Duration.ofMillis low).micros ≤ d.micros ∧ d.micros ≤ (Duration.ofMillis high).micros

theorem Duration.between_self {d : Duration} {ms : Nat} :
    d.Between ms ms ↔ d = .ofMillis ms := by
  obtain ⟨micros⟩ := d
  rw [Between, Duration.mk.injEq]
  exact ⟨fun h => Nat.le_antisymm h.2 h.1, fun h => ⟨Nat.le_of_eq h.symm, Nat.le_of_eq h⟩⟩

/-- What is drawn from a range. -/
structure Draws (low high : Nat) : Prop where
  within : ∀ r, ∃ d, drawJitter? low high r = some d ∧ d.Between (min low high) (max low high)
  equal : low = high → ∀ r, drawJitter? low high r = some (.ofMillis low)
  /-- Of the first draws, of which there are as many as there are microseconds, one gives each. -/
  uniform : ∀ d : Duration, d.Between (min low high) (max low high) →
    ∃! r, r ≤ (max low high - min low high) * 1000 ∧ drawJitter? low high r = some d
  swap : ∀ r, drawJitter? high low r = drawJitter? low high r

theorem Draws.of_le (h : low ≤ high) (hw : high * 1000 < wordBound) : Draws low high := by
  have hdraw := drawJitter?_of_le h hw
  have hwidth : high * 1000 - low * 1000 = (high - low) * 1000 := (Nat.sub_mul ..).symm
  have hin : ∀ r, ∃ d, drawJitter? low high r = some d ∧ d.Between low high := by
    intro r
    refine ⟨_, hdraw r, Nat.le_add_right .., ?_⟩
    have hr : r % (high * 1000 - low * 1000 + 1) < high * 1000 - low * 1000 + 1 :=
      Nat.mod_lt _ (Nat.succ_pos _)
    show low * 1000 + _ ≤ high * 1000
    omega
  refine ⟨?_, ?_, ?_, drawJitter?_swap low high⟩
  · rwa [Nat.min_eq_left h, Nat.max_eq_right h]
  · rintro rfl r
    obtain ⟨d, hd, hb⟩ := hin r
    rw [hd, Duration.between_self.1 hb]
  · rw [Nat.min_eq_left h, Nat.max_eq_right h, ← hwidth]
    rintro ⟨micros⟩ ⟨hlow, hhigh⟩
    have hlow : low * 1000 ≤ micros := hlow
    have hhigh : micros ≤ high * 1000 := hhigh
    -- a draw that is no larger than the width is its own remainder
    have hof : ∀ r ≤ high * 1000 - low * 1000,
        drawJitter? low high r = some ⟨low * 1000 + r⟩ := by
      intro r hr
      rw [hdraw, Nat.mod_eq_of_lt (Nat.lt_succ_of_le hr)]
    refine ⟨micros - low * 1000, ⟨Nat.sub_le_sub_right hhigh _, ?_⟩, ?_⟩
    · rw [hof _ (Nat.sub_le_sub_right hhigh _), Nat.add_sub_cancel' hlow]
    · rintro r ⟨hr, hd⟩
      rw [hof r hr, Option.some.injEq, Duration.mk.injEq] at hd
      omega

theorem Draws.of_swap (h : Draws low high) : Draws high low where
  within := by
    intro r
    rw [drawJitter?_swap, Nat.min_comm, Nat.max_comm]
    exact h.within r
  equal := by
    rintro rfl
    exact h.equal rfl
  uniform := by
    simp only [drawJitter?_swap low high, Nat.min_comm high low, Nat.max_comm high low]
    exact h.uniform
  swap := fun r => (h.swap r).symm

theorem JitterFits.draws (h : JitterFits low high) : Draws low high := by
  rcases Nat.le_total low high with hle | hle
  · exact .of_le hle (by rwa [JitterFits, Nat.max_eq_right hle] at h)
  · exact .of_swap (.of_le hle (by rwa [JitterFits, Nat.max_eq_left hle] at h))

theorem drawJitter?_of_not_fits (h : ¬ JitterFits low high) (r : Nat) :
    drawJitter? low high r = none := by
  have hb : drawBound? (max low high) = none := if_neg h
  rw [drawJitter?, hb]
  cases drawBound? (min low high) <;> rfl

/-! ## Plans -/

/-- A plan that is accepted and fixes no jitter is built with the one that is drawn. -/
theorem Plan.build?_of_accepted {p : Plan α} (hr : p.refusal? = none) (hj : p.jitter = none)
    (now r : Nat) : p.build? now r =
      (drawJitter? p.jitterRange.1 p.jitterRange.2 r).map fun d => .ok (p.system d now) := by
  rw [build?, hr, hj]
  show (drawJitter? p.jitterRange.1 p.jitterRange.2 r).bind _ = _
  rw [Option.map_eq_bind]
  rfl

/-- What comes of a plan that fixes no jitter. -/
structure Plan.Jittered (p : Plan α) (now : Nat) : Prop where
  built : JitterFits p.jitterRange.1 p.jitterRange.2 → ∀ r, ∃ w, p.build? now r = some (.ok w) ∧
    drawJitter? p.jitterRange.1 p.jitterRange.2 r = some w.schedule.jitter ∧
    w.schedule.jitter.Between p.jitterRange.1 p.jitterRange.2
  lost : ¬ JitterFits p.jitterRange.1 p.jitterRange.2 → ∀ r, p.build? now r = none

theorem Plan.jittered {p : Plan α} (hr : p.refusal? = none) (hj : p.jitter = none) (now : Nat) :
    p.Jittered now where
  built := by
    intro hf r
    have hle := (refusal?_eq_none_iff.1 hr).range
    obtain ⟨d, hd, hb⟩ := hf.draws.within r
    rw [Nat.min_eq_left hle, Nat.max_eq_right hle] at hb
    exact ⟨p.system d now, by rw [build?_of_accepted hr hj, hd]; rfl, hd, hb⟩
  lost := by
    intro hf r
    rw [build?_of_accepted hr hj, drawJitter?_of_not_fits hf]
    rfl

/-- **A jitter lies in the range that it is drawn from, if the range fits into words**, and from no
other range is one drawn; so a plan is built, once it is accepted, just if its range fits. -/
theorem jitter_drawn (α : Type) (low high : Nat) :
    (JitterFits low high → Draws low high) ∧
      (¬ JitterFits low high → ∀ r, drawJitter? low high r = none) ∧
      (∀ (p : Plan α) now, p.refusal? = none → p.jitter = none → p.Jittered now) ∧
      ∀ (s : Settings) now, s.refusal? = none → (s.plan : Plan α).Jittered now := by
  refine ⟨JitterFits.draws, drawJitter?_of_not_fits, fun p now hr hj => p.jittered hr hj now,
    fun s now hr => ?_⟩
  have ha : (s.plan : Plan α).Acceptable := Settings.acceptable_plan.2
    (Settings.refusal?_eq_none_iff.1 hr)
  exact Plan.jittered (Plan.refusal?_eq_none_iff.2 ha) rfl now

/-- The widest range that fits, from its end to its start, and the settings that have it. -/
theorem widest_drawn : Draws 18446744073709551 0 ∧
    ∃ w : System Nat, Settings.utmost.plan.build? 0 18446744073709551000 = some (.ok w) ∧
      w.schedule.jitter = .ofMillis 18446744073709551 := by
  obtain ⟨hdraws, -, -, hsettings⟩ := jitter_drawn Nat 18446744073709551 0
  refine ⟨hdraws (by decide +kernel), ?_⟩
  obtain ⟨w, hw, hd, -⟩ := (hsettings Settings.utmost 0 (by decide +kernel)).built
    (by decide +kernel) 18446744073709551000
  have hj : drawJitter? 0 18446744073709551 18446744073709551000 =
      some (.ofMillis 18446744073709551) := by decide +kernel
  exact ⟨w, hw, Option.some.inj (hd.symm.trans hj)⟩

/-- A range of one millisecond is accepted whose end does not fit, and nothing is drawn from it. -/
theorem accepted_undrawable : ∃ s : Settings, s.refusal? = none ∧
    (s.plan : Plan Nat).refusal? = none ∧ s.jitterMinMs ≤ s.jitterMaxMs ∧
      s.jitterMaxMs < wordBound ∧ drawJitter? s.jitterMinMs s.jitterMaxMs 0 = none ∧
        ((s.plan : Plan Nat).build? 0 0).isNone = true :=
  ⟨{ jitterMinMs := 18446744073709551, jitterMaxMs := 18446744073709552 }, by decide +kernel⟩

end Freshness
