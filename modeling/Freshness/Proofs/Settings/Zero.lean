import Freshness.Proofs.Settings.Layering

/-!
# Intervals of no seconds

No interval lasts no seconds. A coordinator that is not to be refreshed at intervals has none at
all, which is what the digit for zero stands for as the text of a variable, and what two words do.
Any other text for zero is read as the number.

* `Text.IsZero`, `Text.wordOf?_eq_zero_iff` : the texts for zero;
* `Settings.LongZero`, `Settings.intervalOf?_eq_zero_iff` : those that are read as the number;
* `Environment.unset` : the environment without a variable;
* `Settings.Spared` : what the variable of the interval can do to settings;
* `Settings.zero_by_long_texts` : **no text but a long one for zero leaves an interval of no
  seconds**.
-/

namespace Freshness

/-! ## Texts for zero -/

namespace Text

/-- Digits stand for zero if they are zeros. -/
theorem foldl_digits_eq_zero_iff {n : Nat} {ds : List Char} (h : ∀ d ∈ ds, d.isDigit = true) :
    ds.foldl (fun n d => 10 * n + (d.toNat - '0'.toNat)) n = 0 ↔ n = 0 ∧ ∀ d ∈ ds, d = '0' := by
  induction ds generalizing n with
  | nil => simp
  | cons d ds ih =>
    obtain ⟨hd, hds⟩ := List.forall_mem_cons.1 h
    have hge : '0'.toNat ≤ d.toNat := by
      rw [Char.isDigit, Bool.and_eq_true, decide_eq_true_eq] at hd
      exact hd.1
    have hz : d = '0' ↔ d.toNat - '0'.toNat = 0 := by
      rw [← Char.toNat_inj]
      omega
    rw [List.foldl_cons, ih hds, List.forall_mem_cons, hz, ← and_assoc]
    refine and_congr_left fun _ => ?_
    omega

/-- One zero or more, with or without a plus sign in front. -/
def IsZero (s : String) : Prop := unsigned s ≠ [] ∧ ∀ d ∈ unsigned s, d = '0'

-- over the characters of the text, not over all that there are
instance (s : String) : Decidable (IsZero s) :=
  @instDecidableAnd _ _ inferInstance (List.decidableBAll (· = '0') (unsigned s))

theorem wordOf?_eq_zero_iff {s : String} : wordOf? s = some 0 ↔ IsZero s := by
  rw [wordOf?_eq_some_iff]
  constructor
  · rintro ⟨ds, hs, hne, hd, hz, -⟩
    rw [IsZero, unsigned_eq hd hs]
    exact ⟨hne, ((foldl_digits_eq_zero_iff hd).1 hz).2⟩
  · rintro ⟨hne, hz⟩
    have hd : ∀ d ∈ unsigned s, d.isDigit = true := fun d hm => by
      rw [hz d hm]
      decide
    exact ⟨_, toList_eq_unsigned s, hne, hd, (foldl_digits_eq_zero_iff hd).2 ⟨rfl, hz⟩, by decide⟩

theorem IsZero.toList_eq {s : String} (h : IsZero s) {c : Char} (hc : c ∈ s.toList) :
    c = '0' ∨ c = '+' := by
  have ⟨_, hall⟩ := h
  unfold unsigned at hall
  split at hall
  · next ds hs =>
    rw [hs] at hc
    exact (List.mem_cons.1 hc).elim .inr fun hm => .inl (hall c hm)
  · exact .inl (hall c hc)

example : IsZero "+000" ∧ ¬ IsZero "+" ∧ ¬ IsZero "-0" := by decide

end Text

/-! ## What the texts of the variable stand for -/

namespace Settings

variable {s : Settings} {env : Environment} {written : String}

/-- A text for zero that is not the digit alone. -/
def LongZero (written : String) : Prop := Text.IsZero written ∧ written ≠ "0"

instance (written : String) : Decidable (LongZero written) := inferInstanceAs (Decidable (_ ∧ _))

/-- No text for zero has letters. -/
theorem lower_of_isZero (h : Text.IsZero written) : lower written = written := by
  have hc : ∀ c ∈ written.toList, c.toLower = c := fun c hm =>
    (h.toList_eq hm).elim (fun e => e ▸ rfl) (fun e => e ▸ rfl)
  rw [lower, List.map_congr_left hc, List.map_id', String.ofList_toList]

/-- Three words stand for no interval, and only a long text for zero stands for one of no seconds. -/
theorem intervalOf?_eq_zero_iff : intervalOf? written = some (some 0) ↔ LongZero written := by
  unfold intervalOf?
  split
  · next hoff =>
    refine iff_of_false nofun fun h => ?_
    rw [lower_of_isZero h.1] at hoff
    have words : ¬ Text.IsZero "none" ∧ ¬ Text.IsZero "off" := by decide
    simp only [List.mem_cons, List.not_mem_nil, or_false] at hoff
    obtain rfl | rfl | rfl := hoff
    · exact h.2 rfl
    · exact words.1 h.1
    · exact words.2 h.1
  · next hoff =>
    rw [Option.map_eq_some_iff]
    have hs : (∃ n, Text.wordOf? written = some n ∧ some n = some 0) ↔
        Text.wordOf? written = some 0 := by
      simp only [Option.some.injEq, exists_eq_right]
    rw [hs, Text.wordOf?_eq_zero_iff]
    refine (and_iff_left_of_imp fun _ he => hoff ?_).symm
    rw [he]
    decide

end Settings

/-! ## Environments without a variable -/

def Environment.unset (env : Environment) (v : Settings.Variable) : Environment :=
  fun key => if key = v.key then none else env key

namespace Settings

variable {s : Settings} {env : Environment} {written : String}

theorem Variable.key_injective : Function.Injective Variable.key := by
  intro v w
  cases v <;> cases w <;> decide

theorem unset_key (env : Environment) (v w : Variable) :
    env.unset v w.key = if w = v then none else env w.key := by
  simp only [Environment.unset, Variable.key_injective.eq_iff]

/-- The variable of the interval does nothing to the other settings. -/
theorem overridden_unset (env : Environment) (s : Settings) : (s.overridden env).1 =
    { (s.overridden (env.unset .interval)).1 with
      intervalSecs := (s.overridden env).1.intervalSecs } := by
  simp only [overridden_fst, unset_key, reduceCtorEq, if_false]

theorem intervalSecs_unset (env : Environment) (s : Settings) :
    (s.overridden (env.unset .interval)).1.intervalSecs = s.intervalSecs := by
  rw [overridden_fst]
  show ((env.unset .interval Variable.interval.key).bind intervalOf?).getD s.intervalSecs = _
  rw [unset_key, if_pos rfl, Option.bind_none, Option.getD_none]

/-- Of the intervals a refusal is about nothing but one of no seconds. -/
theorem refusal?_with_interval {i : Option Nat} (hs : s.intervalSecs ≠ some 0) (hi : i ≠ some 0) :
    ({ s with intervalSecs := i } : Settings).refusal? = s.refusal? := by
  simp only [refusal?, if_neg hs, if_neg hi]

/-! ## The whole -/

/-- The variable of the interval is set to a long text for zero. -/
def LongZeroIn (env : Environment) : Prop :=
  ∃ written, env Variable.interval.key = some written ∧ LongZero written

/-- What the variable of the interval can do to settings. -/
structure Spared (s : Settings) (env : Environment) : Prop where
  /-- A long text for zero leaves an interval of no seconds, and nothing else does. -/
  zero : (s.overridden env).1.intervalSecs = some 0 ↔ LongZeroIn env
  /-- The digit and the two words leave none at all, in capitals or not. -/
  off : ∀ written, env Variable.interval.key = some written →
    lower written ∈ ["0", "none", "off"] → (s.overridden env).1.intervalSecs = none
  /-- With a long text for zero the settings are never loaded. -/
  refused : LongZeroIn env → ∀ site, (read site).outcome = .ok s →
    ∃ detail, (load site env).outcome = .error (.invalidConfig detail)
  /-- With any other text they are refused if and only if they are without it, in the same words. -/
  spared : ¬ LongZeroIn env → ∀ site, (read site).outcome = .ok s → ∀ r,
    (load site env).outcome = .error r ↔ (load site (env.unset .interval)).outcome = .error r

theorem zero_iff_longZeroIn (h : s.intervalSecs ≠ some 0) :
    (s.overridden env).1.intervalSecs = some 0 ↔ LongZeroIn env := by
  unfold LongZeroIn
  rw [overridden_fst]
  show ((env Variable.interval.key).bind intervalOf?).getD s.intervalSecs = some 0 ↔ _
  cases env Variable.interval.key with
  | none => simpa using h
  | some written =>
    rw [Option.bind_some]
    simp only [Option.some.injEq, exists_eq_left', ← intervalOf?_eq_zero_iff]
    cases intervalOf? written with
    | none => simpa using h
    | some i => simp

theorem load_of_read {site : Site} (h : (read site).outcome = .ok s) (env : Environment) :
    (load site env).outcome = (s.overridden env).1.checked := by
  rw [load]
  dsimp only
  rw [h]

theorem checked_eq_error_iff {r : Refusal} : s.checked = .error r ↔ s.refusal? = some r := by
  unfold checked
  cases s.refusal? with
  | none => simp
  | some q => simp

/-- **No text but a long one for zero leaves an interval of no seconds** where there was none. With
any other the settings are loaded and refused as if the variable were not set. -/
theorem zero_by_long_texts (s : Settings) (env : Environment) (h : s.intervalSecs ≠ some 0) :
    Spared s env := by
  have hzero : (s.overridden env).1.intervalSecs = some 0 ↔ LongZeroIn env := zero_iff_longZeroIn h
  refine ⟨hzero, fun written hw hoff => ?_, fun hlong site hr => ?_, fun hlong site hr r => ?_⟩
  · rw [overridden_fst]
    show ((env Variable.interval.key).bind intervalOf?).getD s.intervalSecs = none
    rw [hw, Option.bind_some, intervalOf?, if_pos hoff, Option.getD_some]
  · rcases (s.overridden env).1.refusal?_cases with ⟨ha, -⟩ | ⟨-, detail, hd⟩
    · exact absurd (hzero.2 hlong) ha.interval
    · exact ⟨detail, by rw [load_of_read hr, checked_eq_error_iff, hd]⟩
  · have hi : (s.overridden env).1.intervalSecs ≠ some 0 := mt hzero.1 hlong
    have hu : (s.overridden (env.unset .interval)).1.intervalSecs ≠ some 0 := by
      rwa [intervalSecs_unset]
    rw [load_of_read hr, load_of_read hr, checked_eq_error_iff, checked_eq_error_iff,
      overridden_unset env s, refusal?_with_interval hu hi]

def only (v : Variable) (written : String) : Environment :=
  fun key => if key = v.key then some written else none

/-- The defaults are loaded with the digit, and refused with two of them. -/
theorem zero_twice : (∃ s, (load {} (only .interval "0")).outcome = .ok s ∧ s.intervalSecs = none) ∧
    ∃ detail, (load {} (only .interval "00")).outcome = .error (.invalidConfig detail) := by
  have h := zero_by_long_texts {} (only .interval "00") (by decide)
  have hlong : LongZeroIn (only .interval "00") := ⟨"00", rfl, by decide⟩
  exact ⟨⟨_, rfl, (zero_by_long_texts {} (only .interval "0") (by decide)).off "0" rfl (by decide)⟩,
    h.refused hlong {} rfl⟩

/-- Settings with an interval are left with one of no seconds by the two digits, and the file that
holds them is not loaded any more. -/
theorem zero_from_environment :
    ¬ (∀ (s : Settings) (env : Environment), s.intervalSecs ≠ some 0 →
        (s.overridden env).1.intervalSecs ≠ some 0) ∧
      (load {} (fun _ => none)).outcome = .ok {} ∧
      (load {} (only .interval "00")).outcome = .error (.invalidConfig
        "update_interval_secs must be greater than 0 (omit it to disable polling)") := by
  have hr : (read {}).outcome = .ok ({} : Settings) := rfl
  refine ⟨fun h => ?_, rfl, ?_⟩
  · exact h {} (only .interval "00") (by decide) (by decide +kernel)
  · rw [load_of_read hr, checked_eq_error_iff]
    decide +kernel

end Settings

end Freshness
