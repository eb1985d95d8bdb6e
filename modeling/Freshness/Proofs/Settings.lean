import Freshness.Proofs.Toml.Document
import Freshness.Settings.File

/-!
# Settings saved and loaded

* `Settings.integers`, `Settings.Fits` : the numbers among the settings, and that each can be written;
* `Settings.render?_of_fits`, `Settings.render?_of_not_fits` : which settings can be written;
* `Settings.parse?_render?` : what is written is read back, an interval that is missing included;
* `Settings.overridden_of_unset` : an environment without overrides;
* `Settings.saved_then_loaded` : **settings that are saved are loaded again, and settings that cannot
  be saved change nothing**.
-/

namespace Freshness

/-- A file can stand here. -/
structure Site.IsWritable (site : Site) : Prop where
  free : site.blocked = false
  noFolder : site.content ≠ .folder

namespace Settings

def integers (s : Settings) : List Nat :=
  s.intervalSecs.toList ++ [s.jitterMinMs, s.jitterMaxMs, s.cooldownMs]

/-- Every number fits into a signed word of 64 bits. -/
def Fits (s : Settings) : Prop := ∀ n ∈ s.integers, n ≤ 0x7FFFFFFFFFFFFFFF

instance (s : Settings) : Decidable s.Fits :=
  inferInstanceAs (Decidable (∀ n ∈ s.integers, n ≤ 0x7FFFFFFFFFFFFFFF))

theorem integerFits_natCast (n : Nat) :
    Toml.integerFits n = true ↔ n ≤ 0x7FFFFFFFFFFFFFFF := by
  simp only [Toml.integerFits, Bool.and_eq_true, decide_eq_true_eq]
  omega

theorem fits_iff {s : Settings} : s.Fits ↔
    (∀ n ∈ s.intervalSecs, Toml.integerFits n = true) ∧ Toml.integerFits s.jitterMinMs = true ∧
      Toml.integerFits s.jitterMaxMs = true ∧ Toml.integerFits s.cooldownMs = true := by
  simp [Fits, integers, integerFits_natCast, or_imp, forall_and]

/-! ## Text -/

/-- The names of tables and values need no marks, and none is used twice. -/
theorem names_sections (s : Settings) : ∀ t ∈ s.sections,
    Toml.IsName t.name ∧ (∀ e ∈ t.entries, Toml.IsName e.1) ∧ (t.entries.map (·.1)).Nodup := by
  cases hi : s.intervalSecs <;>
    simp only [sections, hi, Option.toList_none, Option.toList_some, List.map_nil, List.map_cons,
      List.cons_append, List.nil_append, List.forall_mem_cons] <;>
    decide

theorem isPlain_sections {s : Settings} (h : s.Fits) : ∀ t ∈ s.sections, t.IsPlain := by
  have hv : ∀ t ∈ s.sections, ∀ e ∈ t.entries, e.2.IsExact := by
    obtain ⟨hi, hmin, hmax, hcool⟩ := fits_iff.1 h
    have hi' : ∀ e ∈ s.intervalSecs.toList.map fun n : Nat =>
        ("update_interval_secs", Toml.Scalar.integer n), e.2.IsExact := by
      simpa [Toml.Scalar.IsExact] using hi
    simp only [sections, List.forall_mem_cons, List.forall_mem_append, List.cons_append]
    exact ⟨⟨trivial, hi', trivial, trivial, by simp⟩, ⟨hmin, hmax, by simp⟩,
      ⟨hcool, trivial, by simp⟩, by simp⟩
  intro t ht
  obtain ⟨hn, hk, hd⟩ := names_sections s t ht
  exact ⟨hn, hk, hv t ht, hd⟩

theorem isWritable_sections {s : Settings} :
    s.sections.all (·.entries.all (·.2.isWritable)) = true ↔ s.Fits := by
  rw [fits_iff]
  cases hs : s.intervalSecs <;>
    simp [sections, hs, Toml.Scalar.isWritable, and_assoc]

theorem render?_of_fits {s : Settings} (h : s.Fits) :
    s.render? = some (String.ofList (Toml.writeSections s.sections)) :=
  if_pos (isWritable_sections.2 h)

theorem render?_of_not_fits {s : Settings} (h : ¬ s.Fits) : s.render? = none :=
  if_neg (mt isWritable_sections.1 h)

theorem ofToml?_ofSections (s : Settings) : ofToml? (Toml.ofSections s.sections) = some s := by
  obtain ⟨name, interval, ⟨always, reschedule⟩, min, max, cool, immediate⟩ := s
  cases interval with
  | none => rfl
  | some n => rfl

/-- What is written is read back. -/
theorem parse?_render? {s : Settings} {t : String} (h : s.render? = some t) :
    parse? t = some s := by
  by_cases hf : s.Fits
  · rw [render?_of_fits hf] at h
    obtain rfl := Option.some.inj h
    have hn : (s.sections.map (·.name)).Nodup := by
      simp only [sections, List.map_cons, List.map_nil]
      decide
    rw [parse?, Toml.parse?_writeSections (isPlain_sections hf) hn, Option.bind_some,
      ofToml?_ofSections]
  · rw [render?_of_not_fits hf] at h
    cases h

/-! ## Files -/

def Unset (env : Environment) : Prop := ∀ v : Variable, env v.key = none

theorem overridden_of_unset {env : Environment} (h : Unset env) (s : Settings) :
    s.overridden env = (s, []) := by
  have hall : ∀ vs, overriddenBy env vs s = (s, []) := by
    intro vs
    induction vs with
    | nil => rfl
    | cons v vs ih => simp [overriddenBy, Variable.applyFrom, h v, ih]
  exact hall Variable.all

/-- Settings at a site are loaded as they are if no override is set. -/
theorem load_text {s : Settings} {site : Site} {t : String} {env : Environment}
    (hb : site.blocked = false) (hc : site.content = .text t) (ht : parse? t = some s)
    (he : Unset env) : (load site env).outcome = s.checked := by
  simp [load, read, hb, hc, ht, overridden_of_unset he]

theorem save_of_fits {s : Settings} {site : Site} (h : s.Fits) (hw : site.IsWritable) :
    ∃ t, s.render? = some t ∧ save s site =
      ⟨.ok (), { site with content := .text t }, [.settingsSaved]⟩ := by
  refine ⟨_, render?_of_fits h, ?_⟩
  simp [save, hw.free, hw.noFolder, render?_of_fits h]

theorem save_of_not_fits {s : Settings} (h : ¬ s.Fits) (site : Site) :
    ∃ detail, save s site = ⟨.error (.saveFailed detail), site, []⟩ := by
  unfold save
  split
  · exact ⟨_, rfl⟩
  · rw [render?_of_not_fits h]
    exact ⟨_, rfl⟩

/-- **Settings that are saved are loaded again, and settings with a number out of range change
nothing where they should go.** -/
theorem saved_then_loaded (s : Settings) (site : Site) :
    (s.refusal? = none → s.Fits → site.IsWritable →
      (save s site).outcome = .ok () ∧
        ∀ env, Unset env → (load (save s site).site env).outcome = .ok s) ∧
      (¬ s.Fits →
        (∃ detail, (save s site).outcome = .error (.saveFailed detail)) ∧
          (save s site).site = site) := by
  constructor
  · intro hr hf hw
    obtain ⟨t, ht, hs⟩ := save_of_fits hf hw
    rw [hs]
    refine ⟨rfl, fun env he => ?_⟩
    have hl : (load { site with content := .text t } env).outcome = s.checked :=
      load_text hw.free rfl (parse?_render? ht) he
    rw [hl, checked, hr]
  · intro hf
    obtain ⟨detail, hs⟩ := save_of_not_fits hf site
    rw [hs]
    exact ⟨⟨detail, rfl⟩, rfl⟩

/-- Settings without an interval, under a name with marks, breaks and codes in it. -/
def awkward : Settings := { name := "a\"b'''\n\r\\\x07\u03bb", intervalSecs := none }

/-- A cooldown that is one out of range is not saved over a file. -/
theorem awkward_saved_then_loaded :
    (load (save awkward { content := .bytes }).site fun _ => none).outcome = .ok awkward ∧
      (save { cooldownMs := 0x8000000000000000 } { content := .text "a" }).site.content =
        .text "a" := by
  refine ⟨((saved_then_loaded awkward { content := .bytes }).1 (by decide +kernel)
    (by decide +kernel) ⟨rfl, by decide⟩).2 _ fun _ => rfl, ?_⟩
  rw [((saved_then_loaded { cooldownMs := 0x8000000000000000 } { content := .text "a" }).2
    (by decide +kernel)).2]

end Settings

end Freshness
