import Freshness.Proofs.Settings.Acceptance
import Freshness.Proofs.Settings.Texts

/-!
# Where each setting comes from

* `Site.document?` : the document at a site;
* `Settings.Field` : where a setting stands in a document, and what stands for it if its key or its
  table is missing; `Settings.Field.written?` : what a document says about it;
* `Settings.Chosen` : a setting is what its variable stands for, or what is written;
* `Settings.Layered` : each setting is chosen so, or is what is written if it has no variable;
* `Settings.ofToml?_eq_some_iff` : a document holds settings if it says something about each field;
* `Settings.overridden_fst` : each variable overrides one setting;
* `Settings.Sourced` : settings are what is loaded, or they are refused;
* `Settings.loaded_by_field` : **settings that are loaded are layered, field by field**.
-/

namespace Freshness

/-- The document at a site. One without any table stands in for a file that is missing. -/
def Site.document? (site : Site) : Option Toml :=
  if site.blocked then some (.table [])
  else
    match site.content with
    | .nothing => some (.table [])
    | .text written => Toml.parse? written
    | .folder | .bytes => none

namespace Settings

variable {β : Type} {t : Toml} {env : Environment} {s : Settings}

/-! ## Fields -/

/-- Where a setting stands in a document and how it is read, and what it is otherwise. -/
structure Field (β : Type) where
  /-- The name of its table, and the place of that in a list. -/
  table : String × Nat
  /-- The name of its key in the table, and the place of that in a list. -/
  key : String × Nat
  read? : Toml → Option β
  /-- Stands for it if its table is there without the key. -/
  missing : β
  /-- Stands for it if its table is missing. -/
  absent : β := missing

namespace Field

/-- What a document with these parts says about the field. -/
def writtenIn? (f : Field β) (root : Toml.Record) : Option β :=
  root.read? f.table.1 f.table.2
    (fun v => v.record?.bind fun r => r.read? f.key.1 f.key.2 f.read? f.missing) f.absent

/-- What a document says about the field, `none` if that cannot be read. -/
def written? (f : Field β) (t : Toml) : Option β := t.record?.bind f.writtenIn?

def name : Field String where
  table := ("coordinator", 0)
  key := ("name", 0)
  read? := Toml.text?
  missing := "cadence"

/-- The only field for which a missing key and a missing table are not the same. -/
def interval : Field (Option Nat) where
  table := ("coordinator", 0)
  key := ("update_interval_secs", 1)
  read? := fun v => v.natural?.map some
  missing := none
  absent := some 30

def alwaysUpdate : Field Bool where
  table := ("coordinator", 0)
  key := ("always_update", 2)
  read? := Toml.boolean?
  missing := true

def rescheduleOnAuthFailure : Field Bool where
  table := ("coordinator", 0)
  key := ("reschedule_on_auth_failure", 3)
  read? := Toml.boolean?
  missing := true

def jitterMin : Field Nat where
  table := ("jitter", 1)
  key := ("min_ms", 0)
  read? := Toml.natural?
  missing := 50

def jitterMax : Field Nat where
  table := ("jitter", 1)
  key := ("max_ms", 1)
  read? := Toml.natural?
  missing := 500

def cooldown : Field Nat where
  table := ("debounce", 2)
  key := ("cooldown_ms", 0)
  read? := Toml.natural?
  missing := 10000

def immediate : Field Bool where
  table := ("debounce", 2)
  key := ("immediate", 1)
  read? := Toml.boolean?
  missing := true

end Field

/-- A setting is what its variable stands for, if that is set to a text that stands for something, and
what is written if not. -/
def Chosen (env : Environment) (v : Variable) (Stands : String → β → Prop) (written? : Option β)
    (x : β) : Prop :=
  ∃ written, written? = some written ∧ ((∃ text, env v.key = some text ∧ Stands text x) ∨
    ((∀ text, env v.key = some text → ∀ y, ¬ Stands text y) ∧ x = written))

/-- Every setting is chosen from its variable and its field, if it has a variable, and is written if it
has none. -/
structure Layered (t : Toml) (env : Environment) (s : Settings) : Prop where
  name : Chosen env .name (fun text x => x = text) (Field.name.written? t) s.name
  interval : Chosen env .interval IntervalText (Field.interval.written? t) s.intervalSecs
  alwaysUpdate :
    Chosen env .alwaysUpdate FlagText (Field.alwaysUpdate.written? t) s.policy.alwaysUpdate
  rescheduleOnAuthFailure :
    Field.rescheduleOnAuthFailure.written? t = some s.policy.rescheduleOnAuthFailure
  jitterMin : Field.jitterMin.written? t = some s.jitterMinMs
  jitterMax : Field.jitterMax.written? t = some s.jitterMaxMs
  cooldown : Chosen env .cooldown Text.Numeral (Field.cooldown.written? t) s.cooldownMs
  immediate : Chosen env .immediate FlagText (Field.immediate.written? t) s.immediate

theorem chosen_iff {v : Variable} {Stands : String → β → Prop} {read? : String → Option β}
    (h : ∀ {text x}, read? text = some x ↔ Stands text x) {written? : Option β} {x : β} :
    Chosen env v Stands written? x ↔
      written?.map ((env v.key).bind read?).getD = some x := by
  unfold Chosen
  simp only [← h, Option.map_eq_some_iff]
  refine exists_congr fun written => and_congr_right fun _ => ?_
  cases env v.key with
  | none => simp [eq_comm]
  | some text => cases hr : read? text <;> simp [hr, eq_comm]

theorem chosen_name_iff {written? : Option String} {x : String} :
    Chosen env .name (fun text x => x = text) written? x ↔
      written?.map ((env Variable.name.key).bind some).getD = some x :=
  chosen_iff (by simp [eq_comm])

/-- With no variable set a setting is what is written. -/
theorem chosen_unset {v : Variable} {Stands : String → β → Prop} {written? : Option β} {x : β} :
    Chosen (fun _ => none) v Stands written? x ↔ written? = some x := by
  simp [Chosen]

/-- The fields leave nothing open. -/
theorem Layered.unique {s' : Settings} (h : Layered t env s) (h' : Layered t env s') : s = s' := by
  have hn := (chosen_name_iff.1 h.name).symm.trans (chosen_name_iff.1 h'.name)
  have hi := ((chosen_iff intervalOf?_eq_some_iff).1 h.interval).symm.trans
    ((chosen_iff intervalOf?_eq_some_iff).1 h'.interval)
  have ha := ((chosen_iff flagOf?_eq_some_iff).1 h.alwaysUpdate).symm.trans
    ((chosen_iff flagOf?_eq_some_iff).1 h'.alwaysUpdate)
  have hr := h.rescheduleOnAuthFailure.symm.trans h'.rescheduleOnAuthFailure
  have hc := ((chosen_iff Text.wordOf?_eq_some_iff).1 h.cooldown).symm.trans
    ((chosen_iff Text.wordOf?_eq_some_iff).1 h'.cooldown)
  have hm := ((chosen_iff flagOf?_eq_some_iff).1 h.immediate).symm.trans
    ((chosen_iff flagOf?_eq_some_iff).1 h'.immediate)
  have hp : s.policy = s'.policy :=
    (Policy.mk.injEq ..).mpr ⟨Option.some.inj ha, Option.some.inj hr⟩
  exact (Settings.mk.injEq ..).mpr ⟨Option.some.inj hn, Option.some.inj hi, hp,
    Option.some.inj (h.jitterMin.symm.trans h'.jitterMin),
    Option.some.inj (h.jitterMax.symm.trans h'.jitterMax), Option.some.inj hc, Option.some.inj hm⟩

/-! ## Documents -/

theorem Field.written?_of_record {root : Toml.Record} (h : t.record? = some root) (f : Field β) :
    f.written? t = f.writtenIn? root := by
  rw [written?, h, Option.bind_some]

theorem coordinator_by_field (root : Toml.Record) :
    root.read? "coordinator" 0 (coordinatorOf? {}) {} = (do
    let name ← Field.name.writtenIn? root
    let intervalSecs ← Field.interval.writtenIn? root
    let alwaysUpdate ← Field.alwaysUpdate.writtenIn? root
    let rescheduleOnAuthFailure ← Field.rescheduleOnAuthFailure.writtenIn? root
    some { name, intervalSecs, policy := { alwaysUpdate, rescheduleOnAuthFailure } }) := by
  unfold Field.writtenIn? Toml.Record.read?
  dsimp only [Field.name, Field.interval, Field.alwaysUpdate, Field.rescheduleOnAuthFailure]
  cases root.part? "coordinator" 0 with
  | none => rfl
  | some v =>
    dsimp only [coordinatorOf?]
    cases v.record? <;> rfl

theorem jitter_by_field (root : Toml.Record) (hmin : s.jitterMinMs = Field.jitterMin.absent)
    (hmax : s.jitterMaxMs = Field.jitterMax.absent) :
    root.read? "jitter" 1 (jitterOf? s) s = (do
      let jitterMinMs ← Field.jitterMin.writtenIn? root
      let jitterMaxMs ← Field.jitterMax.writtenIn? root
      some { s with jitterMinMs, jitterMaxMs }) := by
  unfold Field.writtenIn? Toml.Record.read?
  rw [← hmin, ← hmax]
  dsimp only [Field.jitterMin, Field.jitterMax]
  cases root.part? "jitter" 1 with
  | none => rfl
  | some v =>
    dsimp only [jitterOf?]
    cases v.record? <;> rfl

theorem debounce_by_field (root : Toml.Record) (hcool : s.cooldownMs = Field.cooldown.absent)
    (himm : s.immediate = Field.immediate.absent) :
    root.read? "debounce" 2 (debounceOf? s) s = (do
      let cooldownMs ← Field.cooldown.writtenIn? root
      let immediate ← Field.immediate.writtenIn? root
      some { s with cooldownMs, immediate }) := by
  unfold Field.writtenIn? Toml.Record.read?
  rw [← hcool, ← himm]
  dsimp only [Field.cooldown, Field.immediate]
  cases root.part? "debounce" 2 with
  | none => rfl
  | some v =>
    dsimp only [debounceOf?]
    cases v.record? <;> rfl

theorem ofToml?_of_record {root : Toml.Record} (h : t.record? = some root) : ofToml? t = (do
    let name ← Field.name.writtenIn? root
    let intervalSecs ← Field.interval.writtenIn? root
    let alwaysUpdate ← Field.alwaysUpdate.writtenIn? root
    let rescheduleOnAuthFailure ← Field.rescheduleOnAuthFailure.writtenIn? root
    let jitterMinMs ← Field.jitterMin.writtenIn? root
    let jitterMaxMs ← Field.jitterMax.writtenIn? root
    let cooldownMs ← Field.cooldown.writtenIn? root
    let immediate ← Field.immediate.writtenIn? root
    some { name, intervalSecs, policy := { alwaysUpdate, rescheduleOnAuthFailure }
           jitterMinMs, jitterMaxMs, cooldownMs, immediate }) := by
  -- a table finds its fields as a table that is missing would leave them
  have hj : ∀ name intervalSecs policy, _ = _ := fun name intervalSecs policy =>
    jitter_by_field root (s := { name, intervalSecs, policy }) rfl rfl
  have hd : ∀ name intervalSecs policy jitterMinMs jitterMaxMs, _ = _ :=
    fun name intervalSecs policy jitterMinMs jitterMaxMs => debounce_by_field root
      (s := { name, intervalSecs, policy, jitterMinMs, jitterMaxMs }) rfl rfl
  rw [ofToml?, h]
  simp only [Option.bind_eq_bind, Option.bind_some, coordinator_by_field, Option.bind_assoc, hj, hd]

/-- A document holds settings if it says something about each field, and then it holds those. -/
theorem ofToml?_eq_some_iff : ofToml? t = some s ↔ Layered t (fun _ => none) s := by
  cases h : t.record? with
  | none =>
    refine iff_of_false ?_ fun hl => ?_
    · rw [ofToml?, h]
      exact nofun
    · have hn := hl.jitterMin
      rw [Field.written?, h] at hn
      cases hn
  | some root =>
    rw [ofToml?_of_record h]
    simp only [Option.bind_eq_bind, Option.bind_eq_some_iff, Option.some.injEq,
      ← Field.written?_of_record h]
    constructor
    · rintro ⟨name, hn, interval, hi, always, ha, reschedule, hr, min, hmin, max, hmax, cool, hc,
        immediate, him, rfl⟩
      exact ⟨chosen_unset.2 hn, chosen_unset.2 hi, chosen_unset.2 ha, hr, hmin, hmax,
        chosen_unset.2 hc, chosen_unset.2 him⟩
    · intro hl
      exact ⟨_, chosen_unset.1 hl.name, _, chosen_unset.1 hl.interval, _,
        chosen_unset.1 hl.alwaysUpdate, _, hl.rescheduleOnAuthFailure, _, hl.jitterMin, _,
        hl.jitterMax, _, chosen_unset.1 hl.cooldown, _, chosen_unset.1 hl.immediate, rfl⟩

/-! ## The environment -/

theorem Variable.apply_fst (v : Variable) (written : String) (s : Settings) :
    (v.apply written s).1 = match v with
      | .name => { s with name := written }
      | .interval => { s with intervalSecs := (intervalOf? written).getD s.intervalSecs }
      | .alwaysUpdate =>
        { s with policy :=
          { s.policy with alwaysUpdate := (flagOf? written).getD s.policy.alwaysUpdate } }
      | .cooldown => { s with cooldownMs := (Text.wordOf? written).getD s.cooldownMs }
      | .immediate => { s with immediate := (flagOf? written).getD s.immediate } := by
  cases v with
  | name => rfl
  | interval => cases h : intervalOf? written with
    | none => simp only [apply, h, Option.getD_none]
    | some i => cases i <;> simp only [apply, h, Option.getD_some]
  | alwaysUpdate => cases h : flagOf? written <;> simp only [apply, h, Option.getD]
  | cooldown => cases h : Text.wordOf? written <;> simp only [apply, h, Option.getD]
  | immediate => cases h : flagOf? written <;> simp only [apply, h, Option.getD]

theorem Variable.applyFrom_fst (v : Variable) (env : Environment) (s : Settings) :
    (v.applyFrom env s).1 = match v with
      | .name => { s with name := ((env v.key).bind some).getD s.name }
      | .interval => { s with intervalSecs := ((env v.key).bind intervalOf?).getD s.intervalSecs }
      | .alwaysUpdate =>
        { s with policy :=
          { s.policy with
            alwaysUpdate := ((env v.key).bind flagOf?).getD s.policy.alwaysUpdate } }
      | .cooldown => { s with cooldownMs := ((env v.key).bind Text.wordOf?).getD s.cooldownMs }
      | .immediate => { s with immediate := ((env v.key).bind flagOf?).getD s.immediate } := by
  rw [applyFrom]
  cases hv : env v.key with
  | none => cases v <;> rfl
  | some written =>
    dsimp only
    rw [v.apply_fst]
    cases v <;> rfl

theorem overridden_fst (env : Environment) (s : Settings) : (s.overridden env).1 =
    { name := ((env Variable.name.key).bind some).getD s.name
      intervalSecs := ((env Variable.interval.key).bind intervalOf?).getD s.intervalSecs
      policy :=
        { alwaysUpdate := ((env Variable.alwaysUpdate.key).bind flagOf?).getD s.policy.alwaysUpdate
          rescheduleOnAuthFailure := s.policy.rescheduleOnAuthFailure }
      jitterMinMs := s.jitterMinMs
      jitterMaxMs := s.jitterMaxMs
      cooldownMs := ((env Variable.cooldown.key).bind Text.wordOf?).getD s.cooldownMs
      immediate := ((env Variable.immediate.key).bind flagOf?).getD s.immediate } := by
  simp only [overridden, Variable.all, overriddenBy, Variable.applyFrom_fst]

/-- Settings of a document are layered when the environment has been applied. -/
theorem Layered.overridden (h : Layered t (fun _ => none) s) (env : Environment) :
    Layered t env (s.overridden env).1 := by
  have hf : ∀ {β : Type} {written? : Option β} {read? : String → Option β} {v : Variable} {x : β},
      written? = some x → written?.map ((env v.key).bind read?).getD =
        some (((env v.key).bind read?).getD x) := by
    intro β written? read? v x hx
    rw [hx, Option.map_some]
  rw [overridden_fst]
  exact ⟨chosen_name_iff.2 (hf (chosen_unset.1 h.name)),
    (chosen_iff intervalOf?_eq_some_iff).2 (hf (chosen_unset.1 h.interval)),
    (chosen_iff flagOf?_eq_some_iff).2 (hf (chosen_unset.1 h.alwaysUpdate)),
    h.rescheduleOnAuthFailure, h.jitterMin, h.jitterMax,
    (chosen_iff Text.wordOf?_eq_some_iff).2 (hf (chosen_unset.1 h.cooldown)),
    (chosen_iff flagOf?_eq_some_iff).2 (hf (chosen_unset.1 h.immediate))⟩

/-! ## Files -/

theorem read_of_document {site : Site} (h : site.document? = some t) (ht : ofToml? t = some s) :
    (read site).outcome = .ok s := by
  have hempty : ofToml? (.table []) = some {} := rfl
  unfold Site.document? at h
  unfold read
  split at h
  · next hb =>
    obtain rfl := Option.some.inj h
    obtain rfl := Option.some.inj (hempty.symm.trans ht)
    rw [if_pos hb]
  · next hb =>
    rw [if_neg hb]
    cases hc : site.content with
    | nothing =>
      rw [hc] at h
      obtain rfl := Option.some.inj h
      obtain rfl := Option.some.inj (hempty.symm.trans ht)
      rfl
    | folder => rw [hc] at h; cases h
    | bytes => rw [hc] at h; cases h
    | text written =>
      rw [hc] at h
      have hp : parse? written = some s := by
        rw [parse?, show Toml.parse? written = some t from h, Option.bind_some, ht]
      simp only [hp]

/-- The settings are what is loaded if they are accepted, and nothing is loaded if they are not. -/
structure Sourced (site : Site) (env : Environment) (s : Settings) : Prop where
  accepted : s.refusal? = none → (load site env).outcome = .ok s
  refused : s.refusal? ≠ none → ∃ detail, (load site env).outcome = .error (.invalidConfig detail)

theorem sourced_of_document {site : Site} (h : site.document? = some t) (ht : ofToml? t = some s)
    (env : Environment) : Sourced site env (s.overridden env).1 := by
  have hl : (load site env).outcome = (s.overridden env).1.checked := by
    rw [load]
    dsimp only
    rw [read_of_document h ht]
  rcases (s.overridden env).1.refusal?_cases with ⟨-, hr⟩ | ⟨-, detail, hr⟩
  · exact ⟨fun _ => by rw [hl, checked, hr], fun hn => absurd hr hn⟩
  · exact ⟨fun hn => absurd (hr.symm.trans hn) (Option.some_ne_none _),
      fun _ => ⟨detail, by rw [hl, checked, hr]⟩⟩

/-- **Settings are layered field by field**: each is what its variable stands for, or else what its
key says, or else what stands for that. These settings are loaded from a file, or refused. -/
theorem loaded_by_field (t : Toml) (env : Environment) :
    (∀ s, ofToml? t = some s ↔ Layered t (fun _ => none) s) ∧
      ∀ s₀, ofToml? t = some s₀ →
        (∀ s, Layered t env s ↔ s = (s₀.overridden env).1) ∧
          ∀ site : Site, site.document? = some t → Sourced site env (s₀.overridden env).1 := by
  refine ⟨fun s => ofToml?_eq_some_iff, fun s₀ h => ⟨fun s => ⟨fun hs => ?_, ?_⟩, fun site hd => ?_⟩⟩
  · exact hs.unique ((ofToml?_eq_some_iff.1 h).overridden env)
  · rintro rfl
    exact (ofToml?_eq_some_iff.1 h).overridden env
  · exact sourced_of_document hd h env

/-- A file with some keys of two tables. -/
def sparse : Site where
  content := .text "[debounce]\ncooldown_ms = 7\n\n[coordinator]\nalways_update = false\n"

/-- Four variables that are set to something, and one that is not. -/
def setFour : Environment := fun key =>
  [("CADENCE_NAME", "a b"), ("CADENCE_UPDATE_INTERVAL_SECS", "+090"),
    ("CADENCE_ALWAYS_UPDATE", "YES"), ("CADENCE_DEBOUNCE_COOLDOWN_MS", "2500"),
    ("CADENCE_DEBOUNCE_IMMEDIATE", "maybe")].lookup key

/-- The interval has no key in its table, and the range of the jitter has no table. -/
theorem sparse_loaded_by_field : ∃ t s₀, sparse.document? = some t ∧ ofToml? t = some s₀ ∧
    (load sparse setFour).outcome =
      .ok { name := "a b", intervalSecs := some 90, cooldownMs := 2500 } := by
  have hs : sparse.document?.bind ofToml? = some
      { intervalSecs := none, policy := { alwaysUpdate := false }, cooldownMs := 7 } := by
    decide +kernel
  obtain ⟨t, hd, ht⟩ := Option.bind_eq_some_iff.1 hs
  refine ⟨t, _, hd, ht, ?_⟩
  exact (((loaded_by_field t setFour).2 _ ht).2 sparse hd).accepted (by decide +kernel)

end Settings

end Freshness
