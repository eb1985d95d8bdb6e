import Freshness.Proofs.Json
import Freshness.Proofs.Timestamp
import Freshness.Status

/-!
# Reports read back from their text

* `Status.IsUsual` : a report that can be written and read back: its moment is a usual one, and its
  numbers fit into words;
* `Status.Holds`, `Status.Shows` : the members of an object show a report, in whatever order and with
  whatever else; `Status.ofJson?_of_shows` : it is read from them, `Status.shows_fields` : they are what
  is written of it;
* `Status.RoundTrips`, `Status.round_trips` : **a report is read back from its text**, and its text is
  the same whatever text it was read from.
-/

namespace Freshness.Status

/-- A report whose moment is a usual one and whose numbers fit into words. -/
structure IsUsual (s : Status) : Prop where
  time : ∀ t ∈ s.lastSuccessTime, t.IsUsual
  count : s.listenerCount < countBound
  interval : ∀ n ∈ s.updateIntervalMs, n < countBound

/-! ## Writing -/

theorem names_fields (s : Status) : s.fields.map (·.1) = fieldNames := rfl

theorem nodup_fieldNames : fieldNames.Nodup := by decide

theorem isPlain_ofOption {α : Type} {f : α → Json} (h : ∀ a, (f a).IsPlain) (o : Option α) :
    (Json.ofOption f o).IsPlain := by
  cases o with
  | none => exact .null
  | some a => exact h a

theorem isPlain_toJson (s : Status) : s.toJson.IsPlain := by
  have hf : ∀ f ∈ s.fields, f.2.IsPlain := by
    simp only [fields, List.forall_mem_cons]
    exact ⟨.str _, .bool _, isPlain_ofOption (fun _ => .str _) _, isPlain_ofOption (fun _ => .str _) _,
      isPlain_ofOption .str _, .bool _, .int _, isPlain_ofOption (fun _ => .int _) _, .bool _, .bool _,
      by simp⟩
  refine .obj ?_ ?_
  · intro m hm
    obtain ⟨f, -, rfl⟩ := List.mem_map.1 hm
    rfl
  · intro m hm
    obtain ⟨f, hmem, rfl⟩ := List.mem_map.1 hm
    exact hf f hmem

/-! ## Reading -/

/-- There is one member of that name, which has that value, or none if the value is `null`. -/
def Holds (members : List (Option String × Json)) (name : String) (v : Json) : Prop :=
  members.filter (·.1 == some name) = [(some name, v)] ∨
    v = .null ∧ members.filter (·.1 == some name) = []

/-- The members show the report. Their order and members of other names do not matter, and the moment
may be written in any way that stands for it. -/
structure Shows (s : Status) (members : List (Option String × Json)) : Prop where
  named : ∀ m ∈ members, m.1.isSome = true
  fields : ∀ f ∈ s.fields, f.1 ≠ "last_update_success_time" → Holds members f.1 f.2
  time : ∃ v, Holds members "last_update_success_time" v ∧
    optional? (fun j => j.str?.bind Timestamp.parse?) v = some s.lastSuccessTime

theorem fieldValue?_of_holds {members : List (Option String × Json)} {name : String} {v : Json}
    (h : Holds members name v) (hn : v = .null → name ∈ optionalNames) :
    fieldValue? members name = some v := by
  unfold fieldValue?
  obtain h | ⟨hv, h⟩ := h
  · rw [h]
  · rw [h, hv]
    exact if_pos (List.contains_iff_mem.2 (hn hv))

/-- A value that may be missing is read back if the value itself is. -/
theorem optional?_ofOption {α : Type} {f : Json → Option α} {g : α → Json} (hn : ∀ a, g a ≠ .null)
    (o : Option α) (h : ∀ a ∈ o, f (g a) = some a) : optional? f (Json.ofOption g o) = some o := by
  cases o with
  | none => rfl
  | some a =>
    have ha := h a rfl
    have hna := hn a
    show optional? f (g a) = some (some a)
    generalize g a = j at ha hna
    cases j with
    | null => exact absurd rfl hna
    | bool | int | real | str | unreadable | arr | obj => exact congrArg (Option.map some) ha

theorem natBelow?_ofNat {n bound : Nat} (h : n < bound) :
    (Json.ofNat n).natBelow? bound = some n := if_pos h

/-- Only what may be missing is written as `null`. -/
theorem mem_optionalNames {s : Status} {f : String × Json} (hf : f ∈ s.fields)
    (hv : f.2 = .null) : f.1 ∈ optionalNames := by
  have all : ∀ f ∈ s.fields, f.2 = .null → f.1 ∈ optionalNames := by
    simp [fields, optionalNames, Json.ofNat]
  exact all f hf hv

def values (s : Status) (time : Json) : List Json :=
  [.str s.name, .bool s.lastUpdateSuccess, time, .ofOption (fun k => .str k.word) s.lastErrorKind,
    .ofOption .str s.lastError, .bool s.hasData, .ofNat s.listenerCount,
    .ofOption .ofNat s.updateIntervalMs, .bool s.refreshArmed, .bool s.shutdownRequested]

/-- The values of a report stand for it, with any value for the moment that stands for the moment. -/
theorem ofValues?_of_time {s : Status} (h : s.IsUsual) {v : Json}
    (hv : optional? (fun j => j.str?.bind Timestamp.parse?) v = some s.lastSuccessTime) :
    ofValues? (s.values v) = some s := by
  have hkind : optional? Fault.Kind.ofJson? (.ofOption (fun k => .str k.word) s.lastErrorKind) =
      some s.lastErrorKind := optional?_ofOption (by simp) _ fun k _ => Fault.Kind.ofWord?_word k
  have herror : optional? Json.str? (.ofOption .str s.lastError) = some s.lastError :=
    optional?_ofOption (by simp) _ fun _ _ => rfl
  have hcount := natBelow?_ofNat h.count
  have hinterval : optional? (Json.natBelow? countBound) (.ofOption .ofNat s.updateIntervalMs) =
      some s.updateIntervalMs :=
    optional?_ofOption (by simp [Json.ofNat]) _ fun n hn => natBelow?_ofNat (h.interval n hn)
  simp only [values, ofValues?, hv, hkind, herror, hcount, hinterval]
  rfl

theorem ofJson?_of_shows {s : Status} (h : s.IsUsual) {members : List (Option String × Json)}
    (hs : s.Shows members) : ofJson? (.obj members) = some s := by
  have hnamed : members.any (·.1.isNone) = false := by
    rw [List.any_eq_false]
    intro m hm hn
    have hsome := hs.named m hm
    rw [Option.isNone_iff_eq_none.1 hn] at hsome
    cases hsome
  have hvalue : ∀ f ∈ s.fields, f.1 ≠ "last_update_success_time" →
      fieldValue? members f.1 = some f.2 :=
    fun f hf hn => fieldValue?_of_holds (hs.fields f hf hn) (mem_optionalNames hf)
  obtain ⟨v, hholds, hv⟩ := hs.time
  have htime := fieldValue?_of_holds hholds fun _ => by decide
  simp only [fields, List.forall_mem_cons] at hvalue
  obtain ⟨hname, hsuccess, -, hkind, herror, hdata, hcount, hinterval, harmed, hshut, -⟩ := hvalue
  have hmap : fieldNames.mapM (fieldValue? members) = some (s.values v) := by
    simp [fieldNames, values, hname (by decide), hsuccess (by decide), htime, hkind (by decide),
      herror (by decide), hdata (by decide), hcount (by decide), hinterval (by decide),
      harmed (by decide), hshut (by decide)]
  rw [ofJson?, hnamed, if_neg Bool.false_ne_true, hmap]
  exact ofValues?_of_time h hv

theorem holds_of_nodup {fs : List (String × Json)} (hn : (fs.map (·.1)).Nodup) {f : String × Json}
    (hf : f ∈ fs) : Holds (fs.map fun f => (some f.1, f.2)) f.1 f.2 := by
  refine .inl ?_
  induction fs with
  | nil => cases hf
  | cons g fs ih =>
    rw [List.map_cons, List.nodup_cons] at hn
    obtain ⟨hg, hn⟩ := hn
    rcases List.mem_cons.1 hf with rfl | hf
    · rw [List.map_cons, List.filter_cons_of_pos (by simp)]
      refine congrArg _ (List.filter_eq_nil_iff.2 fun m hm he => hg ?_)
      obtain ⟨k, hk, rfl⟩ := List.mem_map.1 hm
      rw [← Option.some.inj (eq_of_beq he)]
      exact List.mem_map_of_mem hk
    · have hne : g.1 ≠ f.1 := fun he => hg (he ▸ List.mem_map_of_mem hf)
      rw [List.map_cons, List.filter_cons_of_neg (by simpa using hne)]
      exact ih hn hf

theorem shows_fields {s : Status} (h : s.IsUsual) :
    s.Shows (s.fields.map fun f => (some f.1, f.2)) := by
  have hn : (s.fields.map (·.1)).Nodup := by
    rw [names_fields]
    exact nodup_fieldNames
  have htime : ("last_update_success_time", .ofOption (fun t => .str t.render) s.lastSuccessTime) ∈
      s.fields := .tail _ (.tail _ (.head _))
  refine ⟨?_, fun f hf _ => holds_of_nodup hn hf, _, holds_of_nodup hn htime, ?_⟩
  · intro m hm
    obtain ⟨f, -, rfl⟩ := List.mem_map.1 hm
    rfl
  · refine optional?_ofOption (by simp) _ fun t ht => ?_
    simp only [Json.str?, Option.bind_some, Timestamp.parse?_render (h.time t ht)]

/-! ## The whole -/

/-- What is true of a report and of the texts that it is read from. -/
structure RoundTrips (s : Status) : Prop where
  /-- It is read back from its own text. -/
  back : parse? s.render = some s
  /-- Its text stays the same when it is read and written again, whatever text the report was read
  from. -/
  same : ∀ text, parse? text = some s → (parse? s.render).map render = some s.render
  /-- It is read from every text whose members show it. -/
  shown : ∀ text members, Json.parse? text = some (.obj members) → s.Shows members →
    parse? text = some s
  /-- The moment may be written at any offset. -/
  offset : ∀ t ∈ s.lastSuccessTime, ∀ o : Timestamp.Offset, o.IsUsual → (t.shifted o).IsUsual →
    Timestamp.parse? (t.renderAt o) = some t

theorem parse?_render {s : Status} (h : s.IsUsual) : parse? s.render = some s := by
  rw [parse?, render, Json.parse?_pretty (isPlain_toJson s)]
  exact ofJson?_of_shows h (shows_fields h)

/-- **A report is read back from its text.** -/
theorem round_trips {s : Status} (h : s.IsUsual) : s.RoundTrips := by
  refine ⟨parse?_render h, fun _ _ => ?_, fun text members hm hs => ?_, fun t _ o ho ht => ?_⟩
  · rw [parse?_render h]
    rfl
  · rw [parse?, hm]
    exact ofJson?_of_shows h hs
  · exact Timestamp.parse?_renderAt ho ht

/-- A report in the last second of a leap day. -/
def leapDay : Status where
  name := "α\n"
  lastUpdateSuccess := false
  lastSuccessTime := some ⟨1709251199, 500000000⟩
  lastErrorKind := some .timeout
  lastError := none
  hasData := true
  listenerCount := 2
  updateIntervalMs := none
  refreshArmed := true
  shutdownRequested := false

theorem isUsual_leapDay : leapDay.IsUsual where
  time := by
    rintro t ⟨⟩
    exact ⟨by decide, by decide⟩
  count := by decide
  interval := by simp [leapDay]

/-- A text of it. The members stand in another order, some are missing and one is unknown, a name is
escaped, and the moment is told by clocks an hour ahead. -/
def leapDayText : String :=
  "\x7b\"shutdown_requested\":false,\"colour\":[1e3,\x7b\x7d],\"has_data\":true," ++
    "\"name\":\"\\u03b1\\n\",\"last_update_success\":false,\"last_error_kind\":\"timeout\"," ++
      "\"last_update_success_time\":\"2024-03-01T00:59:59.5+01:00\"," ++
        "\"listener_count\":2,\"refresh_armed\":true\x7d"

theorem leapDay_round_trips :
    parse? leapDayText = some leapDay ∧ leapDay.IsUsual ∧ leapDay.RoundTrips := by
  refine ⟨?_, isUsual_leapDay, round_trips isUsual_leapDay⟩
  -- A literal is its characters at once; left to evaluation, it would be decoded from its bytes.
  have lines {s t : String} {cs ds : List Char} (hs : s.toList = cs) (ht : t.toList = ds) :
      (s ++ t).toList = cs ++ ds := by rw [String.toList_append, hs, ht]
  have ht : leapDayText.toList = _ := lines (lines (lines String.toList_ofList
    String.toList_ofList) String.toList_ofList) String.toList_ofList
  rw [parse?, Json.parse?, ht]
  decide +kernel

end Freshness.Status
