import Freshness.Proofs.Snoc
import Freshness.Roster
import Mathlib.Data.List.Nodup
import Mathlib.Data.List.Induction
import Mathlib.Data.List.Perm.Basic

/-!
# Rounds of notification over a changing roster

* `Act`, `performed`, `turns` : additions and removals, what they make of a roster, and the roster
  that each of them found;
* `Keyed` : listeners have ids of their own, all of them given out before;
* `mem_performed`, `remove_eq_false_of_gone`, `count_emptied` : who is registered in the end, what
  becomes of an id that is gone, and how often a roster is emptied;
* `Conduct`, `Scene`, `Portrait`, `Round`, `History` : callbacks that do anything to the roster, the
  snapshots that are kept of it and the rounds over them, at any time later;
* `callAll_call` : what one round does;
* `History.fixed` : **a round calls those who were registered when its snapshot was taken, each
  once, whatever is added and removed meanwhile**.
-/

namespace Freshness.Roster

variable {κ χ μ : Type}

/-! ## One operation -/

section Operations

variable {r : Roster κ χ} {l : Listener κ χ} {id : ListenerId}

@[simp] theorem mem_add (r : Roster κ χ) (callback : κ) (context : Option χ) :
    l ∈ (r.add callback context).2.listeners ↔
      l ∈ r.listeners ∨ l = ⟨r.freshId, callback, context⟩ := by
  simp [add]

@[simp] theorem mem_remove (r : Roster κ χ) (id : ListenerId) :
    l ∈ (r.remove id).2.listeners ↔ l ∈ r.listeners ∧ l.id ≠ id := by
  simp [remove]

theorem snapshot_perm (r : Roster κ χ) : r.snapshot.Perm (r.listeners.map (·.callback)) :=
  (r.order.perm r.nextId r.listeners).map _

theorem callback_mem_snapshot (h : l ∈ r.listeners) : l.callback ∈ r.snapshot :=
  r.snapshot_perm.mem_iff.2 (List.mem_map_of_mem h)

theorem remove_of_unknown (h : ∀ l ∈ r.listeners, l.id ≠ id) : r.remove id = (false, r) := by
  have hany : r.listeners.any (·.id == id) = false := by simpa using h
  have hrest : r.listeners.filter (·.id != id) = r.listeners :=
    List.filter_eq_self.2 fun l hl => by simpa using h l hl
  simp [remove, hany, hrest]

/-- A removal says that it emptied the roster if that is what it did. -/
theorem remove_fst (r : Roster κ χ) (id : ListenerId) :
    (r.remove id).1 = true ↔ r.isEmpty = false ∧ (r.remove id).2.isEmpty = true := by
  have hr : (r.remove id).2.isEmpty = (r.listeners.filter (·.id != id)).isEmpty := rfl
  have ha : (r.remove id).1 = (r.listeners.any (·.id == id) && (r.remove id).2.isEmpty) := rfl
  rw [ha, Bool.and_eq_true_iff]
  refine and_congr_left fun hrest => ?_
  rw [hr, List.isEmpty_iff, List.filter_eq_nil_iff] at hrest
  -- Whoever is registered has this id, since nobody is left without it.
  have hid : ∀ l ∈ r.listeners, l.id = id := fun l hl => by simpa using hrest l hl
  cases hls : r.listeners with
  | nil => simp [isEmpty, hls]
  | cons l ls =>
    have hl := hid l (by rw [hls]; exact .head _)
    simp [isEmpty, hls, hl]

theorem map_some_contexts (r : Roster κ χ) :
    r.contexts.map some = (r.listeners.map (·.context)).filter Option.isSome := by
  rw [contexts]
  induction r.listeners with
  | nil => rfl
  | cons l ls ih =>
    rw [List.map_cons, List.filter_cons]
    cases hc : l.context with
    | none => simpa [List.filterMap_cons, hc] using ih
    | some c => simpa [List.filterMap_cons, hc] using ih

end Operations

/-! ## Additions and removals -/

inductive Act (κ χ : Type) where
  | add (callback : κ) (context : Option χ)
  | remove (id : ListenerId)
deriving DecidableEq, Repr

def Act.apply : Act κ χ → Roster κ χ → Roster κ χ
  | .add callback context, r => (r.add callback context).2
  | .remove id, r => (r.remove id).2

/-- An act and the roster that it found. -/
structure Turn (κ χ : Type) where
  act : Act κ χ
  before : Roster κ χ

namespace Turn

def after (t : Turn κ χ) : Roster κ χ := t.act.apply t.before

/-- It is a removal, and the answer was that it emptied the roster. -/
def emptied (t : Turn κ χ) : Bool :=
  match t.act with
  | .add .. => false
  | .remove id => (t.before.remove id).1

/-- It registered somebody where nobody was. -/
def fills (t : Turn κ χ) : Bool := t.before.isEmpty && !t.after.isEmpty

def joins? (t : Turn κ χ) : Option (Listener κ χ) :=
  match t.act with
  | .add callback context => some ⟨t.before.freshId, callback, context⟩
  | .remove _ => none

def leaves? (t : Turn κ χ) : Option ListenerId :=
  match t.act with
  | .add .. => none
  | .remove id => some id

theorem emptied_iff (t : Turn κ χ) :
    t.emptied = true ↔ t.before.isEmpty = false ∧ t.after.isEmpty = true := by
  obtain ⟨a, r⟩ := t
  cases a with
  | add callback context => simp [emptied, after, Act.apply, add, isEmpty]
  | remove id => exact remove_fst r id

theorem mem_after (t : Turn κ χ) (l : Listener κ χ) :
    l ∈ t.after.listeners ↔
      t.joins? = some l ∨ (t.leaves? ≠ some l.id ∧ l ∈ t.before.listeners) := by
  obtain ⟨a, r⟩ := t
  cases a with
  | add callback context =>
    simp [after, Act.apply, joins?, leaves?, eq_comm (a := l), or_comm]
  | remove id =>
    simp [after, Act.apply, joins?, leaves?, and_comm, eq_comm (a := id)]

end Turn

/-- The roster after several acts, one after the other. -/
def performed (r : Roster κ χ) (acts : List (Act κ χ)) : Roster κ χ :=
  acts.foldl (fun r a => a.apply r) r

/-- Several acts from a roster on, each with the roster that it found. -/
def turns : Roster κ χ → List (Act κ χ) → List (Turn κ χ)
  | _, [] => []
  | r, a :: acts => ⟨a, r⟩ :: turns (a.apply r) acts

section Performed

variable {r : Roster κ χ} {acts : List (Act κ χ)} {l : Listener κ χ} {id : ListenerId}

@[simp] theorem performed_cons (r : Roster κ χ) (a : Act κ χ) (acts : List (Act κ χ)) :
    performed r (a :: acts) = performed (a.apply r) acts := rfl

theorem performed_append (r : Roster κ χ) (acts later : List (Act κ χ)) :
    performed r (acts ++ later) = performed (performed r acts) later :=
  List.foldl_append ..

theorem performed_snoc (r : Roster κ χ) (acts : List (Act κ χ)) (a : Act κ χ) :
    performed r (acts ++ [a]) = a.apply (performed r acts) :=
  performed_append r acts [a]

theorem turns_append (r : Roster κ χ) (acts later : List (Act κ χ)) :
    turns r (acts ++ later) = turns r acts ++ turns (performed r acts) later := by
  induction acts generalizing r with
  | nil => rfl
  | cons a acts ih => simp [turns, ih]

theorem turns_snoc (r : Roster κ χ) (acts : List (Act κ χ)) (a : Act κ χ) :
    turns r (acts ++ [a]) = turns r acts ++ [⟨a, performed r acts⟩] :=
  turns_append r acts [a]

/-- **Who is registered in the end**: those who joined and whose ids have not been removed since,
and those who were there before and whose ids have not been removed at all. -/
theorem mem_performed (r : Roster κ χ) (acts : List (Act κ χ)) (l : Listener κ χ) :
    l ∈ (performed r acts).listeners ↔
      Lately (·.joins? = some l) (·.leaves? ≠ some l.id) (turns r acts) ∨
        (l ∈ r.listeners ∧ ∀ t ∈ turns r acts, t.leaves? ≠ some l.id) := by
  -- The last act decides, so the induction is from the end.
  induction acts using List.reverseRecOn with
  | nil => simp [turns, performed, not_lately_nil]
  | append_singleton acts a ih =>
    have hafter : performed r (acts ++ [a]) = (⟨a, performed r acts⟩ : Turn κ χ).after :=
      performed_snoc r acts a
    rw [hafter, Turn.mem_after, ih, turns_snoc, lately_snoc]
    simp only [List.forall_mem_append, List.forall_mem_singleton]
    tauto

/-! ## Ids -/

/-- Listeners have ids of their own, all of them given out before. -/
structure Keyed (r : Roster κ χ) : Prop where
  nodup : (r.listeners.map (·.id)).Nodup
  below : ∀ l ∈ r.listeners, l.id.number < r.nextId

theorem Keyed.empty : ({} : Roster κ χ).Keyed := ⟨.nil, by simp⟩

theorem Keyed.apply (h : r.Keyed) (a : Act κ χ) : (a.apply r).Keyed := by
  cases a with
  | add callback context =>
    refine ⟨?_, fun l hl => ?_⟩
    · have hfresh : ∀ l ∈ r.listeners, l.id ≠ r.freshId := by
        rintro l hl he
        have hlt := h.below l hl
        rw [he] at hlt
        exact Nat.lt_irrefl _ hlt
      have hids : (Act.add callback context |>.apply r).listeners.map (·.id) =
          r.listeners.map (·.id) ++ [r.freshId] := by simp [Act.apply, add]
      rw [hids, List.nodup_append]
      exact ⟨h.nodup, List.nodup_singleton _, by simpa using hfresh⟩
    · rcases (mem_add r callback context).1 hl with hl | rfl
      · exact Nat.lt_succ_of_lt (h.below l hl)
      · exact Nat.lt_succ_self _
  | remove id =>
    refine ⟨?_, fun l hl => h.below l ((mem_remove r id).1 hl).1⟩
    exact h.nodup.sublist (List.filter_sublist.map _)

theorem Keyed.performed (h : r.Keyed) (acts : List (Act κ χ)) : (r.performed acts).Keyed := by
  induction acts generalizing r with
  | nil => exact h
  | cons a acts ih => exact ih (h.apply a)

theorem nextId_le_apply (r : Roster κ χ) (a : Act κ χ) : r.nextId ≤ (a.apply r).nextId := by
  cases a with
  | add callback context => exact Nat.le_succ _
  | remove id => exact Nat.le_refl _

theorem nextId_le_performed (r : Roster κ χ) (acts : List (Act κ χ)) :
    r.nextId ≤ (r.performed acts).nextId := by
  induction acts generalizing r with
  | nil => exact Nat.le_refl _
  | cons a acts ih => exact Nat.le_trans (nextId_le_apply r a) (ih _)

/-- An id that has been given out and is not registered is never registered again. -/
theorem gone_performed (hid : id.number < r.nextId) (h : ∀ l ∈ r.listeners, l.id ≠ id)
    (acts : List (Act κ χ)) : ∀ l ∈ (r.performed acts).listeners, l.id ≠ id := by
  induction acts generalizing r with
  | nil => exact h
  | cons a acts ih =>
    refine ih (Nat.lt_of_lt_of_le hid (nextId_le_apply r a)) fun l hl => ?_
    cases a with
    | add callback context =>
      rcases (mem_add r callback context).1 hl with hl | rfl
      · exact h l hl
      · rintro rfl
        exact Nat.lt_irrefl _ hid
    | remove id' => exact h l ((mem_remove r id').1 hl).1

theorem nextId_le_of_joins {t : Turn κ χ} (ht : t ∈ turns r acts) (hl : t.joins? = some l) :
    r.nextId ≤ l.id.number := by
  induction acts generalizing r with
  | nil => cases ht
  | cons a acts ih =>
    rcases List.mem_cons.1 ht with rfl | ht
    · cases a with
      | add callback context =>
        obtain rfl := Option.some.inj hl
        exact Nat.le_refl _
      | remove id => cases hl
    · exact Nat.le_trans (nextId_le_apply r a) (ih ht)

/-- Once an id has been removed, removing it does nothing and says so. -/
theorem remove_eq_false_of_gone (hr : r.Keyed) (hl : l ∈ r.listeners) (acts : List (Act κ χ)) :
    ((r.remove l.id).2.performed acts).remove l.id =
      (false, (r.remove l.id).2.performed acts) :=
  remove_of_unknown <|
    gone_performed (r := (r.remove l.id).2) (hr.below l hl)
      (fun _ hm => ((mem_remove r l.id).1 hm).2) acts

/-! ## How often a roster is emptied -/

/-- Nobody leaves an empty roster behind that somebody has not filled before. -/
theorem count_emptied (r : Roster κ χ) (acts : List (Act κ χ)) :
    (turns r acts).countP (·.emptied) + (!(r.performed acts).isEmpty).toNat =
      (turns r acts).countP (·.fills) + (!r.isEmpty).toNat := by
  induction acts generalizing r with
  | nil => simp [turns, performed]
  | cons a acts ih =>
    have hstep := ih (a.apply r)
    have hemptied : (⟨a, r⟩ : Turn κ χ).emptied = (!r.isEmpty && (a.apply r).isEmpty) := by
      rw [Bool.eq_iff_iff, Turn.emptied_iff]
      simp [Turn.after]
    have hfills : (⟨a, r⟩ : Turn κ χ).fills = (r.isEmpty && !(a.apply r).isEmpty) := rfl
    simp only [turns, List.countP_cons, performed_cons, hemptied, hfills]
    cases hb : r.isEmpty <;> cases ha : (a.apply r).isEmpty <;> simp [ha] at hstep ⊢ <;> omega

end Performed

/-! ## Callbacks -/

/-- What callbacks do: by what they know (`μ`) and the roster that it finds, the one that is called
decides what to add and to remove, and what is known next. The answers to what it does follow from
the roster, so it may heed them too. -/
def Conduct (κ χ μ : Type) : Type := κ → μ → Roster κ χ → List (Act κ χ) × μ

structure Scene (κ χ μ : Type) where
  roster : Roster κ χ := {}
  memory : μ
  /-- What has been done to the roster, by callbacks or by others. -/
  acts : List (Act κ χ) := []
  called : List κ := []

namespace Scene

def perform (s : Scene κ χ μ) (a : Act κ χ) : Scene κ χ μ :=
  { s with roster := a.apply s.roster, acts := s.acts ++ [a] }

def call (conduct : Conduct κ χ μ) (k : κ) (s : Scene κ χ μ) : Scene κ χ μ :=
  let (acts, memory) := conduct k s.memory s.roster
  acts.foldl perform { s with memory, called := s.called ++ [k] }

/-- What several callbacks do, called one after the other. -/
def actsOf (conduct : Conduct κ χ μ) : List κ → Scene κ χ μ → List (Act κ χ)
  | [], _ => []
  | k :: ks, s => (conduct k s.memory s.roster).1 ++ actsOf conduct ks (s.call conduct k)

theorem foldl_perform (acts : List (Act κ χ)) (s : Scene κ χ μ) :
    acts.foldl perform s =
      { s with roster := s.roster.performed acts, acts := s.acts ++ acts } := by
  induction acts generalizing s with
  | nil => simp [performed]
  | cons a acts ih => simp [ih, perform]

theorem call_eq (conduct : Conduct κ χ μ) (k : κ) (s : Scene κ χ μ) :
    s.call conduct k =
      { roster := s.roster.performed (conduct k s.memory s.roster).1
        memory := (conduct k s.memory s.roster).2
        acts := s.acts ++ (conduct k s.memory s.roster).1
        called := s.called ++ [k] } :=
  foldl_perform ..

end Scene

/-- **One round**: the callbacks of the snapshot are called in turn, whatever they do to the
roster. -/
theorem callAll_call (conduct : Conduct κ χ μ) (ks : List κ) (s : Scene κ χ μ) :
    (callAll (Scene.call conduct) ks s).called = s.called ++ ks ∧
      (callAll (Scene.call conduct) ks s).acts = s.acts ++ Scene.actsOf conduct ks s ∧
      (callAll (Scene.call conduct) ks s).roster =
        s.roster.performed (Scene.actsOf conduct ks s) := by
  -- Over the snapshot, from a roster that is another one at every call.
  induction ks generalizing s with
  | nil => simp [callAll, Scene.actsOf, performed]
  | cons k ks ih =>
    obtain ⟨hcalled, hacts, hroster⟩ := ih (s.call conduct k)
    have hstep : callAll (Scene.call conduct) (k :: ks) s =
        callAll (Scene.call conduct) ks (s.call conduct k) := rfl
    rw [hstep, hcalled, hacts, hroster, Scene.actsOf, performed_append]
    simp [Scene.call_eq]

/-! ## Snapshots and rounds -/

structure Portrait (κ χ : Type) where
  /-- The roster that it was taken of. -/
  taken : Roster κ χ
  /-- The listeners in it, in the order in which they will be called. -/
  order : List (Listener κ χ)

def Portrait.callbacks (p : Portrait κ χ) : List κ := p.order.map (·.callback)

structure Round (κ χ μ : Type) where
  portrait : Portrait κ χ
  before : Scene κ χ μ

namespace Round

def after (conduct : Conduct κ χ μ) (r : Round κ χ μ) : Scene κ χ μ :=
  callAll (Scene.call conduct) r.portrait.callbacks r.before

def acts (conduct : Conduct κ χ μ) (r : Round κ χ μ) : List (Act κ χ) :=
  Scene.actsOf conduct r.portrait.callbacks r.before

end Round

/-- A roster comes into use empty. Then anybody adds and removes listeners, snapshots are taken, and
rounds are held over any of these. A snapshot has its listeners in any order. -/
inductive History (conduct : Conduct κ χ μ) :
    List (Portrait κ χ) → List (Round κ χ μ) → Scene κ χ μ → Prop
  | new (memory : μ) : History conduct [] [] { memory }
  | act {portraits rounds s} (a : Act κ χ) :
      History conduct portraits rounds s → History conduct portraits rounds (s.perform a)
  | learn {portraits rounds s} (memory : μ) :
      History conduct portraits rounds s → History conduct portraits rounds { s with memory }
  | keep {portraits rounds s} (order : List (Listener κ χ)) :
      History conduct portraits rounds s → order.Perm s.roster.listeners →
        History conduct (⟨s.roster, order⟩ :: portraits) rounds s
  | hold {portraits rounds s} (p : Portrait κ χ) :
      History conduct portraits rounds s → p ∈ portraits →
        History conduct portraits (rounds ++ [⟨p, s⟩]) (Round.after conduct ⟨p, s⟩)

/-! ## What a scene owes to its history -/

section Accounts

variable {conduct : Conduct κ χ μ} {portraits : List (Portrait κ χ)} {rounds : List (Round κ χ μ)}
  {s : Scene κ χ μ}

/-- What the roster holds and what removals answered, by all that was done. -/
structure Scene.Accounted (s : Scene κ χ μ) : Prop where
  /-- Additions and removals have been made in the order in which they were asked for. -/
  roster : s.roster = ({} : Roster κ χ).performed s.acts
  /-- The listeners are those who joined and whose ids have not been removed since. -/
  holds : ∀ l, l ∈ s.roster.listeners ↔
    Lately (·.joins? = some l) (·.leaves? ≠ some l.id) (turns {} s.acts)
  nodup : (s.roster.listeners.map (·.id)).Nodup
  contexts : s.roster.contexts.map some =
    (s.roster.listeners.map (·.context)).filter Option.isSome
  /-- A removal says that it emptied the roster if it found somebody and left nobody. -/
  emptied : ∀ t ∈ turns {} s.acts,
    (t.emptied = true ↔ t.before.isEmpty = false ∧ t.after.isEmpty = true)
  /-- It does so once for each time that the roster was filled and is not still. -/
  count : (turns {} s.acts).countP (·.emptied) + (!s.roster.isEmpty).toNat =
    (turns {} s.acts).countP (·.fills)
  /-- The removal of an id that nobody has changes nothing and says so. -/
  unknown : ∀ before id after, s.acts = before ++ .remove id :: after →
    (∀ l ∈ (({} : Roster κ χ).performed before).listeners, l.id ≠ id) →
      (({} : Roster κ χ).performed before).remove id =
        (false, ({} : Roster κ χ).performed before)
  /-- So does that of an id that was removed before. -/
  again : ∀ before l between after,
    s.acts = before ++ .remove l.id :: (between ++ .remove l.id :: after) →
    l ∈ (({} : Roster κ χ).performed before).listeners →
      (({} : Roster κ χ).performed (before ++ .remove l.id :: between)).remove l.id =
        (false, ({} : Roster κ χ).performed (before ++ .remove l.id :: between))

theorem Scene.accounted (h : s.roster = ({} : Roster κ χ).performed s.acts) : s.Accounted where
  roster := h
  holds l := by
    rw [h, mem_performed]
    simp
  nodup := by
    rw [h]
    exact (Keyed.empty.performed s.acts).nodup
  contexts := map_some_contexts s.roster
  emptied t _ := t.emptied_iff
  count := by
    rw [h, count_emptied]
    simp [isEmpty]
  unknown _ _ _ _ hid := remove_of_unknown hid
  again before l between after _ hl := by
    rw [performed_append, performed_cons]
    exact remove_eq_false_of_gone (Keyed.empty.performed before) hl between

/-- What a round does. -/
structure Round.Fixed (conduct : Conduct κ χ μ) (r : Round κ χ μ) : Prop where
  /-- Its listeners are those who were registered when the snapshot was taken, -/
  taken : r.portrait.order.Perm r.portrait.taken.listeners
  /-- each of them once. -/
  nodup : (r.portrait.order.map (·.id)).Nodup
  /-- Their callbacks are those of that moment. -/
  snapshot : r.portrait.callbacks.Perm r.portrait.taken.snapshot
  /-- They are called in turn and nobody else is, whatever their callbacks do. -/
  called : (r.after conduct).called = r.before.called ++ r.portrait.order.map (·.callback)
  /-- Who joins during the round is none of them. -/
  apart : ∀ t ∈ turns r.before.roster (r.acts conduct), ∀ l, t.joins? = some l →
    ∀ l' ∈ r.portrait.order, l'.id ≠ l.id
  /-- What the callbacks do is done in that order. -/
  acts : (r.after conduct).acts = r.before.acts ++ r.acts conduct
  /-- Those registered afterwards joined during the round or were there before, and have not been
  removed since. -/
  holds : ∀ l, l ∈ (r.after conduct).roster.listeners ↔
    Lately (·.joins? = some l) (·.leaves? ≠ some l.id) (turns r.before.roster (r.acts conduct)) ∨
      (l ∈ r.before.roster.listeners ∧
        ∀ t ∈ turns r.before.roster (r.acts conduct), t.leaves? ≠ some l.id)
  accounted : (r.after conduct).Accounted

/-- What is true of a kept snapshot at every later moment. -/
structure Portrait.Sound (p : Portrait κ χ) (s : Scene κ χ μ) : Prop where
  perm : p.order.Perm p.taken.listeners
  keyed : p.taken.Keyed
  old : p.taken.nextId ≤ s.roster.nextId

theorem Portrait.Sound.mono {p : Portrait κ χ} {s' : Scene κ χ μ} (h : p.Sound s)
    (hs : s.roster.nextId ≤ s'.roster.nextId) : p.Sound s' :=
  ⟨h.perm, h.keyed, Nat.le_trans h.old hs⟩

theorem Round.fixed_of_sound {p : Portrait κ χ} (hp : p.Sound s)
    (hs : s.roster = ({} : Roster κ χ).performed s.acts) :
    (Round.mk p s).Fixed conduct where
  taken := hp.perm
  nodup := (hp.perm.map _).nodup_iff.2 hp.keyed.nodup
  snapshot := (hp.perm.map _).trans p.taken.snapshot_perm.symm
  called := (callAll_call conduct p.callbacks s).1
  apart t ht l hl l' hl' he := by
    have hlt : l'.id.number < p.taken.nextId := hp.keyed.below l' (hp.perm.mem_iff.1 hl')
    have hge : s.roster.nextId ≤ l.id.number := nextId_le_of_joins ht hl
    rw [he] at hlt
    exact Nat.not_lt.2 (Nat.le_trans hp.old hge) hlt
  acts := (callAll_call conduct p.callbacks s).2.1
  holds l := by
    have hroster : (Round.after conduct ⟨p, s⟩).roster =
        s.roster.performed (Round.acts conduct ⟨p, s⟩) := (callAll_call conduct p.callbacks s).2.2
    rw [hroster]
    exact mem_performed s.roster (Round.acts conduct ⟨p, s⟩) l
  accounted := by
    obtain ⟨-, hacts, hroster⟩ := callAll_call conduct p.callbacks s
    refine Scene.accounted ?_
    rw [Round.after, hroster, hacts, performed_append, ← hs]

/-- The roster is what all acts made of it, and the snapshots stay sound. -/
theorem History.sound (h : History conduct portraits rounds s) :
    s.roster = ({} : Roster κ χ).performed s.acts ∧ ∀ p ∈ portraits, p.Sound s := by
  induction h with
  | new memory => exact ⟨rfl, by simp⟩
  | @act _ _ s a _ ih =>
    refine ⟨?_, fun p hp => (ih.2 p hp).mono (nextId_le_apply s.roster a)⟩
    show a.apply s.roster = ({} : Roster κ χ).performed (s.acts ++ [a])
    rw [performed_snoc, ← ih.1]
  | learn memory _ ih => exact ⟨ih.1, fun p hp => (ih.2 p hp).mono (Nat.le_refl _)⟩
  | @keep _ _ s order _ hperm ih =>
    refine ⟨ih.1, List.forall_mem_cons.2 ⟨⟨hperm, ?_, Nat.le_refl _⟩, ih.2⟩⟩
    rw [ih.1]
    exact Keyed.empty.performed s.acts
  | @hold _ _ s p _ _ ih =>
    obtain ⟨-, hacts, hroster⟩ := callAll_call conduct p.callbacks s
    refine ⟨?_, fun q hq => (ih.2 q hq).mono ?_⟩
    · rw [Round.after, hroster, hacts, performed_append, ← ih.1]
    · rw [Round.after, hroster]
      exact nextId_le_performed _ _

/-- **A round of notification is fixed by its snapshot.** Whatever callbacks do to the roster while
they are called, a round calls exactly those who were registered when the snapshot was taken, each
of them once, also when it is held later and when it is held again. Afterwards the roster holds what
all additions and removals come to in their order. -/
theorem History.fixed (h : History conduct portraits rounds s) :
    (∀ r ∈ rounds, r.Fixed conduct) ∧ s.Accounted := by
  refine ⟨?_, Scene.accounted h.sound.1⟩
  induction h with
  | new memory => simp
  | act a _ ih => exact ih
  | learn memory _ ih => exact ih
  | keep order _ _ ih => exact ih
  | hold p h hp ih =>
    exact List.forall_mem_append.2
      ⟨ih, List.forall_mem_singleton.2 (Round.fixed_of_sound (h.sound.2 p hp) h.sound.1)⟩

end Accounts

/-! ## Listeners that meddle -/

/-- The first removes itself, the second removes the third and adds a fourth, the third does
nothing, and the fourth removes the second. -/
def meddling : Conduct Nat String Unit
  | 0, _, _ => ([.remove ⟨0⟩], ())
  | 1, _, _ => ([.remove ⟨2⟩, .add 3 none], ())
  | 2, _, _ => ([], ())
  | _, _, _ => ([.remove ⟨1⟩], ())

/-- A snapshot of the first three is used twice: the third is called after it has been removed, and
the fourth is not called. -/
theorem meddlers_called : ∃ portraits rounds s, History meddling portraits rounds s ∧
    s.called = [0, 1, 2, 0, 1, 2] ∧ rounds.length = 2 ∧ s.roster.snapshot = [1, 3, 3] ∧
      s.roster.contexts = ["b"] ∧ (∀ r ∈ rounds, r.Fixed meddling) ∧ s.Accounted := by
  have none : History meddling [] [] _ := .new ()
  have three := ((none.act (.add 0 (some "a"))).act (.add 1 (some "b"))).act (.add 2 .none)
  have held := ((three.keep _ (.refl _)).hold _ (.head _)).hold _ (.head _)
  exact ⟨_, _, _, held, by decide, by decide, by decide, by decide, held.fixed⟩

end Freshness.Roster
