import Freshness.Proofs.Roster
import Freshness.Roster.Script

/-!
# Scripts are histories of a roster

* `resolve`, `conduct` : what the deeds of a listener come to, when its names are known: additions
  and removals by ids, and the names that are known next;
* `foldl_perform` : a stage performs them;
* `Shows` : a stage shows a scene, and its kept snapshots are portraits of the history;
* `Shows.callAll` : a round goes on alike in both;
* `Follows.step`, `Follows.script` : one operation and a whole script go on with the history. What
  is heard of the callbacks and of removals is what the history says.
-/

namespace Freshness.Roster.Script

/-- Names of listeners, the newest first. -/
abbrev Names := List (String × ListenerId)

/-- What deeds come to, by the names and the id that the next listener will get. -/
def resolve : List Deed → Names → Nat → List (Act Callback String) × Names
  | [], names, _ => ([], names)
  | .add label :: deeds, names, nextId =>
    let rest := resolve deeds ((label, ⟨nextId⟩) :: names) (nextId + 1)
    (.add { label } none :: rest.1, rest.2)
  | .remove label :: deeds, names, nextId =>
    let rest := resolve deeds names nextId
    match names.lookup label with
    | none => rest
    | some id => (.remove id :: rest.1, rest.2)

def conduct : Conduct Callback String Names := fun k names r => resolve k.deeds names r.nextId

def emptyings (r : Roster Callback String) (acts : List (Act Callback String)) : Nat :=
  (turns r acts).countP (·.emptied)

variable {s : Stage} {scene : Scene Callback String Names} {called : List String}
  {acts : List (Act Callback String)} {portraits : List (Portrait Callback String)}
  {rounds : List (Round Callback String Names)}

theorem emptyings_cons (r : Roster Callback String) (a : Act Callback String)
    (acts : List (Act Callback String)) :
    emptyings r (a :: acts) = (Turn.mk a r).emptied.toNat + emptyings (a.apply r) acts := by
  rw [emptyings, turns, List.countP_cons, Nat.add_comm]
  cases (Turn.mk a r).emptied <;> rfl

theorem emptyings_append (r : Roster Callback String) (acts later : List (Act Callback String)) :
    emptyings r (acts ++ later) = emptyings r acts + emptyings (performed r acts) later := by
  rw [emptyings, turns_append, List.countP_append]
  rfl

theorem foldl_perform (deeds : List Deed) (s : Stage) :
    deeds.foldl Stage.perform s =
      { s with
        roster := s.roster.performed (resolve deeds s.names s.roster.nextId).1
        names := (resolve deeds s.names s.roster.nextId).2
        emptied := s.emptied + emptyings s.roster (resolve deeds s.names s.roster.nextId).1 } := by
  induction deeds generalizing s with
  | nil => rfl
  | cons deed deeds ih =>
    rw [List.foldl_cons, ih]
    cases deed with
    | add label =>
      rw [resolve, emptyings_cons]
      simp [Stage.perform, Stage.add, add, Act.apply, freshId, Turn.emptied]
    | remove label =>
      rw [resolve, Stage.perform, Stage.remove]
      cases s.names.lookup label with
      | none => rfl
      | some id =>
        dsimp only
        rw [emptyings_cons, performed_cons]
        have he : (Turn.mk (.remove id) s.roster).emptied = (s.roster.remove id).1 := rfl
        have hn : (s.roster.remove id).2.nextId = s.roster.nextId := rfl
        rw [he]
        cases (s.roster.remove id).1 <;> simp [Act.apply, hn, Nat.add_assoc]

/-- The stage shows the scene. Its listeners know the names. -/
structure Shows (portraits : List (Portrait Callback String)) (scene : Scene Callback String Names)
    (s : Stage) : Prop where
  roster : scene.roster = s.roster
  names : scene.memory = s.names
  kept : ∀ q ∈ s.snapshots, ∃ p ∈ portraits, p.callbacks = q.2

theorem Shows.call (h : Shows portraits scene s) (k : Callback) :
    Shows portraits (scene.call conduct k) (s.call k) ∧ (s.call k).fired = s.fired ++ [k.label] ∧
      (s.call k).emptied =
        s.emptied + emptyings s.roster (conduct k scene.memory scene.roster).1 := by
  rw [Scene.call_eq, Stage.call, foldl_perform, conduct, h.roster, h.names]
  exact ⟨⟨rfl, rfl, h.kept⟩, rfl, rfl⟩

/-- A round calls the same listeners in both, and they empty the roster as often. -/
theorem Shows.callAll (h : Shows portraits scene s) (ks : List Callback) :
    Shows portraits (callAll (Scene.call conduct) ks scene) (s.notify ks) ∧
      (s.notify ks).fired = s.fired ++ ks.map (·.label) ∧
      (s.notify ks).emptied = s.emptied + emptyings s.roster (Scene.actsOf conduct ks scene) := by
  induction ks generalizing scene s with
  | nil => exact ⟨h, (List.append_nil _).symm, rfl⟩
  | cons k ks ih =>
    obtain ⟨hk, hf, he⟩ := h.call k
    obtain ⟨hks, hfs, hes⟩ := ih hk
    refine ⟨hks, hfs.trans ?_, hes.trans ?_⟩
    · rw [hf, List.append_assoc]
      rfl
    · rw [he, Scene.actsOf, emptyings_append, ← hk.roster, Scene.call_eq, h.roster, Nat.add_assoc]

/-- A history with these calls and acts ends in a scene that the stage shows. -/
def Follows (called : List String) (acts : List (Act Callback String)) (s : Stage) : Prop :=
  ∃ portraits rounds scene, History conduct portraits rounds scene ∧ Shows portraits scene s ∧
    scene.called.map (·.label) = called ∧ scene.acts = acts

theorem follows_new : Follows [] [] {} :=
  ⟨[], [], _, .new [], ⟨rfl, rfl, fun _ hq => by cases hq⟩, rfl, rfl⟩

/-- The roster of a script is what all additions and removals come to. -/
theorem Follows.roster (h : Follows called acts s) :
    s.roster = ({} : Roster Callback String).performed acts := by
  obtain ⟨portraits, rounds, scene, hh, hs, -, rfl⟩ := h
  rw [← hs.roster]
  exact hh.sound.1

theorem Shows.forget (h : Shows portraits scene s) :
    Shows portraits scene { s with fired := [], emptied := 0 } := ⟨h.roster, h.names, h.kept⟩

/-- A round over a kept snapshot, from a stage on which nothing has been heard of yet. -/
theorem Shows.hold (h : Shows portraits scene s) (hh : History conduct portraits rounds scene)
    (hf : s.fired = []) (he : s.emptied = 0) {p : Portrait Callback String} (hp : p ∈ portraits) :
    ∃ more, Follows (scene.called.map (·.label) ++ (s.notify p.callbacks).fired)
        (scene.acts ++ more) (s.notify p.callbacks) ∧
      (s.notify p.callbacks).emptied = emptyings s.roster more := by
  obtain ⟨hn, hfired, hemptied⟩ := h.callAll p.callbacks
  obtain ⟨hcalled, hacts, -⟩ := callAll_call conduct p.callbacks scene
  refine ⟨_, ⟨_, _, _, hh.hold p hp, hn, ?_, hacts⟩, ?_⟩
  · rw [Round.after, hcalled, hfired, hf, List.map_append, List.nil_append]
  · rw [hemptied, he, Nat.zero_add]

/-- The snapshot of this moment. -/
def portrait (r : Roster Callback String) : Portrait Callback String :=
  ⟨r, r.order.arrange r.nextId r.listeners⟩

theorem Shows.keep (h : Shows portraits scene s) (hh : History conduct portraits rounds scene) :
    History conduct (portrait s.roster :: portraits) rounds scene ∧
      Shows (portrait s.roster :: portraits) scene s := by
  refine ⟨?_, h.roster, h.names, fun q hq => ?_⟩
  · rw [← h.roster]
    exact hh.keep _ (scene.roster.order.perm _ _)
  · obtain ⟨p, hp, he⟩ := h.kept q hq
    exact ⟨p, List.mem_cons_of_mem _ hp, he⟩

/-- Nothing happens. -/
theorem Shows.stay (h : Shows portraits scene s) (hh : History conduct portraits rounds scene)
    (hf : s.fired = []) (he : s.emptied = 0) :
    ∃ more, Follows (scene.called.map (·.label) ++ s.fired) (scene.acts ++ more) s ∧
      s.emptied = emptyings s.roster more :=
  ⟨[], ⟨_, _, _, hh, h, by simp [hf], by simp⟩, he⟩

theorem Shows.remove (h : Shows portraits scene s) (hh : History conduct portraits rounds scene)
    (hf : s.fired = []) (he : s.emptied = 0) (label : String) :
    ∃ more, Follows (scene.called.map (·.label) ++ (s.remove label).2.fired) (scene.acts ++ more)
        (s.remove label).2 ∧
      (s.remove label).2.emptied + (s.remove label).1.toNat = emptyings s.roster more := by
  unfold Stage.remove
  cases s.names.lookup label with
  | none => exact h.stay hh hf he
  | some id =>
    refine ⟨[.remove id], ⟨_, _, _, hh.act (.remove id), ⟨?_, h.names, h.kept⟩, ?_, rfl⟩, ?_⟩
    · show (scene.roster.remove id).2 = _
      rw [h.roster]
    · rw [hf, List.append_nil]
      rfl
    · rw [emptyings_cons, Nat.add_comm, he]
      rfl

theorem Shows.notifyKept (h : Shows portraits scene s)
    (hh : History conduct portraits rounds scene) (hf : s.fired = []) (he : s.emptied = 0)
    (label : String) :
    ∃ more, Follows (scene.called.map (·.label) ++ (s.notify (s.kept label)).fired)
        (scene.acts ++ more) (s.notify (s.kept label)) ∧
      (s.notify (s.kept label)).emptied = emptyings s.roster more := by
  unfold Stage.kept
  cases hl : s.snapshots.lookup label with
  | none => exact h.stay hh hf he
  | some ks =>
    obtain ⟨xs, ys, hks, -⟩ := List.lookup_eq_some_iff.1 hl
    obtain ⟨p, hp, rfl⟩ := h.kept (label, ks) (by simp [hks])
    exact h.hold hh hf he hp

/-- **An operation of a script** goes on with the history. The listeners that are heard of are those
that it calls, and as many removals are said to have emptied the roster as did. -/
theorem Follows.step (h : Follows called acts s) (step : Step) :
    ∃ more, Follows (called ++ (s.step step).2.fired) (acts ++ more) (s.step step).2 ∧
      (s.step step).2.emptied + (s.step step).1.toNat = emptyings s.roster more := by
  obtain ⟨portraits, rounds, scene, hh, hs, rfl, rfl⟩ := h
  have hf := hs.forget
  cases step with
  | add callback context =>
    refine ⟨[.add callback context], ⟨_, _, _, (hh.act (.add callback context)).learn _,
      ⟨?_, rfl, hs.kept⟩, (List.append_nil _).symm, rfl⟩, rfl⟩
    show ((scene.roster.add callback context).2 : Roster Callback String) = _
    rw [hs.roster]
    rfl
  | remove label => exact hf.remove hh rfl rfl label
  | notify =>
    obtain ⟨hk, hsk⟩ := hf.keep hh
    exact hsk.hold hk rfl rfl (.head _)
  | snapshot label =>
    obtain ⟨hk, hsk⟩ := hf.keep hh
    refine ⟨[], ⟨_, _, _, hk, ⟨hsk.roster, hsk.names, ?_⟩, (List.append_nil _).symm,
      (List.append_nil _).symm⟩, rfl⟩
    exact List.forall_mem_cons.2 ⟨⟨_, .head _, rfl⟩, hsk.kept⟩
  | notifySnapshot label => exact hf.notifyKept hh rfl rfl label

/-- **A whole script** goes on with it. -/
theorem Follows.script (h : Follows called acts s) (steps : List Step) :
    ∃ calls more, Follows (called ++ calls) (acts ++ more)
      (steps.foldl (fun s step => (s.step step).2) s) := by
  induction steps generalizing called acts s with
  | nil => exact ⟨[], [], by simpa using h⟩
  | cons step steps ih =>
    obtain ⟨acts', hs, -⟩ := h.step step
    obtain ⟨calls, more, hr⟩ := ih hs
    rw [List.append_assoc, List.append_assoc] at hr
    exact ⟨_, _, hr⟩

end Freshness.Roster.Script
