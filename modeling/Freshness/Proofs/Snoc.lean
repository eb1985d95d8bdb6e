import Mathlib.Data.List.Basic

/-!
# Histories grow at the end

* `snoc_eq_append_cons` : where something stands in a history with one entry more;
* `Lately` : something of one kind has happened, and since then only things of another;
* `filterMap_snoc` : what is read off such a history; `filterMap_sublist_filterMap` : who reads
  more;
* `eq_of_nodup_filterMap` : what is read off once stands at one place; `countP_flatMap_of_eq` : how
  often something has happened, if each entry has it once or not at all.
-/

namespace Freshness

variable {β γ : Type}

theorem snoc_eq_append_cons {xs before after : List β} {x y : β} :
    xs ++ [x] = before ++ y :: after ↔
      (after = [] ∧ x = y ∧ xs = before) ∨
        ∃ init, after = init ++ [x] ∧ xs = before ++ y :: init := by
  constructor
  · intro h
    rcases List.eq_nil_or_concat after with rfl | ⟨init, z, rfl⟩
    · obtain ⟨rfl, hy⟩ := List.append_inj' h rfl
      exact .inl ⟨rfl, List.singleton_inj.1 hy, rfl⟩
    · rw [List.concat_eq_append, ← List.cons_append, ← List.append_assoc] at h
      obtain ⟨rfl, hz⟩ := List.append_inj' h rfl
      obtain rfl := List.singleton_inj.1 hz
      exact .inr ⟨init, List.concat_eq_append .., rfl⟩
  · rintro (⟨rfl, rfl, rfl⟩ | ⟨init, rfl, rfl⟩)
    · rfl
    · simp

/-- Something of one kind has happened, and since then only things of another. -/
def Lately (p q : β → Prop) (xs : List β) : Prop :=
  ∃ before x after, xs = before ++ x :: after ∧ p x ∧ ∀ y ∈ after, q y

theorem not_lately_nil (p q : β → Prop) : ¬ Lately p q [] := by
  rintro ⟨before, x, after, h, -⟩
  cases before <;> cases h

theorem lately_snoc {p q : β → Prop} {xs : List β} {x : β} :
    Lately p q (xs ++ [x]) ↔ p x ∨ (q x ∧ Lately p q xs) := by
  constructor
  · rintro ⟨before, y, after, h, hp, hq⟩
    rcases snoc_eq_append_cons.1 h with ⟨-, rfl, -⟩ | ⟨init, rfl, rfl⟩
    · exact .inl hp
    · exact .inr ⟨hq x (by simp), before, y, init, rfl, hp, fun z hz => hq z (by simp [hz])⟩
  · rintro (hp | ⟨hq, before, y, after, rfl, hp, ha⟩)
    · exact ⟨xs, x, [], rfl, hp, by simp⟩
    · refine ⟨before, y, after ++ [x], by simp, hp, ?_⟩
      exact List.forall_mem_append.2 ⟨ha, List.forall_mem_singleton.2 hq⟩

theorem filterMap_snoc (f : β → Option γ) (xs : List β) (x : β) :
    (xs ++ [x]).filterMap f = xs.filterMap f ++ (f x).toList := by
  rw [List.filterMap_append]
  cases h : f x <;> simp [h]

theorem filterMap_snoc_of_none {f : β → Option γ} {x : β} (h : f x = none) (xs : List β) :
    (xs ++ [x]).filterMap f = xs.filterMap f := by
  rw [filterMap_snoc, h, Option.toList_none, List.append_nil]

theorem filterMap_snoc_of_some {f : β → Option γ} {x : β} {y : γ} (h : f x = some y)
    (xs : List β) : (xs ++ [x]).filterMap f = xs.filterMap f ++ [y] := by
  rw [filterMap_snoc, h, Option.toList_some]

theorem filterMap_sublist_filterMap {f g : β → Option γ} (h : ∀ x y, f x = some y → g x = some y)
    (xs : List β) : (xs.filterMap f).Sublist (xs.filterMap g) := by
  induction xs with
  | nil => exact .slnil
  | cons x xs ih =>
    cases hf : f x with
    | none =>
      rw [List.filterMap_cons_none hf]
      exact ih.trans ((List.sublist_cons_self x xs).filterMap g)
    | some y =>
      rw [List.filterMap_cons_some hf, List.filterMap_cons_some (h x y hf)]
      exact ih.cons_cons y

theorem eq_of_nodup_filterMap {f : β → Option γ} {xs : List β} (h : (xs.filterMap f).Nodup)
    {x y : β} {z : γ} (hx : x ∈ xs) (hy : y ∈ xs) (hfx : f x = some z) (hfy : f y = some z) :
    x = y := by
  induction xs with
  | nil => cases hx
  | cons a xs ih =>
    have hmem : ∀ {b : β}, b ∈ xs → f b = some z → z ∈ xs.filterMap f :=
      fun hb hfb => List.mem_filterMap.2 ⟨_, hb, hfb⟩
    cases hfa : f a with
    | none =>
      rw [List.filterMap_cons_none hfa] at h
      have htail : ∀ {b : β}, b ∈ a :: xs → f b = some z → b ∈ xs := by
        intro b hb hfb
        refine List.mem_of_ne_of_mem ?_ hb
        rintro rfl
        cases hfa.symm.trans hfb
      exact ih h (htail hx hfx) (htail hy hfy)
    | some w =>
      rw [List.filterMap_cons_some hfa, List.nodup_cons] at h
      rcases List.mem_cons.1 hx with rfl | hx' <;> rcases List.mem_cons.1 hy with rfl | hy'
      · rfl
      · obtain rfl := Option.some.inj (hfa.symm.trans hfx)
        exact absurd (hmem hy' hfy) h.1
      · obtain rfl := Option.some.inj (hfa.symm.trans hfy)
        exact absurd (hmem hx' hfx) h.1
      · exact ih h.2 hx' hy'

theorem countP_flatMap_of_eq {f : β → List γ} {p : γ → Bool} {q : β → Bool}
    (h : ∀ x, (f x).countP p = if q x then 1 else 0) (xs : List β) :
    (xs.flatMap f).countP p = xs.countP q := by
  induction xs with
  | nil => rfl
  | cons x xs ih =>
    rw [List.flatMap_cons, List.countP_append, ih, h, List.countP_cons, Nat.add_comm]

end Freshness
