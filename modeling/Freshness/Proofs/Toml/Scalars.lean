import Freshness.Toml.Reader
import Freshness.Toml.Text.RoundTrip
import Freshness.Toml.Writer

/-!
# TOML values read back from their lines

* `readNumber?_writeInteger`, `startsMoment_writeInteger` : an integer in range is read back, and
  cannot be taken for a date or a time;
* `Scalar.IsExact` : texts, booleans, and integers in range;
  `readValue_writeScalar` : each of them is read back from the end of a line.
-/

namespace Freshness.Toml

/-! ## Digits -/

theorem readMoreDigits_append {ds : List Char} (h : ∀ d ∈ ds, d.isDigit = true)
    (rest : List Char) :
    readMoreDigits Char.isDigit (ds ++ '\n' :: rest) = some (ds, '\n' :: rest) := by
  induction ds with
  | nil => rfl
  | cons d ds ih =>
    have hd := h d List.mem_cons_self
    rw [List.cons_append, readMoreDigits]
    · rw [if_pos hd, ih fun x hx => h x (List.mem_cons_of_mem d hx)]
      rfl
    · rintro x t rfl
      exact absurd hd (by decide)

theorem readWhole?_toDigits (n : Nat) (rest : List Char) :
    readWhole? (Nat.toDigits 10 n ++ '\n' :: rest) = some (Nat.toDigits 10 n, '\n' :: rest) := by
  obtain ⟨c, ds, hn, hc, hds, hz⟩ := Text.toDigits_eq_cons n
  rw [hn, List.cons_append]
  by_cases h : c = '0'
  · rw [h, hz h]
    rfl
  · rw [readWhole?, readDigits, if_pos hc, readMoreDigits_append hds]
    · rfl
    · rintro t he
      exact h (List.cons.inj he).1

/-! ## Integers -/

/-- The number with its sign. -/
def signed (negative : Bool) (n : Nat) : Int := if negative then -n else n

theorem readDecimal?_toDigits {negative : Bool} {n : Nat} (rest : List Char)
    (h : integerFits (signed negative n) = true) :
    readDecimal? negative (Nat.toDigits 10 n ++ '\n' :: rest) =
      some (.integer (signed negative n), '\n' :: rest) := by
  have hm : Text.ofDigits? 10 (Nat.toDigits 10 n) = some n :=
    Text.ofDigits?_toDigits (by decide) (by decide) n
  have hv : ofInteger? (if negative then -(n : Int) else n) =
      some (.integer (signed negative n)) := if_pos h
  simp [readDecimal?, readWhole?_toDigits, readFraction?, readExponent?, hm, hv]

theorem readSigned?_toDigits {negative : Bool} {n : Nat} (rest : List Char)
    (h : integerFits (signed negative n) = true) :
    readSigned? negative (Nat.toDigits 10 n ++ '\n' :: rest) =
      some (.integer (signed negative n), '\n' :: rest) := by
  rw [← readDecimal?_toDigits rest h]
  obtain ⟨c, ds, hn, hc, -⟩ := Text.toDigits_eq_cons n
  rw [hn, List.cons_append, readSigned?]
  · rintro t he
    obtain ⟨rfl, -⟩ := List.cons.inj he
    exact absurd hc (by decide)
  · rintro t he
    obtain ⟨rfl, -⟩ := List.cons.inj he
    exact absurd hc (by decide)

/-- How an integer is written: digits, which may have a minus sign in front. -/
theorem writeInteger_cases (n : Int) :
    (writeInteger n = '-' :: Nat.toDigits 10 n.natAbs ∧ signed true n.natAbs = n) ∨
      (writeInteger n = Nat.toDigits 10 n.natAbs ∧ signed false n.natAbs = n) := by
  unfold writeInteger
  split
  · exact .inl ⟨rfl, show -(n.natAbs : Int) = n by omega⟩
  · exact .inr ⟨rfl, show (n.natAbs : Int) = n by omega⟩

theorem readNumber?_writeInteger {n : Int} (rest : List Char) (h : integerFits n = true) :
    readNumber? (writeInteger n ++ '\n' :: rest) = some (.integer n, '\n' :: rest) := by
  obtain ⟨hw, hs⟩ | ⟨hw, hs⟩ := writeInteger_cases n
  · have hr := readSigned?_toDigits rest (hs.symm ▸ h)
    rw [hs] at hr
    rw [hw, List.cons_append, readNumber?]
    exact hr
  · have hr := readSigned?_toDigits rest (hs.symm ▸ h)
    rw [hs] at hr
    rw [hw, ← hr]
    obtain ⟨c, ds, hn, hc, -, hz⟩ := Text.toDigits_eq_cons n.natAbs
    rw [hn, List.cons_append, readNumber?]
    all_goals
      rintro t he
      obtain ⟨rfl, ht⟩ := List.cons.inj he
    -- after a zero the line ends
    iterate 3
      · rw [hz rfl] at ht
        cases ht
    iterate 2
      · exact absurd hc (by decide)

theorem startsMoment_cons {c : Char} (h : c.isDigit = false) (cs : List Char) :
    startsMoment (c :: cs) = false := by
  rw [startsMoment, Bool.or_eq_false_iff, startsDate.eq_def, startsTime.eq_def]
  constructor
  · split
    · next he => simp [← (List.cons.inj he).1, h]
    · rfl
  · split
    · next he => simp [← (List.cons.inj he).1, h]
    · rfl

theorem startsMoment_append {ds : List Char} (h : ∀ d ∈ ds, d.isDigit = true)
    (rest : List Char) : startsMoment (ds ++ '\n' :: rest) = false := by
  have ht : (ds ++ '\n' :: rest).takeWhile Char.isDigit = ds := by
    rw [List.takeWhile_append_of_pos h, List.takeWhile_cons_of_neg (by decide), List.append_nil]
  rw [startsMoment, Bool.or_eq_false_iff, startsDate.eq_def, startsTime.eq_def]
  constructor
  · split
    · next a b c d t he =>
      refine Bool.eq_false_iff.2 fun hd => ?_
      obtain rfl : [a, b, c, d] = ds := by simp_all
      cases he
    · rfl
  · split
    · next a b t he =>
      refine Bool.eq_false_iff.2 fun hd => ?_
      obtain rfl : [a, b] = ds := by simp_all
      cases he
    · rfl

theorem startsMoment_writeInteger (n : Int) (rest : List Char) :
    startsMoment (writeInteger n ++ '\n' :: rest) = false := by
  obtain ⟨hw, -⟩ | ⟨hw, -⟩ := writeInteger_cases n
  · rw [hw]
    exact startsMoment_cons (by decide) _
  · obtain ⟨c, ds, hn, hc, hds, -⟩ := Text.toDigits_eq_cons n.natAbs
    rw [hw]
    refine startsMoment_append ?_ rest
    rw [hn]
    exact List.forall_mem_cons.2 ⟨hc, hds⟩

/-! ## Values -/

/-- The value can be written and stands for itself: a text, a boolean, or an integer in range. -/
def Scalar.IsExact : Scalar → Prop
  | .text _ | .boolean _ => True
  | .integer n => integerFits n = true
  | .real _ | .moment _ => False

theorem writeText_eq_cons (cs : List Char) :
    ∃ ds, writeText cs = '"' :: ds ∨ writeText cs = '\'' :: ds := by
  unfold writeText
  cases formOf cs with
  | basic => exact ⟨_, .inl rfl⟩
  | literal => exact ⟨_, .inr rfl⟩
  | longBasic => exact ⟨_, .inl rfl⟩
  | longLiteral => exact ⟨_, .inr rfl⟩

theorem writeInteger_eq_cons (n : Int) :
    ∃ c cs, writeInteger n = c :: cs ∧ (c = '-' ∨ c.isDigit = true) := by
  obtain ⟨hw, -⟩ | ⟨hw, -⟩ := writeInteger_cases n
  · exact ⟨_, _, hw, .inl rfl⟩
  · obtain ⟨c, ds, hn, hc, -⟩ := Text.toDigits_eq_cons n.natAbs
    exact ⟨c, ds, hw.trans hn, .inr hc⟩

/-- A value starts with no blank, and not like a value with parts. -/
theorem writeScalar_eq_cons {v : Scalar} (h : v.IsExact) :
    ∃ c cs, writeScalar v = c :: cs ∧ isSpace c = false ∧ c ≠ '[' ∧ c ≠ '\x7b' := by
  cases v with
  | text s =>
    obtain ⟨ds, hw | hw⟩ := writeText_eq_cons s.toList
    · exact ⟨_, ds, hw, by decide⟩
    · exact ⟨_, ds, hw, by decide⟩
  | integer n =>
    obtain ⟨c, cs, hw, rfl | hc⟩ := writeInteger_eq_cons n
    · exact ⟨_, cs, hw, by decide⟩
    · refine ⟨c, cs, hw, ?_, ?_, ?_⟩
      · refine Bool.eq_false_iff.2 fun hs => ?_
        obtain rfl | rfl : c = ' ' ∨ c = '\t' := by simpa [isSpace] using hs
        · exact absurd hc (by decide)
        · exact absurd hc (by decide)
      · rintro rfl
        exact absurd hc (by decide)
      · rintro rfl
        exact absurd hc (by decide)
  | boolean b => cases b <;> exact ⟨_, _, rfl, by decide⟩
  | real w | moment w => exact h.elim

theorem readPlain?_writeInteger {n : Int} (rest : List Char) (h : integerFits n = true) :
    readPlain? (writeInteger n ++ '\n' :: rest) = some (.integer n, '\n' :: rest) := by
  have hm := startsMoment_writeInteger n rest
  rw [← readNumber?_writeInteger rest h]
  obtain ⟨c, cs, hw, hc⟩ := writeInteger_eq_cons n
  rw [hw, List.cons_append] at hm ⊢
  rw [readPlain?, hm, if_neg Bool.false_ne_true]
  all_goals
    rintro t he
    obtain ⟨rfl, -⟩ := List.cons.inj he
    revert hc
    decide

theorem readScalar?_writeScalar {v : Scalar} (h : v.IsExact) (rest : List Char) :
    readScalar? (writeScalar v ++ '\n' :: rest) = some (v, '\n' :: rest) := by
  cases v with
  | text s =>
    have hr : readText? (writeText s.toList ++ '\n' :: rest) = some (s.toList, '\n' :: rest) :=
      readText?_writeText s.toList (by simp) (by simp)
    obtain ⟨ds, hw | hw⟩ := writeText_eq_cons s.toList
    all_goals
      rw [hw, List.cons_append] at hr
      rw [writeScalar, hw, List.cons_append, readScalar?, hr]
      simp only [Option.map_some, String.ofList_toList]
  | integer n =>
    rw [writeScalar, ← readPlain?_writeInteger rest h]
    obtain ⟨c, cs, hw, hc⟩ := writeInteger_eq_cons n
    rw [hw, List.cons_append, readScalar?]
    all_goals
      rintro t he
      obtain ⟨rfl, -⟩ := List.cons.inj he
      revert hc
      decide
  | boolean b => cases b <;> rfl
  | real w | moment w => exact h.elim

theorem readValue_writeScalar {v : Scalar} (h : v.IsExact) (depth : Nat) (rest : List Char) :
    readValue depth (writeScalar v ++ '\n' :: rest) = some (.scalar v, '\n' :: rest) := by
  have hr := readScalar?_writeScalar h rest
  obtain ⟨c, cs, hw, -, hb, hc⟩ := writeScalar_eq_cons h
  rw [hw, List.cons_append] at hr ⊢
  rw [readValue, hr, Option.map_some]
  · rintro d t - he
    exact hb (List.cons.inj he).1
  · rintro d t - he
    exact hc (List.cons.inj he).1

end Freshness.Toml
