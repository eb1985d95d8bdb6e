import Freshness.Settings.Environment

/-!
# What the texts of variables stand for

* `Text.Numeral` : a number below `2 ^ 64` in decimal digits, with or without a plus sign in front;
  `Text.wordOf?_eq_some_iff` : these texts are read as numbers, and no others;
* `Settings.IntervalText`, `Settings.FlagText` : the texts for an interval and for a flag;
  `Settings.intervalOf?_eq_some_iff`, `Settings.flagOf?_eq_some_iff` : they are read as that.
-/

namespace Freshness

namespace Text

/-- The number that decimal digits stand for. -/
def decimal (ds : List Char) : Nat := ds.foldl (fun n d => 10 * n + (d.toNat - '0'.toNat)) 0

def Numeral (s : String) (n : Nat) : Prop :=
  ∃ ds, (s.toList = ds ∨ s.toList = '+' :: ds) ∧ ds ≠ [] ∧ (∀ d ∈ ds, d.isDigit = true) ∧
    decimal ds = n ∧ n < 0x10000000000000000

/-- The text without a plus sign in front. -/
def unsigned (s : String) : List Char :=
  match s.toList with
  | '+' :: ds => ds
  | ds => ds

theorem wordOf?_eq (s : String) : wordOf? s =
    (if (unsigned s).isEmpty then none else ofDigits? 10 (unsigned s)).bind
      fun n => if n < wordBound then some n else none := by
  show (if (unsigned s).isEmpty then _ else _) = _
  split <;> rfl

theorem digit?_ten_eq_some_iff {c : Char} {d : Nat} :
    digit? 10 c = some d ↔ c.isDigit = true ∧ c.toNat - '0'.toNat = d := by
  have letters : ('a'.toNat = 97 ∧ 'A'.toNat = 65) ∧ '0'.toNat = 48 ∧ '9'.toNat = 57 := by decide
  have hdigit : c.isDigit = true ↔ '0' ≤ c ∧ c ≤ '9' := by
    simp only [Char.isDigit, Bool.and_eq_true, decide_eq_true_eq]
    exact Iff.rfl
  rw [digit?, Option.filter_eq_some_iff, hexDigit?, hdigit]
  split
  · next hd =>
    have hle : c.toNat ≤ '9'.toNat := hd.2
    rw [Option.some.injEq, decide_eq_true_eq]
    refine ⟨fun h => ⟨hd, h.1⟩, fun h => ⟨h.2, ?_⟩⟩
    omega
  · next hd =>
    -- a letter stands for ten at least
    refine iff_of_false (fun h => ?_) (fun h => hd h.1)
    obtain ⟨hs, hlt⟩ := h
    rw [decide_eq_true_eq] at hlt
    split at hs
    · next hl =>
      have hge : 'a'.toNat ≤ c.toNat := hl.1
      have hz : c.toNat - 87 = d := Option.some.inj hs
      omega
    split at hs
    · next hc =>
      have hge : 'A'.toNat ≤ c.toNat := hc.1
      have hz : c.toNat - 55 = d := Option.some.inj hs
      omega
    · cases hs

theorem ofDigitsAfter?_ten_eq_some_iff {n m : Nat} {cs : List Char} :
    ofDigitsAfter? 10 n cs = some m ↔ (∀ c ∈ cs, c.isDigit = true) ∧
      cs.foldl (fun n d => 10 * n + (d.toNat - '0'.toNat)) n = m := by
  induction cs generalizing n with
  | nil => simp [ofDigitsAfter?]
  | cons c cs ih =>
    simp only [ofDigitsAfter?, Option.bind_eq_some_iff, ih, digit?_ten_eq_some_iff,
      List.forall_mem_cons, List.foldl_cons]
    constructor
    · rintro ⟨d, ⟨hc, rfl⟩, hcs, hm⟩
      exact ⟨⟨hc, hcs⟩, hm⟩
    · rintro ⟨⟨hc, hcs⟩, hm⟩
      exact ⟨_, ⟨hc, rfl⟩, hcs, hm⟩

/-- The digits of a numeral are what stands after its sign. -/
theorem unsigned_eq {s : String} {ds : List Char} (hd : ∀ d ∈ ds, d.isDigit = true)
    (h : s.toList = ds ∨ s.toList = '+' :: ds) : unsigned s = ds := by
  unfold unsigned
  rcases h with h | h <;> rw [h]
  · split
    · have hplus : '+'.isDigit = false := by decide
      cases hplus.symm.trans (hd '+' (.head _))
    · rfl
  · rfl

theorem toList_eq_unsigned (s : String) :
    s.toList = unsigned s ∨ s.toList = '+' :: unsigned s := by
  unfold unsigned
  split
  · next h => exact .inr h
  · exact .inl rfl

theorem wordOf?_eq_some_iff {s : String} {n : Nat} : wordOf? s = some n ↔ Numeral s n := by
  have hb : ∀ m : Nat, (if m < wordBound then some m else none) = some n ↔
      m = n ∧ n < 0x10000000000000000 := by
    intro m
    split
    · next h =>
      rw [Option.some.injEq]
      exact ⟨fun e => ⟨e, e ▸ h⟩, And.left⟩
    · next h => exact iff_of_false (fun he => by cases he) fun he => h (he.1 ▸ he.2)
  simp only [wordOf?_eq, Option.bind_eq_some_iff, hb, Option.ite_none_left_eq_some,
    List.isEmpty_iff, ofDigits?, ofDigitsAfter?_ten_eq_some_iff]
  constructor
  · rintro ⟨m, ⟨hne, hd, hm⟩, rfl, hlt⟩
    exact ⟨unsigned s, toList_eq_unsigned s, hne, hd, hm, hlt⟩
  · rintro ⟨ds, hs, hne, hd, hm, hlt⟩
    rw [unsigned_eq hd hs]
    exact ⟨n, ⟨hne, hd, hm⟩, rfl, hlt⟩

end Text

namespace Settings

variable {written : String}

/-- Three words stand for no interval, in capitals or not, and numbers for so many seconds. -/
def IntervalText (written : String) : Option Nat → Prop
  | none => written.toLower ∈ ["0", "none", "off"]
  | some n => written.toLower ∉ ["0", "none", "off"] ∧ Text.Numeral written n

def FlagText (written : String) : Bool → Prop
  | true => written.toLower ∈ ["1", "true", "yes", "on"]
  | false => written.toLower ∈ ["0", "false", "no", "off"]

theorem lower_eq (written : String) : lower written = written.toLower := by
  show String.ofList (written.toList.map Char.toLower) = written.map Char.toLower
  rw [← String.toList_map, String.ofList_toList]

theorem intervalOf?_eq_some_iff {i : Option Nat} :
    intervalOf? written = some i ↔ IntervalText written i := by
  rw [intervalOf?, lower_eq]
  cases i with
  | none =>
    unfold IntervalText
    split
    · next h => exact iff_of_true rfl h
    · next h =>
      refine iff_of_false (fun he => ?_) h
      obtain ⟨n, -, hn⟩ := Option.map_eq_some_iff.1 he
      cases hn
  | some n =>
    dsimp only [IntervalText]
    rw [← Text.wordOf?_eq_some_iff]
    split
    · next h => exact iff_of_false (fun he => by cases he) fun hn => hn.1 h
    · next h => simp only [Option.map_eq_some_iff, Option.some.injEq, exists_eq_right, h,
        not_false_eq_true, true_and]

theorem flagOf?_eq_some_iff {b : Bool} : flagOf? written = some b ↔ FlagText written b := by
  have hboth : written.toLower ∈ ["0", "false", "no", "off"] →
      written.toLower ∉ ["1", "true", "yes", "on"] := by
    generalize written.toLower = s
    simp only [List.mem_cons, List.not_mem_nil, or_false]
    rintro (rfl | rfl | rfl | rfl) <;> decide
  rw [flagOf?, lower_eq]
  cases b with
  | true =>
    unfold FlagText
    split
    · next h => exact iff_of_true rfl h
    · next h => exact iff_of_false (fun he => by split at he <;> cases he) h
  | false =>
    unfold FlagText
    split
    · next h => exact iff_of_false (fun he => by cases he) fun hf => hboth hf h
    split
    · next h => exact iff_of_true rfl h
    · next h => exact iff_of_false (fun he => by cases he) h

end Settings

end Freshness
