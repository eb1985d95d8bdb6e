/-!
# Numbers in text

* `wordBound` : one more than the largest number that fits into 64 bits;
* `hexDigit?` : the value of a hexadecimal digit of either case;
* `ofDigits?` : the number that digits in a base up to 16 stand for;
* `wordOf?` : the number below `wordBound` that a whole text stands for, in decimal digits, with or
  without a plus sign;
* `ofDigits?_toDigits` : the digits of a number stand for it; `toDigits_eq_cons` : they start with a
  zero only if that is all.
-/

namespace Freshness

def wordBound : Nat := UInt64.size

namespace Text

def hexDigit? (c : Char) : Option Nat :=
  if '0' ≤ c ∧ c ≤ '9' then some (c.toNat - 48)
  else if 'a' ≤ c ∧ c ≤ 'f' then some (c.toNat - 87)
  else if 'A' ≤ c ∧ c ≤ 'F' then some (c.toNat - 55)
  else none

theorem hexDigit?_digitChar {d : Nat} (h : d < 16) : hexDigit? (Nat.digitChar d) = some d := by
  have all : ∀ d, d < 16 → hexDigit? (Nat.digitChar d) = some d := by decide
  exact all d h

def digit? (base : Nat) (c : Char) : Option Nat := (hexDigit? c).filter (· < base)

theorem digit?_digitChar {base d : Nat} (hb : base ≤ 16) (h : d < base) :
    digit? base (Nat.digitChar d) = some d := by
  simp [digit?, hexDigit?_digitChar (Nat.lt_of_lt_of_le h hb), h]

/-- The number that digits stand for, the one in front of them included. -/
def ofDigitsAfter? (base : Nat) : (before : Nat) → List Char → Option Nat
  | n, [] => some n
  | n, c :: cs => (digit? base c).bind fun d => ofDigitsAfter? base (base * n + d) cs

def ofDigits? (base : Nat) (cs : List Char) : Option Nat := ofDigitsAfter? base 0 cs

theorem ofDigitsAfter?_append (base n : Nat) (cs ds : List Char) :
    ofDigitsAfter? base n (cs ++ ds) =
      (ofDigitsAfter? base n cs).bind fun m => ofDigitsAfter? base m ds := by
  induction cs generalizing n with
  | nil => rfl
  | cons c cs ih => cases h : digit? base c <;> simp [ofDigitsAfter?, h, ih]

theorem ofDigits?_toDigits {base : Nat} (h1 : 1 < base) (hb : base ≤ 16) (n : Nat) :
    ofDigits? base (Nat.toDigits base n) = some n := by
  induction n using Nat.strongRecOn with
  | ind n ih =>
    by_cases h : n < base
    · rw [Nat.toDigits_of_lt_base h]
      simp [ofDigits?, ofDigitsAfter?, digit?_digitChar hb h]
    · have hlt : n % base < base := Nat.mod_lt _ (by omega)
      rw [Nat.toDigits_of_base_le h1 (by omega), ofDigits?, ofDigitsAfter?_append,
        ← ofDigits?, ih (n / base) (Nat.div_lt_self (by omega) h1)]
      simp [ofDigitsAfter?, digit?_digitChar hb hlt, Nat.div_add_mod]

/-- The digits of a number start with a zero only if that is all. -/
theorem toDigits_eq_cons (n : Nat) : ∃ c ds, Nat.toDigits 10 n = c :: ds ∧ c.isDigit = true ∧
    (∀ d ∈ ds, d.isDigit = true) ∧ (c = '0' → ds = []) := by
  have hall : ∀ d ∈ Nat.toDigits 10 n, d.isDigit = true := fun _ =>
    Nat.isDigit_of_mem_toDigits (by decide) (by decide)
  obtain ⟨c, ds, hd⟩ := List.exists_cons_of_ne_nil (Nat.toDigits_ne_nil (n := n) (b := 10))
  rw [hd] at hall
  refine ⟨c, ds, hd, hall c List.mem_cons_self, fun d h => hall d (List.mem_cons_of_mem c h), ?_⟩
  rintro rfl
  clear hall
  induction n using Nat.strongRecOn generalizing ds with
  | ind n ih =>
    by_cases hn : n < 10
    · rw [Nat.toDigits_of_lt_base hn] at hd
      exact (List.cons.inj hd).2.symm
    · rw [Nat.toDigits_of_base_le (by decide) (by omega)] at hd
      obtain ⟨c, cs, hc⟩ :=
        List.exists_cons_of_ne_nil (Nat.toDigits_ne_nil (n := n / 10) (b := 10))
      rw [hc] at hd
      obtain ⟨rfl, -⟩ := List.cons.inj hd
      -- all digits but the last one would be a zero, which is not the quotient
      obtain rfl := ih (n / 10) (by omega) cs hc
      have hz : ofDigits? 10 ['0'] = some (n / 10) :=
        hc ▸ ofDigits?_toDigits (by decide) (by decide) (n / 10)
      have hq : 0 = n / 10 := Option.some.inj hz
      omega

/-- The number that a text of decimal digits stands for, a plus sign in front allowed. -/
def wordOf? (s : String) : Option Nat := do
  let ds := match s.toList with
    | '+' :: ds => ds
    | ds => ds
  let n ← if ds.isEmpty then none else ofDigits? 10 ds
  if n < wordBound then some n else none

example : wordOf? "+007" = some 7 := by decide
example : wordOf? "+" = none := by decide
example : wordOf? "18446744073709551616" = none := by decide

end Text

end Freshness
