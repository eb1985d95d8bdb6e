import Freshness.Text.Shown

/-!
# Lengths of time

* `Duration` : a length of time in whole microseconds, the finest step that anything here is
  measured or drawn in;
* `Duration.ofMillis`, `Duration.ofSeconds`, `Duration.inMillis`, `Duration.inSeconds` :
  conversions, the latter two rounding down;
* `Duration.shown` : the text in diagnostics, in the largest of s, ms, µs, ns of which there is at
  least one, with the fraction cut after its last digit that is not zero.
-/

namespace Freshness

structure Duration where
  micros : Nat
deriving DecidableEq, Repr, Inhabited

namespace Duration

def zero : Duration := ⟨0⟩

def ofMillis (n : Nat) : Duration := ⟨n * 1000⟩

def ofSeconds (n : Nat) : Duration := ⟨n * 1000000⟩

def inMillis (d : Duration) : Nat := d.micros / 1000

def inSeconds (d : Duration) : Nat := d.micros / 1000000

def add (d e : Duration) : Duration := ⟨d.micros + e.micros⟩

instance : Add Duration := ⟨add⟩

@[simp] theorem inMillis_ofMillis (n : Nat) : (ofMillis n).inMillis = n := by
  simp [inMillis, ofMillis]

@[simp] theorem inSeconds_ofSeconds (n : Nat) : (ofSeconds n).inSeconds = n := by
  simp [inSeconds, ofSeconds]

/-! ## Text -/

/-- The last `width` decimal digits of `n`, zeros in front included. -/
def fixedDigits : (width n : Nat) → List Char
  | 0, _ => []
  | width + 1, n => fixedDigits width (n / 10) ++ [Nat.digitChar (n % 10)]

def withoutFinalZeros (ds : List Char) : List Char :=
  (ds.reverse.dropWhile (· == '0')).reverse

/-- `n` units of `10 ^ places` parts each; the fraction is cut after its last digit that counts. -/
def shownIn (places n : Nat) (unit : String) : String :=
  let fraction := withoutFinalZeros (fixedDigits places (n % Nat.pow 10 places))
  let whole := toString (n / Nat.pow 10 places)
  if fraction.isEmpty then whole ++ unit else whole ++ "." ++ String.ofList fraction ++ unit

def shown (d : Duration) : String :=
  if 1000000 ≤ d.micros then shownIn 6 d.micros "s"
  else if 1000 ≤ d.micros then shownIn 3 d.micros "ms"
  else if 1 ≤ d.micros then shownIn 0 d.micros "µs"
  else "0ns"

def shownOptional : Option Duration → String := Text.shownOption shown

example : (ofMillis 1500).shown = "1.5s" := by decide +kernel
example : (ofMillis 200).shown = "200ms" := by decide +kernel
example : (Duration.mk 1250).shown = "1.25ms" := by decide +kernel

end Duration

end Freshness
