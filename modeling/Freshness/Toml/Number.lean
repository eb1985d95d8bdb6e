import Freshness.Text.Digits
import Freshness.Toml.Basic

/-!
# TOML numbers

* `readDigits` : digits, with single underscores between them;
* `readPrefixed?` : an integer in base 16, 8 or 2 after its mark;
* `readDecimal?` : an integer in base 10, or a number with a fraction or an exponent;
* `readNumber?` : a number in any notation. An integer has to be in range, and a number with a
  fraction or an exponent must not lie above all that a double can hold;
* `writeInteger` : an integer in base 10.
-/

namespace Freshness.Toml

/-- Digits after the first, each one with or without an underscore in front. -/
def readMoreDigits (isDigit : Char → Bool) : List Char → Option (List Char × List Char)
  | [] => some ([], [])
  | '_' :: c :: rest =>
    if isDigit c then (readMoreDigits isDigit rest).map fun (ds, rest) => (c :: ds, rest) else none
  | c :: rest =>
    if isDigit c then (readMoreDigits isDigit rest).map fun (ds, rest) => (c :: ds, rest)
    else some ([], c :: rest)

def readDigits (isDigit : Char → Bool) : List Char → Option (List Char × List Char)
  | c :: rest =>
    if isDigit c then (readMoreDigits isDigit rest).map fun (ds, rest) => (c :: ds, rest) else none
  | [] => none

def ofInteger? (n : Int) : Option Scalar := if integerFits n then some (.integer n) else none

def readPrefixed? (base : Nat) (cs : List Char) : Option (Scalar × List Char) := do
  let (ds, rest) ← readDigits (fun c => (Text.digit? base c).isSome) cs
  let n ← Text.ofDigits? base ds
  let v ← ofInteger? n
  some (v, rest)

def readFraction? : List Char → Option (List Char × List Char)
  | '.' :: rest => readDigits Char.isDigit rest
  | rest => some ([], rest)

def readExponent? : List Char → Option (Bool × List Char × List Char)
  | e :: rest =>
    if e = 'e' ∨ e = 'E' then
      match rest with
      | '+' :: rest => (readDigits Char.isDigit rest).map fun r => (false, r)
      | '-' :: rest => (readDigits Char.isDigit rest).map fun r => (true, r)
      | rest => (readDigits Char.isDigit rest).map fun r => (false, r)
    else some (false, [], e :: rest)
  | [] => some (false, [], [])

/-- The least number that no double holds once it is rounded: half a step above the largest. -/
def doubleBound : Nat := Nat.pow 2 1024 - Nat.pow 2 970

/-- `m * 10 ^ e` is too large for a double. Far from the bound, the number of digits tells. -/
def exceedsDouble (m : Nat) (e : Int) : Bool :=
  let size : Int := (Nat.toDigits 10 m).length + e
  if m = 0 ∨ size < 308 then false
  else if 310 < size then true
  else if 0 ≤ e then doubleBound ≤ m * Nat.pow 10 e.toNat
  else doubleBound * Nat.pow 10 (-e).toNat ≤ m

/-- The digits before a fraction or exponent: a zero alone, or digits that start with another. -/
def readWhole? : List Char → Option (List Char × List Char)
  | '0' :: rest => some (['0'], rest)
  | cs => readDigits Char.isDigit cs

def readDecimal? (negative : Bool) (cs : List Char) : Option (Scalar × List Char) := do
  let (whole, rest) ← readWhole? cs
  let (fraction, rest) ← readFraction? rest
  let (down, exponent, rest) ← readExponent? rest
  let m ← Text.ofDigits? 10 (whole ++ fraction)
  if fraction.isEmpty ∧ exponent.isEmpty then
    let v ← ofInteger? (if negative then -m else m)
    some (v, rest)
  else
    let e ← Text.ofDigits? 10 exponent
    let e : Int := if down then -e else e
    if !negative && exceedsDouble m (e - fraction.length) then none
    else
      let sign := if negative then "-" else ""
      some (.real (sign ++ toString m ++ "e" ++ toString (e - fraction.length)), rest)

/-- A number after its sign: the word for infinity, that for no number, or decimal digits. -/
def readSigned? (negative : Bool) : List Char → Option (Scalar × List Char)
  | 'i' :: 'n' :: 'f' :: rest => some (.real (if negative then "-inf" else "inf"), rest)
  | 'n' :: 'a' :: 'n' :: rest => some (.real "nan", rest)
  | cs => readDecimal? negative cs

def readNumber? : List Char → Option (Scalar × List Char)
  | '0' :: 'x' :: rest => readPrefixed? 16 rest
  | '0' :: 'o' :: rest => readPrefixed? 8 rest
  | '0' :: 'b' :: rest => readPrefixed? 2 rest
  | '+' :: rest => readSigned? false rest
  | '-' :: rest => readSigned? true rest
  | cs => readSigned? false cs

def writeInteger (n : Int) : List Char :=
  if n < 0 then '-' :: Nat.toDigits 10 n.natAbs else Nat.toDigits 10 n.natAbs

example : readNumber? "0x1_F,".toList = some (.integer 31, [',']) := by decide +kernel
example : readNumber? "1e400".toList = none := by decide +kernel
example : readNumber? "-1e400".toList = some (.real "-1e400", []) := by decide +kernel

end Freshness.Toml
