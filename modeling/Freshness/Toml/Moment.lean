import Freshness.Timestamp
import Freshness.Toml.Basic

/-!
# TOML dates and times

* `dropDate?` : the rest after a date of the Gregorian calendar;
* `dropTime?` : the rest after a time of day, which may lie in a leap second;
* `dropOffset?` : the rest after an offset from UTC, if there is one;
* `startsMoment` : four digits and a hyphen, or two and a colon, with which nothing but a date or a
  time starts;
* `readMoment?` : a date, a time, or both, the latter with or without an offset.
-/

namespace Freshness.Toml

/-- The number of two digits, if it lies in a range, and the rest. -/
def readPair? (low high : Nat) : List Char → Option (Nat × List Char)
  | a :: b :: rest =>
    let n := Nat.ofDigitChars 10 [a, b] 0
    if a.isDigit ∧ b.isDigit ∧ low ≤ n ∧ n ≤ high then some (n, rest) else none
  | _ => none

def dropMark? (mark : Char) : List Char → Option (List Char)
  | c :: rest => if c = mark then some rest else none
  | [] => none

/-- A date starts here, or nothing at all. -/
def startsDate : List Char → Bool
  | a :: b :: c :: d :: '-' :: _ => [a, b, c, d].all Char.isDigit
  | _ => false

/-- A time starts here, or nothing at all. -/
def startsTime : List Char → Bool
  | a :: b :: ':' :: _ => a.isDigit && b.isDigit
  | _ => false

def startsMoment (cs : List Char) : Bool := startsDate cs || startsTime cs

def dropDate? (cs : List Char) : Option (List Char) := do
  let year := Nat.ofDigitChars 10 (cs.take 4) 0
  let (month, rest) ← readPair? 1 12 (← dropMark? '-' (cs.drop 4))
  let (_, rest) ← readPair? 1 (daysInMonth year month) (← dropMark? '-' rest)
  some rest

def dropTime? (cs : List Char) : Option (List Char) := do
  let (_, rest) ← readPair? 0 23 cs
  let (_, rest) ← readPair? 0 59 (← dropMark? ':' rest)
  let (_, rest) ← readPair? 0 60 (← dropMark? ':' rest)
  match rest with
  | '.' :: c :: rest => if c.isDigit then some (rest.dropWhile Char.isDigit) else none
  | rest => some rest

def dropHours? (cs : List Char) : Option (List Char) := do
  let (_, rest) ← readPair? 0 23 cs
  let (_, rest) ← readPair? 0 59 (← dropMark? ':' rest)
  some rest

def dropOffset? : List Char → Option (List Char)
  | 'Z' :: rest | 'z' :: rest => some rest
  | '+' :: rest | '-' :: rest => dropHours? rest
  | rest => some rest

/-- The rest after a date and the time that may follow it, after `T` or a blank. -/
def dropDateTime? (cs : List Char) : Option (List Char) := do
  match ← dropDate? cs with
  | c :: rest =>
    if (c = 'T' ∨ c = 't' ∨ c = ' ') ∧ startsTime rest then dropOffset? (← dropTime? rest)
    else some (c :: rest)
  | [] => some []

def readMoment? (cs : List Char) : Option (Scalar × List Char) :=
  (if startsDate cs then dropDateTime? cs else dropTime? cs).map fun rest =>
    (.moment (String.ofList (cs.take (cs.length - rest.length))), rest)

example : readMoment? "1979-05-27 07:32:00.5-07:00#".toList =
    some (.moment "1979-05-27 07:32:00.5-07:00", ['#']) := by decide +kernel
example : readMoment? "2023-02-29".toList = none := by decide +kernel

end Freshness.Toml
