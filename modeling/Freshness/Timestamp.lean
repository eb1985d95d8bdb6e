import Freshness.Duration
import Freshness.Text.Blank

/-!
# Moments in UTC

* `Timestamp` : seconds since 1970 and the part of a second, which reaches into a second one during
  a leap second;
* `daysBefore`, `dateOf` : days since 1970 and dates of the Gregorian calendar;
* `Timestamp.render` : the text, with 0, 3, 6 or 9 digits of the second, as few as say it all;
* `Timestamp.parse?` : the moment of a text. Parts may be shorter than usual, blanks may stand
  before each of them, a sign before the year allows more than four digits of it, and the offset is
  `Z`, `UTC` in any case, or hours and minutes.
-/

namespace Freshness

/-! ## The calendar -/

/-- Years divisible by 4, but of the full centuries only those divisible by 400. -/
def isLeapYear (y : Int) : Bool := y % 4 == 0 && (y % 100 != 0 || y % 400 == 0)

/-- The days of a month, 0 for numbers that name none. -/
def daysInMonth (y : Int) (m : Nat) : Nat :=
  if m = 2 then (if isLeapYear y then 29 else 28)
  else if m ∈ [4, 6, 9, 11] then 30
  else if 1 ≤ m ∧ m ≤ 12 then 31
  else 0

/-- Days from 1970-01-01 to a date. Years are counted from March, so that the leap day comes last;
400 years have 146097 days. -/
def daysBefore (y : Int) (m d : Nat) : Int :=
  let y := if m ≤ 2 then y - 1 else y
  let era := Int.fdiv y 400
  let yearOfEra := y - era * 400
  let monthFromMarch : Int := ((m + 9) % 12 : Nat)
  let dayOfYear := (153 * monthFromMarch + 2) / 5 + (d : Int) - 1
  let dayOfEra := yearOfEra * 365 + yearOfEra / 4 - yearOfEra / 100 + dayOfYear
  era * 146097 + dayOfEra - 719468

def dateOf (days : Int) : Int × Nat × Nat :=
  let z := days + 719468
  let era := Int.fdiv z 146097
  let dayOfEra := z - era * 146097
  let yearOfEra := (dayOfEra - dayOfEra / 1460 + dayOfEra / 36524 - dayOfEra / 146096) / 365
  let dayOfYear := dayOfEra - (365 * yearOfEra + yearOfEra / 4 - yearOfEra / 100)
  let monthFromMarch := (5 * dayOfYear + 2) / 153
  let day := dayOfYear - (153 * monthFromMarch + 2) / 5 + 1
  let month := if monthFromMarch < 10 then monthFromMarch + 3 else monthFromMarch - 9
  let year := yearOfEra + era * 400 + (if month ≤ 2 then 1 else 0)
  (year, month.toNat, day.toNat)

example : daysBefore 1970 1 1 = 0 := by decide
example : daysBefore 2024 2 29 = 19782 := by decide
example : dateOf 19782 = (2024, 2, 29) := by decide
example : dateOf (-1) = (1969, 12, 31) := by decide

/-! ## Moments -/

structure Timestamp where
  seconds : Int
  /-- Below `10 ^ 9`, or in a leap second below `2 * 10 ^ 9`. -/
  nanos : Nat
deriving DecidableEq, Repr, Inhabited

namespace Timestamp

/-- The moment so many milliseconds after 1970 began. -/
def ofMillis (ms : Int) : Timestamp := ⟨Int.fdiv ms 1000, (Int.fmod ms 1000).toNat * 1000000⟩

/-- Decimal digits of `n`, at least `width` of them. -/
def padded (width n : Nat) : List Char :=
  let ds := Nat.toDigits 10 n
  List.replicate (width - ds.length) '0' ++ ds

/-- A year: four digits from 0 to 9999, otherwise a sign and at least four. -/
def renderYear (y : Int) : List Char :=
  if 0 ≤ y ∧ y ≤ 9999 then padded 4 y.toNat
  else (if y < 0 then '-' else '+') :: padded 4 y.natAbs

def renderFraction (nanos : Nat) : List Char :=
  if nanos = 0 then []
  else if nanos % 1000000 = 0 then '.' :: padded 3 (nanos / 1000000)
  else if nanos % 1000 = 0 then '.' :: padded 6 (nanos / 1000)
  else '.' :: padded 9 nanos

def render (t : Timestamp) : String :=
  let (y, m, d) := dateOf (Int.fdiv t.seconds 86400)
  let s := (Int.fmod t.seconds 86400).toNat
  let leap := t.nanos / 1000000000
  String.ofList <|
    renderYear y ++ '-' :: padded 2 m ++ '-' :: padded 2 d ++ 'T' :: padded 2 (s / 3600) ++
      ':' :: padded 2 (s / 60 % 60) ++ ':' :: padded 2 (s % 60 + leap) ++
      renderFraction (t.nanos % 1000000000) ++ ['Z']

/-! ## Reading -/

/-- A number of one digit up to `most`, after blanks. -/
def readNumber (most : Nat) (cs : List Char) : Option (Nat × List Char) :=
  let cs := Text.dropBlanks cs
  let ds := (cs.take most).takeWhile Char.isDigit
  if ds.isEmpty then none else some (Nat.ofDigitChars 10 ds 0, cs.drop ds.length)

def readDigits (cs : List Char) : Option (Nat × List Char) :=
  let ds := cs.takeWhile Char.isDigit
  if ds.isEmpty then none else some (Nat.ofDigitChars 10 ds 0, cs.drop ds.length)

def readYear (cs : List Char) : Option (Int × List Char) :=
  match Text.dropBlanks cs with
  | '-' :: rest => (readDigits rest).map fun (n, rest) => (-(n : Int), rest)
  | '+' :: rest => (readDigits rest).map fun (n, rest) => ((n : Int), rest)
  | cs => (readNumber 4 cs).map fun (n, rest) => ((n : Int), rest)

def readMark (mark : Char) (cs : List Char) : Option (List Char) :=
  match Text.dropBlanks cs with
  | c :: rest => if c = mark then some rest else none
  | [] => none

/-- The part of a second in nanoseconds; digits after the ninth are dropped. -/
def readFraction : List Char → Option (Nat × List Char)
  | '.' :: rest =>
    let ds := rest.takeWhile Char.isDigit
    let kept := ds.take 9
    if ds.isEmpty then none
    else some (Nat.ofDigitChars 10 kept 0 * Nat.pow 10 (9 - kept.length), rest.drop ds.length)
  | cs => some (0, cs)

def readOffsetMinutes : List Char → Option (Nat × List Char)
  | a :: b :: rest =>
    if '0' ≤ a ∧ a ≤ '5' ∧ b.isDigit then some (Nat.ofDigitChars 10 [a, b] 0, rest) else none
  | _ => none

def readOffsetSize : List Char → Option (Nat × List Char)
  | a :: b :: rest =>
    if a.isDigit ∧ b.isDigit then do
      let rest := rest.dropWhile fun c => c = ':' || Text.isBlank c
      let (minutes, rest) ← readOffsetMinutes rest
      some (Nat.ofDigitChars 10 [a, b] 0 * 3600 + minutes * 60, rest)
    else none
  | _ => none

/-- The offset from UTC in seconds, after blanks. -/
def readOffset (cs : List Char) : Option (Int × List Char) :=
  match Text.dropBlanks cs with
  | 'Z' :: rest | 'z' :: rest => some (0, rest)
  | '+' :: rest => (readOffsetSize rest).map fun (n, rest) => ((n : Int), rest)
  | '-' :: rest | '−' :: rest => (readOffsetSize rest).map fun (n, rest) => (-(n : Int), rest)
  | u :: t :: c :: rest =>
    if [u, t, c].map Char.toUpper = ['U', 'T', 'C'] then some (0, rest) else none
  | _ => none

/-- The first and the last year with dates. -/
def firstYear : Int := -262143
def lastYear : Int := 262142

/-- The moment of a date and time of day at an offset, if there is such a date and time. -/
def ofParts? (y : Int) (m d hour minute second nanos : Nat) (offset : Int) : Option Timestamp :=
  if firstYear ≤ y ∧ y ≤ lastYear ∧ 1 ≤ d ∧ d ≤ daysInMonth y m ∧ hour < 24 ∧ minute < 60 ∧
      second ≤ 60 ∧ offset.natAbs < 86400 then
    let leap := second / 60
    let seconds := daysBefore y m d * 86400 +
      ((hour * 3600 + minute * 60 + (second - leap) : Nat) : Int) - offset
    if daysBefore firstYear 1 1 * 86400 ≤ seconds ∧
        seconds < daysBefore (lastYear + 1) 1 1 * 86400 then
      some ⟨seconds, nanos + leap * 1000000000⟩
    else none
  else none

def parse? (s : String) : Option Timestamp := do
  let (y, cs) ← readYear s.toList
  let (m, cs) ← readNumber 2 (← readMark '-' cs)
  let (d, cs) ← readNumber 2 (← readMark '-' cs)
  let cs ← match cs with
    | c :: cs => if c = 'T' ∨ c = 't' ∨ c = ' ' then some cs else none
    | [] => none
  let (hour, cs) ← readNumber 2 cs
  let (minute, cs) ← readNumber 2 (← readMark ':' cs)
  let (second, cs) ← readNumber 2 (← readMark ':' cs)
  let (nanos, cs) ← readFraction cs
  let (offset, cs) ← readOffset cs
  if (Text.dropBlanks cs).isEmpty then ofParts? y m d hour minute second nanos offset else none

end Timestamp

end Freshness
