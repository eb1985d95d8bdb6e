import Freshness.Timestamp
import Mathlib.Data.List.Basic
import Mathlib.Data.List.TakeWhile
import Mathlib.Data.Nat.Digits.Defs

/-!
# Moments read back from their text

* `InEra` : a day by the parts of its era, in which 400 years follow one another from March to March;
  `exists_dateOf` : the date of a day by these parts;
* `daysBefore_dateOf`, `dateOf_valid` : a day has a date, which leads back to it;
* `readNumber_padded`, `readFraction_renderFraction` : numbers that fill their place and parts of a
  second are read back;
* `Timestamp.Offset`, `Timestamp.renderAt` : an offset of hours and minutes, and the text of a moment
  as clocks there show it;
* `Timestamp.IsUsual` : a moment outside leap seconds, in a year of four digits;
  `Timestamp.Falls` : its date and time of day;
* `Timestamp.parse?_render`, `Timestamp.parse?_renderAt` : **a usual moment is read back from its
  text**, whatever the offset.
-/

namespace Freshness

/-! ## The calendar -/

/-- A day of an era by its century, its run of four years, its year and its day of the year, all
counted from zero and from March. A leap day is the last of its year. -/
structure InEra (dayOfEra century quad year day : Int) : Prop where
  sum : dayOfEra = 36524 * century + 1461 * quad + 365 * year + day
  centuries : 0 ≤ century ∧ century ≤ 3
  quads : 0 ≤ quad ∧ quad ≤ 24
  years : 0 ≤ year ∧ year ≤ 3
  days : 0 ≤ day ∧ day ≤ 365
  leap : day = 365 → year = 3 ∧ (quad < 24 ∨ century = 3)

theorem exists_inEra {dayOfEra : Int} (h0 : 0 ≤ dayOfEra) (h1 : dayOfEra < 146097) :
    ∃ century quad year day, InEra dayOfEra century quad year day := by
  obtain ⟨century, hc⟩ : ∃ c, c = min (dayOfEra / 36524) 3 := ⟨_, rfl⟩
  obtain ⟨quad, hq⟩ : ∃ q, q = (dayOfEra - 36524 * century) / 1461 := ⟨_, rfl⟩
  obtain ⟨year, hy⟩ : ∃ y, y = min ((dayOfEra - 36524 * century - 1461 * quad) / 365) 3 :=
    ⟨_, rfl⟩
  refine ⟨century, quad, year, dayOfEra - 36524 * century - 1461 * quad - 365 * year, ?_, ?_, ?_,
    ?_, ?_, ?_⟩ <;> omega

namespace InEra

variable {dayOfEra century quad year day : Int}

/-- The four corrections leave the days that make full years. -/
theorem yearOfEra (h : InEra dayOfEra century quad year day) :
    (dayOfEra - dayOfEra / 1460 + dayOfEra / 36524 - dayOfEra / 146096) / 365 =
      100 * century + 4 * quad + year := by
  obtain ⟨hs, hc, hq, hy, hd, hl⟩ := h
  -- only on the last day of the era the century is not that of the quotient
  have hcentury : dayOfEra / 36524 - dayOfEra / 146096 = century := by
    by_cases hlast : dayOfEra = 146096
    · omega
    · have hfirst : dayOfEra / 146096 = 0 := by omega
      omega
  have hquad : dayOfEra / 1460 =
      25 * century + quad + (24 * century + quad + 365 * year + day) / 1460 := by omega
  have hday : 0 ≤ day - (24 * century + quad + 365 * year + day) / 1460 ∧
      day - (24 * century + quad + 365 * year + day) / 1460 < 365 := by omega
  omega

theorem dayOfYear (h : InEra dayOfEra century quad year day) :
    dayOfEra - (365 * (100 * century + 4 * quad + year) + (100 * century + 4 * quad + year) / 4 -
      (100 * century + 4 * quad + year) / 100) = day := by
  obtain ⟨hs, hc, hq, hy, -, -⟩ := h
  omega

end InEra

/-- The months from March, and the days in each, of a year that begins in March. -/
theorem date_inYear {day month : Int} (h : 0 ≤ day ∧ day ≤ 365) (hm : month = (5 * day + 2) / 153) :
    (0 ≤ month ∧ month ≤ 11) ∧ 1 ≤ day - (153 * month + 2) / 5 + 1 ∧
      day - (153 * month + 2) / 5 + 1 ≤ 31 := by
  omega

/-- A date by the parts of its era. -/
theorem exists_dateOf (days : Int) : ∃ era century quad year day month,
    InEra (days + 719468 - era * 146097) century quad year day ∧ month = (5 * day + 2) / 153 ∧
      dateOf days =
        (era * 400 + 100 * century + 4 * quad + year + (if month < 10 then 0 else 1),
          (if month < 10 then month + 3 else month - 9).toNat,
          (day - (153 * month + 2) / 5 + 1).toNat) := by
  obtain ⟨era, he⟩ : ∃ era, era = Int.fdiv (days + 719468) 146097 := ⟨_, rfl⟩
  rw [Int.fdiv_eq_ediv_of_nonneg _ (by decide)] at he
  obtain ⟨century, quad, year, day, h⟩ : ∃ century quad year day,
      InEra (days + 719468 - era * 146097) century quad year day :=
    exists_inEra (by omega) (by omega)
  refine ⟨era, century, quad, year, day, _, h, rfl, ?_⟩
  obtain ⟨hm, -⟩ := date_inYear h.days rfl
  rw [dateOf, Int.fdiv_eq_ediv_of_nonneg _ (by decide), ← he, h.yearOfEra, h.dayOfYear]
  generalize (5 * day + 2) / 153 = month at hm
  refine Prod.ext ?_ rfl
  split <;> split <;> omega

/-- The days before a date, by the parts of its era. -/
theorem daysBefore_eq (era yearOfEra : Int) {day month : Int} {y : Int} {m d : Nat}
    (hy : 0 ≤ yearOfEra ∧ yearOfEra < 400) (hm : 0 ≤ month ∧ month ≤ 11)
    (hyear : y = era * 400 + yearOfEra + (if month < 10 then 0 else 1))
    (hmonth : (m : Int) = if month < 10 then month + 3 else month - 9)
    (hday : (d : Int) = day - (153 * month + 2) / 5 + 1) :
    daysBefore y m d =
      era * 146097 + (yearOfEra * 365 + yearOfEra / 4 - yearOfEra / 100 + day) - 719468 := by
  have hs : (if m ≤ 2 then y - 1 else y) = era * 400 + yearOfEra := by
    split <;> split at hmonth <;> split at hyear <;> omega
  have he : Int.fdiv (era * 400 + yearOfEra) 400 = era := by
    rw [Int.fdiv_eq_ediv_of_nonneg _ (by decide)]
    omega
  have hn : (((m + 9) % 12 : Nat) : Int) = month := by
    split at hmonth <;> omega
  rw [daysBefore, hs, he, hn, show era * 400 + yearOfEra - era * 400 = yearOfEra by omega]
  omega

/-- The days before a date lead back to it. -/
theorem daysBefore_dateOf (days : Int) :
    daysBefore (dateOf days).1 (dateOf days).2.1 (dateOf days).2.2 = days := by
  obtain ⟨era, century, quad, year, day, month, h, hm, hd⟩ := exists_dateOf days
  obtain ⟨hmonth, hday⟩ := date_inYear h.days hm
  have hn : ((if month < 10 then month + 3 else month - 9).toNat : Int) =
      if month < 10 then month + 3 else month - 9 := Int.toNat_of_nonneg (by split <;> omega)
  have hy := h.dayOfYear
  obtain ⟨-, hc, hq, hr, -, -⟩ := h
  rw [hd, daysBefore_eq era (100 * century + 4 * quad + year) (by omega) hmonth (by omega) hn
    (Int.toNat_of_nonneg (by omega))]
  omega

/-- A year from January has a leap day if the year from March before it ends with one. -/
theorem isLeapYear_of_inEra {era century quad : Int} (hq : 0 ≤ quad ∧ quad ≤ 24)
    (h : quad < 24 ∨ century = 3) :
    isLeapYear (era * 400 + 100 * century + 4 * quad + 3 + 1) = true := by
  simp only [isLeapYear, Bool.and_eq_true, Bool.or_eq_true, beq_iff_eq, bne_iff_ne]
  omega

theorem dateOf_valid (days : Int) :
    (1 ≤ (dateOf days).2.1 ∧ (dateOf days).2.1 ≤ 12) ∧
      1 ≤ (dateOf days).2.2 ∧ (dateOf days).2.2 ≤ daysInMonth (dateOf days).1 (dateOf days).2.1 := by
  obtain ⟨era, century, quad, year, day, month, h, hm, hd⟩ := exists_dateOf days
  obtain ⟨hmonth, hday⟩ := date_inYear h.days hm
  have hdays := h.days
  rw [hd]
  dsimp only
  refine ⟨?_, by omega, ?_⟩
  · split <;> omega
  · have hcases : month = 11 ∨ month = 0 ∨ month = 1 ∨ month = 2 ∨ month = 3 ∨ month = 4 ∨
        month = 5 ∨ month = 6 ∨ month = 7 ∨ month = 8 ∨ month = 9 ∨ month = 10 := by omega
    rcases hcases with rfl | rfl | rfl | rfl | rfl | rfl | rfl | rfl | rfl | rfl | rfl | rfl
    · show _ ≤ if isLeapYear (era * 400 + 100 * century + 4 * quad + year + 1) then 29 else 28
      split
      · omega
      · next hl =>
        have hne : day ≠ 365 := by
          intro hlast
          obtain ⟨rfl, hleap⟩ := h.leap hlast
          exact hl (isLeapYear_of_inEra h.quads hleap)
        omega
    all_goals
      simp [daysInMonth]
      omega

/-! ## Digits -/

namespace Timestamp

theorem isDigit_of_mem_padded {width n : Nat} {c : Char} (h : c ∈ padded width n) :
    c.isDigit = true := by
  rcases List.mem_append.1 h with h | h
  · rw [List.eq_of_mem_replicate h]
    rfl
  · exact Nat.isDigit_of_mem_toDigits (by decide) (by decide) h

theorem length_padded {width n : Nat} (hw : 0 < width) (hn : n < 10 ^ width) :
    (padded width n).length = width := by
  have hl := Nat.toDigits_length 10 n width hw hn
  rw [padded, List.length_append, List.length_replicate]
  omega

theorem ofDigitChars_padded (width n : Nat) : Nat.ofDigitChars 10 (padded width n) 0 = n := by
  have hz : ∀ k (ds : List Char),
      Nat.ofDigitChars 10 (List.replicate k '0' ++ ds) 0 = Nat.ofDigitChars 10 ds 0 := by
    intro k ds
    induction k with
    | zero => rfl
    | succ k ih => exact ih
  rw [padded, hz, Nat.ofDigitChars_toDigits (by decide) (by decide)]

theorem isBlank_of_isDigit {c : Char} (h : c.isDigit = true) : Text.isBlank c = false := by
  have hr : 48 ≤ c.toNat ∧ c.toNat ≤ 57 := by
    simp only [Char.isDigit, Bool.and_eq_true, decide_eq_true_eq, UInt32.le_iff_toNat_le] at h
    exact h
  simp only [Text.isBlank, Bool.or_eq_false_iff, Bool.and_eq_false_iff, decide_eq_false_iff_not,
    beq_eq_false_iff_ne]
  omega

theorem padded_eq_cons (width n : Nat) :
    ∃ c cs, padded width n = c :: cs ∧ c.isDigit = true := by
  obtain ⟨c, cs, h⟩ : ∃ c cs, padded width n = c :: cs := by
    refine List.exists_cons_of_ne_nil fun hn => ?_
    exact Nat.toDigits_ne_nil (List.append_eq_nil_iff.1 hn).2
  exact ⟨c, cs, h, isDigit_of_mem_padded (h ▸ List.mem_cons_self)⟩

theorem isEmpty_padded (width n : Nat) : (padded width n).isEmpty = false := by
  obtain ⟨c, cs, h, -⟩ := padded_eq_cons width n
  rw [h]
  rfl

theorem dropBlanks_padded (width n : Nat) (rest : List Char) :
    Text.dropBlanks (padded width n ++ rest) = padded width n ++ rest := by
  obtain ⟨c, cs, h, hc⟩ := padded_eq_cons width n
  rw [h, List.cons_append, Text.dropBlanks,
    List.dropWhile_cons_of_neg (by rw [isBlank_of_isDigit hc]; exact Bool.false_ne_true)]

/-! ## Parts -/

/-- A number that fills its place is read back. -/
theorem readNumber_padded {width n : Nat} (hw : 0 < width) (hn : n < 10 ^ width)
    (rest : List Char) : readNumber width (padded width n ++ rest) = some (n, rest) := by
  have hl := length_padded hw hn
  have hd : (padded width n).takeWhile Char.isDigit = padded width n :=
    List.takeWhile_eq_self_iff.2 fun c hc => isDigit_of_mem_padded hc
  rw [readNumber, dropBlanks_padded, List.take_append_of_le_length (by omega),
    List.take_of_length_le (by omega), hd, isEmpty_padded, ofDigitChars_padded, List.drop_left]
  rfl

theorem readYear_padded {y : Nat} (hy : y < 10000) (rest : List Char) :
    readYear (padded 4 y ++ rest) = some ((y : Int), rest) := by
  have hr : readNumber 4 (padded 4 y ++ rest) = some (y, rest) :=
    readNumber_padded (by decide) hy rest
  obtain ⟨c, cs, h, hc⟩ := padded_eq_cons 4 y
  rw [readYear, dropBlanks_padded, h, List.cons_append]
  rw [h, List.cons_append] at hr
  split
  · next ht => cases (List.cons.inj ht).1 ▸ hc
  · next ht => cases (List.cons.inj ht).1 ▸ hc
  · rw [hr]
    rfl

/-- A text that goes on with a mark after a number. -/
def Marked (rest : List Char) : Prop := ∃ c cs, rest = c :: cs ∧ c.isDigit = false ∧ c ≠ '.'

theorem readFraction_padded {width n : Nat} (hw : 0 < width) (hle : width ≤ 9)
    (hn : n < 10 ^ width) {rest : List Char} (hr : Marked rest) :
    readFraction ('.' :: (padded width n ++ rest)) = some (n * 10 ^ (9 - width), rest) := by
  have hl := length_padded hw hn
  have hd : (padded width n ++ rest).takeWhile Char.isDigit = padded width n := by
    obtain ⟨c, cs, rfl, hc, -⟩ := hr
    rw [List.takeWhile_append_of_pos fun c hc => isDigit_of_mem_padded hc,
      List.takeWhile_cons_of_neg (by rw [hc]; exact Bool.false_ne_true), List.append_nil]
  rw [readFraction, hd, List.take_of_length_le (by omega), isEmpty_padded, ofDigitChars_padded,
    List.drop_left, hl]
  rfl

/-- The part of a second is read back from as few digits as say it all. -/
theorem readFraction_renderFraction {nanos : Nat} (h : nanos < 1000000000) {rest : List Char}
    (hr : Marked rest) : readFraction (renderFraction nanos ++ rest) = some (nanos, rest) := by
  unfold renderFraction
  split
  · next hz =>
    obtain ⟨c, cs, rfl, -, hc⟩ := hr
    rw [hz, List.nil_append, readFraction]
    rintro t ht
    exact hc (List.cons.inj ht).1
  split
  · next hm =>
    rw [List.cons_append, readFraction_padded (by decide) (by decide) (by omega) hr]
    exact congrArg (fun n => some (n, rest)) (show _ * 1000000 = nanos by omega)
  split
  · next hm =>
    rw [List.cons_append, readFraction_padded (by decide) (by decide) (by omega) hr]
    exact congrArg (fun n => some (n, rest)) (show _ * 1000 = nanos by omega)
  · rw [List.cons_append, readFraction_padded (by decide) (by decide) (by omega) hr, Nat.sub_self,
      Nat.pow_zero, Nat.mul_one]

theorem readMark_dash (rest : List Char) : readMark '-' ('-' :: rest) = some rest := rfl

theorem readMark_colon (rest : List Char) : readMark ':' (':' :: rest) = some rest := rfl

/-! ## Offsets -/

/-- An offset of full minutes from UTC, to the east or to the west. -/
structure Offset where
  west : Bool
  hours : Nat
  minutes : Nat

namespace Offset

/-- In seconds. -/
def size (o : Offset) : Int :=
  if o.west then -((o.hours * 3600 + o.minutes * 60 : Nat) : Int)
  else ((o.hours * 3600 + o.minutes * 60 : Nat) : Int)

def render (o : Offset) : List Char :=
  (if o.west then '-' else '+') :: (padded 2 o.hours ++ ':' :: padded 2 o.minutes)

/-- It is less than a day. -/
structure IsUsual (o : Offset) : Prop where
  hours : o.hours < 24
  minutes : o.minutes < 60

end Offset

theorem readOffsetMinutes_padded {n : Nat} (h : n < 60) :
    readOffsetMinutes ((':' :: padded 2 n).dropWhile fun c => c = ':' || Text.isBlank c) =
      some (n, []) := by
  have all : ∀ n < 60,
      readOffsetMinutes ((':' :: padded 2 n).dropWhile fun c => c = ':' || Text.isBlank c) =
        some (n, []) := by decide +kernel
  exact all n h

theorem Offset.IsUsual.readOffset {o : Offset} (h : o.IsUsual) :
    readOffset o.render = some (o.size, []) := by
  have hs : readOffsetSize (padded 2 o.hours ++ ':' :: padded 2 o.minutes) =
      some (o.hours * 3600 + o.minutes * 60, []) := by
    have hlt := h.hours
    have hv := ofDigitChars_padded 2 o.hours
    have hd : ∀ c ∈ padded 2 o.hours, c.isDigit = true := fun c => isDigit_of_mem_padded
    obtain ⟨a, b, hab⟩ := List.length_eq_two.1 (length_padded (n := o.hours) (by decide) (by omega))
    rw [hab] at hv hd ⊢
    rw [List.cons_append, List.cons_append, List.nil_append, readOffsetSize,
      if_pos ⟨hd a (by simp), hd b (by simp)⟩]
    dsimp only
    rw [readOffsetMinutes_padded h.minutes, hv]
    rfl
  unfold Offset.render Offset.size
  split <;>
  · show (readOffsetSize _).map _ = _
    rw [hs]
    rfl

theorem marked_render (o : Offset) : Marked o.render := by
  unfold Offset.render
  split <;> exact ⟨_, _, rfl, rfl, by decide⟩

/-! ## The whole -/

def year (t : Timestamp) : Int := (dateOf (Int.fdiv t.seconds 86400)).1

/-- A moment outside leap seconds, in a year of four digits. -/
structure IsUsual (t : Timestamp) : Prop where
  nanos : t.nanos < 1000000000
  year : 0 ≤ t.year ∧ t.year ≤ 9999

theorem daysInMonth_le (y : Int) (m : Nat) : daysInMonth y m ≤ 31 := by
  unfold daysInMonth
  split
  · split <;> omega
  · split
    · omega
    · split <;> omega

/-- Dates of years with four digits lie more than a day within the range of moments. -/
theorem daysBefore_bounds {y m d : Nat} (hy : y ≤ 9999) (hd : d ≤ daysInMonth y m) :
    daysBefore firstYear 1 1 + 1 < daysBefore y m d ∧
      daysBefore y m d + 2 < daysBefore (lastYear + 1) 1 1 := by
  have hle := daysInMonth_le y m
  have hfirst : daysBefore firstYear 1 1 = -96465292 := by decide
  have hlast : daysBefore (lastYear + 1) 1 1 = 95026237 := by decide
  rw [hfirst, hlast, daysBefore, Int.fdiv_eq_ediv_of_nonneg _ (by decide)]
  split <;> omega

/-- The moment is this second of this date. -/
structure Falls (t : Timestamp) (y m d s : Nat) : Prop where
  date : dateOf (Int.fdiv t.seconds 86400) = ((y : Int), m, d)
  second : Int.fmod t.seconds 86400 = s
  years : y ≤ 9999
  months : m ≤ 12
  days : 1 ≤ d ∧ d ≤ daysInMonth y m
  seconds : s < 86400

theorem IsUsual.exists_falls {t : Timestamp} (h : t.IsUsual) : ∃ y m d s, t.Falls y m d s := by
  obtain ⟨⟨y, m, d⟩, hd⟩ : ∃ date, dateOf (Int.fdiv t.seconds 86400) = date := ⟨_, rfl⟩
  have hy := h.year
  have hv := dateOf_valid (Int.fdiv t.seconds 86400)
  have hs := Int.fmod_eq_emod_of_nonneg t.seconds (b := 86400) (by decide)
  rw [Timestamp.year, hd] at hy
  rw [hd] at hv
  dsimp only at hy hv
  obtain ⟨⟨-, hm⟩, hdays⟩ := hv
  obtain ⟨y, rfl⟩ := Int.eq_ofNat_of_zero_le hy.1
  obtain ⟨s, hn⟩ := Int.eq_ofNat_of_zero_le (a := Int.fmod t.seconds 86400) (by omega)
  exact ⟨y, m, d, s, hd, hn, by omega, hm, hdays, by omega⟩

/-- The text of a moment up to its `Z`. -/
def stem (t : Timestamp) : List Char := t.render.toList.dropLast

/-- What clocks at an offset show, as if they showed UTC. -/
def shifted (t : Timestamp) (o : Offset) : Timestamp := ⟨t.seconds + o.size, t.nanos⟩

def renderAt (t : Timestamp) (o : Offset) : String :=
  String.ofList ((t.shifted o).stem ++ o.render)

namespace Falls

variable {t : Timestamp} {y m d s : Nat}

/-- The parts of a moment at an offset stand for the moment in UTC. -/
theorem ofParts? (h : t.Falls y m d s) {offset : Int} (ho : offset.natAbs < 86400) :
    ofParts? y m d (s / 3600) (s / 60 % 60) (s % 60) t.nanos offset =
      some ⟨t.seconds - offset, t.nanos⟩ := by
  have hb := daysBefore_dateOf (Int.fdiv t.seconds 86400)
  rw [h.date, Int.fdiv_eq_ediv_of_nonneg _ (by decide)] at hb
  dsimp only at hb
  have hs := h.second
  rw [Int.fmod_eq_emod_of_nonneg _ (by decide)] at hs
  have hlt := h.seconds
  have hdays := h.days
  have hyears := h.years
  obtain ⟨hfirst, hlast⟩ := daysBefore_bounds hyears hdays.2
  have hsecond : s % 60 / 60 = 0 := by omega
  have hsum : daysBefore y m d * 86400 +
      ((s / 3600 * 3600 + s / 60 % 60 * 60 + (s % 60 - 0) : Nat) : Int) - offset =
        t.seconds - offset := by omega
  unfold Timestamp.ofParts?
  rw [if_pos (by simp only [firstYear, lastYear]; omega), hsecond]
  dsimp only
  rw [hsum, if_pos (by omega)]
  simp

theorem toList_render (h : t.Falls y m d s) (hn : t.nanos < 1000000000) : t.render.toList =
    padded 4 y ++ '-' :: (padded 2 m ++ '-' :: (padded 2 d ++ 'T' :: (padded 2 (s / 3600) ++
      ':' :: (padded 2 (s / 60 % 60) ++ ':' :: (padded 2 (s % 60) ++
        renderFraction t.nanos))))) ++ ['Z'] := by
  have hy : (0 : Int) ≤ y ∧ (y : Int) ≤ 9999 := ⟨Int.natCast_nonneg y, Int.ofNat_le.2 h.years⟩
  rw [render, h.date, h.second]
  dsimp only
  rw [String.toList_ofList, renderYear, if_pos hy, Int.toNat_natCast, Int.toNat_natCast,
    Nat.div_eq_of_lt hn, Nat.mod_eq_of_lt hn]
  simp

theorem stem_eq (h : t.Falls y m d s) (hn : t.nanos < 1000000000) (zone : List Char) :
    t.stem ++ zone =
      padded 4 y ++ '-' :: (padded 2 m ++ '-' :: (padded 2 d ++ 'T' :: (padded 2 (s / 3600) ++
        ':' :: (padded 2 (s / 60 % 60) ++ ':' :: (padded 2 (s % 60) ++
          (renderFraction t.nanos ++ zone)))))) := by
  rw [stem, h.toList_render hn, List.dropLast_concat]
  simp

end Falls

/-- What a moment is read as when its offset is written after it. -/
theorem parse?_stem {t : Timestamp} (h : t.IsUsual) {zone : List Char} {offset : Int}
    (hz : Marked zone) (hr : readOffset zone = some (offset, [])) (ho : offset.natAbs < 86400) :
    parse? (String.ofList (t.stem ++ zone)) = some ⟨t.seconds - offset, t.nanos⟩ := by
  obtain ⟨y, m, d, s, hf⟩ := h.exists_falls
  have hyears := hf.years
  have hmonths := hf.months
  have hdays := Nat.le_trans hf.days.2 (daysInMonth_le y m)
  have hseconds := hf.seconds
  have hnumber : ∀ n, n < 100 → ∀ rest, readNumber 2 (padded 2 n ++ rest) = some (n, rest) :=
    fun n hn => readNumber_padded (by decide) hn
  have step : ∀ {β γ : Type} {a : Option β} {b : β} {f : β → Option γ} {c : γ}, a = some b →
      f b = some c → a.bind f = some c := fun ha hf => Option.bind_eq_some_iff.2 ⟨_, ha, hf⟩
  rw [parse?, String.toList_ofList, hf.stem_eq h.nanos]
  refine step (readYear_padded (by omega) _) ?_
  refine step (readMark_dash _) (step (hnumber m (by omega) _) ?_)
  refine step (readMark_dash _) (step (hnumber d (by omega) _) ?_)
  refine step (hnumber (s / 3600) (by omega) _) ?_
  refine step (readMark_colon _) (step (hnumber (s / 60 % 60) (by omega) _) ?_)
  refine step (readMark_colon _) (step (hnumber (s % 60) (by omega) _) ?_)
  refine step (readFraction_renderFraction h.nanos hz) (step hr ?_)
  exact hf.ofParts? ho

/-- **A usual moment is read back from its text.** -/
theorem parse?_render {t : Timestamp} (h : t.IsUsual) : parse? t.render = some t := by
  obtain ⟨y, m, d, s, hf⟩ := h.exists_falls
  have ht : t.render = String.ofList (t.stem ++ ['Z']) := by
    rw [← String.ofList_toList (s := t.render), hf.toList_render h.nanos, hf.stem_eq h.nanos]
    simp
  have hz : readOffset ['Z'] = some (0, []) := rfl
  rw [ht, parse?_stem h ⟨'Z', [], rfl, rfl, by decide⟩ hz (by decide), Int.sub_zero]

theorem parse?_renderAt {t : Timestamp} {o : Offset} (ho : o.IsUsual)
    (h : (t.shifted o).IsUsual) : parse? (t.renderAt o) = some t := by
  have hsize : o.size.natAbs < 86400 := by
    have hh := ho.hours
    have hm := ho.minutes
    unfold Offset.size
    split <;> omega
  rw [renderAt, parse?_stem h (marked_render o) ho.readOffset hsize]
  simp [shifted]

end Timestamp

end Freshness
