import Mathlib

/-!
# Timestamps as ISO texts

Dates of the proleptic Gregorian calendar by the day since the epoch, and the text
that `datetime.isoformat` gives for a time in UTC.  `fromisoformat` reads the texts
of this shape, and what has been written is read back.
-/

set_option autoImplicit false

namespace Formats

/-! ## Dates -/

/-- The month of a day of the year, when the year begins on the first of March. -/
def monthOf (dayOfYear : Int) : Int :=
  if (5 * dayOfYear + 2) / 153 < 10 then (5 * dayOfYear + 2) / 153 + 3
  else (5 * dayOfYear + 2) / 153 - 9

/-- The day of the month of a day of such a year. -/
def dayOf (dayOfYear : Int) : Int := dayOfYear - (153 * ((5 * dayOfYear + 2) / 153) + 2) / 5 + 1

/-- Year, month and day of a date in the proleptic Gregorian calendar. -/
def civil (date : Int) : Int × Int × Int :=
  let shifted := date + 719468
  let era := shifted / 146097
  let dayOfEra := shifted % 146097
  let century := min (dayOfEra / 36524) 3
  let dayOfCentury := dayOfEra - century * 36524
  let cycle := dayOfCentury / 1461
  let dayOfCycle := dayOfCentury % 1461
  let year := min (dayOfCycle / 365) 3
  let dayOfYear := dayOfCycle - year * 365
  let month := monthOf dayOfYear
  (era * 400 + century * 100 + cycle * 4 + year + (if month ≤ 2 then 1 else 0), month,
    dayOf dayOfYear)

/-- The date of a year, month and day. -/
def dateOfCivil (year month day : Int) : Int :=
  let shiftedYear := if month ≤ 2 then year - 1 else year
  let shiftedMonth := if month ≤ 2 then month + 9 else month - 3
  shiftedYear * 365 + shiftedYear / 4 - shiftedYear / 100 + shiftedYear / 400 +
    (153 * shiftedMonth + 2) / 5 + day - 1 - 719468

theorem year_parts (era century cycle year : Int) (centuries : 0 ≤ century ∧ century ≤ 3)
    (cycles : 0 ≤ cycle ∧ cycle ≤ 24) (years : 0 ≤ year ∧ year ≤ 3) :
    (era * 400 + century * 100 + cycle * 4 + year) / 4 = era * 100 + century * 25 + cycle ∧
      (era * 400 + century * 100 + cycle * 4 + year) / 100 = era * 4 + century ∧
      (era * 400 + century * 100 + cycle * 4 + year) / 400 = era := by
  omega

/-- The years and days that a date is made of. -/
theorem civil_split (date : Int) : ∃ year dayOfYear : Int, (0 ≤ dayOfYear ∧ dayOfYear < 366) ∧
    date + 719468 = year * 365 + year / 4 - year / 100 + year / 400 + dayOfYear ∧
    civil date = (year + (if monthOf dayOfYear ≤ 2 then 1 else 0), monthOf dayOfYear,
      dayOf dayOfYear) := by
  refine ⟨_, _, ?_, ?_, rfl⟩
  · omega
  · obtain ⟨byFour, byHundred, byFourHundred⟩ := year_parts ((date + 719468) / 146097)
      (min ((date + 719468) % 146097 / 36524) 3)
      (((date + 719468) % 146097 - min ((date + 719468) % 146097 / 36524) 3 * 36524) / 1461)
      (min (((date + 719468) % 146097 - min ((date + 719468) % 146097 / 36524) 3 * 36524) % 1461 /
        365) 3) (by omega) (by omega) (by omega)
    rw [byFour, byHundred, byFourHundred]
    omega

theorem dateOfCivil_civil (date : Int) :
    dateOfCivil (civil date).1 (civil date).2.1 (civil date).2.2 = date := by
  obtain ⟨year, dayOfYear, days, whole, parts⟩ := civil_split date
  have shifted : (if monthOf dayOfYear ≤ 2 then year + (if monthOf dayOfYear ≤ 2 then 1 else 0) - 1
      else year + (if monthOf dayOfYear ≤ 2 then 1 else 0)) = year := by
    split <;> omega
  have month : (if monthOf dayOfYear ≤ 2 then monthOf dayOfYear + 9 else monthOf dayOfYear - 3) =
      (5 * dayOfYear + 2) / 153 := by
    rw [monthOf]
    split <;> split <;> omega
  rw [parts]
  dsimp only [dateOfCivil]
  rw [shifted, month, dayOf]
  omega

example : civil 20453 = (2025, 12, 31) := by decide

/-- The numbers of a date of the years 1 to 9999 have four, two and two digits. -/
theorem civil_bounds {date : Int} (from1 : -719162 ≤ date) (to9999 : date < 2932897) :
    (0 ≤ (civil date).1 ∧ (civil date).1 < 10000) ∧
      (0 ≤ (civil date).2.1 ∧ (civil date).2.1 < 100) ∧
      (0 ≤ (civil date).2.2 ∧ (civil date).2.2 < 100) := by
  obtain ⟨year, dayOfYear, days, whole, parts⟩ := civil_split date
  rw [parts]
  refine ⟨?_, ?_, ?_⟩
  · dsimp only [monthOf]
    split <;> split <;> omega
  · dsimp only [monthOf]
    split <;> omega
  · dsimp only [dayOf]
    omega

/-! ## Digits -/

/-- A number in exactly so many digits. -/
def fixed : Nat → Nat → List Char
  | 0, _ => []
  | width + 1, number => fixed width (number / 10) ++ [(number % 10).digitChar]

/-- Read a number of exactly so many digits. -/
def readFixed (width : Nat) (input : List Char) : Option (Nat × List Char) :=
  if (input.take width).length = width ∧ (input.take width).all Char.isDigit then
    some (Nat.ofDigitChars 10 (input.take width) 0, input.drop width)
  else none

theorem length_fixed (width number : Nat) : (fixed width number).length = width := by
  induction width generalizing number with
  | zero => rfl
  | succ width ih => rw [fixed, List.length_append, ih, List.length_singleton]

theorem isDigit_fixed (width number : Nat) : (fixed width number).all Char.isDigit = true := by
  induction width generalizing number with
  | zero => rfl
  | succ width ih =>
      have digit : (number % 10).digitChar.isDigit = true := by
        rw [Nat.isDigit_digitChar]
        exact decide_eq_true (Nat.mod_lt _ (by decide))
      rw [fixed, List.all_append, ih]
      simp [digit]

theorem ofDigitChars_fixed (width number : Nat) :
    Nat.ofDigitChars 10 (fixed width number) 0 = number % 10 ^ width := by
  induction width generalizing number with
  | zero => exact (Nat.mod_one number).symm
  | succ width ih =>
      rw [fixed, Nat.ofDigitChars_append, ih,
        Nat.ofDigitChars_cons_digitChar_of_lt_ten (Nat.mod_lt _ (by decide)), Nat.ofDigitChars_nil,
        Nat.pow_succ, Nat.mul_comm (10 ^ width), Nat.mod_mul]
      omega

theorem readFixed_fixed {width number : Nat} (fits : number < 10 ^ width) (rest : List Char) :
    readFixed width (fixed width number ++ rest) = some (number, rest) := by
  have taken : (fixed width number ++ rest).take width = fixed width number := by
    rw [List.take_append_of_le_length (by rw [length_fixed])]
    exact List.take_of_length_le (by rw [length_fixed])
  have dropped : (fixed width number ++ rest).drop width = rest :=
    List.drop_left' (length_fixed width number)
  rw [readFixed, taken, dropped, if_pos ⟨length_fixed width number, isDigit_fixed width number⟩,
    ofDigitChars_fixed, Nat.mod_eq_of_lt fits]

/-! ## Timestamps -/

/-- A `datetime` in UTC: microseconds since the epoch, in the years 1 to 9999. -/
structure Timestamp where
  micros : Int
  from1 : -62135596800000000 ≤ micros
  to9999 : micros < 253402300800000000
  deriving DecidableEq, Repr

/-- `YYYY-MM-DD`. -/
def writeDate (date : Int) : List Char :=
  let (year, month, day) := civil date
  fixed 4 year.toNat ++ '-' :: (fixed 2 month.toNat ++ '-' :: fixed 2 day.toNat)

/-- `HH:MM:SS`, and the fraction of the second if it is not zero. -/
def writeClock (micros : Nat) : List Char :=
  let seconds := micros / 1000000
  fixed 2 (seconds / 3600) ++
    ':' :: (fixed 2 (seconds / 60 % 60) ++ ':' :: (fixed 2 (seconds % 60) ++
    if micros % 1000000 = 0 then [] else '.' :: fixed 6 (micros % 1000000)))

/-- The offset of UTC. -/
def utcOffset : List Char := ['+', '0', '0', ':', '0', '0']

/-- `isoformat()`. -/
def isoformat (time : Timestamp) : String :=
  String.ofList (writeDate (time.micros / 86400000000) ++
    'T' :: (writeClock (time.micros % 86400000000).toNat ++ utcOffset))

/-- The rest of the input behind a character that must come. -/
def expect (char : Char) : List Char → Option (List Char)
  | [] => none
  | first :: rest => if first = char then some rest else none

/-- `YYYY-MM-DD`, if there is such a date. -/
def readDate (input : List Char) : Option (Int × List Char) := do
  let (year, rest) ← readFixed 4 input
  let rest ← expect '-' rest
  let (month, rest) ← readFixed 2 rest
  let rest ← expect '-' rest
  let (day, rest) ← readFixed 2 rest
  let date := dateOfCivil year month day
  if civil date = ((year : Int), (month : Int), (day : Int)) then return (date, rest) else none

/-- A dot and six digits, or nothing. -/
def readFraction : List Char → Option (Nat × List Char)
  | '.' :: rest => readFixed 6 rest
  | rest => some (0, rest)

/-- `HH:MM:SS` with its fraction, in microseconds. -/
def readClock (input : List Char) : Option (Nat × List Char) := do
  let (hour, rest) ← readFixed 2 input
  let rest ← expect ':' rest
  let (minute, rest) ← readFixed 2 rest
  let rest ← expect ':' rest
  let (second, rest) ← readFixed 2 rest
  let (micro, rest) ← readFraction rest
  if hour < 24 ∧ minute < 60 ∧ second < 60 then
    return (((hour * 60 + minute) * 60 + second) * 1000000 + micro, rest)
  else none

/-- `datetime.fromisoformat` on texts of the shape that `isoformat` writes. -/
def fromisoformat (text : String) : Option Timestamp := do
  let (date, rest) ← readDate text.toList
  let rest ← expect 'T' rest
  let (clock, rest) ← readClock rest
  let micros := date * 86400000000 + clock
  if proper : rest = utcOffset ∧ -62135596800000000 ≤ micros ∧ micros < 253402300800000000 then
    some ⟨micros, proper.2.1, proper.2.2⟩
  else none

/-! ## Timestamps are read back -/

section Binding

variable {α : Type}

theorem expect_bind (char : Char) (rest : List Char) (next : List Char → Option α) :
    (expect char (char :: rest) >>= next) = next rest := by
  rw [expect, if_pos rfl]
  rfl

theorem readFixed_bind {width number : Nat} (fits : number < 10 ^ width) (rest : List Char)
    (next : Nat × List Char → Option α) :
    (readFixed width (fixed width number ++ rest) >>= next) = next (number, rest) := by
  rw [readFixed_fixed fits]
  rfl

end Binding

theorem readDate_writeDate {date : Int} (from1 : -719162 ≤ date) (to9999 : date < 2932897)
    (rest : List Char) : readDate (writeDate date ++ rest) = some (date, rest) := by
  obtain ⟨years, months, days⟩ := civil_bounds from1 to9999
  have whole := dateOfCivil_civil date
  rw [readDate, writeDate]
  generalize parts : civil date = civilDate at years months days whole ⊢
  obtain ⟨year, month, day⟩ := civilDate
  dsimp only at years months days whole ⊢
  have sameYear : (year.toNat : Int) = year := by omega
  have sameMonth : (month.toNat : Int) = month := by omega
  have sameDay : (day.toNat : Int) = day := by omega
  rw [List.append_assoc, readFixed_bind (by omega), List.cons_append]
  dsimp only
  rw [expect_bind, List.append_assoc, readFixed_bind (by omega), List.cons_append]
  dsimp only
  rw [expect_bind, readFixed_bind (by omega)]
  dsimp only
  rw [sameYear, sameMonth, sameDay, whole, parts, if_pos rfl]
  rfl

theorem readFraction_append {micros : Nat} (fits : micros < 1000000) {rest : List Char}
    (noDot : rest.head? ≠ some '.') :
    readFraction ((if micros = 0 then [] else '.' :: fixed 6 micros) ++ rest) =
      some (micros, rest) := by
  split
  · next zero =>
      rw [List.nil_append, readFraction, zero]
      rintro _ rfl
      exact noDot rfl
  · rw [List.cons_append, readFraction, readFixed_fixed fits]

theorem readClock_writeClock {micros : Nat} (within : micros < 86400000000) {rest : List Char}
    (noDot : rest.head? ≠ some '.') :
    readClock (writeClock micros ++ rest) = some (micros, rest) := by
  have seconds : micros / 1000000 < 86400 := by omega
  have parts : ((micros / 1000000 / 3600 * 60 + micros / 1000000 / 60 % 60) * 60 +
      micros / 1000000 % 60) * 1000000 + micros % 1000000 = micros := by omega
  rw [readClock, writeClock, List.append_assoc, readFixed_bind (by omega), List.cons_append]
  dsimp only
  rw [expect_bind, List.append_assoc, readFixed_bind (by omega), List.cons_append]
  dsimp only
  rw [expect_bind, List.append_assoc, readFixed_bind (by omega)]
  dsimp only
  rw [readFraction_append (by omega) noDot, Option.bind_eq_bind, Option.bind_some]
  dsimp only
  rw [if_pos (by omega), parts]
  rfl

/-- **What has been written is read back.** -/
theorem fromisoformat_isoformat (time : Timestamp) : fromisoformat (isoformat time) =
    some time := by
  obtain ⟨micros, from1, to9999⟩ := time
  have whole : micros / 86400000000 * 86400000000 + ((micros % 86400000000).toNat : Int) =
      micros := by omega
  have dates : -719162 ≤ micros / 86400000000 ∧ micros / 86400000000 < 2932897 := by omega
  rw [fromisoformat, isoformat, String.toList_ofList, readDate_writeDate dates.1 dates.2,
    Option.bind_eq_bind, Option.bind_some]
  dsimp only
  rw [expect_bind, readClock_writeClock (by omega) (by decide), Option.bind_eq_bind,
    Option.bind_some]
  simp only [whole]
  exact dif_pos ⟨trivial, from1, to9999⟩

end Formats
