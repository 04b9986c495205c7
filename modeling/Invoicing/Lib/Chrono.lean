/-
**Calendar dates and UTC instants, with the text they are printed as.**

* `NaiveDate` — a valid proleptic Gregorian date, ordered through `NaiveDate.key` (year, month, day).
* `DateTime` — a date, a second of the day and a nanosecond; a nanosecond of `10 ^ 9` or more is a
  leap second and only stands on the last second of a minute. Ordered through `DateTime.key`.
* `NaiveDate.text`, `DateTime.text` — `YYYY-MM-DD` and the RFC 3339 text with the offset `+00:00`
  and 0, 3, 6 or 9 fraction digits; years outside `0..9999` carry a sign.
* **`NaiveDate.text_lt_iff`** — for years `0..9999` the text order of dates is the calendar order.
* **`DateTime.text_lt_yearStart_iff`** — an instant against the text `YYYY-01-01T00:00:00Z`. The two
  spellings of the offset differ (`+` and `.` sort before `Z`), so an instant inside the first second
  of the year compares as if it were before the year.
-/

import Invoicing.Lib.DigitText
import Mathlib.Data.Char
import Mathlib.Data.List.Lex
import Mathlib.Order.Basic
import Mathlib.Order.Lattice
import Mathlib.Tactic.Linarith

namespace Chrono

open DigitText

/-! ### Dates -/

/-- The first year a date can have. -/
def minYear : ℤ := -262143

/-- The last year a date can have. -/
def maxYear : ℤ := 262142

def isLeapYear (year : ℤ) : Bool :=
  year % 4 == 0 && (year % 100 != 0 || year % 400 == 0)

/-- The length of a month. -/
def daysInMonth (year : ℤ) (month : ℕ) : ℕ :=
  if month = 2 then (if isLeapYear year then 29 else 28)
  else if month = 4 ∨ month = 6 ∨ month = 9 ∨ month = 11 then 30
  else 31

/-- What makes a year, a month and a day a date. -/
def ValidYmd (year : ℤ) (month day : ℕ) : Prop :=
  minYear ≤ year ∧ year ≤ maxYear ∧ 1 ≤ month ∧ month ≤ 12 ∧ 1 ≤ day ∧ day ≤ daysInMonth year month

instance (year : ℤ) (month day : ℕ) : Decidable (ValidYmd year month day) :=
  inferInstanceAs (Decidable (_ ∧ _ ∧ _ ∧ _ ∧ _ ∧ _))

/-- A calendar date. -/
structure NaiveDate where
  year : ℤ
  month : ℕ
  day : ℕ
  valid : ValidYmd year month day
  deriving DecidableEq

/-- The date of a year, a month and a day, when there is one. -/
def fromYmdOpt (year : ℤ) (month day : ℕ) : Option NaiveDate :=
  if valid : ValidYmd year month day then some ⟨year, month, day, valid⟩ else none

theorem daysInMonth_bounds (year : ℤ) (month : ℕ) :
    28 ≤ daysInMonth year month ∧ daysInMonth year month ≤ 31 := by
  unfold daysInMonth
  split
  · split <;> omega
  · split <;> omega

/-- Days `1..28` exist in every month. -/
theorem fromYmdOpt_of_day_le {year : ℤ} {month day : ℕ} (low : minYear ≤ year)
    (high : year ≤ maxYear) (month1 : 1 ≤ month) (month12 : month ≤ 12) (day1 : 1 ≤ day)
    (day28 : day ≤ 28) : ∃ date, fromYmdOpt year month day = some date := by
  have valid : ValidYmd year month day :=
    ⟨low, high, month1, month12, day1, le_trans day28 (daysInMonth_bounds year month).1⟩
  exact ⟨⟨year, month, day, valid⟩, dif_pos valid⟩

theorem fromYmdOpt_eq_some {year : ℤ} {month day : ℕ} {date : NaiveDate}
    (found : fromYmdOpt year month day = some date) :
    date.year = year ∧ date.month = month ∧ date.day = day := by
  unfold fromYmdOpt at found
  split at found
  · cases found
    exact ⟨rfl, rfl, rfl⟩
  · cases found

namespace NaiveDate

theorem month_bounds (date : NaiveDate) : 1 ≤ date.month ∧ date.month ≤ 12 :=
  ⟨date.valid.2.2.1, date.valid.2.2.2.1⟩

theorem day_bounds (date : NaiveDate) : 1 ≤ date.day ∧ date.day ≤ 31 :=
  ⟨date.valid.2.2.2.2.1, le_trans date.valid.2.2.2.2.2 (daysInMonth_bounds _ _).2⟩

/-- The sort key of a date: year, then month, then day. -/
def key (date : NaiveDate) : ℤ :=
  date.year * 512 + date.month * 32 + date.day

theorem key_injective : Function.Injective key := by
  intro first second same
  have month := first.month_bounds
  have day := first.day_bounds
  have month' := second.month_bounds
  have day' := second.day_bounds
  obtain ⟨year, m, d, valid⟩ := first
  obtain ⟨year', m', d', valid'⟩ := second
  simp only [key] at same month day month' day'
  have years : year = year' := by omega
  have months : m = m' := by omega
  have days : d = d' := by omega
  subst years months days
  rfl

/-- Dates are ordered by the calendar. -/
instance : LinearOrder NaiveDate := LinearOrder.lift' key key_injective

theorem lt_iff_key {first second : NaiveDate} : first < second ↔ first.key < second.key := Iff.rfl

/-- The calendar order, spelled out. -/
theorem lt_iff {first second : NaiveDate} :
    first < second ↔ first.year < second.year ∨
      (first.year = second.year ∧ (first.month < second.month ∨
        (first.month = second.month ∧ first.day < second.day))) := by
  have month := first.month_bounds
  have day := first.day_bounds
  have month' := second.month_bounds
  have day' := second.day_bounds
  rw [lt_iff_key, key, key]
  omega

end NaiveDate

/-! ### Instants -/

/-- What makes a second of the day and a nanosecond a time of day. -/
def ValidTime (secs nanos : ℕ) : Prop :=
  secs < 86400 ∧ nanos < 2000000000 ∧ (1000000000 ≤ nanos → secs % 60 = 59)

instance (secs nanos : ℕ) : Decidable (ValidTime secs nanos) :=
  inferInstanceAs (Decidable (_ ∧ _ ∧ (_ → _)))

/-- An instant in UTC. -/
structure DateTime where
  dateNaive : NaiveDate
  secs : ℕ
  nanos : ℕ
  valid : ValidTime secs nanos
  deriving DecidableEq

namespace DateTime

/-- The UTC year of an instant. -/
def year (time : DateTime) : ℤ := time.dateNaive.year

/-- The sort key of an instant: date, second, nanosecond. -/
def key (time : DateTime) : ℤ :=
  (time.dateNaive.key * 86400 + time.secs) * 2000000000 + time.nanos

theorem key_injective : Function.Injective key := by
  intro first second same
  obtain ⟨date, secs, nanos, valid⟩ := first
  obtain ⟨date', secs', nanos', valid'⟩ := second
  obtain ⟨secsLt, nanosLt, _⟩ := valid
  obtain ⟨secsLt', nanosLt', _⟩ := valid'
  simp only [key] at same
  have dates : date.key = date'.key := by omega
  have seconds : secs = secs' := by omega
  have nanoseconds : nanos = nanos' := by omega
  have := NaiveDate.key_injective dates
  subst this seconds nanoseconds
  rfl

/-- Instants are ordered by time. -/
instance : LinearOrder DateTime := LinearOrder.lift' key key_injective

/-- The first second of a UTC year. -/
def InFirstSecond (time : DateTime) : Prop :=
  time.dateNaive.month = 1 ∧ time.dateNaive.day = 1 ∧ time.secs = 0

instance (time : DateTime) : Decidable time.InFirstSecond :=
  inferInstanceAs (Decidable (_ ∧ _ ∧ _))

end DateTime

/-! ### Text -/

/-- A year: four digits inside `0..9999`, else a sign and at least four digits. -/
def yearText (year : ℤ) : List Char :=
  if 0 ≤ year ∧ year ≤ 9999 then decimalDigits 4 year.toNat
  else (if year < 0 then '-' else '+') :: padDigits 4 year.natAbs

/-- `YYYY-MM-DD`. -/
def NaiveDate.text (date : NaiveDate) : List Char :=
  yearText date.year ++ '-' :: (decimalDigits 2 date.month ++ '-' :: decimalDigits 2 date.day)

/-- The fraction of a second, with 0, 3, 6 or 9 digits as needed. -/
def fractionText (nanos : ℕ) : List Char :=
  if nanos = 0 then []
  else if nanos % 1000000 = 0 then '.' :: decimalDigits 3 (nanos / 1000000)
  else if nanos % 1000 = 0 then '.' :: decimalDigits 6 (nanos / 1000)
  else '.' :: decimalDigits 9 nanos

/-- `HH:MM:SS` and the fraction; a leap second prints as second 60. -/
def timeText (secs nanos : ℕ) : List Char :=
  decimalDigits 2 (secs / 3600) ++ ':' :: (decimalDigits 2 (secs / 60 % 60) ++
    ':' :: (decimalDigits 2 (secs % 60 + nanos / 1000000000) ++ fractionText (nanos % 1000000000)))

/-- RFC 3339 text with the offset `+00:00`. -/
def DateTime.text (time : DateTime) : List Char :=
  time.dateNaive.text ++ 'T' :: (timeText time.secs time.nanos ++ ['+', '0', '0', ':', '0', '0'])

/-! ### The order of texts -/

theorem yearText_of_range {year : ℤ} (low : 0 ≤ year) (high : year ≤ 9999) :
    yearText year = decimalDigits 4 year.toNat := if_pos ⟨low, high⟩

theorem yearText_lt_iff {first second : ℤ} (low : 0 ≤ first) (high : first ≤ 9999)
    (low' : 0 ≤ second) (high' : second ≤ 9999) :
    yearText first < yearText second ↔ first < second := by
  rw [yearText_of_range low high, yearText_of_range low' high',
    decimalDigits_lt_iff (by omega) (by omega)]
  omega

theorem yearText_inj {first second : ℤ} (low : 0 ≤ first) (high : first ≤ 9999)
    (low' : 0 ≤ second) (high' : second ≤ 9999) :
    yearText first = yearText second ↔ first = second := by
  rw [yearText_of_range low high, yearText_of_range low' high',
    decimalDigits_inj (by omega) (by omega)]
  omega

theorem length_yearText {year : ℤ} (low : 0 ≤ year) (high : year ≤ 9999) :
    (yearText year).length = 4 := by
  rw [yearText_of_range low high, length_fixedDigits]

/-- A year field decides a comparison unless both years agree. -/
theorem yearText_append_lt_iff {first second : ℤ} (low : 0 ≤ first) (high : first ≤ 9999)
    (low' : 0 ≤ second) (high' : second ≤ 9999) (rest rest' : List Char) :
    yearText first ++ rest < yearText second ++ rest' ↔
      first < second ∨ (first = second ∧ rest < rest') := by
  rw [append_lt_append_iff (by rw [length_yearText low high, length_yearText low' high']),
    yearText_lt_iff low high low' high', yearText_inj low high low' high']

/-- A two-digit field decides a comparison unless both numbers agree. -/
theorem twoDigits_append_lt_iff {first second : ℕ} (bound : first < 100) (bound' : second < 100)
    (rest rest' : List Char) :
    decimalDigits 2 first ++ rest < decimalDigits 2 second ++ rest' ↔
      first < second ∨ (first = second ∧ rest < rest') := by
  rw [append_lt_append_iff (by rw [length_fixedDigits, length_fixedDigits]),
    decimalDigits_lt_iff (by omega) (by omega), decimalDigits_inj (by omega) (by omega)]

theorem cons_lt_cons_self {c : Char} {rest rest' : List Char} :
    c :: rest < c :: rest' ↔ rest < rest' := by
  rw [List.cons_lt_cons_iff]
  simp

/-- **For years `0..9999` the text order of dates is the calendar order.** -/
theorem NaiveDate.text_lt_iff {first second : NaiveDate} (low : 0 ≤ first.year)
    (high : first.year ≤ 9999) (low' : 0 ≤ second.year) (high' : second.year ≤ 9999) :
    first.text < second.text ↔ first < second := by
  have month := first.month_bounds
  have day := first.day_bounds
  have month' := second.month_bounds
  have day' := second.day_bounds
  have days : decimalDigits 2 first.day < decimalDigits 2 second.day ↔ first.day < second.day :=
    decimalDigits_lt_iff (by omega) (by omega)
  rw [NaiveDate.text, NaiveDate.text, yearText_append_lt_iff low high low' high',
    cons_lt_cons_self, twoDigits_append_lt_iff (by omega) (by omega), cons_lt_cons_self, days,
    NaiveDate.lt_iff]

theorem NaiveDate.text_le_iff {first second : NaiveDate} (low : 0 ≤ first.year)
    (high : first.year ≤ 9999) (low' : 0 ≤ second.year) (high' : second.year ≤ 9999) :
    first.text ≤ second.text ↔ first ≤ second := by
  rw [← not_lt, ← not_lt, NaiveDate.text_lt_iff low' high' low high]

/-- Dates of years `0..9999` with one text are one date. -/
theorem NaiveDate.text_inj {first second : NaiveDate} (low : 0 ≤ first.year)
    (high : first.year ≤ 9999) (low' : 0 ≤ second.year) (high' : second.year ≤ 9999)
    (same : first.text = second.text) : first = second := by
  have notBelow := (NaiveDate.text_lt_iff low high low' high').not.mp (by rw [same]; exact lt_irrefl _)
  have notAbove := (NaiveDate.text_lt_iff low' high' low high).not.mp (by rw [same]; exact lt_irrefl _)
  exact le_antisymm (not_lt.mp notAbove) (not_lt.mp notBelow)

/-- The text `-01-01T00:00:00Z`, in fields. -/
def yearStartTail : List Char :=
  '-' :: (decimalDigits 2 1 ++ '-' :: (decimalDigits 2 1 ++ 'T' :: (decimalDigits 2 0 ++
    ':' :: (decimalDigits 2 0 ++ ':' :: (decimalDigits 2 0 ++ ['Z'])))))

/-- What follows the seconds of an instant's text sorts before `Z`. -/
theorem fraction_offset_lt_z (nanos : ℕ) :
    fractionText nanos ++ ['+', '0', '0', ':', '0', '0'] < ['Z'] := by
  unfold fractionText
  split
  · decide
  · split
    · exact List.cons_lt_cons_iff.mpr (Or.inl (by decide))
    · split
      · exact List.cons_lt_cons_iff.mpr (Or.inl (by decide))
      · exact List.cons_lt_cons_iff.mpr (Or.inl (by decide))

/-- **An instant against the start of a year, as texts.** The instants of the first second of the
year sort before its `Z`-spelled start. -/
theorem DateTime.text_lt_yearStart_iff {time : DateTime} {year : ℤ} (low : 0 ≤ time.year)
    (high : time.year ≤ 9999) (low' : 0 ≤ year) (high' : year ≤ 9999) :
    time.text < yearText year ++ yearStartTail ↔
      time.year < year ∨ (time.year = year ∧ time.InFirstSecond) := by
  have month := time.dateNaive.month_bounds
  have day := time.dateNaive.day_bounds
  obtain ⟨secsLt, nanosLt, leap⟩ := time.valid
  have hours : time.secs / 3600 < 100 := by omega
  have minutes : time.secs / 60 % 60 < 100 := by omega
  have seconds : time.secs % 60 + time.nanos / 1000000000 < 100 := by omega
  unfold DateTime.year at low high ⊢
  simp only [DateTime.text, NaiveDate.text, timeText, yearStartTail, List.append_assoc,
    List.cons_append]
  rw [yearText_append_lt_iff low high low' high', cons_lt_cons_self,
    twoDigits_append_lt_iff (by omega) (by omega), cons_lt_cons_self,
    twoDigits_append_lt_iff (by omega) (by omega), cons_lt_cons_self,
    twoDigits_append_lt_iff hours (by omega), cons_lt_cons_self,
    twoDigits_append_lt_iff minutes (by omega), cons_lt_cons_self,
    twoDigits_append_lt_iff seconds (by omega)]
  have tail := fraction_offset_lt_z (time.nanos % 1000000000)
  simp only [tail, and_true, DateTime.InFirstSecond]
  omega

end Chrono
