/-
**The dates of a cadence.**

* `Cadence.Falls` — what a date of the cadence is, seen from the date before it: the day of the month, a
  month some multiple of three months away, the day of the year.
* **`Cadence.advance_least`** — `advance` gives the least later such date, for every date before the last
  year of the calendar; its iterates grow and pass every such date.
* `Cadence.period`, `Cadence.Reached` — the month, quarter or year of a date, and whether the cadence's own
  day in it is not still to come. **`Cadence.periods_distinct_iff`** — the dates from a start lie in
  different periods exactly when the start has reached its day.
-/

import Invoicing.Domain.Schedule
import Invoicing.Lib.Recurrence
import Mathlib.Order.Bounds.Basic

namespace Invoicing

open Chrono Recurrence

namespace Cadence

/-! ### The least later date -/

/-- A date the cadence can have after a date. -/
def Falls (cadence : Cadence) (after date : NaiveDate) : Prop :=
  match cadence with
  | .monthly dom => date.day = dom.val
  | .quarterly dom => date.day = dom.val ∧ date.month % 3 = after.month % 3
  | .yearly on => date.month = on.month ∧ date.day = on.day

/-- A valid day of a year inside the calendar is a date. -/
theorem fromYmdOpt_inside {year : ℤ} {month day : ℕ} (above : minYear ≤ year) (below : year ≤ maxYear)
    (months : 1 ≤ month ∧ month ≤ 12) (days : 1 ≤ day ∧ day ≤ 28) :
    ∃ date, fromYmdOpt year month day = some date ∧ date.year = year ∧ date.month = month ∧
      date.day = day := by
  obtain ⟨date, found⟩ := fromYmdOpt_of_day_le above below months.1 months.2 days.1 days.2
  exact ⟨date, found, fromYmdOpt_eq_some found⟩

/-- The month after some months, inside the calendar when the year is not its last. -/
theorem monthAfter_inside {after : NaiveDate} {steps : ℕ} (few : steps ≤ 12) (positive : 0 < steps)
    (below : after.year < maxYear) :
    (minYear ≤ (monthAfter after.year after.month steps).1 ∧
      (monthAfter after.year after.month steps).1 ≤ maxYear) ∧
      1 ≤ (monthAfter after.year after.month steps).2 ∧
        (monthAfter after.year after.month steps).2 ≤ 12 := by
  have month := after.month_bounds
  have low : minYear ≤ after.year := after.valid.1
  unfold monthAfter
  split
  · exact ⟨⟨by dsimp only; omega, by dsimp only; omega⟩, by dsimp only; omega, by dsimp only; omega⟩
  · exact ⟨⟨low, below.le⟩, by dsimp only; omega, by dsimp only; omega⟩

/-- The months counted from year 0. -/
def monthIndex (date : NaiveDate) : ℤ := date.year * 12 + date.month

/-- A date of some months later counts as many months more. -/
theorem monthIndex_monthAfter {after date : NaiveDate} {steps : ℕ}
    (year : date.year = (monthAfter after.year after.month steps).1)
    (month : date.month = (monthAfter after.year after.month steps).2) :
    monthIndex date = monthIndex after + steps := by
  unfold monthIndex
  rw [year, month]
  unfold monthAfter
  split
  · push_cast
    omega
  · push_cast
    omega

/-- The calendar order, by months and days. -/
theorem lt_iff_monthIndex {first second : NaiveDate} :
    first < second ↔ monthIndex first < monthIndex second ∨
      (monthIndex first = monthIndex second ∧ first.day < second.day) := by
  have month := first.month_bounds
  have month' := second.month_bounds
  rw [NaiveDate.lt_iff]
  unfold monthIndex
  omega

/-- The date of the same month, or of the first month `steps` later, is the least later one on the day
whose month lies a multiple of `steps` months away. -/
theorem monthStep_least {after : NaiveDate} {dom : DayOfMonth} {steps : ℕ} (positive : 0 < steps)
    (few : steps ≤ 12) (below : after.year < maxYear) {next : Option NaiveDate}
    (stepped : next = if dom.val ≤ after.day then
        fromYmdOpt (monthAfter after.year after.month steps).1 (monthAfter after.year after.month steps).2
          dom.val
      else fromYmdOpt after.year after.month dom.val) :
    ∃ date, next = some date ∧ after < date ∧ date.day = dom.val ∧
      (monthIndex date - monthIndex after) % steps = 0 ∧
      ∀ other : NaiveDate, after < other → other.day = dom.val →
        (monthIndex other - monthIndex after) % steps = 0 → date ≤ other := by
  have low : minYear ≤ after.year := after.valid.1
  subst stepped
  by_cases reached : dom.val ≤ after.day
  · obtain ⟨⟨above, inside⟩, months⟩ := monthAfter_inside few positive below
    obtain ⟨date, found, year, month, day⟩ := fromYmdOpt_inside above inside months dom.valid
    have index := monthIndex_monthAfter year month
    refine ⟨date, by rw [if_pos reached, found], ?_, day, ?_, ?_⟩
    · rw [lt_iff_monthIndex]
      omega
    · rw [index]
      simp
    · intro other later sameDay whole
      rw [lt_iff_monthIndex] at later
      rw [← not_lt, lt_iff_monthIndex]
      -- the other month is later and a multiple of the steps away, so at least the steps away
      have apart : (steps : ℤ) ≤ monthIndex other - monthIndex after :=
        Int.le_of_dvd (by omega) (Int.dvd_of_emod_eq_zero whole)
      omega
  · obtain ⟨date, found, year, month, day⟩ := fromYmdOpt_inside low below.le after.month_bounds dom.valid
    have index : monthIndex date = monthIndex after := by
      unfold monthIndex
      rw [year, month]
    refine ⟨date, by rw [if_neg reached, found], ?_, day, ?_, ?_⟩
    · rw [lt_iff_monthIndex]
      omega
    · rw [index]
      simp
    · intro other later sameDay whole
      rw [lt_iff_monthIndex] at later
      rw [← not_lt, lt_iff_monthIndex]
      omega

/-- The date of this year, or else of the next, is the least later one on the day of the year. -/
theorem yearStep_least {after : NaiveDate} {on : MonthDay} (below : after.year < maxYear) :
    ∃ date, Cadence.advance (.yearly on) after = some date ∧ after < date ∧
      (date.month = on.month ∧ date.day = on.day) ∧
      ∀ other : NaiveDate, after < other → other.month = on.month ∧ other.day = on.day →
        date ≤ other := by
  have low : minYear ≤ after.year := after.valid.1
  obtain ⟨candidate, found, year, month, day⟩ := fromYmdOpt_inside low below.le on.valid.1 on.valid.2
  unfold Cadence.advance
  dsimp only
  rw [found, Option.bind_some]
  by_cases ahead : after < candidate
  · refine ⟨candidate, if_pos ahead, ahead, ⟨month, day⟩, ?_⟩
    intro other later ⟨sameMonth, sameDay⟩
    rw [NaiveDate.lt_iff] at later
    rw [← not_lt, NaiveDate.lt_iff]
    omega
  · have above : minYear ≤ after.year + 1 := by omega
    have inside : after.year + 1 ≤ maxYear := by omega
    obtain ⟨date, found', year', month', day'⟩ := fromYmdOpt_inside above inside on.valid.1 on.valid.2
    refine ⟨date, by rw [if_neg ahead, found'], ?_, ⟨month', day'⟩, ?_⟩
    · rw [NaiveDate.lt_iff]
      omega
    · intro other later ⟨sameMonth, sameDay⟩
      rw [NaiveDate.lt_iff] at later ahead
      rw [← not_lt, NaiveDate.lt_iff]
      omega

/-- `advance` gives the least later date the cadence can have. -/
theorem advance_isLeast (cadence : Cadence) {after : NaiveDate} (below : after.year < maxYear) :
    ∃ next, cadence.advance after = some next ∧
      IsLeast {date | after < date ∧ cadence.Falls after date} next := by
  cases cadence with
  | monthly dom =>
    obtain ⟨date, found, later, day, _, least⟩ :=
      @monthStep_least after dom 1 (by norm_num) (by norm_num) below _ rfl
    refine ⟨date, found, ⟨later, day⟩, ?_⟩
    rintro other ⟨later', falls⟩
    exact least other later' falls (Int.emod_one _)
  | quarterly dom =>
    obtain ⟨date, found, later, day, whole, least⟩ :=
      @monthStep_least after dom 3 (by norm_num) (by norm_num) below _ rfl
    unfold monthIndex at whole least
    refine ⟨date, found, ⟨later, day, by omega⟩, ?_⟩
    rintro other ⟨later', falls, sameMonth⟩
    exact least other later' falls (by omega)
  | yearly on =>
    obtain ⟨date, found, later, falls, least⟩ := @yearStep_least after on below
    refine ⟨date, found, ⟨later, falls⟩, ?_⟩
    rintro other ⟨later', falls'⟩
    exact least other later' falls'

/-- **The next run is the least later date of the cadence**, for every date before the last year; the
iterates grow, and pass every such date. -/
theorem advance_least (cadence : Cadence) (after : NaiveDate) (below : after.year < maxYear) :
    (∃ next, cadence.advance after = some next ∧
      IsLeast {date | after < date ∧ cadence.Falls after date} next) ∧
      (∀ m n earlier later, m < n → member cadence.advance after m = some earlier →
        member cadence.advance after n = some later → earlier < later) ∧
      ∀ today : NaiveDate, today.year < maxYear →
        ∃ n next, member cadence.advance after n = some next ∧ today < next := by
  refine ⟨cadence.advance_isLeast below, ?_, ?_⟩
  · intro m n earlier later before first second
    exact member_lt (fun _ _ => advance_gt) before first second
  · intro today inside
    have ranked : ∀ first second : NaiveDate, first < second → first.key < second.key :=
      fun _ _ => NaiveDate.lt_iff_key.mp
    refine exists_member_past ranked (fun _ _ => advance_gt) ?_ after
    intro date upTo
    have year : date.year ≤ today.year := by
      by_contra past
      exact absurd upTo (not_le.mpr (NaiveDate.lt_iff.mpr (Or.inl (by omega))))
    have early : date.year < maxYear := by omega
    obtain ⟨next, found, _⟩ := cadence.advance_isLeast early
    exact ⟨next, found⟩

end Cadence

/-- The 31st of January 2024, a leap year, and the quarterly run on the 28th. -/
def lateJanuary : NaiveDate := ⟨2024, 1, 31, by decide⟩

def onTheLast : Cadence := .quarterly ⟨28, by decide⟩

theorem advance_least_january :
    (∃ next, onTheLast.advance lateJanuary = some next ∧ next.month = 4) ∧
      ∃ n next, member onTheLast.advance lateJanuary n = some next ∧ lateJanuary < next := by
  obtain ⟨⟨next, found, _⟩, _, past⟩ := Cadence.advance_least onTheLast lateJanuary (by decide)
  refine ⟨⟨next, found, ?_⟩, past lateJanuary (by decide)⟩
  have moved : (onTheLast.advance lateJanuary).map NaiveDate.month = some 4 := by decide
  rw [found] at moved
  exact Option.some.inj moved

/-! ### Periods -/

namespace Cadence

/-- The number of a date's month, quarter or year. -/
def period : Cadence → NaiveDate → ℤ
  | .monthly _, date => date.year * 12 + (date.month - 1 : ℕ)
  | .quarterly _, date => date.year * 4 + ((date.month - 1) / 3 : ℕ)
  | .yearly _, date => date.year

/-- The cadence's day in the month, or in the year, of a date is not still to come. -/
def Reached : Cadence → NaiveDate → Prop
  | .monthly dom, date => dom.val ≤ date.day
  | .quarterly dom, date => dom.val ≤ date.day
  | .yearly on, date => on.month < date.month ∨ (on.month = date.month ∧ on.day ≤ date.day)

instance (cadence : Cadence) (date : NaiveDate) : Decidable (cadence.Reached date) := by
  cases cadence <;> unfold Reached <;> infer_instance

/-- A month or three months later is another month or quarter. -/
theorem monthIndex_of_reached {after date : NaiveDate} {dom : DayOfMonth} {steps : ℕ}
    (reached : dom.val ≤ after.day)
    (next : (if dom.val ≤ after.day then
        fromYmdOpt (monthAfter after.year after.month steps).1 (monthAfter after.year after.month steps).2
          dom.val
      else fromYmdOpt after.year after.month dom.val) = some date) :
    date.day = dom.val ∧ monthIndex date = monthIndex after + steps := by
  rw [if_pos reached] at next
  obtain ⟨year, month, day⟩ := fromYmdOpt_eq_some next
  exact ⟨day, monthIndex_monthAfter year month⟩

/-- From a date that has reached its day the next one has too, in a later period. -/
theorem Reached.advance {cadence : Cadence} {after date : NaiveDate} (reached : cadence.Reached after)
    (next : cadence.advance after = some date) :
    cadence.Reached date ∧ cadence.period after < cadence.period date := by
  have month := after.month_bounds
  have month' := date.month_bounds
  cases cadence with
  | monthly dom =>
    obtain ⟨day, index⟩ := @monthIndex_of_reached after date dom 1 reached next
    unfold monthIndex at index
    refine ⟨day.ge, ?_⟩
    show after.year * 12 + (after.month - 1 : ℕ) < date.year * 12 + (date.month - 1 : ℕ)
    omega
  | quarterly dom =>
    obtain ⟨day, index⟩ := @monthIndex_of_reached after date dom 3 reached next
    unfold monthIndex at index
    refine ⟨day.ge, ?_⟩
    show after.year * 4 + ((after.month - 1) / 3 : ℕ) < date.year * 4 + ((date.month - 1) / 3 : ℕ)
    omega
  | yearly on =>
    have reached' : on.month < after.month ∨ (on.month = after.month ∧ on.day ≤ after.day) := reached
    simp only [Cadence.advance, Option.bind_eq_some_iff] at next
    obtain ⟨candidate, found, next⟩ := next
    obtain ⟨year, sameMonth, sameDay⟩ := fromYmdOpt_eq_some found
    have past : ¬ after < candidate := by
      rw [NaiveDate.lt_iff]
      omega
    rw [if_neg past] at next
    obtain ⟨year', month'', day'⟩ := fromYmdOpt_eq_some next
    refine ⟨Or.inr ⟨month''.symm, day'.ge⟩, ?_⟩
    show after.year < date.year
    omega

/-- Before its day is reached, the next date lies in the same period. -/
theorem advance_of_not_reached {cadence : Cadence} {after : NaiveDate} (early : ¬ cadence.Reached after) :
    ∃ date, cadence.advance after = some date ∧ cadence.period date = cadence.period after := by
  have low : minYear ≤ after.year := after.valid.1
  have high : after.year ≤ maxYear := after.valid.2.1
  cases cadence with
  | monthly dom =>
    obtain ⟨date, found, year, month, _⟩ := fromYmdOpt_inside low high after.month_bounds dom.valid
    refine ⟨date, (if_neg early).trans found, ?_⟩
    show date.year * 12 + (date.month - 1 : ℕ) = after.year * 12 + (after.month - 1 : ℕ)
    rw [year, month]
  | quarterly dom =>
    obtain ⟨date, found, year, month, _⟩ := fromYmdOpt_inside low high after.month_bounds dom.valid
    refine ⟨date, (if_neg early).trans found, ?_⟩
    show date.year * 4 + ((date.month - 1) / 3 : ℕ) = after.year * 4 + ((after.month - 1) / 3 : ℕ)
    rw [year, month]
  | yearly on =>
    have early' : ¬ (on.month < after.month ∨ (on.month = after.month ∧ on.day ≤ after.day)) := early
    obtain ⟨date, found, year, month, day⟩ := fromYmdOpt_inside low high on.valid.1 on.valid.2
    have ahead : after < date := by
      rw [NaiveDate.lt_iff]
      omega
    refine ⟨date, ?_, year⟩
    show (fromYmdOpt after.year on.month on.day).bind _ = _
    rw [found, Option.bind_some, if_pos ahead]

/-- **No two dates from a start share a period exactly when the start has reached its day.** -/
theorem periods_distinct_iff (cadence : Cadence) (start : NaiveDate) :
    (∀ m n first second, m < n → member cadence.advance start m = some first →
      member cadence.advance start n = some second → cadence.period first ≠ cadence.period second) ↔
      cadence.Reached start := by
  constructor
  · intro distinct
    by_contra early
    obtain ⟨date, found, same⟩ := advance_of_not_reached early
    exact distinct 0 1 start date Nat.zero_lt_one rfl found same.symm
  · intro reached m n first second before found found'
    have rises := member_increases (f := cadence.period) (I := cadence.Reached)
      (fun a b holds next => (holds.advance next).1) (fun a b holds next => (holds.advance next).2)
      reached before found found'
    exact rises.ne

end Cadence

end Invoicing
