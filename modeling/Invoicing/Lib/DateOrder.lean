/-
**The text order of dates of any years.**

* `Misordered` — of two years, the later one is printed first: a plus sign sorts before a minus sign and
  both before the digits, years with a minus sign sort by their size, and of two signed years the shorter
  one is compared with the leading digits of the longer.
* **`NaiveDate.text_lt_of_year_lt_iff`** — it says exactly when the text order turns two dates of different
  years round; in one year the text order is the calendar order (`NaiveDate.text_lt_of_year_eq_iff`).
* **`NaiveDate.le_of_text_le_iff`**, **`NaiveDate.text_le_agrees_iff`** — when a date that is printed no later
  is no later, and when that is so both ways.
-/

import Invoicing.Lib.ChronoText

namespace Chrono

open DigitText

/-! ### Years -/

/-- How many digits a year with a sign has. -/
def yearWidth (year : ℤ) : ℕ := paddedWidth 4 year.natAbs

/-- The later of two years is printed first. -/
def Misordered (later earlier : ℤ) : Prop :=
  earlier < later ∧
    ((9999 < later ∧ earlier ≤ 9999) ∨
      (9999 < earlier ∧ later.natAbs / 10 ^ (yearWidth later - yearWidth earlier) < earlier.natAbs) ∨
      (later < 0 ∧ later.natAbs ≤ earlier.natAbs / 10 ^ (yearWidth earlier - yearWidth later)))

instance (later earlier : ℤ) : Decidable (Misordered later earlier) :=
  inferInstanceAs (Decidable (_ ∧ (_ ∨ _ ∨ _)))

theorem dash_lt_digit : ∀ digit < 10, '-' < Nat.digitChar digit := by decide

/-- A year of at least five digits or below 0 begins with its sign. -/
theorem yearText_signed {year : ℤ} (outside : ¬ (0 ≤ year ∧ year ≤ 9999)) :
    yearText year = (if year < 0 then '-' else '+') :: padDigits 4 year.natAbs := if_neg outside

/-- A year of four digits begins with one. -/
theorem yearText_digits {year : ℤ} (low : 0 ≤ year) (high : year ≤ 9999) :
    ∃ digit < 10, ∃ rest, yearText year = Nat.digitChar digit :: rest := by
  rw [yearText_of_range low high]
  exact ⟨_, Nat.mod_lt _ (by norm_num), _, rfl⟩

/-- A signed year before one of four digits. -/
theorem sign_lt_yearText {sign : Char} (low : ∀ digit < 10, sign < Nat.digitChar digit) {year : ℤ}
    (inside : 0 ≤ year ∧ year ≤ 9999) (first rest : List Char) :
    sign :: first < yearText year ++ rest := by
  obtain ⟨digit, bound, others, text⟩ := yearText_digits inside.1 inside.2
  rw [text, List.cons_append, List.cons_lt_cons_iff]
  exact Or.inl (low digit bound)

theorem plus_lt_digit : ∀ digit < 10, '+' < Nat.digitChar digit := by decide

section Signed

variable {sign : Char} {first second : ℤ} (differ : first.natAbs ≠ second.natAbs)
  (widths : yearWidth first ≤ yearWidth second) (rest rest' : List Char)
include differ widths

/-- Two signed years of one sign, each closed by a dash. -/
theorem signed_lt_iff :
    (sign :: padDigits 4 first.natAbs) ++ '-' :: rest < (sign :: padDigits 4 second.natAbs) ++ '-' :: rest' ↔
      first.natAbs ≤ second.natAbs / 10 ^ (yearWidth second - yearWidth first) := by
  rw [List.cons_append, List.cons_append, cons_lt_cons_self]
  exact padDigits_closed_lt_iff (by norm_num) dash_lt_digit differ widths rest rest'

theorem signed_gt_iff :
    (sign :: padDigits 4 second.natAbs) ++ '-' :: rest' < (sign :: padDigits 4 first.natAbs) ++ '-' :: rest ↔
      second.natAbs / 10 ^ (yearWidth second - yearWidth first) < first.natAbs := by
  rw [List.cons_append, List.cons_append, cons_lt_cons_self]
  exact padDigits_closed_gt_iff (by norm_num) dash_lt_digit differ widths rest rest'

end Signed

/-- **Where the text order turns two years round.** -/
theorem yearText_turned_iff {earlier later : ℤ} (before : earlier < later) (rest rest' : List Char) :
    yearText later ++ '-' :: rest < yearText earlier ++ '-' :: rest' ↔ Misordered later earlier := by
  unfold Misordered
  by_cases inside : 0 ≤ earlier ∧ earlier ≤ 9999
  · by_cases inside' : 0 ≤ later ∧ later ≤ 9999
    · rw [yearText_append_lt_iff inside'.1 inside'.2 inside.1 inside.2]
      omega
    · -- the later year has a plus sign
      have sign : (if later < 0 then '-' else '+') = '+' := if_neg (by omega)
      rw [yearText_signed inside', sign]
      exact iff_of_true (sign_lt_yearText plus_lt_digit inside _ _) ⟨before, Or.inl ⟨by omega, by omega⟩⟩
  · by_cases inside' : 0 ≤ later ∧ later ≤ 9999
    · -- the earlier year has a minus sign
      have sign : (if earlier < 0 then '-' else '+') = '-' := if_pos (by omega)
      have ahead := sign_lt_yearText dash_lt_digit inside' (padDigits 4 earlier.natAbs ++ '-' :: rest')
        ('-' :: rest)
      rw [yearText_signed inside, sign]
      refine iff_of_false (not_lt.mpr ahead.le) ?_
      rintro ⟨_, h | h | h⟩ <;> omega
    · rw [yearText_signed inside, yearText_signed inside']
      rcases lt_or_ge later 0 with minus | plus
      · -- both years have a minus sign: the later one is the smaller number
        rw [if_pos minus, if_pos (by omega)]
        rw [signed_lt_iff (by omega) (paddedWidth_mono 4 (by omega))]
        constructor
        · intro le
          exact ⟨before, Or.inr (Or.inr ⟨minus, le⟩)⟩
        · rintro ⟨_, h | h | h⟩
          · omega
          · omega
          · exact h.2
      · rcases lt_or_ge earlier 0 with minus | plus'
        · rw [if_neg (by omega), if_pos minus, List.cons_append, List.cons_append, List.cons_lt_cons_iff]
          exact iff_of_true (Or.inl (by decide)) ⟨before, Or.inl ⟨by omega, by omega⟩⟩
        · -- both years have a plus sign
          rw [if_neg (by omega), if_neg (by omega)]
          rw [signed_gt_iff (by omega) (paddedWidth_mono 4 (by omega))]
          constructor
          · intro less
            exact ⟨before, Or.inr (Or.inl ⟨by omega, less⟩)⟩
          · rintro ⟨_, h | h | h⟩
            · omega
            · exact h.2
            · omega

/-! ### Dates -/

/-- **Where the text order turns two dates of different years round.** -/
theorem NaiveDate.text_lt_of_year_lt_iff {earlier later : NaiveDate} (before : earlier.year < later.year) :
    later.text < earlier.text ↔ Misordered later.year earlier.year := yearText_turned_iff before _ _

/-- In one year the text order is the calendar order. -/
theorem NaiveDate.text_lt_of_year_eq_iff {first second : NaiveDate} (same : first.year = second.year) :
    first.text < second.text ↔ first < second := by
  have month := first.month_bounds
  have day := first.day_bounds
  have month' := second.month_bounds
  have day' := second.day_bounds
  have days : decimalDigits 2 first.day < decimalDigits 2 second.day ↔ first.day < second.day :=
    decimalDigits_lt_iff (by omega) (by omega)
  rw [NaiveDate.text, NaiveDate.text, same, append_lt_append_iff rfl]
  simp only [lt_irrefl, false_or, true_and]
  rw [cons_lt_cons_self, twoDigits_append_lt_iff (by omega) (by omega), cons_lt_cons_self, days,
    NaiveDate.lt_iff]
  omega

/-- Dates with one text are one date. -/
theorem NaiveDate.text_injective : Function.Injective NaiveDate.text := by
  intro first second same
  have read := readDate_text first
  rw [same, readDate_text] at read
  exact (Option.some.inj read).symm

theorem not_misordered_of_le {later earlier : ℤ} (le : later ≤ earlier) : ¬ Misordered later earlier :=
  fun turned => absurd turned.1 (not_lt.mpr le)

/-- Two dates of different years, by their texts. -/
theorem NaiveDate.text_le_of_year_lt_iff {earlier later : NaiveDate} (before : earlier.year < later.year) :
    later.text ≤ earlier.text ↔ Misordered later.year earlier.year := by
  rw [← NaiveDate.text_lt_of_year_lt_iff before, le_iff_lt_or_eq, or_iff_left]
  intro same
  rw [NaiveDate.text_injective same] at before
  exact lt_irrefl _ before

/-- **A date that is printed no later than another is no later, unless their years are turned round.** -/
theorem NaiveDate.le_of_text_le_iff (first second : NaiveDate) :
    (first.text ≤ second.text → first ≤ second) ↔ ¬ Misordered first.year second.year := by
  rcases lt_trichotomy first.year second.year with before | same | after
  · have le : first ≤ second := (NaiveDate.lt_iff.mpr (Or.inl before)).le
    exact iff_of_true (fun _ => le) (not_misordered_of_le before.le)
  · refine iff_of_true ?_ (not_misordered_of_le same.le)
    rw [← not_lt, ← not_lt, NaiveDate.text_lt_of_year_eq_iff same.symm]
    exact id
  · have notLe : ¬ first ≤ second := not_le.mpr (NaiveDate.lt_iff.mpr (Or.inl after))
    rw [NaiveDate.text_le_of_year_lt_iff after]
    exact ⟨fun holds turned => notLe (holds turned), fun holds turned => absurd turned holds⟩

/-- **The text order of two dates is their calendar order exactly when neither year is turned round.** -/
theorem NaiveDate.text_le_agrees_iff (first second : NaiveDate) :
    (first.text ≤ second.text ↔ first ≤ second) ↔
      ¬ Misordered first.year second.year ∧ ¬ Misordered second.year first.year := by
  have back : (first ≤ second → first.text ≤ second.text) ↔ ¬ Misordered second.year first.year := by
    rcases lt_trichotomy first.year second.year with before | same | after
    · have le : first ≤ second := (NaiveDate.lt_iff.mpr (Or.inl before)).le
      rw [← NaiveDate.text_lt_of_year_lt_iff before, not_lt]
      exact ⟨fun holds => holds le, fun holds _ => holds⟩
    · refine iff_of_true ?_ (not_misordered_of_le same.ge)
      rw [← not_lt, ← not_lt, NaiveDate.text_lt_of_year_eq_iff same.symm]
      exact id
    · have notLe : ¬ first ≤ second := not_le.mpr (NaiveDate.lt_iff.mpr (Or.inl after))
      exact iff_of_true (fun le => absurd le notLe) (not_misordered_of_le after.le)
  rw [← NaiveDate.le_of_text_le_iff first second, ← back]
  exact iff_iff_implies_and_implies

end Chrono
