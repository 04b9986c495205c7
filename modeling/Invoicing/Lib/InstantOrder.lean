/-
**The text order of instants.**

* `fractionText_lt` — fractions of a second sort as numbers.
* `NaiveDateTime` — an instant as it is kept, where every second may be a leap second. `shown` — what its
  text shows, as one number. **`NaiveDateTime.text_lt_iff`**, **`text_eq_iff`** — for the years `0..9999` the
  order of the texts is that of what they show, and the texts are equal when they show the same.
* `LeapAtMinuteEnd` — a leap second is the last of its minute. **`shown_lt_iff`** — what is shown then has
  the order of time; **`shown_twice`** — every other leap second is shown as a later instant is.
* **`DateTime.text_le_iff`** — the text order of instants is the order of time.
-/

import Invoicing.Lib.ChronoText

namespace Chrono

open DigitText

/-! ### Fractions -/

/-- A fraction is nothing, or a point and digits for so many places. -/
theorem fractionText_cases (nanos : ℕ) (bound : nanos < 10 ^ 9) :
    (nanos = 0 ∧ fractionText nanos = []) ∨ (nanos ≠ 0 ∧ ∃ places digits, digits < 10 ^ places ∧
      nanos * 10 ^ places = digits * 10 ^ 9 ∧ fractionText nanos = '.' :: decimalDigits places digits) := by
  unfold fractionText
  split
  · exact Or.inl ⟨‹_›, rfl⟩
  · rename_i some
    refine Or.inr ⟨some, ?_⟩
    split
    · exact ⟨3, nanos / 1000000, by omega, by omega, rfl⟩
    · split
      · exact ⟨6, nanos / 1000, by omega, by omega, rfl⟩
      · exact ⟨9, nanos, bound, rfl, rfl⟩

/-- **Fractions of a second sort as numbers**, whatever their digits, before the sign of an offset. -/
theorem fractionText_lt {first second : ℕ} (bound : second < 10 ^ 9) (less : first < second)
    (rest rest' : List Char) : fractionText first ++ '+' :: rest < fractionText second ++ '+' :: rest' := by
  rcases fractionText_cases second bound with ⟨none, _⟩ | ⟨_, places', digits', fits', same', text'⟩
  · omega
  · rw [text']
    rcases fractionText_cases first (by omega) with ⟨_, text⟩ | ⟨_, places, digits, fits, same, text⟩
    · rw [text]
      exact List.cons_lt_cons_iff.mpr (Or.inl (by decide))
    · rw [text, List.cons_append, List.cons_append, cons_lt_cons_self]
      refine decimalDigits_closed_lt (by decide) fits fits' ?_ rest rest'
      have scaled : first * (10 ^ places * 10 ^ places') < second * (10 ^ places * 10 ^ places') :=
        Nat.mul_lt_mul_of_pos_right less (by positivity)
      have left : first * (10 ^ places * 10 ^ places') = digits * 10 ^ places' * 10 ^ 9 := by
        rw [← mul_assoc, same, Nat.mul_right_comm]
      have right : second * (10 ^ places * 10 ^ places') = digits' * 10 ^ places * 10 ^ 9 := by
        rw [mul_comm (10 ^ places), ← mul_assoc, same', Nat.mul_right_comm]
      rw [left, right] at scaled
      exact Nat.lt_of_mul_lt_mul_right scaled

/-! ### Instants as they are kept -/

/-- A date, a second of the day and nanoseconds, those of a leap second from 1000000000 on. -/
structure NaiveDateTime where
  date : NaiveDate
  secs : ℕ
  frac : ℕ
  secsLt : secs < 86400
  fracLt : frac < 2000000000
  deriving DecidableEq

namespace NaiveDateTime

/-- The sort key: date, second, nanosecond. -/
def key (time : NaiveDateTime) : ℤ := (time.date.key * 86400 + time.secs) * 2000000000 + time.frac

theorem key_injective : Function.Injective key := by
  intro first second same
  obtain ⟨date, secs, frac, secsLt, fracLt⟩ := first
  obtain ⟨date', secs', frac', secsLt', fracLt'⟩ := second
  simp only [key] at same
  have dates : date = date' := NaiveDate.key_injective (by omega)
  have seconds : secs = secs' := by omega
  have fractions : frac = frac' := by omega
  subst dates seconds fractions
  rfl

/-- Ordered by time. -/
instance : LinearOrder NaiveDateTime := LinearOrder.lift' key key_injective

/-- The year has four digits. -/
def FourDigitYear (time : NaiveDateTime) : Prop := 0 ≤ time.date.year ∧ time.date.year ≤ 9999

instance (time : NaiveDateTime) : Decidable time.FourDigitYear := inferInstanceAs (Decidable (_ ∧ _))

/-- RFC 3339 text with the offset `+00:00`. -/
def text (time : NaiveDateTime) : List Char :=
  time.date.text ++ 'T' :: (timeText time.secs time.frac ++ ['+', '0', '0', ':', '0', '0'])

/-- The second of its minute that the text shows. -/
def shownSecond (time : NaiveDateTime) : ℕ := time.secs % 60 + time.frac / 1000000000

/-- What the text shows: the date, the minute of the day, the second and its fraction. -/
def shown (time : NaiveDateTime) : ℤ :=
  ((time.date.key * 1440 + (time.secs / 60 : ℕ)) * 61 + time.shownSecond) * 1000000000 +
    (time.frac % 1000000000 : ℕ)

variable {first second : NaiveDateTime}

/-- Field by field, the first that differs decides. -/
theorem text_lt_of_shown_lt (here : first.FourDigitYear) (there : second.FourDigitYear)
    (before : first.shown < second.shown) : first.text < second.text := by
  have month := first.date.month_bounds
  have day := first.date.day_bounds
  have month' := second.date.month_bounds
  have day' := second.date.day_bounds
  have secsLt := first.secsLt
  have fracLt := first.fracLt
  have secsLt' := second.secsLt
  have fracLt' := second.fracLt
  obtain ⟨low, high⟩ := here
  obtain ⟨low', high'⟩ := there
  simp only [text, NaiveDate.text, timeText, List.append_assoc, List.cons_append]
  rw [yearText_append_lt_iff low high low' high', cons_lt_cons_self,
    twoDigits_append_lt_iff (by omega) (by omega), cons_lt_cons_self,
    twoDigits_append_lt_iff (by omega) (by omega), cons_lt_cons_self,
    twoDigits_append_lt_iff (by omega) (by omega), cons_lt_cons_self,
    twoDigits_append_lt_iff (by omega) (by omega), cons_lt_cons_self,
    twoDigits_append_lt_iff (by omega) (by omega)]
  rw [shown, shown, shownSecond, shownSecond, NaiveDate.key, NaiveDate.key] at before
  have fields : first.date.year < second.date.year ∨ first.date.year = second.date.year ∧
      (first.date.month < second.date.month ∨ first.date.month = second.date.month ∧
      (first.date.day < second.date.day ∨ first.date.day = second.date.day ∧
      (first.secs / 3600 < second.secs / 3600 ∨ first.secs / 3600 = second.secs / 3600 ∧
      (first.secs / 60 % 60 < second.secs / 60 % 60 ∨ first.secs / 60 % 60 = second.secs / 60 % 60 ∧
      (first.secs % 60 + first.frac / 1000000000 < second.secs % 60 + second.frac / 1000000000 ∨
        first.secs % 60 + first.frac / 1000000000 = second.secs % 60 + second.frac / 1000000000 ∧
        first.frac % 1000000000 < second.frac % 1000000000))))) := by omega
  refine fields.imp_right (And.imp_right (Or.imp_right (And.imp_right (Or.imp_right (And.imp_right
    (Or.imp_right (And.imp_right (Or.imp_right (And.imp_right (Or.imp_right (And.imp_right ?_)))))))))))
  exact fun less => fractionText_lt (by omega) less _ _

theorem text_of_shown_eq (same : first.shown = second.shown) : first.text = second.text := by
  have secsLt := first.secsLt
  have fracLt := first.fracLt
  have secsLt' := second.secsLt
  have fracLt' := second.fracLt
  rw [shown, shown, shownSecond, shownSecond] at same
  have keys : first.date.key = second.date.key := by omega
  have wholeMinutes : first.secs / 60 = second.secs / 60 := by omega
  have dates : first.date = second.date := NaiveDate.key_injective keys
  have hours : first.secs / 3600 = second.secs / 3600 := by omega
  have minutes : first.secs / 60 % 60 = second.secs / 60 % 60 := by omega
  have seconds : first.secs % 60 + first.frac / 1000000000 = second.secs % 60 + second.frac / 1000000000 := by
    omega
  have fractions : first.frac % 1000000000 = second.frac % 1000000000 := by omega
  simp only [text, timeText, dates, hours, minutes, seconds, fractions]

/-- **For the years `0..9999` the order of the texts is that of what they show.** -/
theorem text_lt_iff (here : first.FourDigitYear) (there : second.FourDigitYear) :
    first.text < second.text ↔ first.shown < second.shown := by
  constructor
  · intro printed
    rcases lt_trichotomy first.shown second.shown with less | same | later
    · exact less
    · rw [text_of_shown_eq same] at printed
      exact absurd printed (lt_irrefl _)
    · exact absurd printed (text_lt_of_shown_lt there here later).not_gt
  · exact text_lt_of_shown_lt here there

/-- **Two texts of the years `0..9999` are equal when they show the same.** -/
theorem text_eq_iff (here : first.FourDigitYear) (there : second.FourDigitYear) :
    first.text = second.text ↔ first.shown = second.shown := by
  constructor
  · intro printed
    rcases lt_trichotomy first.shown second.shown with less | same | later
    · exact absurd printed (text_lt_of_shown_lt here there less).ne
    · exact same
    · exact absurd printed.symm (text_lt_of_shown_lt there here later).ne
  · exact text_of_shown_eq

/-! ### Leap seconds -/

/-- A leap second is the last second of a minute. -/
def LeapAtMinuteEnd (time : NaiveDateTime) : Prop := 1000000000 ≤ time.frac → time.secs % 60 = 59

instance (time : NaiveDateTime) : Decidable time.LeapAtMinuteEnd := inferInstanceAs (Decidable (_ → _))

/-- **With leap seconds at the end of a minute only, what is shown has the order of time.** -/
theorem shown_lt_iff (leap : first.LeapAtMinuteEnd) (leap' : second.LeapAtMinuteEnd) :
    first.shown < second.shown ↔ first < second := by
  have secsLt := first.secsLt
  have fracLt := first.fracLt
  have secsLt' := second.secsLt
  have fracLt' := second.fracLt
  unfold LeapAtMinuteEnd at leap leap'
  show _ ↔ first.key < second.key
  rw [shown, shown, shownSecond, shownSecond, key, key]
  omega

theorem shown_eq_iff (leap : first.LeapAtMinuteEnd) (leap' : second.LeapAtMinuteEnd) :
    first.shown = second.shown ↔ first = second := by
  have less := shown_lt_iff leap leap'
  have later := shown_lt_iff leap' leap
  constructor
  · intro same
    exact le_antisymm (not_lt.mp (later.not.mp same.symm.not_lt)) (not_lt.mp (less.not.mp same.not_lt))
  · rintro rfl
    rfl

/-- **Every other leap second is shown as an instant of the next second is**, which is later. -/
theorem shown_twice {time : NaiveDateTime} (inside : ¬ time.LeapAtMinuteEnd) :
    ∃ later : NaiveDateTime, later.LeapAtMinuteEnd ∧ time < later ∧ later.text = time.text := by
  have secsLt := time.secsLt
  have fracLt := time.fracLt
  unfold LeapAtMinuteEnd at inside
  obtain ⟨leap, early⟩ := Classical.not_imp.mp inside
  refine ⟨⟨time.date, time.secs + 1, time.frac - 1000000000, by omega, by omega⟩, ?_, ?_, ?_⟩
  · intro again
    dsimp only at again
    omega
  · show time.key < _
    rw [key, key]
    dsimp only
    omega
  · refine text_of_shown_eq ?_
    rw [shown, shown, shownSecond, shownSecond]
    dsimp only
    omega

end NaiveDateTime

/-! ### Instants -/

namespace DateTime

/-- An instant as it is kept. -/
def naiveUtc (time : DateTime) : NaiveDateTime :=
  ⟨time.dateNaive, time.secs, time.nanos, time.valid.1, time.valid.2.1⟩

theorem naiveUtc_leapAtMinuteEnd (time : DateTime) : time.naiveUtc.LeapAtMinuteEnd := time.valid.2.2

/-- **Instants are what is kept with leap seconds at the end of a minute.** -/
theorem exists_naiveUtc_iff {kept : NaiveDateTime} :
    (∃ time : DateTime, time.naiveUtc = kept) ↔ kept.LeapAtMinuteEnd := by
  constructor
  · rintro ⟨time, rfl⟩
    exact time.naiveUtc_leapAtMinuteEnd
  · intro leap
    exact ⟨⟨kept.date, kept.secs, kept.frac, kept.secsLt, kept.fracLt, leap⟩, rfl⟩

/-- **Instants of the years `0..9999` are printed in their order**, leap seconds included. -/
theorem text_lt_of_lt {first second : DateTime} (here : first.FourDigitYear) (there : second.FourDigitYear)
    (before : first < second) : first.text < second.text := by
  have shown : first.naiveUtc.shown < second.naiveUtc.shown :=
    (NaiveDateTime.shown_lt_iff first.naiveUtc_leapAtMinuteEnd second.naiveUtc_leapAtMinuteEnd).mpr before
  have here' : first.naiveUtc.FourDigitYear := here
  have there' : second.naiveUtc.FourDigitYear := there
  exact NaiveDateTime.text_lt_of_shown_lt here' there' shown

/-- **For the years `0..9999` the text order of instants is the order of time.** -/
theorem text_le_iff {first second : DateTime} (here : first.FourDigitYear) (there : second.FourDigitYear) :
    first.text ≤ second.text ↔ first ≤ second := by
  constructor
  · intro printed
    by_contra later
    exact absurd printed (not_le.mpr (text_lt_of_lt there here (not_le.mp later)))
  · intro before
    rcases lt_or_eq_of_le before with less | rfl
    · exact (text_lt_of_lt here there less).le
    · exact le_rfl

end DateTime

end Chrono
