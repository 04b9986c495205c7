/-
**Reading dates and instants back.**

* `readDate` — the date of a text `YYYY-MM-DD`; a year with a sign has any number of digits.
  **`readDate_text`** — every date is read back.
* `readRfc3339` — the instant of an RFC 3339 text with the offset `+00:00`, the year in four digits
  as the format has it. **`readRfc3339_text`** — instants of the years `0..9999` are read back;
  **`readRfc3339_fourDigits`** — nothing without four digits is read, so no other instant is
  (`DateTime.fourDigits_text`).
* **`DateTime.text_lt_of_outside`** — instants of other years are printed before all of those.
-/

import Invoicing.Lib.Chrono
import Invoicing.Lib.TextReader

namespace Chrono

open DigitText TextReader

/-! ### Dates -/

/-- A year: a sign and any number of digits, or digits alone. -/
def yearReader : TextReader ℤ := fun text =>
  if text.head? = some '-' then ((fun read => -(read.2 : ℤ)) <$> number).run text.tail
  else if text.head? = some '+' then ((fun read => (read.2 : ℤ)) <$> number).run text.tail
  else ((fun read => (read.2 : ℤ)) <$> number).run text

def dateReader : TextReader NaiveDate := do
  let year ← yearReader
  literal '-'
  let month ← decimalNumber 2
  literal '-'
  let day ← decimalNumber 2
  orFail (fromYmdOpt year month day)

def readDate (text : List Char) : Option NaiveDate := readAll dateReader text

theorem fromYmdOpt_self (date : NaiveDate) : fromYmdOpt date.year date.month date.day = some date :=
  dif_pos date.valid

theorem takes_padDigits (width : ℕ) (positive : 0 < width) (n : ℕ) {α : Type} (f : ℕ → α) :
    Takes ((fun read : ℕ × ℕ => f read.2) <$> number) NoDigit (padDigits width n) (f n) := by
  have taken := (takes_number (isDigit_padDigits width n) (padDigits_ne_nil positive n)).map
    fun read : ℕ × ℕ => f read.2
  rwa [ofDigitChars_padDigits] at taken

/-- **Every year is read back.** -/
theorem takes_yearText (year : ℤ) : Takes yearReader NoDigit (yearText year) year := by
  intro rest stops
  show yearReader (yearText year ++ rest) = _
  unfold yearText
  split
  · rename_i range
    have taken := takes_padDigits 4 (by norm_num) year.toNat (fun n => (n : ℤ)) rest stops
    have four : padDigits 4 year.toNat = decimalDigits 4 year.toNat := if_pos (by omega)
    rw [four, Int.toNat_of_nonneg range.1] at taken
    have noMinus : (decimalDigits 4 year.toNat ++ rest).head? ≠ some '-' := by
      simp [fixedDigits]
    have noPlus : (decimalDigits 4 year.toNat ++ rest).head? ≠ some '+' := by
      simp [fixedDigits]
    unfold yearReader
    rw [if_neg noMinus, if_neg noPlus]
    exact taken
  · by_cases negative : year < 0
    · have taken := takes_padDigits 4 (by norm_num) year.natAbs (fun n => -(n : ℤ)) rest stops
      rw [show (-(year.natAbs : ℤ)) = year by omega] at taken
      rw [if_pos negative]
      exact taken
    · have taken := takes_padDigits 4 (by norm_num) year.natAbs (fun n => (n : ℤ)) rest stops
      rw [show ((year.natAbs : ℤ)) = year by omega] at taken
      rw [if_neg negative]
      exact taken

theorem takes_date (date : NaiveDate) : Takes dateReader Anything date.text date := by
  have month := date.month_bounds
  have day := date.day_bounds
  have twoMonth : Takes (decimalNumber 2) Anything (decimalDigits 2 date.month) date.month :=
    takes_decimalNumber (by omega)
  have twoDay : Takes (decimalNumber 2) Anything (decimalDigits 2 date.day) date.day :=
    takes_decimalNumber (by omega)
  refine (takes_yearText date.year).bind ((takes_literal '-').then (twoMonth.then
    ((takes_literal '-').then (twoDay.last ?_)))) fun rest _ => rfl
  rw [fromYmdOpt_self]
  exact takes_orFail date

/-- **Every date is read back.** -/
theorem readDate_text (date : NaiveDate) : readDate date.text = some date :=
  (takes_date date).readAll trivial

/-! ### Instants -/

/-- The year of an instant has four digits. -/
def DateTime.FourDigitYear (time : DateTime) : Prop := 0 ≤ time.year ∧ time.year ≤ 9999

instance (time : DateTime) : Decidable time.FourDigitYear := inferInstanceAs (Decidable (_ ∧ _))

/-- The fraction of a second in nanoseconds; digits after the ninth are dropped. -/
def fractionReader : TextReader ℕ := fun text =>
  if text.head? = some '.' then
    ((fun read : ℕ × ℕ => read.2 * 10 ^ (9 - read.1) / 10 ^ (read.1 - 9)) <$> number).run text.tail
  else some (0, text)

/-- The instant of the fields of a text; second 60 is a leap second. -/
def fromFields (year : ℤ) (month day hour minute second nanos : ℕ) : Option DateTime :=
  (fromYmdOpt year month day).bind fun date =>
    if hour < 24 ∧ minute < 60 ∧ second ≤ 60 then
      let secs := hour * 3600 + minute * 60 + min second 59
      let nanos := nanos + second / 60 * 1000000000
      if valid : ValidTime secs nanos then some ⟨date, secs, nanos, valid⟩ else none
    else none

def rfc3339Reader : TextReader DateTime := do
  let year ← decimalNumber 4
  literal '-'
  let month ← decimalNumber 2
  literal '-'
  let day ← decimalNumber 2
  literal 'T'
  let hour ← decimalNumber 2
  literal ':'
  let minute ← decimalNumber 2
  literal ':'
  let second ← decimalNumber 2
  let nanos ← fractionReader
  literals ['+', '0', '0', ':', '0', '0']
  orFail (fromFields year month day hour minute second nanos)

def readRfc3339 (text : List Char) : Option DateTime := readAll rfc3339Reader text

/-- No digit and no point follows. -/
def NoFraction (rest : List Char) : Prop := NoDigit rest ∧ rest.head? ≠ some '.'

theorem takes_fractionDigits (width n : ℕ) (positive : 0 < width) (few : width ≤ 9)
    (room : n < 10 ^ width) :
    Takes fractionReader NoDigit ('.' :: decimalDigits width n) (n * 10 ^ (9 - width)) := by
  have nonempty : decimalDigits width n ≠ [] := by
    intro empty
    have length := congrArg List.length empty
    rw [length_fixedDigits, List.length_nil] at length
    omega
  have taken := (takes_number (isDigit_decimalDigits width n) nonempty).map
    fun read : ℕ × ℕ => read.2 * 10 ^ (9 - read.1) / 10 ^ (read.1 - 9)
  simp only [length_fixedDigits, ofDigitChars_decimalDigits, zero_mul, zero_add,
    Nat.mod_eq_of_lt room, Nat.sub_eq_zero_of_le few, pow_zero, Nat.div_one] at taken
  exact fun rest stops => taken rest stops

/-- **The fraction of a second is read back.** -/
theorem takes_fractionText (nanos : ℕ) (room : nanos < 1000000000) :
    Takes fractionReader NoFraction (fractionText nanos) nanos := by
  intro rest stops
  unfold fractionText
  split
  · rename_i none
    subst none
    exact if_neg stops.2
  · split
    · rename_i milli
      have taken := takes_fractionDigits 3 (nanos / 1000000) (by norm_num)
        (by norm_num) (by omega) rest stops.1
      rwa [show nanos / 1000000 * 10 ^ (9 - 3) = nanos by omega] at taken
    · split
      · rename_i micro
        have taken := takes_fractionDigits 6 (nanos / 1000) (by norm_num)
          (by norm_num) (by omega) rest stops.1
        rwa [show nanos / 1000 * 10 ^ (9 - 6) = nanos by omega] at taken
      · have taken := takes_fractionDigits 9 nanos (by norm_num) (by norm_num)
          (by omega) rest stops.1
        rwa [show nanos * 10 ^ (9 - 9) = nanos by omega] at taken

/-- The fields an instant is printed as are its own. -/
theorem fromFields_self (time : DateTime) :
    fromFields time.dateNaive.year time.dateNaive.month time.dateNaive.day (time.secs / 3600)
      (time.secs / 60 % 60) (time.secs % 60 + time.nanos / 1000000000) (time.nanos % 1000000000) =
        some time := by
  obtain ⟨date, secs, nanos, valid⟩ := time
  obtain ⟨day, room, leap⟩ := id valid
  have seconds : secs / 3600 * 3600 + secs / 60 % 60 * 60 +
      min (secs % 60 + nanos / 1000000000) 59 = secs := by omega
  have fraction : nanos % 1000000000 +
      (secs % 60 + nanos / 1000000000) / 60 * 1000000000 = nanos := by omega
  have inDay : secs / 3600 < 24 ∧ secs / 60 % 60 < 60 ∧ secs % 60 + nanos / 1000000000 ≤ 60 := by
    omega
  unfold fromFields
  dsimp only
  rw [fromYmdOpt_self, Option.bind_some, if_pos inDay]
  simp only [seconds, fraction]
  exact dif_pos valid

theorem takes_rfc3339 {time : DateTime} (inside : time.FourDigitYear) :
    Takes rfc3339Reader Anything time.text time := by
  obtain ⟨low, high⟩ := inside
  have month := time.dateNaive.month_bounds
  have day := time.dateNaive.day_bounds
  obtain ⟨secsLt, nanosLt, leap⟩ := time.valid
  have two : ∀ {n : ℕ}, n < 100 → Takes (decimalNumber 2) Anything (decimalDigits 2 n) n :=
    fun room => takes_decimalNumber (by omega)
  have four : Takes (decimalNumber 4) Anything (decimalDigits 4 time.year.toNat) time.year.toNat :=
    takes_decimalNumber (by omega)
  have fraction := takes_fractionText (time.nanos % 1000000000) (by omega)
  have fields := fromFields_self time
  unfold DateTime.year at low high four
  simp only [DateTime.text, NaiveDate.text, timeText, List.append_assoc, List.cons_append]
  rw [yearText_of_range low high]
  refine four.then ((takes_literal '-').then ((two (by omega)).then ((takes_literal '-').then
    ((two (by omega)).then ((takes_literal 'T').then ((two (by omega)).then ((takes_literal ':').then
      ((two (by omega)).then ((takes_literal ':').then ((two (by omega)).then
        (fraction.bind ((takes_literals _).last ?_) fun rest _ => ⟨rfl, by simp⟩)))))))))))
  rw [Int.toNat_of_nonneg low, fields]
  exact takes_orFail time

/-- **Instants of the years `0..9999` are read back.** -/
theorem readRfc3339_text {time : DateTime} (inside : time.FourDigitYear) :
    readRfc3339 time.text = some time := (takes_rfc3339 inside).readAll trivial

/-! ### Years outside `0..9999` -/

/-- The text begins with the four digits of a year. -/
def FourDigits (text : List Char) : Prop :=
  4 ≤ text.length ∧ (text.take 4).all Char.isDigit

/-- **What is read begins with four digits.** -/
theorem readRfc3339_fourDigits {text : List Char} {time : DateTime}
    (read : readRfc3339 text = some time) : FourDigits text := by
  obtain ⟨year, left, first, _⟩ := bind_some (readAll_some read)
  obtain ⟨long, digits⟩ := fixedNumber_some first
  refine ⟨long, List.all_eq_true.mpr fun c member => ?_⟩
  have digit := digits c member
  unfold decimalValue at digit
  by_contra other
  rw [if_neg other] at digit
  cases digit

namespace DateTime

/-- The sign of a year that is printed with one. -/
def sign (time : DateTime) : Char := if time.year < 0 then '-' else '+'

theorem sign_lt_digit (time : DateTime) : ∀ digit < 10, time.sign < Nat.digitChar digit := by
  unfold sign
  split <;> decide

theorem text_of_outside {time : DateTime} (outside : ¬ time.FourDigitYear) :
    ∃ rest, time.text = time.sign :: rest := by
  have year : yearText time.dateNaive.year = time.sign :: padDigits 4 time.dateNaive.year.natAbs :=
    if_neg outside
  unfold DateTime.text NaiveDate.text
  rw [year]
  exact ⟨_, rfl⟩

theorem text_of_inside {time : DateTime} (inside : time.FourDigitYear) :
    ∃ digit < 10, ∃ rest, time.text = Nat.digitChar digit :: rest := by
  have year : yearText time.dateNaive.year = decimalDigits 4 time.year.toNat :=
    yearText_of_range inside.1 inside.2
  unfold DateTime.text NaiveDate.text
  rw [year]
  exact ⟨_, Nat.mod_lt _ (by norm_num), _, rfl⟩

/-- **Only the years `0..9999` are printed with four digits in front.** -/
theorem fourDigits_text {time : DateTime} (digits : FourDigits time.text) : time.FourDigitYear := by
  by_contra outside
  have sign : time.sign.isDigit = false := by
    unfold DateTime.sign
    split <;> rfl
  obtain ⟨rest, text⟩ := text_of_outside outside
  obtain ⟨_, all⟩ := digits
  rw [text, List.take_succ_cons, List.all_cons, sign] at all
  cases all

/-- **An instant of another year is printed before every instant of the years `0..9999`.** -/
theorem text_lt_of_outside {inside outside : DateTime} (here : inside.FourDigitYear)
    (there : ¬ outside.FourDigitYear) : outside.text < inside.text := by
  obtain ⟨digit, bound, rest, text⟩ := text_of_inside here
  obtain ⟨rest', text'⟩ := text_of_outside there
  rw [text, text', List.cons_lt_cons_iff]
  exact Or.inl (sign_lt_digit outside digit bound)

end DateTime

end Chrono
