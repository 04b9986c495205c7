/-
**Recurring schedules.**

* `Cadence` — monthly or quarterly on a day of the month, or yearly on a day of a month. Days stop at
  28, so a cadence names a day every month has.
* `Cadence.text`, `Cadence.fromStr` — the grammar `monthly@<dom>`, `quarterly@<dom>`, `yearly@<MM-DD>`;
  **`Cadence.fromStr_text`** reads a printed cadence back.
* `Cadence.advance` — the next date of a cadence after a date; `none` where the year runs out of the
  calendar. **`Cadence.advance_gt`** — it is strictly later.
* `Schedule` — a recipe for draft invoices, one for each run date.
-/

import Invoicing.Domain.Invoice
import Invoicing.Lib.SplitText

namespace Invoicing

open Chrono
open SplitText (toList_joined)

/-- A day every month has. -/
structure DayOfMonth where
  val : ℕ
  valid : 1 ≤ val ∧ val ≤ 28
  deriving DecidableEq

/-- A day every year has. -/
structure MonthDay where
  month : ℕ
  day : ℕ
  valid : (1 ≤ month ∧ month ≤ 12) ∧ 1 ≤ day ∧ day ≤ 28
  deriving DecidableEq

/-- How often a schedule makes an invoice. -/
inductive Cadence
  | monthly (dom : DayOfMonth)
  | quarterly (dom : DayOfMonth)
  | yearly (date : MonthDay)
  deriving DecidableEq

/-- A cadence as it is printed. -/
def Cadence.text : Cadence → String
  | .monthly dom => "monthly@" ++ String.ofList (Nat.toDigits 10 dom.val)
  | .quarterly dom => "quarterly@" ++ String.ofList (Nat.toDigits 10 dom.val)
  | .yearly date => "yearly@" ++ String.ofList (DigitText.decimalDigits 2 date.month ++
      '-' :: DigitText.decimalDigits 2 date.day)

/-! ### Reading a cadence -/

/-- Why a text is not a cadence. -/
inductive CadenceError
  | missingArg (text : String)
  | invalidDom (text : String)
  | invalidYearly (text : String)
  | unknownPrefix (text : String)
  deriving DecidableEq

def CadenceError.text : CadenceError → String
  | .missingArg text => "missing `@<arg>` suffix in cadence: " ++ text
  | .invalidDom text => "invalid day-of-month: " ++ text
  | .invalidYearly text => "invalid yearly date `MM-DD`: " ++ text
  | .unknownPrefix text => "unrecognised cadence prefix: " ++ text

/-- The text before the first `c` and the text after it. -/
def splitOnce (c : Char) (text : List Char) : Option (List Char × List Char) :=
  if c ∈ text then some (text.takeWhile (· != c), (text.dropWhile (· != c)).drop 1) else none

/-- A `u8` in decimal; a plus sign may stand in front. -/
def parseU8 (text : List Char) : Option ℕ :=
  let digits := if text.head? = some '+' then text.tail else text
  if digits ≠ [] ∧ digits.all Char.isDigit ∧ Nat.ofDigitChars 10 digits 0 ≤ 255 then
    some (Nat.ofDigitChars 10 digits 0)
  else none

def Cadence.parseDom (text : List Char) : Except CadenceError DayOfMonth :=
  match parseU8 text with
  | none => .error (.invalidDom (String.ofList text))
  | some dom =>
      if valid : 1 ≤ dom ∧ dom ≤ 28 then .ok ⟨dom, valid⟩
      else .error (.invalidDom (String.ofList text))

def Cadence.parseMonthDay (text : List Char) : Except CadenceError MonthDay :=
  match splitOnce '-' text with
  | none => .error (.invalidYearly (String.ofList text))
  | some (mm, dd) =>
      match parseU8 mm, parseU8 dd with
      | some month, some day =>
          if valid : (1 ≤ month ∧ month ≤ 12) ∧ 1 ≤ day ∧ day ≤ 28 then .ok ⟨month, day, valid⟩
          else .error (.invalidYearly (String.ofList text))
      | _, _ => .error (.invalidYearly (String.ofList text))

def Cadence.fromStr (text : String) : Except CadenceError Cadence :=
  match splitOnce '@' text.toList with
  | none => .error (.missingArg text)
  | some (kind, arg) =>
      if kind = "monthly".toList then .monthly <$> parseDom arg
      else if kind = "quarterly".toList then .quarterly <$> parseDom arg
      else if kind = "yearly".toList then .yearly <$> parseMonthDay arg
      else .error (.unknownPrefix (String.ofList kind))

theorem splitOnce_append {c : Char} {first : List Char} (absent : c ∉ first) (rest : List Char) :
    splitOnce c (first ++ c :: rest) = some (first, rest) := by
  have other : ∀ d ∈ first, (d != c) = true := by
    intro d member
    rw [bne_iff_ne]
    rintro rfl
    exact absent member
  unfold splitOnce
  rw [if_pos (by simp), List.takeWhile_append_of_pos other, List.dropWhile_append_of_pos other]
  simp

theorem parseU8_digits {digits : List Char} (all : digits.all Char.isDigit) (nonempty : digits ≠ [])
    (room : Nat.ofDigitChars 10 digits 0 ≤ 255) :
    parseU8 digits = some (Nat.ofDigitChars 10 digits 0) := by
  have noSign : digits.head? ≠ some '+' := by
    cases digits with
    | nil => exact absurd rfl nonempty
    | cons c rest =>
      rw [List.all_cons, Bool.and_eq_true] at all
      rw [List.head?_cons, ne_eq, Option.some.injEq]
      rintro rfl
      exact absurd all.1 (by decide)
  unfold parseU8
  rw [if_neg noSign]
  exact if_pos ⟨nonempty, all, room⟩

theorem parseU8_decimalDigits {n : ℕ} (room : n < 100) :
    parseU8 (DigitText.decimalDigits 2 n) = some n := by
  have value : Nat.ofDigitChars 10 (DigitText.decimalDigits 2 n) 0 = n := by
    rw [DigitText.ofDigitChars_decimalDigits]
    omega
  have read := parseU8_digits (DigitText.isDigit_decimalDigits 2 n) (by simp [DigitText.fixedDigits])
    (by omega)
  rwa [value] at read

theorem Cadence.parseDom_text (dom : DayOfMonth) :
    parseDom (Nat.toDigits 10 dom.val) = .ok dom := by
  have bounds := dom.valid
  have read := parseU8_digits (DigitText.isDigit_toDigits dom.val) (DigitText.toDigits_ne_nil _)
    (by rw [Nat.ofDigitChars_ten_toDigits]; omega)
  rw [Nat.ofDigitChars_ten_toDigits] at read
  unfold parseDom
  rw [read]
  exact dif_pos bounds

theorem Cadence.parseMonthDay_text (date : MonthDay) :
    parseMonthDay (DigitText.decimalDigits 2 date.month ++
      '-' :: DigitText.decimalDigits 2 date.day) = .ok date := by
  obtain ⟨⟨_, monthLe⟩, _, dayLe⟩ := date.valid
  have absent : '-' ∉ DigitText.decimalDigits 2 date.month := by
    intro member
    exact absurd (List.all_eq_true.mp (DigitText.isDigit_decimalDigits 2 date.month) _ member)
      (by decide)
  unfold parseMonthDay
  rw [splitOnce_append absent]
  dsimp only
  rw [parseU8_decimalDigits (by omega), parseU8_decimalDigits (by omega)]
  exact dif_pos date.valid

/-- What stands before the `@` of a cadence, and after it. -/
theorem Cadence.splitOnce_text (kind : String) (absent : '@' ∉ kind.toList) (arg : List Char) :
    splitOnce '@' (kind ++ "@" ++ String.ofList arg).toList = some (kind.toList, arg) := by
  rw [toList_joined '@' rfl, String.toList_ofList]
  exact splitOnce_append absent arg

theorem Cadence.fromStr_monthly (arg : List Char) :
    fromStr ("monthly@" ++ String.ofList arg) = .monthly <$> parseDom arg := by
  have split : splitOnce '@' ("monthly@" ++ String.ofList arg).toList = _ :=
    splitOnce_text "monthly" (by decide) arg
  rw [fromStr, split]
  dsimp only
  rw [if_pos rfl]

theorem Cadence.fromStr_quarterly (arg : List Char) :
    fromStr ("quarterly@" ++ String.ofList arg) = .quarterly <$> parseDom arg := by
  have split : splitOnce '@' ("quarterly@" ++ String.ofList arg).toList = _ :=
    splitOnce_text "quarterly" (by decide) arg
  rw [fromStr, split]
  dsimp only
  rw [if_neg (by decide), if_pos rfl]

theorem Cadence.fromStr_yearly (arg : List Char) :
    fromStr ("yearly@" ++ String.ofList arg) = .yearly <$> parseMonthDay arg := by
  have split : splitOnce '@' ("yearly@" ++ String.ofList arg).toList = _ :=
    splitOnce_text "yearly" (by decide) arg
  rw [fromStr, split]
  dsimp only
  rw [if_neg (by decide), if_neg (by decide), if_pos rfl]

/-- **A printed cadence is read back.** -/
theorem Cadence.fromStr_text (cadence : Cadence) : fromStr cadence.text = .ok cadence := by
  cases cadence with
  | monthly dom =>
    rw [text, fromStr_monthly, parseDom_text]
    rfl
  | quarterly dom =>
    rw [text, fromStr_quarterly, parseDom_text]
    rfl
  | yearly date =>
    rw [text, fromStr_yearly, parseMonthDay_text]
    rfl

/-! ### The next date -/

/-- A month some months later, `steps` at most 12. -/
def monthAfter (year : ℤ) (month steps : ℕ) : ℤ × ℕ :=
  if 12 < month + steps then (year + 1, month + steps - 12) else (year, month + steps)

/-- The next date of a cadence after a date. -/
def Cadence.advance (cadence : Cadence) (after : NaiveDate) : Option NaiveDate :=
  match cadence with
  | .monthly dom =>
      if dom.val ≤ after.day then
        let (year, month) := monthAfter after.year after.month 1
        fromYmdOpt year month dom.val
      else fromYmdOpt after.year after.month dom.val
  | .quarterly dom =>
      -- the day of the month still to come wins over the three-month step
      if dom.val ≤ after.day then
        let (year, month) := monthAfter after.year after.month 3
        fromYmdOpt year month dom.val
      else fromYmdOpt after.year after.month dom.val
  | .yearly date =>
      (fromYmdOpt after.year date.month date.day).bind fun candidate =>
        if after < candidate then some candidate
        else fromYmdOpt (after.year + 1) date.month date.day

theorem monthAfter_later (year : ℤ) (month : ℕ) {steps : ℕ} (positive : 0 < steps) :
    year < (monthAfter year month steps).1 ∨
      ((monthAfter year month steps).1 = year ∧ month < (monthAfter year month steps).2) := by
  unfold monthAfter
  split
  · exact Or.inl (by show year < year + 1; omega)
  · exact Or.inr ⟨rfl, by show month < month + steps; omega⟩

/-- A date of a later month is later. -/
theorem lt_of_monthAfter {after date : NaiveDate} {steps day : ℕ} (positive : 0 < steps)
    (found : fromYmdOpt (monthAfter after.year after.month steps).1
      (monthAfter after.year after.month steps).2 day = some date) : after < date := by
  obtain ⟨year, month, _⟩ := fromYmdOpt_eq_some found
  rw [NaiveDate.lt_iff, year, month]
  rcases monthAfter_later after.year after.month positive with later | ⟨same, later⟩
  · exact Or.inl later
  · exact Or.inr ⟨same.symm, Or.inl later⟩

/-- A later day of the same month is later. -/
theorem lt_of_day {after date : NaiveDate} {day : ℕ} (later : after.day < day)
    (found : fromYmdOpt after.year after.month day = some date) : after < date := by
  obtain ⟨year, month, sameDay⟩ := fromYmdOpt_eq_some found
  rw [NaiveDate.lt_iff, year, month, sameDay]
  exact Or.inr ⟨rfl, Or.inr ⟨rfl, later⟩⟩

/-- **The next date of a cadence is strictly later.** -/
theorem Cadence.advance_gt {cadence : Cadence} {after date : NaiveDate}
    (next : cadence.advance after = some date) : after < date := by
  cases cadence with
  | monthly dom =>
    simp only [Cadence.advance] at next
    split at next
    · exact lt_of_monthAfter (by norm_num) next
    · exact lt_of_day (by omega) next
  | quarterly dom =>
    simp only [Cadence.advance] at next
    split at next
    · exact lt_of_monthAfter (by norm_num) next
    · exact lt_of_day (by omega) next
  | yearly monthDay =>
    simp only [Cadence.advance, Option.bind_eq_some_iff] at next
    obtain ⟨candidate, _, next⟩ := next
    split at next
    · rename_i later
      cases next
      exact later
    · obtain ⟨year, _, _⟩ := fromYmdOpt_eq_some next
      rw [NaiveDate.lt_iff, year]
      exact Or.inl (by omega)

/-! ### Schedules -/

/-- Lifecycle state of a schedule. -/
inductive ScheduleState
  | active
  | paused
  | cancelled
  deriving DecidableEq

/-- A line template. -/
structure ScheduleLine where
  description : String
  quantity : Decimal
  unitPrice : Decimal
  taxCategory : TaxCategory
  id : LineId
  deriving DecidableEq

/-- A recurring schedule; `endDate` is the last date a run may have. -/
structure Schedule where
  id : ScheduleId
  customerId : CustomerId
  templateLines : List ScheduleLine
  currency : Currency
  cadence : Cadence
  startDate : NaiveDate
  endDate : Option NaiveDate
  autoIssue : Bool
  nextRun : NaiveDate
  lastRun : Option NaiveDate
  state : ScheduleState
  metadata : Metadata
  createdAt : DateTime
  updatedAt : DateTime
  deriving DecidableEq

end Invoicing
