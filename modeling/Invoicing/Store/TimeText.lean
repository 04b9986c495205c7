/-
**Columns of times, compared as bytes.**

* `TimeText.tsToString` — the column of any UTC timestamp, also of one whose leap second is not the last of
  its minute; `tsToString_naiveUtc` — on an instant it is the column the rows are written with.
* **`TimeText.text_order`** — for the years `0..9999`, with leap seconds at the end of a minute, the bytes of
  the columns are ordered as time is, and columns are equal for equal times only;
  **`leap_inside_minute`** — with other leap seconds neither holds.
* **`listHistory_in_time`**, **`pendingOutbox_in_time`**, **`dueReminders_in_time`** — so the queries that
  order columns answer in the order of time, and the reminders that are due are those up to the cutoff.
-/

import Invoicing.Lib.InstantOrder
import Invoicing.Lib.Utf8Text
import Invoicing.Store.Queries

namespace Invoicing

open Chrono (DateTime NaiveDate NaiveDateTime)
open DigitText
open Utf8Text (Ascii bytes bytes_lt_iff)

namespace TimeText

/-! ### The texts -/

def tsToString (time : NaiveDateTime) : String := String.ofList time.text

theorem tsToString_naiveUtc (time : DateTime) : tsToString time.naiveUtc = Invoicing.tsToString time := rfl

theorem ascii_decimalDigits (width n : ℕ) : Ascii (decimalDigits width n) :=
  Ascii.digits (isDigit_decimalDigits width n)

theorem ascii_yearText (year : ℤ) : Ascii (Chrono.yearText year) := by
  unfold Chrono.yearText
  split
  · exact ascii_decimalDigits 4 _
  · refine Ascii.cons ?_ (Ascii.digits (isDigit_padDigits 4 _))
    split
    · decide
    · decide

theorem ascii_fractionText (nanos : ℕ) : Ascii (Chrono.fractionText nanos) := by
  unfold Chrono.fractionText
  split
  · exact fun c member => absurd member List.not_mem_nil
  · split
    · exact Ascii.cons (by decide) (ascii_decimalDigits 3 _)
    · split
      · exact Ascii.cons (by decide) (ascii_decimalDigits 6 _)
      · exact Ascii.cons (by decide) (ascii_decimalDigits 9 _)

/-- The text of a timestamp is ASCII, so its bytes are its characters. -/
theorem ascii_text (time : NaiveDateTime) : Ascii time.text := by
  have date : Ascii time.date.text :=
    (ascii_yearText _).append (Ascii.cons (by decide) ((ascii_decimalDigits 2 _).append
      (Ascii.cons (by decide) (ascii_decimalDigits 2 _))))
  have second : Ascii (decimalDigits 2 (time.secs % 60 + time.frac / 1000000000) ++
      Chrono.fractionText (time.frac % 1000000000)) :=
    (ascii_decimalDigits 2 _).append (ascii_fractionText _)
  have clock : Ascii (Chrono.timeText time.secs time.frac) :=
    (ascii_decimalDigits 2 _).append (Ascii.cons (by decide) ((ascii_decimalDigits 2 _).append
      (Ascii.cons (by decide) second)))
  have zeros : Ascii ['0', '0'] := Ascii.digits rfl
  have offset : Ascii ('+' :: (['0', '0'] ++ ':' :: ['0', '0'])) :=
    Ascii.cons (by decide) (zeros.append (Ascii.cons (by decide) zeros))
  exact date.append (Ascii.cons (by decide) (clock.append offset))

/-! ### The order of texts -/

/-- **Text order is time order** for timestamps of the years `0..9999`, with any fraction of a second, whose
leap seconds end a minute; and timestamps of one text are one. -/
theorem text_order {first second : NaiveDateTime} (here : first.FourDigitYear) (there : second.FourDigitYear)
    (leap : first.LeapAtMinuteEnd) (leap' : second.LeapAtMinuteEnd) :
    (bytes (tsToString first) < bytes (tsToString second) ↔ first < second) ∧
      (tsToString first = tsToString second ↔ first = second) := by
  constructor
  · calc bytes (tsToString first) < bytes (tsToString second) ↔ first.text < second.text :=
          bytes_lt_iff (ascii_text first) (ascii_text second)
      _ ↔ first.shown < second.shown := NaiveDateTime.text_lt_iff here there
      _ ↔ first < second := NaiveDateTime.shown_lt_iff leap leap'
  · calc tsToString first = tsToString second ↔ first.text = second.text := String.ofList_inj
      _ ↔ first.shown = second.shown := NaiveDateTime.text_eq_iff here there
      _ ↔ first = second := NaiveDateTime.shown_eq_iff leap leap'

/-- `2016-12-31T23:59:60.25`, a leap second. -/
def yearEnd : NaiveDateTime := ⟨⟨2016, 12, 31, by decide⟩, 86399, 1250000000, by decide, by decide⟩

/-- The second after it. -/
def newYear : NaiveDateTime := ⟨⟨2017, 1, 1, by decide⟩, 0, 0, by decide, by decide⟩

/-- A leap second sorts before the next minute, though its text is longer. -/
theorem text_order_yearEnd :
    bytes (tsToString yearEnd) < bytes (tsToString newYear) ∧ tsToString yearEnd ≠ tsToString newYear := by
  have ordered := @text_order yearEnd newYear (by decide) (by decide) (by decide) (by decide)
  exact ⟨ordered.1.mpr (by decide), fun same => absurd (ordered.2.mp same) (by decide)⟩

/-- Noon of a day, so many seconds and nanoseconds later. -/
def afterNoon (secs frac : ℕ) (inDay : 43200 + secs < 86400) (fracLt : frac < 2000000000) : NaiveDateTime :=
  ⟨⟨2026, 5, 19, by decide⟩, 43200 + secs, frac, inDay, fracLt⟩

/-- A leap second after thirty seconds. -/
def noonLeap : NaiveDateTime := afterNoon 30 1500000000 (by decide) (by decide)

/-- A leap second inside a minute: an earlier text for a later time, and one text for two times. -/
theorem leap_inside_minute :
    ∃ later twin : NaiveDateTime, noonLeap.FourDigitYear ∧ later.FourDigitYear ∧ twin.FourDigitYear ∧
      ¬ (bytes (tsToString noonLeap) < bytes (tsToString later) ↔ noonLeap < later) ∧
      ¬ (tsToString noonLeap = tsToString twin ↔ noonLeap = twin) := by
  refine ⟨afterNoon 31 400000000 (by decide) (by decide), afterNoon 31 500000000 (by decide) (by decide),
    by decide, by decide, by decide, ?_, ?_⟩
  · intro ordered
    exact absurd (ordered.mpr (by decide)) (by decide +kernel)
  · intro told
    exact absurd (told.mp (by decide +kernel)) (by decide)

end TimeText

/-! ### Queries -/

/-- Columns of times that fit are ordered as the times are. -/
theorem pairwise_in_time {ρ : Type} {rows : List ρ} {timeOf : ρ → DateTime}
    (years : ∀ row ∈ rows, (timeOf row).FourDigitYear)
    (sorted : rows.Pairwise fun first second => tsToString (timeOf first) ≤ tsToString (timeOf second)) :
    rows.Pairwise fun first second => timeOf first ≤ timeOf second := by
  refine sorted.imp_of_mem fun {first second} member member' le => ?_
  rw [tsToString, tsToString, ofList_le_iff] at le
  exact (DateTime.text_le_iff (years first member) (years second member')).mp le

section Queries

variable {texts : ColumnTexts} (documented : texts.Documented) {tables : ReminderDb} (fit : tables.YearsFit)

include documented fit

/-- **The history of an invoice is listed in the order of time.** -/
theorem listHistory_in_time (id : InvoiceId) (order : OrderBy HistoryColumns.occurredAt) :
    ∃ found, (tables.stored texts).listHistory texts id order = .ok found ∧
      found.Perm (tables.db.history.filter fun row => decide (row.invoiceId = id)) ∧
      found.Pairwise fun first second => first.occurredAt ≤ second.occurredAt := by
  obtain ⟨found, perm, sorted, selected⟩ := (historyFormat documented).select_in_order
    (fun row => decide (row.invoiceId = id.text)) (fun row there _ => fit.history row there) order none
  simp only [historyFormat, InvoiceStateHistory.columns, text_eq_iff] at perm sorted
  refine ⟨found, selected, perm, pairwise_in_time (fun row member => ?_) sorted⟩
  exact (yearsFit_cons.mp (fit.history row (List.mem_of_mem_filter (perm.mem_iff.mp member)))).1

/-- **The pending rows come in the order of time**, a page of them. -/
theorem pendingOutbox_in_time (limit : ℤ) (order : OrderBy HistoryColumns.occurredAt) :
    ∃ pending, (tables.stored texts).pendingOutbox texts limit order =
        .ok (pageRows (some (limit, none)) pending) ∧
      pending.Perm (tables.db.history.filter fun row => decide (row.publishedAt = none)) ∧
      pending.Pairwise fun first second => first.occurredAt ≤ second.occurredAt := by
  obtain ⟨pending, perm, sorted, selected⟩ := (historyFormat documented).select_in_order
    (fun row => decide (row.publishedAt = none)) (fun row there _ => fit.history row there) order
    (some (limit, none))
  simp only [historyFormat, InvoiceStateHistory.columns, Option.map_eq_none_iff] at perm sorted
  refine ⟨pending, selected, perm, pairwise_in_time (fun row member => ?_) sorted⟩
  exact (yearsFit_cons.mp (fit.history row (List.mem_of_mem_filter (perm.mem_iff.mp member)))).1

/-- **The reminders that are due are those scheduled up to the cutoff**, in the order of time. -/
theorem dueReminders_in_time {cutoff : DateTime} (inYears : cutoff.FourDigitYear)
    (order : OrderBy ReminderColumns.scheduledAt) :
    ∃ due, (tables.stored texts).dueReminders texts cutoff order = .ok due ∧
      due.Perm (tables.reminders.filter fun reminder =>
        decide (reminder.state = .scheduled) && decide (reminder.scheduledAt ≤ cutoff)) ∧
      due.Pairwise fun first second => first.scheduledAt ≤ second.scheduledAt := by
  obtain ⟨due, perm, sorted, selected⟩ := (reminderFormat documented).select_in_order
    (fun row => decide (row.state = reminderStateToStr .scheduled) &&
      decide (row.scheduledAt ≤ tsToString cutoff))
    (fun row there _ => fit.reminders row there) order none
  have years : ∀ reminder ∈ tables.reminders, reminder.scheduledAt.FourDigitYear :=
    fun reminder member => (yearsFit_cons.mp (fit.reminders reminder member)).1
  have inTime : ∀ reminder ∈ tables.reminders,
      (decide (reminder.columns.state = reminderStateToStr .scheduled) &&
        decide (reminder.columns.scheduledAt ≤ tsToString cutoff)) =
      (decide (reminder.state = .scheduled) && decide (reminder.scheduledAt ≤ cutoff)) := by
    intro reminder member
    have state : reminder.columns.state = reminderStateToStr .scheduled ↔ reminder.state = .scheduled :=
      (injective_of_read reminderStateFromStr_toStr).eq_iff
    have time : reminder.columns.scheduledAt ≤ tsToString cutoff ↔ reminder.scheduledAt ≤ cutoff :=
      ofList_le_iff.trans (DateTime.text_le_iff (years reminder member) inYears)
    rw [decide_eq_decide.mpr state, decide_eq_decide.mpr time]
  have kept : due.Perm (tables.reminders.filter fun reminder =>
      decide (reminder.state = .scheduled) && decide (reminder.scheduledAt ≤ cutoff)) :=
    perm.trans (List.Perm.of_eq (List.filter_congr inTime))
  refine ⟨due, selected, kept, pairwise_in_time (fun reminder member => ?_) sorted⟩
  exact years reminder (List.mem_of_mem_filter (kept.mem_iff.mp member))

end Queries

end Invoicing
