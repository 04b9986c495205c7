/-
**The rows of the tables as columns.**

* `InvoiceColumns`, `Invoice.columns`, `rowToInvoice`, … — for each table the columns of a row, how the
  `INSERT` binds a row to them, and how a selected row is read.
* `Invoice.times`, … — the times of a row; `YearsFit` — their UTC years have four digits.
* **`invoiceFormat`**, **`lineFormat`**, **`historyFormat`**, … — a row is read back as it was exactly
  when its years fit.
-/

import Invoicing.Store.Columns

namespace Invoicing

open Chrono (DateTime NaiveDate)

/-- The UTC years of these times have four digits. -/
def YearsFit (times : List DateTime) : Prop := ∀ time ∈ times, time.FourDigitYear

instance (times : List DateTime) : Decidable (YearsFit times) :=
  inferInstanceAs (Decidable (∀ time ∈ times, _))

@[simp] theorem yearsFit_nil : YearsFit [] := by simp [YearsFit]

@[simp] theorem yearsFit_cons {time : DateTime} {times : List DateTime} :
    YearsFit (time :: times) ↔ time.FourDigitYear ∧ YearsFit times := List.forall_mem_cons

@[simp] theorem yearsFit_append {first second : List DateTime} :
    YearsFit (first ++ second) ↔ YearsFit first ∧ YearsFit second := List.forall_mem_append

@[simp] theorem yearsFit_toList {time : Option DateTime} :
    YearsFit time.toList ↔ ∀ t ∈ time, t.FourDigitYear := by simp [YearsFit]

/-- An `INTEGER` column of a flag. -/
def flagToInt (flag : Bool) : ℤ := if flag then 1 else 0

def intToFlag (column : ℤ) : Bool := decide (column ≠ 0)

theorem intToFlag_flagToInt (flag : Bool) : intToFlag (flagToInt flag) = flag := by
  cases flag <;> rfl

section Values

variable {texts : ColumnTexts} (documented : texts.Documented)

include documented

theorem optTs_inverts : Inverts (readOptional (parseTs texts)) (Option.map tsToString)
    fun time => ∀ t ∈ time, t.FourDigitYear := (parseTs_inverts documented).optional

theorem optTypeid_text {entity : Entity} (id : Option (EntityId entity)) :
    readOptional (parseTypeid texts entity) (id.map EntityId.text) = .ok id :=
  (Inverts.ofEq (parseTypeid_text documented)).optional.read fun _ _ => trivial

theorem optDate_toString (column : String) (date : Option NaiveDate) :
    readOptional (parseDate texts column) (date.map dateToString) = .ok date :=
  (Inverts.ofEq (parseDate_toString documented column)).optional.read fun _ _ => trivial

end Values

theorem optState_toStr (state : Option InvoiceState) :
    readOptional stateFromStr (state.map stateToStr) = .ok state :=
  (Inverts.ofEq stateFromStr_toStr).optional.read fun _ _ => trivial

theorem optCnState_toStr (state : Option CreditNoteState) :
    readOptional cnStateFromStr (state.map cnStateToStr) = .ok state :=
  (Inverts.ofEq cnStateFromStr_toStr).optional.read fun _ _ => trivial

/-! ### Invoices -/

structure InvoiceColumns where
  id : String
  number : Option String
  customerId : String
  sellerJur : String
  currency : String
  state : String
  issuedAt : Option String
  dueAt : Option String
  sentAt : Option String
  viewedAt : Option String
  paidAt : Option String
  voidedAt : Option String
  subtotal : String
  taxTotal : String
  total : String
  amountPaid : String
  scheduleId : Option String
  templatePath : Option String
  pdfBlobRef : Option String
  idempotencyKey : Option String
  nexusReview : ℤ
  metadata : Option String
  createdAt : String
  updatedAt : String
  deriving DecidableEq

/-- The parameters of `InvoiceRepo::save_in_tx`. -/
def Invoice.columns (texts : ColumnTexts) (inv : Invoice) : InvoiceColumns where
  id := inv.id.text
  number := inv.number
  customerId := inv.customerId.text
  sellerJur := inv.sellerJurisdiction.asStr
  currency := inv.currency.asStr
  state := stateToStr inv.state
  issuedAt := inv.issuedAt.map tsToString
  dueAt := inv.dueAt.map tsToString
  sentAt := inv.sentAt.map tsToString
  viewedAt := inv.viewedAt.map tsToString
  paidAt := inv.paidAt.map tsToString
  voidedAt := inv.voidedAt.map tsToString
  subtotal := inv.subtotal.toString
  taxTotal := inv.taxTotal.toString
  total := inv.total.toString
  amountPaid := inv.amountPaid.toString
  scheduleId := inv.scheduleId.map EntityId.text
  templatePath := inv.templatePath
  pdfBlobRef := inv.pdfBlobRef
  idempotencyKey := inv.idempotencyKey
  nexusReview := flagToInt inv.nexusReview
  metadata := metadataToJson texts inv.metadata
  createdAt := tsToString inv.createdAt
  updatedAt := tsToString inv.updatedAt

def rowToInvoice (texts : ColumnTexts) (row : InvoiceColumns) : ReadResult Invoice := do
  let id ← parseTypeid texts .invoice row.id
  let customerId ← parseTypeid texts .customer row.customerId
  let sellerJurisdiction ← parseJurisdiction row.sellerJur
  let currency ← parseCurrency row.currency
  let state ← stateFromStr row.state
  let issuedAt ← readOptional (parseTs texts) row.issuedAt
  let dueAt ← readOptional (parseTs texts) row.dueAt
  let sentAt ← readOptional (parseTs texts) row.sentAt
  let viewedAt ← readOptional (parseTs texts) row.viewedAt
  let paidAt ← readOptional (parseTs texts) row.paidAt
  let voidedAt ← readOptional (parseTs texts) row.voidedAt
  let scheduleId ← readOptional (parseTypeid texts .schedule) row.scheduleId
  let metadata ← metadataFromJson texts row.metadata
  let subtotal ← parseDecimal row.subtotal
  let taxTotal ← parseDecimal row.taxTotal
  let total ← parseDecimal row.total
  let amountPaid ← parseDecimal row.amountPaid
  let createdAt ← parseTs texts row.createdAt
  let updatedAt ← parseTs texts row.updatedAt
  return {
    id, number := row.number, customerId, sellerJurisdiction, currency, state, issuedAt, dueAt, sentAt,
    viewedAt, paidAt, voidedAt, subtotal, taxTotal, total, amountPaid, scheduleId,
    templatePath := row.templatePath, pdfBlobRef := row.pdfBlobRef,
    idempotencyKey := row.idempotencyKey, nexusReview := intToFlag row.nexusReview, metadata,
    createdAt, updatedAt }

/-- The times of an invoice. -/
def Invoice.times (inv : Invoice) : List DateTime :=
  inv.issuedAt.toList ++ inv.dueAt.toList ++ inv.sentAt.toList ++ inv.viewedAt.toList ++
    inv.paidAt.toList ++ inv.voidedAt.toList ++ [inv.createdAt, inv.updatedAt]

/-- **An invoice is read back exactly when its years fit.** -/
theorem rowToInvoice_inverts {texts : ColumnTexts} (documented : texts.Documented) :
    Inverts (rowToInvoice texts) (Invoice.columns texts) fun inv => YearsFit inv.times := by
  intro inv found
  have time := parseTs_inverts documented
  have optTime := optTs_inverts documented
  unfold Inverts at time optTime
  simp only [rowToInvoice, Invoice.columns, bind_eq_ok, parseTypeid_text documented,
    parseJurisdiction_asStr, parseCurrency_asStr, stateFromStr_toStr, optTypeid_text documented,
    metadataFromJson_toJson documented, parseDecimal_toString, intToFlag_flagToInt, time, optTime,
    Except.ok.injEq, exists_eq_left', and_assoc, exists_and_left, exists_eq_left, pure, Except.pure,
    Invoice.times, yearsFit_append, yearsFit_toList, yearsFit_cons, yearsFit_nil, and_true,
    eq_comm (b := found)]

/-! ### Lines -/

structure LineColumns where
  id : String
  invoiceId : String
  position : ℤ
  description : String
  quantity : String
  unitPrice : String
  taxRateIds : Option String
  taxCategory : String
  taxAmount : String
  lineTotal : String
  metadata : Option String
  deriving DecidableEq

/-- The parameters of `InvoiceLineRepo::save_in_tx` and `replace_for_invoice_in_tx`. -/
def InvoiceLine.columns (texts : ColumnTexts) (line : InvoiceLine) : LineColumns where
  id := line.id.text
  invoiceId := line.invoiceId.text
  position := line.position
  description := line.description
  quantity := line.quantity.toString
  unitPrice := line.unitPrice.toString
  taxRateIds := some (texts.strings.toText line.taxRateIds)
  taxCategory := taxCategoryToStr line.taxCategory
  taxAmount := line.taxAmount.toString
  lineTotal := line.lineTotal.toString
  metadata := metadataToJson texts line.metadata

def rowToInvoiceLine (texts : ColumnTexts) (row : LineColumns) : ReadResult InvoiceLine := do
  let id ← parseTypeid texts .line row.id
  let invoiceId ← parseTypeid texts .invoice row.invoiceId
  let taxRateIds ← taxRateIdsFromJson texts row.taxRateIds
  let taxCategory ← taxCategoryFromStr row.taxCategory
  let quantity ← parseDecimal row.quantity
  let unitPrice ← parseDecimal row.unitPrice
  let taxAmount ← parseDecimal row.taxAmount
  let lineTotal ← parseDecimal row.lineTotal
  let metadata ← metadataFromJson texts row.metadata
  return {
    id, invoiceId, position := row.position.toNat, description := row.description, quantity,
    unitPrice, taxRateIds, taxCategory, taxAmount, lineTotal, metadata }

/-- **Every line is read back.** -/
theorem rowToInvoiceLine_columns {texts : ColumnTexts} (documented : texts.Documented)
    (line : InvoiceLine) : rowToInvoiceLine texts (line.columns texts) = .ok line := by
  simp only [rowToInvoiceLine, InvoiceLine.columns, bind_eq_ok, parseTypeid_text documented,
    taxRateIdsFromJson_toText documented, taxCategoryFromStr_toStr, parseDecimal_toString,
    metadataFromJson_toJson documented, Int.toNat_natCast, Except.ok.injEq, exists_eq_left', pure,
    Except.pure]

/-! ### The history of invoices -/

structure HistoryColumns where
  id : String
  invoiceId : String
  fromState : Option String
  toState : String
  event : String
  actor : Option String
  channel : String
  busEventId : Option String
  reason : Option String
  occurredAt : String
  publishedAt : Option String
  metadata : Option String
  deriving DecidableEq

/-- The parameters of `InvoiceHistoryRepo::save_in_tx`. -/
def InvoiceStateHistory.columns (texts : ColumnTexts) (row : InvoiceStateHistory) :
    HistoryColumns where
  id := row.id.text
  invoiceId := row.invoiceId.text
  fromState := row.fromState.map stateToStr
  toState := stateToStr row.toState
  event := row.event
  actor := row.actor
  channel := channelToStr row.channel
  busEventId := row.busEventId
  reason := row.reason
  occurredAt := tsToString row.occurredAt
  publishedAt := row.publishedAt.map tsToString
  metadata := metadataToJson texts row.metadata

def rowToHistory (texts : ColumnTexts) (row : HistoryColumns) : ReadResult InvoiceStateHistory := do
  let id ← parseTypeid texts .history row.id
  let invoiceId ← parseTypeid texts .invoice row.invoiceId
  let fromState ← readOptional stateFromStr row.fromState
  let toState ← stateFromStr row.toState
  let channel ← channelFromStr row.channel
  let occurredAt ← parseTs texts row.occurredAt
  let publishedAt ← readOptional (parseTs texts) row.publishedAt
  let metadata ← metadataFromJson texts row.metadata
  return {
    id, invoiceId, fromState, toState, event := row.event, actor := row.actor, channel,
    busEventId := row.busEventId, reason := row.reason, occurredAt, publishedAt, metadata }

/-- The times of a history row. -/
def InvoiceStateHistory.times (row : InvoiceStateHistory) : List DateTime :=
  row.occurredAt :: row.publishedAt.toList

theorem rowToHistory_inverts {texts : ColumnTexts} (documented : texts.Documented) :
    Inverts (rowToHistory texts) (InvoiceStateHistory.columns texts) fun row => YearsFit row.times := by
  intro row found
  have time := parseTs_inverts documented
  have optTime := optTs_inverts documented
  unfold Inverts at time optTime
  simp only [rowToHistory, InvoiceStateHistory.columns, bind_eq_ok, parseTypeid_text documented,
    optState_toStr, stateFromStr_toStr, channelFromStr_toStr, metadataFromJson_toJson documented,
    time, optTime, Except.ok.injEq, exists_eq_left', and_assoc, exists_and_left, exists_eq_left, pure,
    Except.pure, InvoiceStateHistory.times, yearsFit_toList, yearsFit_cons, eq_comm (b := found)]

/-! ### Credit notes -/

structure CreditNoteColumns where
  id : String
  number : Option String
  invoiceId : String
  state : String
  amount : String
  currency : String
  reason : Option String
  refundRef : Option String
  issuedAt : Option String
  createdAt : String
  metadata : Option String
  deriving DecidableEq

/-- The parameters of `CreditNoteRepo::save_in_tx`. -/
def CreditNote.columns (texts : ColumnTexts) (note : CreditNote) : CreditNoteColumns where
  id := note.id.text
  number := note.number
  invoiceId := note.invoiceId.text
  state := cnStateToStr note.state
  amount := note.amount.toString
  currency := note.currency.asStr
  reason := note.reason
  refundRef := note.refundRef
  issuedAt := note.issuedAt.map tsToString
  createdAt := tsToString note.createdAt
  metadata := metadataToJson texts note.metadata

def rowToCreditNote (texts : ColumnTexts) (row : CreditNoteColumns) : ReadResult CreditNote := do
  let id ← parseTypeid texts .creditNote row.id
  let invoiceId ← parseTypeid texts .invoice row.invoiceId
  let state ← cnStateFromStr row.state
  let currency ← parseCurrency row.currency
  let issuedAt ← readOptional (parseTs texts) row.issuedAt
  let amount ← parseDecimal row.amount
  let createdAt ← parseTs texts row.createdAt
  let metadata ← metadataFromJson texts row.metadata
  return {
    id, number := row.number, invoiceId, state, amount, currency, reason := row.reason,
    refundRef := row.refundRef, issuedAt, metadata, createdAt }

/-- The times of a credit note. -/
def CreditNote.times (note : CreditNote) : List DateTime :=
  note.issuedAt.toList ++ [note.createdAt]

theorem rowToCreditNote_inverts {texts : ColumnTexts} (documented : texts.Documented) :
    Inverts (rowToCreditNote texts) (CreditNote.columns texts) fun note => YearsFit note.times := by
  intro note found
  have time := parseTs_inverts documented
  have optTime := optTs_inverts documented
  unfold Inverts at time optTime
  simp only [rowToCreditNote, CreditNote.columns, bind_eq_ok, parseTypeid_text documented,
    cnStateFromStr_toStr, parseCurrency_asStr, parseDecimal_toString,
    metadataFromJson_toJson documented, time, optTime, Except.ok.injEq, exists_eq_left', and_assoc,
    exists_and_left, exists_eq_left, pure, Except.pure, CreditNote.times, yearsFit_append,
    yearsFit_toList, yearsFit_cons, yearsFit_nil, and_true, eq_comm (b := found)]

/-! ### The history of credit notes -/

structure CreditHistoryColumns where
  id : String
  creditNoteId : String
  fromState : Option String
  toState : String
  event : String
  actor : Option String
  channel : String
  busEventId : Option String
  occurredAt : String
  publishedAt : Option String
  metadata : Option String
  deriving DecidableEq

/-- The parameters of `CreditNoteHistoryRepo::save_in_tx`. -/
def CreditNoteStateHistory.columns (texts : ColumnTexts) (row : CreditNoteStateHistory) :
    CreditHistoryColumns where
  id := row.id.text
  creditNoteId := row.creditNoteId.text
  fromState := row.fromState.map cnStateToStr
  toState := cnStateToStr row.toState
  event := row.event
  actor := row.actor
  channel := channelToStr row.channel
  busEventId := row.busEventId
  occurredAt := tsToString row.occurredAt
  publishedAt := row.publishedAt.map tsToString
  metadata := metadataToJson texts row.metadata

def rowToCnHistory (texts : ColumnTexts) (row : CreditHistoryColumns) :
    ReadResult CreditNoteStateHistory := do
  let id ← parseTypeid texts .history row.id
  let creditNoteId ← parseTypeid texts .creditNote row.creditNoteId
  let fromState ← readOptional cnStateFromStr row.fromState
  let toState ← cnStateFromStr row.toState
  let channel ← channelFromStr row.channel
  let occurredAt ← parseTs texts row.occurredAt
  let publishedAt ← readOptional (parseTs texts) row.publishedAt
  let metadata ← metadataFromJson texts row.metadata
  return {
    id, creditNoteId, fromState, toState, event := row.event, actor := row.actor, channel,
    busEventId := row.busEventId, occurredAt, publishedAt, metadata }

/-- The times of a history row of a credit note. -/
def CreditNoteStateHistory.times (row : CreditNoteStateHistory) : List DateTime :=
  row.occurredAt :: row.publishedAt.toList

theorem rowToCnHistory_inverts {texts : ColumnTexts} (documented : texts.Documented) :
    Inverts (rowToCnHistory texts) (CreditNoteStateHistory.columns texts)
      fun row => YearsFit row.times := by
  intro row found
  have time := parseTs_inverts documented
  have optTime := optTs_inverts documented
  unfold Inverts at time optTime
  simp only [rowToCnHistory, CreditNoteStateHistory.columns, bind_eq_ok, parseTypeid_text documented,
    optCnState_toStr, cnStateFromStr_toStr, channelFromStr_toStr, metadataFromJson_toJson documented,
    time, optTime, Except.ok.injEq, exists_eq_left', and_assoc, exists_and_left, exists_eq_left, pure,
    Except.pure, CreditNoteStateHistory.times, yearsFit_toList, yearsFit_cons, eq_comm (b := found)]

/-! ### Schedules -/

structure ScheduleColumns where
  id : String
  customerId : String
  templateLines : String
  currency : String
  cadence : String
  startDate : String
  endDate : Option String
  autoIssue : ℤ
  nextRun : String
  lastRun : Option String
  state : String
  metadata : Option String
  createdAt : String
  updatedAt : String
  deriving DecidableEq

/-- The parameters of `ScheduleRepo::save_in_tx`. -/
def Schedule.columns (texts : ColumnTexts) (schedule : Schedule) : ScheduleColumns where
  id := schedule.id.text
  customerId := schedule.customerId.text
  templateLines := texts.templateLines.toText schedule.templateLines
  currency := schedule.currency.asStr
  cadence := schedule.cadence.text
  startDate := dateToString schedule.startDate
  endDate := schedule.endDate.map dateToString
  autoIssue := flagToInt schedule.autoIssue
  nextRun := dateToString schedule.nextRun
  lastRun := schedule.lastRun.map dateToString
  state := scheduleStateToStr schedule.state
  metadata := metadataToJson texts schedule.metadata
  createdAt := tsToString schedule.createdAt
  updatedAt := tsToString schedule.updatedAt

def rowToSchedule (texts : ColumnTexts) (row : ScheduleColumns) : ReadResult Schedule := do
  let id ← parseTypeid texts .schedule row.id
  let customerId ← parseTypeid texts .customer row.customerId
  let templateLines ← templateLinesFromJson texts row.templateLines
  let currency ← parseCurrency row.currency
  let cadence ← parseCadence row.cadence
  let startDate ← parseDate texts "start_date" row.startDate
  let endDate ← readOptional (parseDate texts "end_date") row.endDate
  let nextRun ← parseDate texts "next_run" row.nextRun
  let lastRun ← readOptional (parseDate texts "last_run") row.lastRun
  let state ← scheduleStateFromStr row.state
  let metadata ← metadataFromJson texts row.metadata
  let createdAt ← parseTs texts row.createdAt
  let updatedAt ← parseTs texts row.updatedAt
  return {
    id, customerId, templateLines, currency, cadence, startDate, endDate,
    autoIssue := intToFlag row.autoIssue, nextRun, lastRun, state, metadata, createdAt, updatedAt }

/-- The times of a schedule; its dates are read back whatever their year. -/
def Schedule.times (schedule : Schedule) : List DateTime := [schedule.createdAt, schedule.updatedAt]

/-- **A schedule is read back exactly when the years of its times fit.** -/
theorem rowToSchedule_inverts {texts : ColumnTexts} (documented : texts.Documented) :
    Inverts (rowToSchedule texts) (Schedule.columns texts)
      fun schedule => YearsFit schedule.times := by
  intro schedule found
  have time := parseTs_inverts documented
  unfold Inverts at time
  simp only [rowToSchedule, Schedule.columns, bind_eq_ok, parseTypeid_text documented,
    templateLinesFromJson_toText documented, parseCurrency_asStr, parseCadence_text,
    parseDate_toString documented, optDate_toString documented, scheduleStateFromStr_toStr,
    intToFlag_flagToInt, metadataFromJson_toJson documented, time, Except.ok.injEq, exists_eq_left',
    and_assoc, exists_and_left, exists_eq_left, pure, Except.pure, Schedule.times, yearsFit_cons,
    yearsFit_nil, and_true, eq_comm (b := found)]

/-! ### Reminders -/

structure ReminderColumns where
  id : String
  invoiceId : String
  scheduledAt : String
  sentAt : Option String
  channel : String
  state : String
  deriving DecidableEq

/-- The parameters of `ReminderRepo::save_in_tx`. -/
def Reminder.columns (reminder : Reminder) : ReminderColumns where
  id := reminder.id.text
  invoiceId := reminder.invoiceId.text
  scheduledAt := tsToString reminder.scheduledAt
  sentAt := reminder.sentAt.map tsToString
  channel := reminderChannelToStr reminder.channel
  state := reminderStateToStr reminder.state

def rowToReminder (texts : ColumnTexts) (row : ReminderColumns) : ReadResult Reminder := do
  let id ← parseTypeid texts .reminder row.id
  let invoiceId ← parseTypeid texts .invoice row.invoiceId
  let scheduledAt ← parseTs texts row.scheduledAt
  let sentAt ← readOptional (parseTs texts) row.sentAt
  let channel ← reminderChannelFromStr row.channel
  let state ← reminderStateFromStr row.state
  return { id, invoiceId, scheduledAt, sentAt, channel, state }

/-- The times of a reminder. -/
def Reminder.times (reminder : Reminder) : List DateTime :=
  reminder.scheduledAt :: reminder.sentAt.toList

theorem rowToReminder_inverts {texts : ColumnTexts} (documented : texts.Documented) :
    Inverts (rowToReminder texts) Reminder.columns fun reminder => YearsFit reminder.times := by
  intro reminder found
  have time := parseTs_inverts documented
  have optTime := optTs_inverts documented
  unfold Inverts at time optTime
  simp only [rowToReminder, Reminder.columns, bind_eq_ok, parseTypeid_text documented,
    reminderChannelFromStr_toStr, reminderStateFromStr_toStr, time, optTime, Except.ok.injEq,
    exists_eq_left', and_assoc, exists_and_left, exists_eq_left, pure, Except.pure, Reminder.times,
    yearsFit_toList, yearsFit_cons, eq_comm (b := found)]

/-! ### The formats -/

section Formats

variable {texts : ColumnTexts} (documented : texts.Documented)

def invoiceFormat : RowFormat Invoice InvoiceColumns ReadError where
  write := Invoice.columns texts
  read := rowToInvoice texts
  Fits inv := YearsFit inv.times
  inverts := rowToInvoice_inverts documented

def lineFormat : RowFormat InvoiceLine LineColumns ReadError where
  write := InvoiceLine.columns texts
  read := rowToInvoiceLine texts
  Fits _ := True
  inverts := .ofEq (rowToInvoiceLine_columns documented)

def historyFormat : RowFormat InvoiceStateHistory HistoryColumns ReadError where
  write := InvoiceStateHistory.columns texts
  read := rowToHistory texts
  Fits row := YearsFit row.times
  inverts := rowToHistory_inverts documented

def creditNoteFormat : RowFormat CreditNote CreditNoteColumns ReadError where
  write := CreditNote.columns texts
  read := rowToCreditNote texts
  Fits note := YearsFit note.times
  inverts := rowToCreditNote_inverts documented

def creditHistoryFormat : RowFormat CreditNoteStateHistory CreditHistoryColumns ReadError where
  write := CreditNoteStateHistory.columns texts
  read := rowToCnHistory texts
  Fits row := YearsFit row.times
  inverts := rowToCnHistory_inverts documented

def scheduleFormat : RowFormat Schedule ScheduleColumns ReadError where
  write := Schedule.columns texts
  read := rowToSchedule texts
  Fits schedule := YearsFit schedule.times
  inverts := rowToSchedule_inverts documented

def reminderFormat : RowFormat Reminder ReminderColumns ReadError where
  write := Reminder.columns
  read := rowToReminder texts
  Fits reminder := YearsFit reminder.times
  inverts := rowToReminder_inverts documented

end Formats

end Invoicing
