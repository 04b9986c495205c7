/-
**The stored tables and what the repositories ask of them.**

* `StoredDb`, `ReminderDb.stored` — the tables as columns.
* `StoredDb.getInvoice`, `StoredDb.listInvoices`, `StoredDb.pendingOutbox`, … — the `get`, `list`,
  `due` and `pending_outbox` queries: compare and order texts, then read every row found. Rows with
  equal values of the ordering column may come in any order.
* `ReminderDb.YearsFit` — the years of every time in the tables have four digits.
  **`readsBack_iff`**, **`answered_iff`** — that is when every row is read back, and when every query
  is answered; `listInvoices_blocked`, `pendingOutbox_blocked`, `dueReminders_blocked` — one other row
  blocks the lists.
* **`getInvoice_stored`**, **`dueSchedules_stored`**, … — what a query finds in the stored tables is
  what the tables of typed rows say.
-/

import Invoicing.Bus.Outbox
import Invoicing.Store.Rows
import Mathlib.Data.String.Basic

namespace Invoicing

open Chrono (DateTime NaiveDate)

/-- The tables as columns. -/
structure StoredDb where
  invoices : List InvoiceColumns
  lines : List LineColumns
  history : List HistoryColumns
  creditNotes : List CreditNoteColumns
  creditHistory : List CreditHistoryColumns
  schedules : List ScheduleColumns
  reminders : List ReminderColumns
  deriving DecidableEq

/-- The tables as they are stored. -/
def ReminderDb.stored (texts : ColumnTexts) (tables : ReminderDb) : StoredDb where
  invoices := tables.db.invoices.map (Invoice.columns texts)
  lines := tables.db.lines.map (InvoiceLine.columns texts)
  history := tables.db.history.map (InvoiceStateHistory.columns texts)
  creditNotes := tables.db.creditNotes.map (CreditNote.columns texts)
  creditHistory := tables.db.creditHistory.map (CreditNoteStateHistory.columns texts)
  schedules := tables.db.schedules.map (Schedule.columns texts)
  reminders := tables.reminders.map Reminder.columns

/-! ### Queries -/

/-- The filter of a list: the owner and the state of a row, and a page. An offset needs a limit. -/
structure ListFilter (owner : Entity) (σ : Type) where
  ownerId : Option (EntityId owner)
  state : Option σ
  page : Option (ℤ × Option ℤ)

/-- A row with this owner and this state is listed. -/
def ListFilter.keep {owner : Entity} {σ : Type} (filter : ListFilter owner σ) (toStr : σ → String)
    (ownerText stateText : String) : Bool :=
  (filter.ownerId.all fun id => decide (ownerText = id.text)) &&
    filter.state.all fun state => decide (stateText = toStr state)

/-- No filter. -/
def ListFilter.default {owner : Entity} {σ : Type} : ListFilter owner σ := ⟨none, none, none⟩

namespace StoredDb

variable (texts : ColumnTexts) (stored : StoredDb)

def getInvoice (id : InvoiceId) : ReadResult (Option Invoice) :=
  fetchOptional (rowToInvoice texts) (fun row => decide (row.id = id.text)) stored.invoices

def findByIdempotencyKey (key : String) : ReadResult (Option Invoice) :=
  fetchOptional (rowToInvoice texts) (fun row => decide (row.idempotencyKey = some key))
    stored.invoices

def listInvoices (filter : ListFilter .customer InvoiceState)
    (order : OrderBy InvoiceColumns.createdAt) : ReadResult (List Invoice) :=
  select (rowToInvoice texts)
    (.ordered (fun row => filter.keep stateToStr row.customerId row.state) order filter.page)
    stored.invoices

def listLines (id : InvoiceId) (order : OrderBy LineColumns.position) :
    ReadResult (List InvoiceLine) :=
  select (rowToInvoiceLine texts) (.ordered (fun row => decide (row.invoiceId = id.text)) order none)
    stored.lines

def listHistory (id : InvoiceId) (order : OrderBy HistoryColumns.occurredAt) :
    ReadResult (List InvoiceStateHistory) :=
  select (rowToHistory texts) (.ordered (fun row => decide (row.invoiceId = id.text)) order none)
    stored.history

def pendingOutbox (limit : ℤ) (order : OrderBy HistoryColumns.occurredAt) :
    ReadResult (List InvoiceStateHistory) :=
  select (rowToHistory texts)
    (.ordered (fun row => decide (row.publishedAt = none)) order (some (limit, none))) stored.history

def getCreditNote (id : CreditNoteId) : ReadResult (Option CreditNote) :=
  fetchOptional (rowToCreditNote texts) (fun row => decide (row.id = id.text)) stored.creditNotes

def listCreditNotes (filter : ListFilter .invoice CreditNoteState)
    (order : OrderBy CreditNoteColumns.createdAt) : ReadResult (List CreditNote) :=
  select (rowToCreditNote texts)
    (.ordered (fun row => filter.keep cnStateToStr row.invoiceId row.state) order filter.page)
    stored.creditNotes

def listCreditHistory (id : CreditNoteId) (order : OrderBy CreditHistoryColumns.occurredAt) :
    ReadResult (List CreditNoteStateHistory) :=
  select (rowToCnHistory texts) (.ordered (fun row => decide (row.creditNoteId = id.text)) order none)
    stored.creditHistory

def pendingCreditOutbox (limit : ℤ) (order : OrderBy CreditHistoryColumns.occurredAt) :
    ReadResult (List CreditNoteStateHistory) :=
  select (rowToCnHistory texts)
    (.ordered (fun row => decide (row.publishedAt = none)) order (some (limit, none)))
    stored.creditHistory

def getSchedule (id : ScheduleId) : ReadResult (Option Schedule) :=
  fetchOptional (rowToSchedule texts) (fun row => decide (row.id = id.text)) stored.schedules

def listSchedules (filter : ListFilter .customer ScheduleState)
    (order : OrderBy ScheduleColumns.createdAt) : ReadResult (List Schedule) :=
  select (rowToSchedule texts)
    (.ordered (fun row => filter.keep scheduleStateToStr row.customerId row.state) order filter.page)
    stored.schedules

def dueSchedules (cutoff : NaiveDate) (order : OrderBy ScheduleColumns.nextRun) :
    ReadResult (List Schedule) :=
  select (rowToSchedule texts)
    (.ordered (fun row => decide (row.state = "active") && decide (row.nextRun ≤ dateToString cutoff))
      order none) stored.schedules

def getReminder (id : ReminderId) : ReadResult (Option Reminder) :=
  fetchOptional (rowToReminder texts) (fun row => decide (row.id = id.text)) stored.reminders

def listReminders (id : InvoiceId) (order : OrderBy ReminderColumns.scheduledAt) :
    ReadResult (List Reminder) :=
  select (rowToReminder texts) (.ordered (fun row => decide (row.invoiceId = id.text)) order none)
    stored.reminders

def dueReminders (cutoff : DateTime) (order : OrderBy ReminderColumns.scheduledAt) :
    ReadResult (List Reminder) :=
  select (rowToReminder texts)
    (.ordered (fun row => decide (row.state = "scheduled") &&
      decide (row.scheduledAt ≤ tsToString cutoff)) order none) stored.reminders

end StoredDb

/-- A query of a repository, with the order its rows of one value come in. -/
inductive StoreQuery
  | getInvoice (id : InvoiceId)
  | findByIdempotencyKey (key : String)
  | listInvoices (filter : ListFilter .customer InvoiceState)
      (order : OrderBy InvoiceColumns.createdAt)
  | listLines (id : InvoiceId) (order : OrderBy LineColumns.position)
  | listHistory (id : InvoiceId) (order : OrderBy HistoryColumns.occurredAt)
  | pendingOutbox (limit : ℤ) (order : OrderBy HistoryColumns.occurredAt)
  | getCreditNote (id : CreditNoteId)
  | listCreditNotes (filter : ListFilter .invoice CreditNoteState)
      (order : OrderBy CreditNoteColumns.createdAt)
  | listCreditHistory (id : CreditNoteId) (order : OrderBy CreditHistoryColumns.occurredAt)
  | pendingCreditOutbox (limit : ℤ) (order : OrderBy CreditHistoryColumns.occurredAt)
  | getSchedule (id : ScheduleId)
  | listSchedules (filter : ListFilter .customer ScheduleState)
      (order : OrderBy ScheduleColumns.createdAt)
  | dueSchedules (cutoff : NaiveDate) (order : OrderBy ScheduleColumns.nextRun)
  | getReminder (id : ReminderId)
  | listReminders (id : InvoiceId) (order : OrderBy ReminderColumns.scheduledAt)
  | dueReminders (cutoff : DateTime) (order : OrderBy ReminderColumns.scheduledAt)

/-- The query does not fail. -/
def StoreQuery.Answered (texts : ColumnTexts) (stored : StoredDb) : StoreQuery → Prop
  | .getInvoice id => (stored.getInvoice texts id).isOk
  | .findByIdempotencyKey key => (stored.findByIdempotencyKey texts key).isOk
  | .listInvoices filter order => (stored.listInvoices texts filter order).isOk
  | .listLines id order => (stored.listLines texts id order).isOk
  | .listHistory id order => (stored.listHistory texts id order).isOk
  | .pendingOutbox limit order => (stored.pendingOutbox texts limit order).isOk
  | .getCreditNote id => (stored.getCreditNote texts id).isOk
  | .listCreditNotes filter order => (stored.listCreditNotes texts filter order).isOk
  | .listCreditHistory id order => (stored.listCreditHistory texts id order).isOk
  | .pendingCreditOutbox limit order => (stored.pendingCreditOutbox texts limit order).isOk
  | .getSchedule id => (stored.getSchedule texts id).isOk
  | .listSchedules filter order => (stored.listSchedules texts filter order).isOk
  | .dueSchedules cutoff order => (stored.dueSchedules texts cutoff order).isOk
  | .getReminder id => (stored.getReminder texts id).isOk
  | .listReminders id order => (stored.listReminders texts id order).isOk
  | .dueReminders cutoff order => (stored.dueReminders texts cutoff order).isOk

/-! ### Which tables are read back -/

/-- Every row is read back as it was. -/
structure ReminderDb.ReadsBack (texts : ColumnTexts) (tables : ReminderDb) : Prop where
  invoices : ∀ inv ∈ tables.db.invoices, rowToInvoice texts (inv.columns texts) = .ok inv
  lines : ∀ line ∈ tables.db.lines, rowToInvoiceLine texts (line.columns texts) = .ok line
  history : ∀ row ∈ tables.db.history, rowToHistory texts (row.columns texts) = .ok row
  creditNotes : ∀ note ∈ tables.db.creditNotes, rowToCreditNote texts (note.columns texts) = .ok note
  creditHistory : ∀ row ∈ tables.db.creditHistory, rowToCnHistory texts (row.columns texts) = .ok row
  schedules : ∀ schedule ∈ tables.db.schedules,
    rowToSchedule texts (schedule.columns texts) = .ok schedule
  reminders : ∀ reminder ∈ tables.reminders, rowToReminder texts reminder.columns = .ok reminder

/-- The years of every time in the tables have four digits. -/
structure ReminderDb.YearsFit (tables : ReminderDb) : Prop where
  invoices : ∀ inv ∈ tables.db.invoices, Invoicing.YearsFit inv.times
  history : ∀ row ∈ tables.db.history, Invoicing.YearsFit row.times
  creditNotes : ∀ note ∈ tables.db.creditNotes, Invoicing.YearsFit note.times
  creditHistory : ∀ row ∈ tables.db.creditHistory, Invoicing.YearsFit row.times
  schedules : ∀ schedule ∈ tables.db.schedules, Invoicing.YearsFit schedule.times
  reminders : ∀ reminder ∈ tables.reminders, Invoicing.YearsFit reminder.times

instance (tables : ReminderDb) : Decidable tables.YearsFit :=
  decidable_of_iff ((∀ inv ∈ tables.db.invoices, Invoicing.YearsFit inv.times) ∧
    (∀ row ∈ tables.db.history, Invoicing.YearsFit row.times) ∧
    (∀ note ∈ tables.db.creditNotes, Invoicing.YearsFit note.times) ∧
    (∀ row ∈ tables.db.creditHistory, Invoicing.YearsFit row.times) ∧
    (∀ schedule ∈ tables.db.schedules, Invoicing.YearsFit schedule.times) ∧
    ∀ reminder ∈ tables.reminders, Invoicing.YearsFit reminder.times)
    ⟨fun ⟨a, b, c, d, e, f⟩ => ⟨a, b, c, d, e, f⟩, fun ⟨a, b, c, d, e, f⟩ => ⟨a, b, c, d, e, f⟩⟩

/-- Texts are ordered as their characters. -/
theorem ofList_lt_iff {first second : List Char} :
    String.ofList first < String.ofList second ↔ first < second := by
  rw [String.lt_iff_toList_lt, String.toList_ofList, String.toList_ofList]

theorem ofList_le_iff {first second : List Char} :
    String.ofList first ≤ String.ofList second ↔ first ≤ second := by
  rw [← not_lt, ofList_lt_iff, not_lt]

section Tables

variable {texts : ColumnTexts} (documented : texts.Documented) {tables : ReminderDb}

include documented

/-- **Every row is read back exactly when the years fit.** -/
theorem readsBack_iff : tables.ReadsBack texts ↔ tables.YearsFit := by
  constructor
  · rintro ⟨invoices, _, history, creditNotes, creditHistory, schedules, reminders⟩
    exact {
      invoices inv member := ((invoiceFormat documented).inverts inv inv |>.mp (invoices inv member)).1
      history row member := ((historyFormat documented).inverts row row |>.mp (history row member)).1
      creditNotes note member :=
        ((creditNoteFormat documented).inverts note note |>.mp (creditNotes note member)).1
      creditHistory row member :=
        ((creditHistoryFormat documented).inverts row row |>.mp (creditHistory row member)).1
      schedules schedule member :=
        ((scheduleFormat documented).inverts schedule schedule |>.mp (schedules schedule member)).1
      reminders reminder member :=
        ((reminderFormat documented).inverts reminder reminder |>.mp (reminders reminder member)).1 }
  · rintro ⟨invoices, history, creditNotes, creditHistory, schedules, reminders⟩
    exact {
      invoices inv member := (invoiceFormat documented).inverts.read (invoices inv member)
      lines line _ := (lineFormat documented).inverts.read trivial
      history row member := (historyFormat documented).inverts.read (history row member)
      creditNotes note member := (creditNoteFormat documented).inverts.read (creditNotes note member)
      creditHistory row member :=
        (creditHistoryFormat documented).inverts.read (creditHistory row member)
      schedules schedule member :=
        (scheduleFormat documented).inverts.read (schedules schedule member)
      reminders reminder member :=
        (reminderFormat documented).inverts.read (reminders reminder member) }

/-- **When the years fit, every query is answered.** -/
theorem answered_of_fit (fit : tables.YearsFit) (query : StoreQuery) :
    query.Answered texts (tables.stored texts) := by
  cases query with
  | getInvoice id => exact (invoiceFormat documented).fetchOptional_isOk fit.invoices _
  | findByIdempotencyKey key =>
    exact (invoiceFormat documented).fetchOptional_isOk fit.invoices _
  | listInvoices filter order =>
    exact (invoiceFormat documented).select_isOk fit.invoices _
  | listLines id order =>
    exact (lineFormat documented).select_isOk (fun _ _ => trivial) _
  | listHistory id order => exact (historyFormat documented).select_isOk fit.history _
  | pendingOutbox limit order =>
    exact (historyFormat documented).select_isOk fit.history _
  | getCreditNote id =>
    exact (creditNoteFormat documented).fetchOptional_isOk fit.creditNotes _
  | listCreditNotes filter order =>
    exact (creditNoteFormat documented).select_isOk fit.creditNotes _
  | listCreditHistory id order =>
    exact (creditHistoryFormat documented).select_isOk fit.creditHistory _
  | pendingCreditOutbox limit order =>
    exact (creditHistoryFormat documented).select_isOk fit.creditHistory _
  | getSchedule id =>
    exact (scheduleFormat documented).fetchOptional_isOk fit.schedules _
  | listSchedules filter order =>
    exact (scheduleFormat documented).select_isOk fit.schedules _
  | dueSchedules cutoff order =>
    exact (scheduleFormat documented).select_isOk fit.schedules _
  | getReminder id =>
    exact (reminderFormat documented).fetchOptional_isOk fit.reminders _
  | listReminders id order =>
    exact (reminderFormat documented).select_isOk fit.reminders _
  | dueReminders cutoff order =>
    exact (reminderFormat documented).select_isOk fit.reminders _

/-- **Every query is answered exactly when the years fit.** -/
theorem answered_iff :
    (∀ query : StoreQuery, query.Answered texts (tables.stored texts)) ↔ tables.YearsFit := by
  refine ⟨fun answered => ?_, answered_of_fit documented⟩
  refine ⟨?_, ?_, ?_, ?_, ?_, ?_⟩
  · intro inv there
    by_contra outside
    exact (invoiceFormat documented).blocked outside
      (Query.mem_ordered.mpr ⟨List.mem_map_of_mem there, rfl⟩)
      (answered (.listInvoices .default (.stable _)))
  · intro row there
    by_contra outside
    exact (historyFormat documented).blocked outside
      (Query.mem_ordered.mpr ⟨List.mem_map_of_mem there, decide_eq_true rfl⟩)
      (answered (.listHistory row.invoiceId (.stable _)))
  · intro note there
    by_contra outside
    exact (creditNoteFormat documented).blocked outside
      (Query.mem_ordered.mpr ⟨List.mem_map_of_mem there, rfl⟩)
      (answered (.listCreditNotes .default (.stable _)))
  · intro row there
    by_contra outside
    exact (creditHistoryFormat documented).blocked outside
      (Query.mem_ordered.mpr ⟨List.mem_map_of_mem there, decide_eq_true rfl⟩)
      (answered (.listCreditHistory row.creditNoteId (.stable _)))
  · intro schedule there
    by_contra outside
    exact (scheduleFormat documented).blocked outside
      (Query.mem_ordered.mpr ⟨List.mem_map_of_mem there, rfl⟩)
      (answered (.listSchedules .default (.stable _)))
  · intro reminder there
    by_contra outside
    exact (reminderFormat documented).blocked outside
      (Query.mem_ordered.mpr ⟨List.mem_map_of_mem there, decide_eq_true rfl⟩)
      (answered (.listReminders reminder.invoiceId (.stable _)))

/-- **An invoice whose years do not fit is not read.** -/
theorem getInvoice_blocked {id : InvoiceId} {inv : Invoice}
    (stored : tables.db.getInvoice id = some inv) (outside : ¬ YearsFit inv.times) :
    ¬ (StoreQuery.getInvoice id).Answered texts (tables.stored texts) := by
  have late : ¬ (invoiceFormat documented).Fits inv := outside
  refine (invoiceFormat documented).fetchOptional_blocked ?_ late
  simp only [invoiceFormat, Invoice.columns, EntityId.text_injective.eq_iff]
  exact stored

/-- **One invoice whose years do not fit blocks the list of invoices.** -/
theorem listInvoices_blocked {inv : Invoice} (there : inv ∈ tables.db.invoices)
    (outside : ¬ YearsFit inv.times) (order : OrderBy InvoiceColumns.createdAt) :
    ¬ (StoreQuery.listInvoices .default order).Answered texts (tables.stored texts) :=
  (invoiceFormat documented).blocked outside
    (Query.mem_ordered.mpr ⟨List.mem_map_of_mem there, rfl⟩)

/-- **One pending row whose years do not fit blocks the relay**, whatever its limit: the text of its
time comes first. -/
theorem pendingOutbox_blocked {row : InvoiceStateHistory} (there : row ∈ tables.db.history)
    (pending : row.publishedAt = none) (outside : ¬ row.occurredAt.FourDigitYear) {limit : ℤ}
    (nonzero : limit ≠ 0) (order : OrderBy HistoryColumns.occurredAt) :
    ¬ (StoreQuery.pendingOutbox limit order).Answered texts (tables.stored texts) := by
  refine (historyFormat documented).blocked_at_front there
    (decide_eq_true (show row.publishedAt.map tsToString = none by rw [pending]; rfl)) ?_ nonzero
  intro first _ _ before fits
  have below := DateTime.text_lt_of_outside (yearsFit_cons.mp fits).1 outside
  exact absurd before (not_le.mpr (ofList_lt_iff.mpr below))

/-- **One scheduled reminder whose years do not fit blocks the due reminders** at every time whose year
does: it is due by its text. -/
theorem dueReminders_blocked {reminder : Reminder} (there : reminder ∈ tables.reminders)
    (scheduled : reminder.state = .scheduled) (outside : ¬ reminder.scheduledAt.FourDigitYear)
    {cutoff : DateTime} (inside : cutoff.FourDigitYear)
    (order : OrderBy ReminderColumns.scheduledAt) :
    ¬ (StoreQuery.dueReminders cutoff order).Answered texts (tables.stored texts) := by
  have late : ¬ (reminderFormat documented).Fits reminder :=
    fun fits => outside (yearsFit_cons.mp fits).1
  have due : tsToString reminder.scheduledAt ≤ tsToString cutoff :=
    ofList_le_iff.mpr (le_of_lt (DateTime.text_lt_of_outside inside outside))
  refine (reminderFormat documented).blocked late
    (Query.mem_ordered.mpr ⟨List.mem_map_of_mem there, ?_⟩)
  show (decide (reminderStateToStr reminder.state = "scheduled") &&
    decide (tsToString reminder.scheduledAt ≤ tsToString cutoff)) = true
  rw [scheduled, decide_eq_true due]
  rfl

end Tables

/-! ### The tables of typed rows -/

section Typed

variable {texts : ColumnTexts} (documented : texts.Documented) {tables : ReminderDb}
  (fit : tables.YearsFit)

theorem text_eq_iff {entity : Entity} {first second : EntityId entity} :
    first.text = second.text ↔ first = second := EntityId.text_injective.eq_iff

include documented fit

/-- **The stored invoice is the typed one.** -/
theorem getInvoice_stored (id : InvoiceId) :
    (tables.stored texts).getInvoice texts id = .ok (tables.db.getInvoice id) := by
  have found := (invoiceFormat documented).fetchOptional_of_fits fit.invoices
    fun row => decide (row.id = id.text)
  simp only [invoiceFormat, Invoice.columns, text_eq_iff] at found
  exact found

theorem findByIdempotencyKey_stored (key : String) :
    (tables.stored texts).findByIdempotencyKey texts key = .ok (tables.db.findByIdempotencyKey key) :=
  (invoiceFormat documented).fetchOptional_of_fits fit.invoices
    fun row => decide (row.idempotencyKey = some key)

theorem getCreditNote_stored (id : CreditNoteId) :
    (tables.stored texts).getCreditNote texts id = .ok (tables.db.getCreditNote id) := by
  have found := (creditNoteFormat documented).fetchOptional_of_fits fit.creditNotes
    fun row => decide (row.id = id.text)
  simp only [creditNoteFormat, CreditNote.columns, text_eq_iff] at found
  exact found

theorem getSchedule_stored (id : ScheduleId) :
    (tables.stored texts).getSchedule texts id = .ok (tables.db.getSchedule id) := by
  have found := (scheduleFormat documented).fetchOptional_of_fits fit.schedules
    fun row => decide (row.id = id.text)
  simp only [scheduleFormat, Schedule.columns, text_eq_iff] at found
  exact found

theorem getReminder_stored (id : ReminderId) :
    (tables.stored texts).getReminder texts id = .ok (tables.getReminder id) := by
  have found := (reminderFormat documented).fetchOptional_of_fits fit.reminders
    fun row => decide (row.id = id.text)
  simp only [reminderFormat, Reminder.columns, text_eq_iff] at found
  exact found

omit fit in
/-- **The stored lines of an invoice** are its lines, by position. -/
theorem listLines_stored (id : InvoiceId) :
    (tables.stored texts).listLines texts id (.stable _) = .ok (tables.db.linesOf id) := by
  have fits : ∀ line ∈ tables.db.lines, (lineFormat documented).Fits line := fun _ _ => trivial
  have found := (lineFormat documented).select_ordered fits
    (fun row => decide (row.invoiceId = id.text)) LineColumns.position none
  simp only [lineFormat, InvoiceLine.columns, text_eq_iff] at found
  refine found.trans (congrArg Except.ok ?_)
  exact OrderBy.stable_congr (fun _ _ => Int.ofNat_le) _

omit fit in
/-- **The stored invoices of a state** are those of the state, by the text of their creation, when their
years fit. -/
theorem listInvoices_stored {state : InvoiceState}
    (inState : ∀ inv ∈ tables.db.invoices, inv.state = state → Invoicing.YearsFit inv.times) :
    (tables.stored texts).listInvoices texts ⟨none, some state, none⟩ (.stable _) =
      .ok (tables.db.listByState state) := by
  have rows : (OrderBy.stable fun inv : Invoice => tsToString inv.createdAt).rows
      (tables.db.invoices.filter fun inv => decide (inv.state = state)) = tables.db.listByState state :=
    OrderBy.stable_congr (fun _ _ => ofList_le_iff) _
  have found := @RowFormat.select_ordered_eq_ok_iff _ _ _ _ (invoiceFormat documented) _
    tables.db.invoices (tables.db.listByState state) (fun row => decide (row.state = stateToStr state))
    InvoiceColumns.createdAt none
  simp only [invoiceFormat, Invoice.columns, (injective_of_read stateFromStr_toStr).eq_iff, pageRows,
    rows] at found
  refine found.mpr ⟨fun inv member => ?_, trivial⟩
  obtain ⟨there, same⟩ := List.mem_filter.mp ((OrderBy.mem_rows _).mp (rows ▸ member))
  exact inState inv there (of_decide_eq_true same)

/-- **The stored history of an invoice** is its history, by the text of its times. -/
theorem listHistory_stored (id : InvoiceId) :
    (tables.stored texts).listHistory texts id (.stable _) =
      .ok (tables.db.listForInvoice (.stable _) id) := by
  have found := (historyFormat documented).select_ordered fit.history
    (fun row => decide (row.invoiceId = id.text)) HistoryColumns.occurredAt none
  simp only [historyFormat, InvoiceStateHistory.columns, text_eq_iff] at found
  refine found.trans (congrArg Except.ok ?_)
  exact OrderBy.stable_congr (fun _ _ => ofList_le_iff) _

/-- **The stored rows that are pending** are those the relay is given. -/
theorem pendingOutbox_stored (limit : ℤ) :
    ∃ rows, (tables.stored texts).pendingOutbox texts limit (.stable _) = .ok rows ∧
      rows.map .invoice = tables.db.pendingOutbox (.stable _) limit .invoices := by
  have found := (historyFormat documented).select_ordered fit.history
    (fun row => decide (row.publishedAt = none)) HistoryColumns.occurredAt (some (limit, none))
  simp only [historyFormat, InvoiceStateHistory.columns, Option.map_eq_none_iff] at found
  refine ⟨_, found, ?_⟩
  show _ = pageRows (some (limit, none)) ((OrderBy.stable OutboxRow.timeText).rows
    ((tables.db.history.map OutboxRow.invoice).filter fun row => decide row.Pending))
  rw [List.filter_map, OrderBy.stable_map, map_pageRows]
  refine congrArg (fun rows => (pageRows _ rows).map OutboxRow.invoice) ?_
  exact OrderBy.stable_congr (fun _ _ => ofList_le_iff) _

theorem pendingCreditOutbox_stored (limit : ℤ) :
    ∃ rows, (tables.stored texts).pendingCreditOutbox texts limit (.stable _) = .ok rows ∧
      rows.map .creditNote = tables.db.pendingOutbox (.stable _) limit .creditNotes := by
  have found := (creditHistoryFormat documented).select_ordered fit.creditHistory
    (fun row => decide (row.publishedAt = none)) CreditHistoryColumns.occurredAt (some (limit, none))
  simp only [creditHistoryFormat, CreditNoteStateHistory.columns, Option.map_eq_none_iff] at found
  refine ⟨_, found, ?_⟩
  show _ = pageRows (some (limit, none)) ((OrderBy.stable OutboxRow.timeText).rows
    ((tables.db.creditHistory.map OutboxRow.creditNote).filter fun row => decide row.Pending))
  rw [List.filter_map, OrderBy.stable_map, map_pageRows]
  refine congrArg (fun rows => (pageRows _ rows).map OutboxRow.creditNote) ?_
  exact OrderBy.stable_congr (fun _ _ => ofList_le_iff) _

/-- **The stored schedules that are due** are the due ones. -/
theorem dueSchedules_stored (cutoff : NaiveDate) :
    (tables.stored texts).dueSchedules texts cutoff (.stable _) =
      .ok (tables.db.dueSchedules cutoff) := by
  have found := (scheduleFormat documented).select_ordered fit.schedules
    (fun row => decide (row.state = scheduleStateToStr .active) &&
      decide (row.nextRun ≤ dateToString cutoff)) ScheduleColumns.nextRun none
  simp only [scheduleFormat, Schedule.columns, (injective_of_read scheduleStateFromStr_toStr).eq_iff,
    dateToString, ofList_le_iff] at found
  refine found.trans (congrArg Except.ok ?_)
  exact OrderBy.stable_congr (fun _ _ => ofList_le_iff) _

/-- **The stored reminders that are due** are the due ones. -/
theorem dueReminders_stored (cutoff : DateTime) :
    (tables.stored texts).dueReminders texts cutoff (.stable _) =
      .ok (tables.dueReminders cutoff) := by
  have found := (reminderFormat documented).select_ordered fit.reminders
    (fun row => decide (row.state = reminderStateToStr .scheduled) &&
      decide (row.scheduledAt ≤ tsToString cutoff)) ReminderColumns.scheduledAt none
  simp only [reminderFormat, Reminder.columns, (injective_of_read reminderStateFromStr_toStr).eq_iff,
    tsToString, ofList_le_iff] at found
  refine found.trans (congrArg Except.ok ?_)
  exact OrderBy.stable_congr (fun _ _ => ofList_le_iff) _

end Typed

end Invoicing
