/-
**Which saved rows can be read back.**

* `SaveCommand` — `draft_invoice`, `mark_paid`, `create_credit_note`, `schedule_create` and
  `reminder_schedule`; `SaveCommand.execute` says whether one is accepted and what it leaves.
* `SaveCommand.times` — the times a command writes. **`execute_yearsFit_iff`** — an accepted command
  keeps the years of the tables in four digits exactly when the years of these times have four.
* **`saved_read_back_iff`** — along a run of such commands every row is read back and every query
  answered exactly when the years of every accepted command fit.
* **`draft_blocks_list`**, **`payment_blocks_relay`**, **`reminder_blocks_due`** — a draft with another
  due date fails the list of invoices, a payment received at another time the relay, a reminder at
  another time the due reminders.
-/

import Invoicing.Lib.Journal
import Invoicing.Runs.Accepted
import Invoicing.Runs.Reminded
import Invoicing.Store.PlainTexts
import Invoicing.Store.Queries

namespace Invoicing

open Chrono (DateTime)
open KeyedTable

/-! ### Commands that save rows -/

/-- A command that saves rows. -/
inductive SaveCommand
  | draftInvoice (ctx : CoreCtx) (input : DraftInvoiceInput)
  | markPaid (ctx : CoreCtx) (input : MarkPaidInput)
  | createCreditNote (ctx : CoreCtx) (input : CreateCreditNoteInput)
  | scheduleCreate (ctx : CoreCtx) (input : ScheduleCreateInput)
  | reminderSchedule (ctx : ReminderCtx) (input : ReminderScheduleInput)

/-- Whether a command of the main tables was accepted, and all the tables after it. -/
def ReminderDb.after {α : Type} (tables : ReminderDb) (done : CoreResult α × Db) : Bool × ReminderDb :=
  (done.1.isOk, { tables with db := done.2 })

/-- Whether the command is accepted, and the tables it leaves. -/
def SaveCommand.execute (tables : ReminderDb) : SaveCommand → Bool × ReminderDb
  | .draftInvoice ctx input => tables.after (Invoicing.draftInvoice ctx input tables.db)
  | .markPaid ctx input => tables.after (Invoicing.markPaid ctx input tables.db)
  | .createCreditNote ctx input => tables.after (Invoicing.createCreditNote ctx input tables.db)
  | .scheduleCreate ctx input => tables.after (Invoicing.scheduleCreate ctx input tables.db)
  | .reminderSchedule ctx input =>
      let done := Invoicing.reminderSchedule ctx input tables
      (done.result.isOk, done.after)

/-- The times a command writes; a draft that is answered from its key writes nothing. -/
def SaveCommand.times (tables : ReminderDb) : SaveCommand → List DateTime
  | .draftInvoice ctx input =>
      if (input.idempotencyKey.bind tables.db.findByIdempotencyKey).isSome then []
      else ctx.now :: input.dueAt.toList
  | .markPaid ctx input => [input.receivedAt.getD ctx.now]
  | .createCreditNote ctx _ => [ctx.now]
  | .scheduleCreate ctx _ => [ctx.now]
  | .reminderSchedule _ input => [input.scheduledAt]

/-- If the command is accepted, the years of the times it writes have four digits. -/
def SaveCommand.Fits (tables : ReminderDb) (command : SaveCommand) : Prop :=
  (command.execute tables).1 = true → YearsFit (command.times tables)

/-- The tables after a command. -/
def saveStep (tables : ReminderDb) (command : SaveCommand) : ReminderDb := (command.execute tables).2

/-- Run commands one after the other. -/
def runSaves (tables : ReminderDb) (commands : List SaveCommand) : ReminderDb :=
  commands.foldl saveStep tables

/-! ### What a row is merged to -/

/-- A saved invoice keeps its time of creation, so the years of its other times decide. -/
theorem Invoice.yearsFit_merged {old : Option Invoice} {row : Invoice}
    (before : ∀ inv, old = some inv → YearsFit inv.times)
    (created : row.updatedAt.FourDigitYear → row.createdAt.FourDigitYear) :
    YearsFit (merged Invoice.mergeRow old row).times ↔ YearsFit row.times := by
  cases old with
  | none => exact Iff.rfl
  | some inv =>
    have stored := before inv rfl
    simp only [merged, Invoice.mergeRow, Invoice.times, yearsFit_append, yearsFit_toList,
      yearsFit_cons, yearsFit_nil] at stored ⊢
    tauto

/-- A payment adds its own time to the row. -/
theorem yearsFit_paidRow_iff {inv : Invoice} (stored : YearsFit inv.times) (amountPaid : Decimal)
    (toState : InvoiceState) (time : DateTime) :
    YearsFit (paidRow inv amountPaid toState time).times ↔ time.FourDigitYear := by
  have paidAt : (∀ t ∈ if toState = .paid then some time else inv.paidAt, t.FourDigitYear) ↔
      (toState = .paid → time.FourDigitYear) ∧
        (toState ≠ .paid → ∀ t ∈ inv.paidAt, t.FourDigitYear) := by
    split <;> simp_all
  simp only [paidRow, Invoice.times, yearsFit_append, yearsFit_toList, yearsFit_cons, yearsFit_nil,
    paidAt] at stored ⊢
  tauto

theorem CreditNote.yearsFit_merged {old : Option CreditNote} {row : CreditNote}
    (before : ∀ note, old = some note → YearsFit note.times) (fits : YearsFit row.times) :
    YearsFit (merged CreditNote.mergeRow old row).times := by
  cases old with
  | none => exact fits
  | some note =>
    have stored := before note rfl
    simp only [merged, CreditNote.mergeRow, CreditNote.times, yearsFit_append, yearsFit_toList,
      yearsFit_cons, yearsFit_nil] at stored fits ⊢
    tauto

theorem Schedule.yearsFit_merged {old : Option Schedule} {row : Schedule}
    (before : ∀ schedule, old = some schedule → YearsFit schedule.times)
    (created : row.updatedAt.FourDigitYear → row.createdAt.FourDigitYear) :
    YearsFit (merged Schedule.mergeRow old row).times ↔ YearsFit row.times := by
  cases old with
  | none => exact Iff.rfl
  | some schedule =>
    have stored := before schedule rfl
    simp only [merged, Schedule.mergeRow, Schedule.times, yearsFit_cons, yearsFit_nil] at stored ⊢
    tauto

/-! ### What a write does to the years -/

section Writes

variable {tables : ReminderDb} (fit : tables.YearsFit)

include fit

/-- **A transaction of an invoice command** keeps the years exactly when its rows do. -/
theorem yearsFit_apply_iff {tx : InvoiceTx}
    (created : tx.invoice.updatedAt.FourDigitYear → tx.invoice.createdAt.FourDigitYear) :
    ReminderDb.YearsFit { tables with db := tx.apply tables.db } ↔
      YearsFit tx.invoice.times ∧ YearsFit tx.history.times := by
  have invoices : (∀ inv ∈ upsert Invoice.id Invoice.mergeRow tables.db.invoices tx.invoice,
      YearsFit inv.times) ↔ YearsFit tx.invoice.times :=
    (forall_mem_upsert fit.invoices tx.invoice).trans
      (Invoice.yearsFit_merged (fun inv found => fit.invoices inv (mem_of_find found)) created)
  constructor
  · rintro ⟨saved, history, _, _, _, _⟩
    exact ⟨invoices.mp saved, history tx.history (by simp [InvoiceTx.apply])⟩
  · rintro ⟨saved, recorded⟩
    refine ⟨invoices.mpr saved, ?_, fit.creditNotes, fit.creditHistory, fit.schedules, fit.reminders⟩
    intro row member
    rcases List.mem_append.mp member with before | now
    · exact fit.history row before
    · rw [List.mem_singleton.mp now]
      exact recorded

/-- **A transaction of a credit note** keeps the years exactly when its history row does, if the note is
as old as that row. -/
theorem yearsFit_applyCredit_iff {tx : CreditTx}
    (same : YearsFit tx.history.times → YearsFit tx.note.times) :
    ReminderDb.YearsFit { tables with db := tx.apply tables.db } ↔ YearsFit tx.history.times := by
  constructor
  · rintro ⟨_, _, _, history, _, _⟩
    exact history tx.history (by simp [CreditTx.apply])
  · intro recorded
    refine ⟨fit.invoices, fit.history, ?_, ?_, fit.schedules, fit.reminders⟩
    · refine (forall_mem_upsert fit.creditNotes tx.note).mpr ?_
      exact CreditNote.yearsFit_merged (fun note found => fit.creditNotes note (mem_of_find found))
        (same recorded)
    · intro row member
      rcases List.mem_append.mp member with before | now
      · exact fit.creditHistory row before
      · rw [List.mem_singleton.mp now]
        exact recorded

theorem yearsFit_putSchedule_iff {schedule : Schedule}
    (created : schedule.updatedAt.FourDigitYear → schedule.createdAt.FourDigitYear) :
    ReminderDb.YearsFit { tables with db := tables.db.putSchedule schedule } ↔
      YearsFit schedule.times := by
  have schedules : (∀ row ∈ upsert Schedule.id Schedule.mergeRow tables.db.schedules schedule,
      YearsFit row.times) ↔ YearsFit schedule.times :=
    (forall_mem_upsert fit.schedules schedule).trans
      (Schedule.yearsFit_merged (fun old found => fit.schedules old (mem_of_find found)) created)
  constructor
  · rintro ⟨_, _, _, _, saved, _⟩
    exact schedules.mp saved
  · intro saved
    exact ⟨fit.invoices, fit.history, fit.creditNotes, fit.creditHistory, schedules.mpr saved,
      fit.reminders⟩

theorem yearsFit_putReminder_iff {reminder : Reminder} :
    (tables.putReminder reminder).YearsFit ↔ YearsFit reminder.times := by
  have row : merged (fun _ row => row) (find Reminder.id tables.reminders reminder.id) reminder =
      reminder := by
    cases find Reminder.id tables.reminders reminder.id with
    | none => rfl
    | some old => rfl
  have reminders : (∀ row ∈ (tables.putReminder reminder).reminders, YearsFit row.times) ↔
      YearsFit (merged (fun _ row => row) (find Reminder.id tables.reminders reminder.id)
        reminder).times := forall_mem_upsert fit.reminders reminder
  rw [row] at reminders
  constructor
  · rintro ⟨_, _, _, _, _, saved⟩
    exact reminders.mp saved
  · intro saved
    exact ⟨fit.invoices, fit.history, fit.creditNotes, fit.creditHistory, fit.schedules,
      reminders.mpr saved⟩

end Writes

/-! ### What a command does to the years -/

section Commands

variable {tables : ReminderDb} (fit : tables.YearsFit)

include fit

theorem draft_yearsFit_iff {ctx : CoreCtx} {input : DraftInvoiceInput} {output : DraftInvoiceOutput}
    (done : (draftInvoice ctx input tables.db).1 = .ok output) :
    ReminderDb.YearsFit { tables with db := (draftInvoice ctx input tables.db).2 } ↔
      YearsFit ((SaveCommand.draftInvoice ctx input).times tables) := by
  rcases perform_ok done with ⟨answered, same⟩ | ⟨loaded, tx, written, committed⟩
  · obtain ⟨_, existing, found, _⟩ := prepareDraft_answer answered
    have silent : (SaveCommand.draftInvoice ctx input).times tables = [] := by
      simp only [SaveCommand.times, found]
      rfl
    rw [silent, draftInvoice, same]
    exact iff_of_true fit yearsFit_nil
  · obtain ⟨_, fresh, lines, subtotal, _, _, rfl, _⟩ := prepareDraft_write written
    have writes : (SaveCommand.draftInvoice ctx input).times tables =
        ctx.now :: input.dueAt.toList := by
      simp only [SaveCommand.times, fresh]
      rfl
    rw [writes, draftInvoice, (InvoiceTx.commit_ok committed).1, yearsFit_apply_iff fit id]
    simp [draftTx, draftRow, transitionRow, Invoice.times, InvoiceStateHistory.times]
    tauto

theorem markPaid_yearsFit_iff {ctx : CoreCtx} {input : MarkPaidInput} {output : MarkPaidOutput}
    (done : (markPaid ctx input tables.db).1 = .ok output) :
    ReminderDb.YearsFit { tables with db := (markPaid ctx input tables.db).2 } ↔
      YearsFit ((SaveCommand.markPaid ctx input).times tables) := by
  rcases perform_ok done with ⟨answered, _⟩ | ⟨loaded, tx, written, committed⟩
  · obtain ⟨_, _, _, _, _, _, _, shape⟩ := prepareMarkPaid_ok answered
    cases shape
  · obtain ⟨_, inv, amountPaid, toState, found, _, _, shape⟩ := prepareMarkPaid_ok written
    cases shape
    have stored := fit.invoices inv (mem_of_find found)
    have created : inv.createdAt.FourDigitYear := stored inv.createdAt (by simp [Invoice.times])
    rw [markPaid, (InvoiceTx.commit_ok committed).1, yearsFit_apply_iff fit fun _ => created]
    show YearsFit (paidRow inv amountPaid toState (input.receivedAt.getD ctx.now)).times ∧
      YearsFit [input.receivedAt.getD ctx.now] ↔ YearsFit [input.receivedAt.getD ctx.now]
    rw [yearsFit_paidRow_iff stored]
    simp

theorem createCreditNote_yearsFit_iff {ctx : CoreCtx} {input : CreateCreditNoteInput}
    {output : CreateCreditNoteOutput} (done : (createCreditNote ctx input tables.db).1 = .ok output) :
    ReminderDb.YearsFit { tables with db := (createCreditNote ctx input tables.db).2 } ↔
      YearsFit ((SaveCommand.createCreditNote ctx input).times tables) := by
  rcases performCredit_cases CreateCreditNoteOutput.mk (prepareCreateCreditNote ctx input tables.db)
    tables.db with ⟨_, stop, failed⟩ | ⟨tx, prepared, same⟩
  · rw [createCreditNote, failed] at done
    cases done
  · obtain ⟨inv, _, rfl⟩ := prepareCreateCreditNote_ok prepared
    rw [createCreditNote, same, yearsFit_applyCredit_iff fit]
    · simp [createCreditTx, CreditNoteStateHistory.times, SaveCommand.times]
    · simp [createCreditTx, draftNote, CreditNoteStateHistory.times, CreditNote.times]

theorem scheduleCreate_yearsFit_iff {ctx : CoreCtx} {input : ScheduleCreateInput}
    {output : ScheduleCreateOutput} (done : (scheduleCreate ctx input tables.db).1 = .ok output) :
    ReminderDb.YearsFit { tables with db := (scheduleCreate ctx input tables.db).2 } ↔
      YearsFit ((SaveCommand.scheduleCreate ctx input).times tables) := by
  rw [(scheduleCreate_stored done).2.2, yearsFit_putSchedule_iff fit id]
  simp [newSchedule, Schedule.times, SaveCommand.times]

theorem reminderSchedule_yearsFit_iff {ctx : ReminderCtx} {input : ReminderScheduleInput}
    {output : Reminder} (done : (reminderSchedule ctx input tables).result = .ok output) :
    (reminderSchedule ctx input tables).after.YearsFit ↔
      YearsFit ((SaveCommand.reminderSchedule ctx input).times tables) := by
  rcases reminderSchedule_cases ctx input tables with ⟨⟨stop, failed⟩, _⟩ | ⟨_, same, _, _⟩
  · rw [failed] at done
    cases done
  · rw [same, yearsFit_putReminder_iff fit]
    simp [newReminder, Reminder.times, SaveCommand.times]

omit fit in
/-- A command of the main tables that leaves them when it is refused. -/
theorem yearsFit_after_iff {α : Type} {done : CoreResult α × Db} {writes : List DateTime}
    (fit : tables.YearsFit) (refused : ∀ stop, done.1 = .error stop → done.2 = tables.db)
    (accepted : ∀ output, done.1 = .ok output →
      (ReminderDb.YearsFit { tables with db := done.2 } ↔ YearsFit writes)) :
    (tables.after done).2.YearsFit ↔ ((tables.after done).1 = true → YearsFit writes) := by
  cases result : done.1 with
  | error stop =>
    have same : (tables.after done).2 = tables := by
      show ({ tables with db := done.2 } : ReminderDb) = tables
      rw [refused stop result]
    have not : (tables.after done).1 = false := congrArg Except.isOk result
    rw [same, not]
    exact iff_of_true fit fun absurd => by cases absurd
  | ok output =>
    have yes : (tables.after done).1 = true := congrArg Except.isOk result
    rw [yes]
    exact (accepted output result).trans ⟨fun holds _ => holds, fun holds => holds rfl⟩

/-- **A command keeps the years of the tables exactly when it fits.** -/
theorem execute_yearsFit_iff (command : SaveCommand) :
    (saveStep tables command).YearsFit ↔ command.Fits tables := by
  cases command with
  | draftInvoice ctx input =>
    exact yearsFit_after_iff fit (fun _ => perform_error) fun _ => draft_yearsFit_iff fit
  | markPaid ctx input =>
    exact yearsFit_after_iff fit (fun _ => perform_error) fun _ => markPaid_yearsFit_iff fit
  | createCreditNote ctx input =>
    refine yearsFit_after_iff fit ?_ fun _ => createCreditNote_yearsFit_iff fit
    intro stop failed
    rcases performCredit_cases CreateCreditNoteOutput.mk (prepareCreateCreditNote ctx input tables.db)
      tables.db with ⟨same, _⟩ | ⟨tx, _, same⟩
    · exact same
    · rw [createCreditNote, same] at failed
      cases failed
  | scheduleCreate ctx input =>
    exact yearsFit_after_iff fit (fun _ => scheduleCreate_error) fun _ =>
      scheduleCreate_yearsFit_iff fit
  | reminderSchedule ctx input =>
    rcases reminderSchedule_cases ctx input tables with ⟨⟨stop, failed⟩, same, _⟩ | ⟨done, _⟩
    · have not : ((SaveCommand.reminderSchedule ctx input).execute tables).1 = false :=
        congrArg Except.isOk failed
      unfold SaveCommand.Fits
      rw [not]
      refine iff_of_true ?_ fun absurd => by cases absurd
      show (reminderSchedule ctx input tables).after.YearsFit
      rw [same]
      exact fit
    · have yes : ((SaveCommand.reminderSchedule ctx input).execute tables).1 = true :=
        congrArg Except.isOk done
      unfold SaveCommand.Fits
      rw [yes]
      exact (reminderSchedule_yearsFit_iff fit done).trans
        ⟨fun holds _ => holds, fun holds => holds rfl⟩

end Commands

/-! ### Runs -/

/-- **A run keeps the years in four digits exactly when every accepted command fits.** -/
theorem runSaves_yearsFit_iff {tables : ReminderDb} (fit : tables.YearsFit)
    (commands : List SaveCommand) :
    (∀ n, (runSaves tables (commands.take n)).YearsFit) ↔
      Journal.Chained saveStep (fun tables command => command.Fits tables) tables commands :=
  Journal.forall_take_iff (I := ReminderDb.YearsFit) saveStep
    (fun tables command => command.Fits tables)
    (fun _ command fits => execute_yearsFit_iff fits command) fit commands

/-- **Every saved row is read back, and every query answered, exactly when every accepted command
fits**: at every moment of any run from tables that are read back. -/
theorem saved_read_back_iff {texts : ColumnTexts} (documented : texts.Documented)
    {tables : ReminderDb} (readable : tables.ReadsBack texts) (commands : List SaveCommand) :
    (∀ n, (runSaves tables (commands.take n)).ReadsBack texts ∧
        ∀ query : StoreQuery, query.Answered texts ((runSaves tables (commands.take n)).stored texts)) ↔
      Journal.Chained saveStep (fun tables command => command.Fits tables) tables commands := by
  rw [← runSaves_yearsFit_iff ((readsBack_iff documented).mp readable)]
  constructor
  · intro all n
    exact (readsBack_iff documented).mp (all n).1
  · intro all n
    exact ⟨(readsBack_iff documented).mpr (all n), (answered_iff documented).mpr (all n)⟩

/-! ### What one other time blocks -/

section Blocked

variable {texts : ColumnTexts} (documented : texts.Documented) {tables : ReminderDb} {ctx : CoreCtx}

include documented

/-- **An accepted draft with another due date** is not read, and fails the list of invoices. -/
theorem draft_blocks_list {input : DraftInvoiceInput} {output : DraftInvoiceOutput} {due : DateTime}
    (done : (draftInvoice ctx input tables.db).1 = .ok output)
    (fresh : input.idempotencyKey.bind tables.db.findByIdempotencyKey = none)
    (asked : input.dueAt = some due) (outside : ¬ due.FourDigitYear) :
    let left := (tables.after (draftInvoice ctx input tables.db)).2
    ¬ (StoreQuery.getInvoice ctx.newInvoiceId).Answered texts (left.stored texts) ∧
      ∀ order, ¬ (StoreQuery.listInvoices .default order).Answered texts (left.stored texts) := by
  intro left
  rcases perform_ok done with ⟨answered, _⟩ | ⟨loaded, tx, written, committed⟩
  · obtain ⟨_, existing, found, _⟩ := prepareDraft_answer answered
    rw [fresh] at found
    cases found
  · obtain ⟨_, _, lines, subtotal, _, _, rfl, _⟩ := prepareDraft_write written
    have after : left.db = (draftTx ctx input lines subtotal).apply tables.db :=
      (InvoiceTx.commit_ok committed).1
    obtain ⟨createdAt, stored⟩ := InvoiceTx.getInvoice_apply_self (draftTx ctx input lines subtotal)
      tables.db
    rw [← after] at stored
    have late : ¬ YearsFit
        { (draftTx ctx input lines subtotal).invoice with createdAt := createdAt }.times := by
      simp [draftTx, draftRow, Invoice.times, asked, outside]
    exact ⟨getInvoice_blocked documented stored late,
      listInvoices_blocked documented (mem_of_find stored) late⟩

/-- **An accepted payment received at another time** fails the relay, whatever its limit. -/
theorem payment_blocks_relay {input : MarkPaidInput} {output : MarkPaidOutput}
    (done : (markPaid ctx input tables.db).1 = .ok output)
    (outside : ¬ (input.receivedAt.getD ctx.now).FourDigitYear) {limit : ℤ} (nonzero : limit ≠ 0)
    (order : OrderBy HistoryColumns.occurredAt) :
    ¬ (StoreQuery.pendingOutbox limit order).Answered texts
      ((tables.after (markPaid ctx input tables.db)).2.stored texts) := by
  rcases perform_ok done with ⟨answered, _⟩ | ⟨loaded, tx, written, committed⟩
  · obtain ⟨_, _, _, _, _, _, _, shape⟩ := prepareMarkPaid_ok answered
    cases shape
  · obtain ⟨_, inv, amountPaid, toState, _, _, _, shape⟩ := prepareMarkPaid_ok written
    cases shape
    have after : (tables.after (markPaid ctx input tables.db)).2.db =
        (payTx ctx input inv amountPaid toState).apply tables.db := (InvoiceTx.commit_ok committed).1
    have there : (payTx ctx input inv amountPaid toState).history ∈
        (tables.after (markPaid ctx input tables.db)).2.db.history := by
      rw [after]
      exact List.mem_append_right _ List.mem_cons_self
    exact pendingOutbox_blocked documented there rfl outside nonzero order

/-- **An accepted reminder at another time** fails the due reminders, whatever the time of the tick. -/
theorem reminder_blocks_due {now : ReminderCtx} {input : ReminderScheduleInput} {output : Reminder}
    (done : (reminderSchedule now input tables).result = .ok output)
    (outside : ¬ input.scheduledAt.FourDigitYear) {cutoff : DateTime} (inside : cutoff.FourDigitYear)
    (order : OrderBy ReminderColumns.scheduledAt) :
    ¬ (StoreQuery.dueReminders cutoff order).Answered texts
      ((reminderSchedule now input tables).after.stored texts) := by
  rcases reminderSchedule_cases now input tables with ⟨⟨stop, failed⟩, _⟩ | ⟨_, same, _⟩
  · rw [failed] at done
    cases done
  · rw [same]
    have stored : (tables.putReminder (newReminder now input)).getReminder now.newReminderId =
        some (newReminder now input) := by
      rw [getReminder_put]
      exact if_pos rfl
    exact dueReminders_blocked documented (mem_of_find stored) rfl outside inside order

end Blocked

/-! ### A draft of the last hour of 9999 -/

/-- 9999-12-31T23:59:59-01:00, in UTC. -/
def afterYears : DateTime := ⟨⟨10000, 1, 1, by decide⟩, 3599, 0, by decide⟩

/-- The sample draft, due then. -/
def lateDraft : DraftInvoiceInput := { sampleDraft with dueAt := some afterYears }

/-- The draft is accepted, and its row is not read back: neither alone nor in a list. -/
theorem late_draft_not_read :
    let tables : ReminderDb := ⟨sampleDb, []⟩
    let command := SaveCommand.draftInvoice (sampleCtx (oneOClock firstOfMarch) 1) lateDraft
    let left := saveStep tables command
    tables.ReadsBack plainTexts ∧ (command.execute tables).1 = true ∧ ¬ left.ReadsBack plainTexts ∧
      ¬ (StoreQuery.getInvoice ⟨1⟩).Answered plainTexts (left.stored plainTexts) ∧
      ∀ order, ¬ (StoreQuery.listInvoices .default order).Answered plainTexts
        (left.stored plainTexts) := by
  intro tables command left
  have accepted : (command.execute tables).1 = true := by decide +kernel
  obtain ⟨output, done⟩ : ∃ output,
      (draftInvoice (sampleCtx (oneOClock firstOfMarch) 1) lateDraft tables.db).1 = .ok output :=
    ok_of_isOk accepted
  refine ⟨(readsBack_iff plainTexts_documented).mpr (by decide), accepted, ?_, ?_⟩
  · rw [readsBack_iff plainTexts_documented]
    decide +kernel
  · exact draft_blocks_list plainTexts_documented done rfl rfl (by decide)

/-- A payment, a credit note, a schedule, a reminder and a draft with a due date, one after the other
on an issued invoice. -/
def dailyCommands : List SaveCommand :=
  [.markPaid (sampleCtx (oneOClock firstOfMarch) 3)
      { samplePayment 4000 fits_forty with receivedAt := some (oneOClock firstOfMarch) },
    .createCreditNote (sampleCtx (oneOClock firstOfMarch) 4)
      ⟨⟨1⟩, ⟨4000, 2, fits_forty⟩, none, none, none, .cli "operator", .cli⟩,
    .scheduleCreate (sampleCtx (oneOClock firstOfMarch) 5) sampleSchedule,
    .reminderSchedule ⟨oneOClock firstOfMarch, ⟨7⟩⟩ sampleReminderInput,
    .draftInvoice (sampleCtx (oneOClock firstOfMarch) 6)
      { sampleDraft with dueAt := some (oneOClock secondOfMarch) }]

theorem saved_read_back_iff_daily :
    Journal.Chained saveStep (fun tables command => (command.execute tables).1 = true) ⟨issuedDb, []⟩
        dailyCommands ∧
      ∀ n, (runSaves ⟨issuedDb, []⟩ (dailyCommands.take n)).ReadsBack plainTexts ∧
        ∀ query : StoreQuery, query.Answered plainTexts
          ((runSaves ⟨issuedDb, []⟩ (dailyCommands.take n)).stored plainTexts) := by
  have readable : (⟨issuedDb, []⟩ : ReminderDb).ReadsBack plainTexts :=
    (readsBack_iff plainTexts_documented).mpr (by decide +kernel)
  refine ⟨⟨?_, ?_, ?_, ?_, ?_, trivial⟩,
    (saved_read_back_iff plainTexts_documented readable dailyCommands).mpr
      ⟨?_, ?_, ?_, ?_, ?_, trivial⟩⟩
  · decide +kernel
  · decide +kernel
  · decide +kernel
  · decide +kernel
  · decide +kernel
  all_goals exact fun _ => by decide +kernel

end Invoicing
