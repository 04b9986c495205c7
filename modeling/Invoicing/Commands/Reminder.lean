/-
**Reminders, and the overdue ticker.**

* `Reminder`, `ReminderDb` — a reminder of an invoice, and the tables with the reminders.
* `Emission` — what a command returns, the tables it leaves and the events it publishes.
* `reminderSchedule`, `reminderCancel`, `remindersTick` — enqueue, cancel and dispatch reminders; the
  invoice machine is not moved. **`reminderSchedule_cases`** — what scheduling does.
* `markOverdueTicker` — report the invoices that are unpaid past their due date; nothing is written.
-/

import Invoicing.Bus.Events
import Invoicing.Commands.Ctx

namespace Invoicing

open Chrono (DateTime)
open KeyedTable

/-! ### Reminders -/

abbrev ReminderId := EntityId .reminder

/-- How a reminder is delivered. -/
inductive ReminderChannel
  | file
  | stdout
  | bus
  | webhook
  | link
  deriving DecidableEq

/-- Lifecycle state of a reminder. -/
inductive ReminderState
  | scheduled
  | sent
  | cancelled
  deriving DecidableEq

/-- A reminder to be sent against an invoice. -/
structure Reminder where
  id : ReminderId
  invoiceId : InvoiceId
  scheduledAt : DateTime
  sentAt : Option DateTime
  channel : ReminderChannel
  state : ReminderState
  deriving DecidableEq

/-- The text of a delivery channel, in lower case. -/
def ReminderChannel.text : ReminderChannel → String
  | .file => "file"
  | .stdout => "stdout"
  | .bus => "bus"
  | .webhook => "webhook"
  | .link => "link"

/-- The tables with the reminders. -/
structure ReminderDb where
  db : Db
  reminders : List Reminder

namespace ReminderDb

def getReminder (tables : ReminderDb) (id : ReminderId) : Option Reminder :=
  KeyedTable.find Reminder.id tables.reminders id

def saveReminder (tables : ReminderDb) (reminder : Reminder) : Except StoreError ReminderDb :=
  if tables.db.getInvoice reminder.invoiceId = none then .error (.foreignKey "reminders.invoice_id")
  else .ok { tables with
    reminders := KeyedTable.upsert Reminder.id (fun _ row => row) tables.reminders reminder }

/-- Scheduled reminders due at a time, by the text of their time; `StoredDb.dueReminders` reads them from
their columns, and fails as a whole when one is not read. -/
def dueReminders (tables : ReminderDb) (cutoff : DateTime) : List Reminder :=
  (tables.reminders.filter fun row =>
    decide (row.state = .scheduled) && decide (row.scheduledAt.text ≤ cutoff.text)).insertionSort
      fun first second => first.scheduledAt.text ≤ second.scheduledAt.text

end ReminderDb

theorem Reminder.keepsKey : KeepsKey Reminder.id (fun _ row => row) := fun _ _ _ => rfl

/-- The tables after a reminder row was saved. -/
def ReminderDb.putReminder (tables : ReminderDb) (reminder : Reminder) : ReminderDb :=
  { tables with reminders := upsert Reminder.id (fun _ row => row) tables.reminders reminder }

theorem saveReminder_ok {tables after : ReminderDb} {reminder : Reminder}
    (saved : tables.saveReminder reminder = .ok after) :
    after = tables.putReminder reminder ∧ tables.db.getInvoice reminder.invoiceId ≠ none := by
  unfold ReminderDb.saveReminder at saved
  split at saved
  · cases saved
  · rename_i stored
    cases saved
    exact ⟨rfl, stored⟩

theorem saveReminder_of_stored {tables : ReminderDb} {reminder : Reminder}
    (stored : tables.db.getInvoice reminder.invoiceId ≠ none) :
    tables.saveReminder reminder = .ok (tables.putReminder reminder) := if_neg stored

theorem getReminder_put (tables : ReminderDb) (reminder : Reminder) (id : ReminderId) :
    (tables.putReminder reminder).getReminder id =
      if id = reminder.id then some reminder else tables.getReminder id := by
  unfold ReminderDb.getReminder ReminderDb.putReminder
  rw [find_upsert Reminder.keepsKey]
  cases find Reminder.id tables.reminders reminder.id with
  | none => rfl
  | some old => rfl

/-- What a command returns, the tables it leaves, and the events it publishes, in order. -/
structure Emission (α : Type) where
  result : CoreResult α
  after : ReminderDb
  events : List BusEvent

/-- What a command returns and leaves, without the events it publishes. -/
def Emission.ends {α : Type} (emission : Emission α) : CoreResult α × ReminderDb :=
  (emission.result, emission.after)

/-! ### Scheduling and cancelling -/

/-- What a reminder command uses of the world. -/
structure ReminderCtx where
  now : DateTime
  newReminderId : ReminderId

structure ReminderScheduleInput where
  invoiceId : InvoiceId
  scheduledAt : DateTime
  channelScheme : ReminderChannel
  actor : Actor
  channel : Channel
  deriving DecidableEq

/-- An instant as a message shows it. -/
def displayTime (time : DateTime) : String :=
  String.ofList (time.dateNaive.text ++ ' ' :: (Chrono.timeText time.secs time.nanos ++ " UTC".toList))

def ReminderScheduleInput.validate (input : ReminderScheduleInput) (now : DateTime) :
    CoreResult Unit :=
  if input.scheduledAt ≤ now then
    fail (.validation ("scheduled_at must be in the future; got " ++ displayTime input.scheduledAt ++
      " (now: " ++ displayTime now ++ ")"))
  else .ok ()

/-- A new reminder. -/
def newReminder (ctx : ReminderCtx) (input : ReminderScheduleInput) : Reminder :=
  ⟨ctx.newReminderId, input.invoiceId, input.scheduledAt, none, input.channelScheme, .scheduled⟩

def reminderScheduledEvent (reminder : Reminder) (input : ReminderScheduleInput) (now : DateTime) :
    BusEvent :=
  ⟨topicReminderScheduled,
    .obj [("reminder_id", .str reminder.id.text), ("invoice_id", .str reminder.invoiceId.text),
      ("scheduled_at", .str (rfc3339 reminder.scheduledAt)), ("channel", .str reminder.channel.text),
      ("actor", .str input.actor.auditString),
      ("history_channel", .str (historyChannelStr input.channel.toHistory))], now⟩

/-- **`reminder_schedule`.** -/
def reminderSchedule (ctx : ReminderCtx) (input : ReminderScheduleInput) (tables : ReminderDb) :
    Emission Reminder :=
  match input.validate ctx.now with
  | .error e => ⟨.error e, tables, []⟩
  | .ok _ =>
      match tables.saveReminder (newReminder ctx input) with
      | .error e => ⟨fail (.repo e), tables, []⟩
      | .ok after => ⟨.ok (newReminder ctx input), after,
          [reminderScheduledEvent (newReminder ctx input) input ctx.now]⟩

/-- **What scheduling does**: it is refused and publishes nothing, or the new reminder is saved and
published. -/
theorem reminderSchedule_cases (ctx : ReminderCtx) (input : ReminderScheduleInput)
    (tables : ReminderDb) :
    ((∃ stop, (reminderSchedule ctx input tables).result = .error stop) ∧
        (reminderSchedule ctx input tables).after = tables ∧
        (reminderSchedule ctx input tables).events = []) ∨
      ((reminderSchedule ctx input tables).result = .ok (newReminder ctx input) ∧
        (reminderSchedule ctx input tables).after = tables.putReminder (newReminder ctx input) ∧
        tables.db.getInvoice input.invoiceId ≠ none ∧
        (reminderSchedule ctx input tables).events =
          [reminderScheduledEvent (newReminder ctx input) input ctx.now]) := by
  unfold reminderSchedule
  cases input.validate ctx.now with
  | error e => exact Or.inl ⟨⟨e, rfl⟩, rfl, rfl⟩
  | ok _ =>
    dsimp only
    cases saved : tables.saveReminder (newReminder ctx input) with
    | error e => exact Or.inl ⟨⟨_, rfl⟩, rfl, rfl⟩
    | ok after =>
      obtain ⟨rfl, stored⟩ := saveReminder_ok saved
      exact Or.inr ⟨rfl, rfl, stored, rfl⟩

structure ReminderCancelInput where
  reminderId : ReminderId
  actor : Actor
  channel : Channel
  deriving DecidableEq

def reminderCancelledEvent (reminder : Reminder) (input : ReminderCancelInput) (now : DateTime) :
    BusEvent :=
  ⟨topicReminderCancelled,
    .obj [("reminder_id", .str reminder.id.text), ("invoice_id", .str reminder.invoiceId.text),
      ("actor", .str input.actor.auditString),
      ("channel", .str (historyChannelStr input.channel.toHistory))], now⟩

/-- **`reminder_cancel`.** A reminder that is not scheduled any more is left as it is, and the event is
published all the same. -/
def reminderCancel (ctx : ReminderCtx) (input : ReminderCancelInput) (tables : ReminderDb) :
    Emission Reminder :=
  match tables.getReminder input.reminderId with
  | none => ⟨fail (.notFound ("reminder " ++ input.reminderId.text)), tables, []⟩
  | some reminder =>
      if reminder.state = .scheduled then
        let cancelled := { reminder with state := .cancelled }
        match tables.saveReminder cancelled with
        | .error e => ⟨fail (.repo e), tables, []⟩
        | .ok after => ⟨.ok cancelled, after, [reminderCancelledEvent cancelled input ctx.now]⟩
      else ⟨.ok reminder, tables, [reminderCancelledEvent reminder input ctx.now]⟩

/-! ### Dispatching -/

/-- A dispatched reminder. -/
def sentReminder (reminder : Reminder) (now : DateTime) : Reminder :=
  { reminder with state := .sent, sentAt := some now }

def reminderSentEvent (reminder : Reminder) (now : DateTime) : BusEvent :=
  ⟨topicReminderSent,
    .obj [("reminder_id", .str reminder.id.text), ("invoice_id", .str reminder.invoiceId.text),
      ("channel", .str reminder.channel.text), ("sent_at", .str (rfc3339 now))], now⟩

/-- The loop over the due reminders; a row that cannot be saved ends it. -/
def remindersLoop (now : DateTime) : List Reminder → List Reminder → ReminderDb →
    Emission (List Reminder)
  | [], done, tables => ⟨.ok done, tables, []⟩
  | reminder :: rest, done, tables =>
      if reminder.state ≠ .scheduled then remindersLoop now rest done tables
      else
        match tables.saveReminder (sentReminder reminder now) with
        | .error e => ⟨fail (.repo e), tables, []⟩
        | .ok after =>
            let later := remindersLoop now rest (done ++ [sentReminder reminder now]) after
            { later with events := reminderSentEvent (sentReminder reminder now) now :: later.events }

/-- **`reminders_tick`**, where the due rows are read; `storedTick` is the tick over the columns. -/
def remindersTick (now : DateTime) (tables : ReminderDb) : Emission (List Reminder) :=
  remindersLoop now (tables.dueReminders now) [] tables

/-! ### Overdue invoices -/

/-- `InvoiceRepo::list` by state, in order of creation; `listState` reads the rows from their columns, and
fails as a whole when one is not read. -/
def Db.listByState (db : Db) (state : InvoiceState) : List Invoice :=
  (db.invoices.filter fun row => decide (row.state = state)).insertionSort
    fun first second => first.createdAt.text ≤ second.createdAt.text

/-- Unpaid and past its due date. -/
def isOverdue (inv : Invoice) (now : DateTime) : Bool :=
  decide (inv.state = .issued ∨ inv.state = .sent ∨ inv.state = .viewed ∨
      inv.state = .partiallyPaid) &&
    inv.dueAt.any fun due => decide (due < now)

/-- One query for each unpaid state. -/
def collectUnpaidUnvoided (db : Db) : List Invoice :=
  [.issued, .sent, .viewed, .partiallyPaid].flatMap db.listByState

def overdueEvent (inv : Invoice) (now : DateTime) : BusEvent :=
  ⟨topicInvoiceOverdue,
    .obj [("invoice_id", .str inv.id.text), ("customer_id", .str inv.customerId.text),
      ("number", Json.ofOption inv.number), ("due_at", Json.ofOption (inv.dueAt.map rfc3339)),
      ("total", .str inv.total.toString), ("amount_paid", .str inv.amountPaid.toString),
      ("currency", .str inv.currency.asStr), ("state", .str (invoiceStateStr inv.state))], now⟩

/-- The invoices a tick reports. -/
def overdueInvoices (now : DateTime) (db : Db) : List Invoice :=
  (collectUnpaidUnvoided db).filter fun inv => isOverdue inv now

/-- **`mark_overdue_ticker`**, where the rows are read; `OverdueTick.step` makes its queries over the
columns. -/
def markOverdueTicker (now : DateTime) (tables : ReminderDb) : Emission (List Invoice) :=
  ⟨.ok (overdueInvoices now tables.db), tables,
    (overdueInvoices now tables.db).map fun inv => overdueEvent inv now⟩

end Invoicing
