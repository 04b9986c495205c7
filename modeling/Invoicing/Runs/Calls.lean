/-
**Every call of every command, one at a time.**

* `Call` — a call of an invoice, credit-note, schedule or reminder command, a pass of a ticker, or an
  inbound event, each with everything it uses; `Call.execute` runs it, and `Answer` is what it returns.
* `Caller` — an actor and the channel it comes through. `Call.askedBy` — the same call by another caller;
  tickers, views and inbound events name their own.
-/

import Invoicing.Bus.Consumer
import Invoicing.Commands.Reminder
import Invoicing.Commands.Schedule
import Invoicing.Runs.Steps

namespace Invoicing

/-! ### Calls -/

/-- A call with what it uses of the world. -/
inductive Call
  | invoice (request : Request)
  | createCreditNote (ctx : CoreCtx) (input : CreateCreditNoteInput)
  | issueCreditNote (ctx : CoreCtx) (input : IssueCreditNoteInput)
  | scheduleCreate (ctx : CoreCtx) (input : ScheduleCreateInput)
  | schedulePause (ctx : CoreCtx) (input : ScheduleStateChangeInput)
  | scheduleCancel (ctx : CoreCtx) (input : ScheduleStateChangeInput)
  | reminderSchedule (ctx : ReminderCtx) (input : ReminderScheduleInput)
  | reminderCancel (ctx : ReminderCtx) (input : ReminderCancelInput)
  | schedulesTick (ctx : TickCtx)
  | remindersTick (now : Chrono.DateTime)
  | overdueTick (now : Chrono.DateTime)
  | inbound (consumer : Consumer) (ctx : CoreCtx) (topic eventId payload : String)

/-- What a call returns. -/
inductive Answer
  | invoice (outcome : Outcome)
  | noteCreated (result : CoreResult CreateCreditNoteOutput)
  | noteIssued (result : CoreResult IssueCreditNoteOutput)
  | scheduleCreated (result : CoreResult ScheduleCreateOutput)
  | scheduleChanged (result : CoreResult ScheduleStateChangeOutput)
  | reminder (result : CoreResult Reminder)
  | ran (result : CoreResult SchedulesTickOutput)
  | reminded (result : CoreResult (List Reminder))
  | overdue (result : CoreResult (List Invoice))
  | dispatched (result : DispatchResult)

/-- A result on the tables without the reminders. -/
def answering {α : Type} (answer : α → Answer) (run : Db → α × Db) (tables : ReminderDb) :
    Answer × ReminderDb :=
  (answer (run tables.db).1, { tables with db := (run tables.db).2 })

/-- What a reminder command returns and leaves. -/
def Emission.answering {α : Type} (answer : CoreResult α → Answer) (emission : Emission α) :
    Answer × ReminderDb := (answer emission.result, emission.after)

def Call.execute (tables : ReminderDb) (call : Call) : Answer × ReminderDb :=
  match call with
  | .invoice request => answering .invoice request.execute tables
  | .createCreditNote ctx input => answering .noteCreated (Invoicing.createCreditNote ctx input) tables
  | .issueCreditNote ctx input => answering .noteIssued (Invoicing.issueCreditNote ctx input) tables
  | .scheduleCreate ctx input => answering .scheduleCreated (Invoicing.scheduleCreate ctx input) tables
  | .schedulePause ctx input => answering .scheduleChanged (Invoicing.schedulePause ctx input) tables
  | .scheduleCancel ctx input => answering .scheduleChanged (Invoicing.scheduleCancel ctx input) tables
  | .reminderSchedule ctx input => (Invoicing.reminderSchedule ctx input tables).answering .reminder
  | .reminderCancel ctx input => (Invoicing.reminderCancel ctx input tables).answering .reminder
  | .schedulesTick ctx => answering .ran (Invoicing.schedulesTick ctx) tables
  | .remindersTick now => (Invoicing.remindersTick now tables).answering .reminded
  | .overdueTick now => (markOverdueTicker now tables).answering .overdue
  | .inbound consumer ctx topic eventId payload =>
      answering .dispatched (consumer.dispatch ctx topic eventId payload) tables

/-! ### Callers -/

/-- An actor and the channel it comes through. -/
structure Caller where
  actor : Actor
  channel : Channel

def Request.askedBy (caller : Caller) : Request → Request
  | .draft ctx input => .draft ctx { input with actor := caller.actor, channel := caller.channel }
  | .issue ctx input => .issue ctx { input with actor := caller.actor, channel := caller.channel }
  | .send ctx input => .send ctx { input with actor := caller.actor, channel := caller.channel }
  | .sendRender ctx input => .sendRender ctx { input with actor := caller.actor, channel := caller.channel }
  | .view state token => .view state token
  | .markPaid ctx input => .markPaid ctx { input with actor := caller.actor, channel := caller.channel }
  | .void ctx input => .void ctx { input with actor := caller.actor, channel := caller.channel }

/-- The same call by another caller. -/
def Call.askedBy (caller : Caller) : Call → Call
  | .invoice request => .invoice (request.askedBy caller)
  | .createCreditNote ctx input =>
      .createCreditNote ctx { input with actor := caller.actor, channel := caller.channel }
  | .issueCreditNote ctx input =>
      .issueCreditNote ctx { input with actor := caller.actor, channel := caller.channel }
  | .scheduleCreate ctx input =>
      .scheduleCreate ctx { input with actor := caller.actor, channel := caller.channel }
  | .schedulePause ctx input =>
      .schedulePause ctx { input with actor := caller.actor, channel := caller.channel }
  | .scheduleCancel ctx input =>
      .scheduleCancel ctx { input with actor := caller.actor, channel := caller.channel }
  | .reminderSchedule ctx input =>
      .reminderSchedule ctx { input with actor := caller.actor, channel := caller.channel }
  | .reminderCancel ctx input =>
      .reminderCancel ctx { input with actor := caller.actor, channel := caller.channel }
  | .schedulesTick ctx => .schedulesTick ctx
  | .remindersTick now => .remindersTick now
  | .overdueTick now => .overdueTick now
  | .inbound consumer ctx topic eventId payload => .inbound consumer ctx topic eventId payload

/-- The sample invoice is drafted, issued and partly paid. -/
def billAndPay : List Call :=
  [.invoice (.draft (sampleCtx (oneOClock firstOfMarch) 1) sampleDraft),
    .invoice (.issue (sampleCtx (oneOClock firstOfMarch) 2) sampleIssue),
    .invoice (.markPaid (sampleCtx (oneOClock firstOfMarch) 3) (samplePayment 4000 fits_forty))]

end Invoicing
