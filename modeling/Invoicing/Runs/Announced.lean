/-
**Every new row of the audit logs is announced.**

* `Call.published` — the events a call publishes, in order. **`Call.published_parts`** — they begin with
  those of its commands; an overdue tick runs none, and publishes what it finds.
* `BusEvent.Tells`, `BusEvent.TellsNote` — the domain event of a row: its topic, whom it is about and when.
* `Told` — the audit logs grow by rows each told by one of the events. **`Call.told`** — every call's are.
-/

import Invoicing.Runs.Written

namespace Invoicing

open Chrono (DateTime)
open Labelled

/-! ### What a call publishes -/

/-- The events of a call on the tables it is made on. -/
def Call.published (tables : ReminderDb) : Call → List BusEvent
  | .invoice request => request.published tables.db
  | .createCreditNote ctx input => createCreditNotePublished ctx input tables.db
  | .issueCreditNote ctx input => issueCreditNotePublished ctx input tables.db
  | .scheduleCreate ctx input => (Part.createSchedule ctx input).published tables
  | .schedulePause ctx input => (Part.pauseSchedule ctx input).published tables
  | .scheduleCancel ctx input => (Part.cancelSchedule ctx input).published tables
  | .reminderSchedule ctx input => (Invoicing.reminderSchedule ctx input tables).events
  | .reminderCancel ctx input => (Invoicing.reminderCancel ctx input tables).events
  | .schedulesTick ctx => schedulesTickPublished ctx tables.db
  | .remindersTick now => (Invoicing.remindersTick now tables).events
  | .overdueTick now => (markOverdueTicker now tables).events
  | .inbound consumer ctx topic eventId payload =>
      match consumer.route topic eventId payload with
      | .error _ => []
      | .ok command => (command.part ctx).published tables

/-- The events of a list of commands, each on the tables it is run on. -/
def partsPublished (tables : ReminderDb) (parts : List Part) : List BusEvent :=
  journal Part.step Part.published tables parts

theorem partsPublished_cons (tables : ReminderDb) (part : Part) (rest : List Part) :
    partsPublished tables (part :: rest) =
      part.published tables ++ partsPublished (part.execute tables) rest := rfl

theorem partsPublished_singleton (tables : ReminderDb) (part : Part) :
    partsPublished tables [part] = part.published tables := List.append_nil _

theorem partsPublished_append {tables after : ReminderDb} {first second : List Part}
    (ran : run Part.step tables first = some after) :
    partsPublished tables (first ++ second) = partsPublished tables first ++ partsPublished after second :=
  journal_append ran

section Ticks

variable (ctx : TickCtx) (schedule : Schedule) (reminders : List Reminder)

theorem issueParts_published (drafted : DraftInvoiceOutput) (db : Db) :
    partsPublished ⟨db, reminders⟩ (issueParts ctx schedule drafted) =
      issueStepPublished ctx schedule drafted db := by
  unfold issueParts issueStepPublished
  split
  · exact partsPublished_singleton _ _
  · rfl

/-- A run of a schedule publishes what its commands publish. -/
theorem materialiseParts_published (db : Db) :
    partsPublished ⟨db, reminders⟩ (materialiseParts ctx schedule db) =
      materialisePublished ctx schedule db := by
  have drafts :
      (Part.execute (.invoice (.draft (ctx.draft schedule.id) schedule.draftInput)) ⟨db, reminders⟩) =
        ⟨(draftStep ctx schedule db).2, reminders⟩ := rfl
  rw [materialiseParts, partsPublished_cons, drafts, materialisePublished]
  refine congrArg ((Request.draft (ctx.draft schedule.id) schedule.draftInput).published db ++ ·) ?_
  rcases draftStep ctx schedule db with ⟨stop | drafted, first⟩
  · rfl
  dsimp only
  rw [partsPublished_append (run_issueParts ctx schedule reminders drafted first), issueParts_published]
  rcases issueStep ctx schedule drafted first with ⟨stop | _, second⟩
  · rfl
  · exact congrArg (issueStepPublished ctx schedule drafted first ++ ·) (partsPublished_singleton _ _)

/-- The loop over the due schedules publishes what its commands publish. -/
theorem tickParts_published (rows : List Schedule) (db : Db) :
    partsPublished ⟨db, reminders⟩ (tickParts ctx rows db) = tickLoopPublished ctx rows db := by
  induction rows generalizing db with
  | nil => rfl
  | cons schedule rest ih =>
    rw [tickParts, tickLoopPublished]
    by_cases inactive : schedule.state ≠ .active
    · rw [if_pos inactive, if_pos inactive]
      exact ih db
    rw [if_neg inactive, if_neg inactive,
      partsPublished_append (run_materialiseParts ctx schedule reminders db), materialiseParts_published]
    refine congrArg (materialisePublished ctx schedule db ++ ·) ?_
    rcases materialise ctx schedule db with ⟨stop | drafted, after⟩
    · rfl
    · exact ih after

end Ticks

/-- The loop over the due reminders publishes what its commands publish. -/
theorem sendParts_published (now : DateTime) (rows done : List Reminder) (tables : ReminderDb) :
    partsPublished tables (sendParts now rows tables) = (remindersLoop now rows done tables).events := by
  induction rows generalizing done tables with
  | nil => rfl
  | cons reminder rest ih =>
    rw [sendParts, remindersLoop]
    by_cases other : reminder.state ≠ .scheduled
    · rw [if_pos other, if_pos other]
      exact ih done tables
    rw [if_neg other, if_neg other, partsPublished_cons, Part.published, Part.execute]
    cases tables.saveReminder (sentReminder reminder now) with
    | error e => rfl
    | ok after => exact congrArg (reminderSentEvent (sentReminder reminder now) now :: ·) (ih _ after)

/-- **A call publishes first what its commands publish.** -/
theorem Call.published_parts (call : Call) (tables : ReminderDb) :
    partsPublished tables (call.parts tables) <+: call.published tables := by
  have same : ∀ {events}, partsPublished tables (call.parts tables) = events →
      partsPublished tables (call.parts tables) <+: events := fun same => same ▸ List.prefix_rfl
  cases call with
  | schedulesTick ctx => exact same (tickParts_published ctx tables.reminders _ tables.db)
  | remindersTick now => exact same (sendParts_published now _ [] tables)
  | overdueTick now => exact List.nil_prefix
  | inbound consumer ctx topic eventId payload =>
    refine same ?_
    rw [parts, published]
    cases consumer.route topic eventId payload with
    | error e => rfl
    | ok command => exact partsPublished_singleton _ _
  | _ => exact same (partsPublished_singleton _ _)

/-! ### The event of a row -/

/-- The event is the domain event of the row. -/
structure BusEvent.Tells (event : BusEvent) (row : InvoiceStateHistory) : Prop where
  topic : invoiceDomainTopic row.event row.toState = some event.topic
  invoice : event.payload.field "invoice_id" = some (.str row.invoiceId.text)
  time : event.occurredAt = row.occurredAt

structure BusEvent.TellsNote (event : BusEvent) (row : CreditNoteStateHistory) : Prop where
  topic : creditNoteDomainTopic row.event row.toState = some event.topic
  note : event.payload.field "credit_note_id" = some (.str row.creditNoteId.text)
  time : event.occurredAt = row.occurredAt

/-- **A committed edit publishes the event of its row.** -/
theorem Edit.tells {request : Request} {loaded : Option Invoice} {tx : InvoiceTx}
    (edit : Edit request loaded tx) (reply : Reply) :
    ∃ event ∈ request.events loaded tx reply, event.Tells tx.history := by
  cases edit with
  | draft summed => exact ⟨_, List.mem_singleton_self _, ⟨rfl, rfl, rfl⟩⟩
  | @issue ctx input ready count blobRef draft toState target owners =>
    refine ⟨_, List.mem_append_right _ (List.mem_singleton_self _), ⟨?_, rfl, rfl⟩⟩
    show invoiceDomainTopic "issue" ready.toState = some topicInvoiceIssued
    rw [toState]
    rfl
  | send target open' => exact ⟨_, List.mem_append_right _ (List.mem_singleton_self _), ⟨rfl, rfl, rfl⟩⟩
  | sendRender target open' => exact ⟨_, List.mem_append_right _ (List.mem_singleton_self _), ⟨rfl, rfl, rfl⟩⟩
  | view verified sent => exact ⟨_, List.mem_singleton_self _, ⟨rfl, rfl, rfl⟩⟩
  | markPaid target positive summed accepted =>
    refine ⟨_, List.mem_append_right _ (List.mem_singleton_self _), ⟨?_, rfl, rfl⟩⟩
    rcases (nextState_pay accepted).2 with ⟨_, rfl⟩ | ⟨_, rfl⟩
    · rfl
    · rfl
  | void target accepted =>
    refine ⟨_, List.mem_append_right _ (List.mem_singleton_self _), ⟨?_, rfl, rfl⟩⟩
    obtain ⟨_, rfl⟩ := nextState_void accepted
    rfl

/-! ### Calls -/

/-- The audit logs grow by rows each told by one of the events. -/
abbrev Told (events : List BusEvent) (before after : Db) : Prop :=
  Appends (fun row => ∃ event ∈ events, event.Tells row) (fun row => ∃ event ∈ events, event.TellsNote row)
    before after

/-- **The rows of a command are told by its events.** -/
theorem Part.told (part : Part) (tables : ReminderDb) :
    Told (part.published tables) tables.db (part.execute tables).db := by
  have wrote := part.wrote tables
  generalize part.published tables = events at wrote ⊢
  generalize (part.execute tables).db = after at wrote ⊢
  cases wrote with
  | nothing same => exact same.appends
  | edited edit => exact InvoiceTx.appends (edit.tells _) _
  | created found => exact CreditTx.appends ⟨_, List.mem_singleton_self _, ⟨rfl, rfl, rfl⟩⟩ _
  | issued found draft counted =>
    exact CreditTx.appends ⟨_, List.mem_append_right _ (List.mem_singleton_self _), ⟨rfl, rfl, rfl⟩⟩ _

theorem Told.mono {events more : List BusEvent} (within : events ⊆ more) {before after : Db}
    (told : Told events before after) : Told more before after := by
  refine Appends.mono told ?_ ?_
  · rintro row ⟨event, there, tells⟩
    exact ⟨event, within there, tells⟩
  · rintro row ⟨event, there, tells⟩
    exact ⟨event, within there, tells⟩

/-- **The rows of a call are told by its events.** -/
theorem Call.told (call : Call) (tables : ReminderDb) :
    Told (call.published tables) tables.db (call.execute tables).2.db := by
  have events : Meets Part.step (fun between part => part.published between ⊆ call.published tables) tables
      (call.parts tables) := meets_journal _ tables (call.parts tables) (call.published_parts tables).subset
  exact run_appends (fun tables part within => (part.told tables).mono within) events (call.run_parts tables)

end Invoicing
