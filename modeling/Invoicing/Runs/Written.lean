/-
**What a command writes in the audit logs, and what it publishes.**

* `Part.published` — the events a command publishes, in order; none when it fails, except that a tick
  announces the end of a schedule before it saves its row.
* `Part.Wrote` — what a command does to the audit logs and the credit notes: nothing, or one of three
  transactions, each with its events. **`Part.wrote`** — every command does one of these.
* `Appends` — two audit logs grow by rows that each meet a condition. **`run_appends`** — what every command
  of a run appends, the run appends.
-/

import Invoicing.Runs.Parts
import Invoicing.Runs.Producers

namespace Invoicing

open Chrono (DateTime)
open Labelled

/-! ### Events -/

/-- The events of a result; a failed command has none. -/
def eventsOf {ε α : Type} (result : Except ε α) (events : α → List BusEvent) : List BusEvent :=
  (eventsIfOk result events).getD []

/-- What a command publishes. -/
def Part.published (tables : ReminderDb) : Part → List BusEvent
  | .invoice request => request.published tables.db
  | .createCreditNote ctx input => createCreditNotePublished ctx input tables.db
  | .issueCreditNote ctx input => issueCreditNotePublished ctx input tables.db
  | .createSchedule ctx input => eventsOf (scheduleCreate ctx input tables.db).1
      fun output => scheduleCreatedEvents output.schedule input ctx.now
  | .pauseSchedule ctx input => eventsOf (schedulePause ctx input tables.db).1
      fun output => scheduleChangedEvents topicSchedulePaused output.schedule input ctx.now
  | .cancelSchedule ctx input => eventsOf (scheduleCancel ctx input tables.db).1
      fun output => scheduleChangedEvents topicScheduleCancelled output.schedule input ctx.now
  | .advanceSchedule ctx schedule => advanceStepPublished ctx schedule
  | .scheduleReminder ctx input => (reminderSchedule ctx input tables).events
  | .cancelReminder ctx input => (reminderCancel ctx input tables).events
  | .sendReminder now reminder => eventsOf (tables.saveReminder (sentReminder reminder now))
      fun _ => [reminderSentEvent (sentReminder reminder now) now]

/-! ### Rows -/

/-- The tables have the same audit logs and the same credit notes. -/
structure SameLogs (before after : Db) : Prop where
  history : after.history = before.history
  creditNotes : after.creditNotes = before.creditNotes
  creditHistory : after.creditHistory = before.creditHistory

theorem SameLogs.refl (db : Db) : SameLogs db db := ⟨rfl, rfl, rfl⟩

/-- What a command does to the audit logs and the credit notes, and what it publishes. -/
inductive Part.Wrote (tables : ReminderDb) : Part → List BusEvent → Db → Prop
  | nothing {part : Part} {events : List BusEvent} {after : Db} (same : SameLogs tables.db after) :
      Part.Wrote tables part events after
  | edited {request : Request} {loaded : Option Invoice} {tx : InvoiceTx} {reply : Reply}
      (edit : Edit request loaded tx) :
      Part.Wrote tables (.invoice request) (request.events loaded tx reply) (tx.apply tables.db)
  | created {ctx : CoreCtx} {input : CreateCreditNoteInput} {inv : Invoice}
      (found : tables.db.getInvoice input.invoiceId = some inv) :
      Part.Wrote tables (.createCreditNote ctx input)
        (creditNoteDraftedEvents (draftNote ctx input inv) input input.channel.toHistory ctx.now)
        ((createCreditTx ctx input inv).apply tables.db)
  | issued {ctx : CoreCtx} {input : IssueCreditNoteInput} {note : CreditNote} {count : ℕ}
      (found : tables.db.getCreditNote input.creditNoteId = some note) (draft : note.state = .draft)
      (counted : count = countCreditNotesIssuedInYear tables.db ctx.now.year) :
      Part.Wrote tables (.issueCreditNote ctx input)
        (creditNoteIssuedEvents (issuedNote ctx note .issued count) note.state .issued .issue input.actor
          input.channel.toHistory ctx.now)
        ((issueCreditTx ctx input note .issued count).apply tables.db)

theorem saveRow_sameLogs {α : Type} (schedule : Schedule) (output : α) (db : Db) :
    SameLogs db (saveRow schedule output db).2 := by
  unfold saveRow
  cases saved : db.saveSchedule schedule with
  | error e => exact .refl db
  | ok after =>
    rw [Db.saveSchedule_ok saved]
    exact ⟨rfl, rfl, rfl⟩

theorem transitionSchedule_sameLogs (ctx : CoreCtx) (input : ScheduleStateChangeInput)
    (toState : ScheduleState) (db : Db) : SameLogs db (transitionSchedule ctx input toState db).2 := by
  unfold transitionSchedule
  cases prepareTransition ctx input toState db with
  | error stop => exact .refl db
  | ok schedule => exact saveRow_sameLogs schedule _ db

/-- A reminder command leaves the other tables. -/
theorem reminderSchedule_db (ctx : ReminderCtx) (input : ReminderScheduleInput) (tables : ReminderDb) :
    (reminderSchedule ctx input tables).after.db = tables.db := by
  rcases reminderSchedule_cases ctx input tables with ⟨_, same, _⟩ | ⟨_, same, _⟩
  · rw [same]
  · rw [same]
    rfl

theorem reminderCancel_db (ctx : ReminderCtx) (input : ReminderCancelInput) (tables : ReminderDb) :
    (reminderCancel ctx input tables).after.db = tables.db := by
  unfold reminderCancel
  cases tables.getReminder input.reminderId with
  | none => rfl
  | some reminder =>
    dsimp only
    split
    · cases saved : tables.saveReminder { reminder with state := .cancelled } with
      | error e => rfl
      | ok after =>
        obtain ⟨rfl, _⟩ := saveReminder_ok saved
        rfl
    · rfl

theorem sendReminder_db (now : DateTime) (reminder : Reminder) (tables : ReminderDb) :
    ((Part.sendReminder now reminder).execute tables).db = tables.db := by
  rw [Part.execute]
  cases saved : tables.saveReminder (sentReminder reminder now) with
  | error e => rfl
  | ok after =>
    rw [(saveReminder_ok saved).1]
    rfl

/-- **What a command writes and publishes.** -/
theorem Part.wrote (part : Part) (tables : ReminderDb) :
    part.Wrote tables (part.published tables) (part.execute tables).db := by
  cases part with
  | invoice request =>
    show Part.Wrote tables _ (request.published tables.db) (request.execute tables.db).2
    rcases request.published_cases tables.db with ⟨same, _⟩ | ⟨loaded, tx, reply, edit, _, done, publishes⟩
    · rw [same]
      exact .nothing (.refl _)
    · rw [done, publishes]
      exact .edited edit
  | createCreditNote ctx input =>
    show Part.Wrote tables _ (createCreditNotePublished ctx input tables.db)
      (Invoicing.createCreditNote ctx input tables.db).2
    unfold createCreditNotePublished Invoicing.createCreditNote
    rcases performCredit_cases CreateCreditNoteOutput.mk (prepareCreateCreditNote ctx input tables.db)
      tables.db with ⟨same, _⟩ | ⟨tx, prepared, done⟩
    · rw [same]
      exact .nothing (.refl _)
    · obtain ⟨inv, found, rfl⟩ := prepareCreateCreditNote_ok prepared
      rw [done]
      exact .created found
  | issueCreditNote ctx input =>
    show Part.Wrote tables _ (issueCreditNotePublished ctx input tables.db)
      (Invoicing.issueCreditNote ctx input tables.db).2
    unfold issueCreditNotePublished Invoicing.issueCreditNote
    rcases performCredit_cases IssueCreditNoteOutput.mk (prepareIssueCreditNote ctx input tables.db)
      tables.db with ⟨same, _⟩ | ⟨tx, prepared, done⟩
    · rw [same]
      exact .nothing (.refl _)
    · obtain ⟨note, found, draft, rfl⟩ := prepareIssueCreditNote_ok prepared
      rw [done, found]
      exact .issued found draft rfl
  | createSchedule ctx input =>
    refine .nothing ?_
    show SameLogs tables.db (scheduleCreate ctx input tables.db).2
    unfold scheduleCreate
    cases input.validate with
    | error stop => exact .refl _
    | ok _ => exact saveRow_sameLogs _ _ _
  | pauseSchedule ctx input => exact .nothing (transitionSchedule_sameLogs ctx input .paused tables.db)
  | cancelSchedule ctx input => exact .nothing (transitionSchedule_sameLogs ctx input .cancelled tables.db)
  | advanceSchedule ctx schedule =>
    refine .nothing ?_
    show SameLogs tables.db (advanceStep ctx schedule tables.db).2
    unfold advanceStep
    cases schedule.cadence.advance schedule.nextRun with
    | none => exact .refl _
    | some next => exact saveRow_sameLogs _ _ _
  | scheduleReminder ctx input =>
    refine .nothing ?_
    rw [Part.execute, reminderSchedule_db]
    exact .refl _
  | cancelReminder ctx input =>
    refine .nothing ?_
    rw [Part.execute, reminderCancel_db]
    exact .refl _
  | sendReminder now reminder =>
    refine .nothing ?_
    rw [sendReminder_db]
    exact .refl _

/-! ### Steps that append -/

/-- The histories grow by rows that each meet a condition. -/
structure Appends (P : InvoiceStateHistory → Prop) (Q : CreditNoteStateHistory → Prop)
    (before after : Db) : Prop where
  history : ∃ rows, after.history = before.history ++ rows ∧ ∀ row ∈ rows, P row
  creditHistory : ∃ rows, after.creditHistory = before.creditHistory ++ rows ∧ ∀ row ∈ rows, Q row

section Appends

variable {P P' : InvoiceStateHistory → Prop} {Q Q' : CreditNoteStateHistory → Prop}

theorem SameLogs.appends {before after : Db} (same : SameLogs before after) : Appends P Q before after :=
  ⟨⟨[], by rw [same.history, List.append_nil], List.forall_mem_nil _⟩,
    ⟨[], by rw [same.creditHistory, List.append_nil], List.forall_mem_nil _⟩⟩

theorem InvoiceTx.appends {tx : InvoiceTx} (met : P tx.history) (db : Db) : Appends P Q db (tx.apply db) :=
  ⟨⟨[tx.history], rfl, List.forall_mem_singleton.mpr met⟩,
    ⟨[], (List.append_nil _).symm, List.forall_mem_nil _⟩⟩

theorem CreditTx.appends {tx : CreditTx} (met : Q tx.history) (db : Db) : Appends P Q db (tx.apply db) :=
  ⟨⟨[], (List.append_nil _).symm, List.forall_mem_nil _⟩,
    ⟨[tx.history], rfl, List.forall_mem_singleton.mpr met⟩⟩

theorem Appends.trans {first second third : Db} (earlier : Appends P Q first second)
    (later : Appends P Q second third) : Appends P Q first third := by
  obtain ⟨⟨rows, grown, each⟩, notes, grownNotes, eachNote⟩ := earlier
  obtain ⟨⟨rows', grown', each'⟩, notes', grownNotes', eachNote'⟩ := later
  refine ⟨⟨rows ++ rows', by rw [grown', grown, List.append_assoc], ?_⟩,
    ⟨notes ++ notes', by rw [grownNotes', grownNotes, List.append_assoc], ?_⟩⟩
  · exact List.forall_mem_append.mpr ⟨each, each'⟩
  · exact List.forall_mem_append.mpr ⟨eachNote, eachNote'⟩

theorem Appends.mono {before after : Db} (appends : Appends P Q before after)
    (rows : ∀ row, P row → P' row) (notes : ∀ row, Q row → Q' row) : Appends P' Q' before after := by
  obtain ⟨⟨added, grown, each⟩, addedNotes, grownNotes, eachNote⟩ := appends
  exact ⟨⟨added, grown, fun row there => rows row (each row there)⟩,
    ⟨addedNotes, grownNotes, fun row there => notes row (eachNote row there)⟩⟩

/-- **What every command of a run appends, the run appends.** -/
theorem run_appends {guard : ReminderDb → Part → Prop}
    (each : ∀ tables part, guard tables part → Appends P Q tables.db (part.execute tables).db)
    {tables after : ReminderDb} {parts : List Part} (meets : Meets Part.step guard tables parts)
    (ran : run Part.step tables parts = some after) : Appends P Q tables.db after.db := by
  refine meets.keeps (I := fun later => Appends P Q tables.db later.db) ?_
    (SameLogs.appends (.refl _)) ran
  rintro between part next appends met ⟨⟩
  exact appends.trans (each between part met)

end Appends

end Invoicing
