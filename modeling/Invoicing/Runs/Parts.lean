/-
**The commands a call runs, one after the other.**

* `Part` — one command: of an invoice, a credit note, a schedule or a reminder, or one step of a ticker's
  loop. `Part.execute` is what it does to the tables.
* `Call.parts` — the commands of a call: most are one command, a ticker runs as many as it finds rows due
  and stops at its first error. **`Call.run_parts`** — the call does what they do.
* `Part.Current` — a ticker's step works on a row as it is stored. **`Call.parts_current`** — every step
  does, since the rows a ticker selected are left alone until it comes to them.
-/

import Invoicing.Lib.Labelled
import Invoicing.Lib.Mealy
import Invoicing.Runs.Calls
import Invoicing.Runs.Cycle

namespace Invoicing

open Chrono (DateTime)
open KeyedTable Labelled

/-! ### Parts -/

/-- One command of a call. -/
inductive Part
  | invoice (request : Request)
  | createCreditNote (ctx : CoreCtx) (input : CreateCreditNoteInput)
  | issueCreditNote (ctx : CoreCtx) (input : IssueCreditNoteInput)
  | createSchedule (ctx : CoreCtx) (input : ScheduleCreateInput)
  | pauseSchedule (ctx : CoreCtx) (input : ScheduleStateChangeInput)
  | cancelSchedule (ctx : CoreCtx) (input : ScheduleStateChangeInput)
  | advanceSchedule (ctx : TickCtx) (schedule : Schedule)
  | scheduleReminder (ctx : ReminderCtx) (input : ReminderScheduleInput)
  | cancelReminder (ctx : ReminderCtx) (input : ReminderCancelInput)
  | sendReminder (now : DateTime) (reminder : Reminder)

/-- The tables after a command. -/
def Part.execute (part : Part) (tables : ReminderDb) : ReminderDb :=
  match part with
  | .invoice request => { tables with db := (request.execute tables.db).2 }
  | .createCreditNote ctx input => { tables with db := (Invoicing.createCreditNote ctx input tables.db).2 }
  | .issueCreditNote ctx input => { tables with db := (Invoicing.issueCreditNote ctx input tables.db).2 }
  | .createSchedule ctx input => { tables with db := (scheduleCreate ctx input tables.db).2 }
  | .pauseSchedule ctx input => { tables with db := (schedulePause ctx input tables.db).2 }
  | .cancelSchedule ctx input => { tables with db := (scheduleCancel ctx input tables.db).2 }
  | .advanceSchedule ctx schedule => { tables with db := (advanceStep ctx schedule tables.db).2 }
  | .scheduleReminder ctx input => (reminderSchedule ctx input tables).after
  | .cancelReminder ctx input => (reminderCancel ctx input tables).after
  | .sendReminder now reminder =>
      match tables.saveReminder (sentReminder reminder now) with
      | .error _ => tables
      | .ok after => after

def Part.step (tables : ReminderDb) (part : Part) : Option ReminderDb := some (part.execute tables)

/-- The issue of a run of a schedule, when the schedule asks for it. -/
def issueParts (ctx : TickCtx) (schedule : Schedule) (drafted : DraftInvoiceOutput) : List Part :=
  if schedule.autoIssue then
    [.invoice (.issue (ctx.issue schedule.id) (tickIssueInput drafted.invoice.id))]
  else []

/-- The commands of one run of a schedule. -/
def materialiseParts (ctx : TickCtx) (schedule : Schedule) (db : Db) : List Part :=
  .invoice (.draft (ctx.draft schedule.id) schedule.draftInput) ::
    match draftStep ctx schedule db with
    | (.error _, _) => []
    | (.ok drafted, db) => issueParts ctx schedule drafted ++
        match issueStep ctx schedule drafted db with
        | (.error _, _) => []
        | (.ok _, _) => [.advanceSchedule ctx schedule]

/-- The commands of the loop over the due schedules. -/
def tickParts (ctx : TickCtx) : List Schedule → Db → List Part
  | [], _ => []
  | schedule :: rest, db =>
      if schedule.state ≠ .active then tickParts ctx rest db
      else materialiseParts ctx schedule db ++
        match materialise ctx schedule db with
        | (.error _, _) => []
        | (.ok _, db) => tickParts ctx rest db

/-- The commands of the loop over the due reminders. -/
def sendParts (now : DateTime) : List Reminder → ReminderDb → List Part
  | [], _ => []
  | reminder :: rest, tables =>
      if reminder.state ≠ .scheduled then sendParts now rest tables
      else .sendReminder now reminder ::
        match tables.saveReminder (sentReminder reminder now) with
        | .error _ => []
        | .ok after => sendParts now rest after

/-- The command an inbound event asks for. -/
def InboundCommand.part (ctx : CoreCtx) : InboundCommand → Part
  | .draftInvoice input => .invoice (.draft ctx input)
  | .markPaid input => .invoice (.markPaid ctx input)
  | .createCreditNote input => .createCreditNote ctx input

/-- **The commands of a call**, on the tables it is made on. -/
def Call.parts (tables : ReminderDb) : Call → List Part
  | .invoice request => [.invoice request]
  | .createCreditNote ctx input => [.createCreditNote ctx input]
  | .issueCreditNote ctx input => [.issueCreditNote ctx input]
  | .scheduleCreate ctx input => [.createSchedule ctx input]
  | .schedulePause ctx input => [.pauseSchedule ctx input]
  | .scheduleCancel ctx input => [.cancelSchedule ctx input]
  | .reminderSchedule ctx input => [.scheduleReminder ctx input]
  | .reminderCancel ctx input => [.cancelReminder ctx input]
  | .schedulesTick ctx => tickParts ctx (tables.db.dueSchedules ctx.today) tables.db
  | .remindersTick now => sendParts now (tables.dueReminders now) tables
  | .overdueTick _ => []
  | .inbound consumer ctx topic eventId payload =>
      match consumer.route topic eventId payload with
      | .error _ => []
      | .ok command => [command.part ctx]

/-! ### A call does what its commands do -/

section Tick

variable (ctx : TickCtx) (schedule : Schedule) (reminders : List Reminder)

theorem run_issueParts (drafted : DraftInvoiceOutput) (db : Db) :
    run Part.step ⟨db, reminders⟩ (issueParts ctx schedule drafted) =
      some ⟨(issueStep ctx schedule drafted db).2, reminders⟩ := by
  unfold issueParts
  rcases issueStep_cases ctx schedule drafted db with
    ⟨auto, same⟩ | ⟨auto, ⟨stop, failed, same⟩ | ⟨_, _, same⟩⟩
  · rw [same, auto]
    rfl
  · have kept : (issueInvoice (ctx.issue schedule.id) (tickIssueInput drafted.invoice.id) db).2 = db :=
      perform_error failed
    rw [same, auto]
    exact congrArg (fun db => some (ReminderDb.mk db reminders)) kept
  · rw [same, auto]
    rfl

/-- A run of a schedule does what its commands do. -/
theorem run_materialiseParts (db : Db) :
    run Part.step ⟨db, reminders⟩ (materialiseParts ctx schedule db) =
      some ⟨(materialise ctx schedule db).2, reminders⟩ := by
  have drafts : ∀ later, run Part.step ⟨db, reminders⟩
      (.invoice (.draft (ctx.draft schedule.id) schedule.draftInput) :: later) =
        run Part.step ⟨(draftStep ctx schedule db).2, reminders⟩ later := fun _ => rfl
  rw [materialiseParts, drafts, materialise]
  rcases draftStep ctx schedule db with ⟨stop | drafted, first⟩
  · rfl
  · dsimp only [andThen]
    rw [run_append (run_issueParts ctx schedule reminders _ _)]
    rcases issueStep ctx schedule drafted first with ⟨stop | _, second⟩
    · rfl
    · dsimp only
      show some (ReminderDb.mk (advanceStep ctx schedule second).2 reminders) = _
      rcases advanceStep ctx schedule second with ⟨stop | _, third⟩
      · rfl
      · rfl

/-- The loop over the due schedules does what its commands do. -/
theorem run_tickParts (rows : List Schedule) (done : SchedulesTickOutput) (db : Db) :
    run Part.step ⟨db, reminders⟩ (tickParts ctx rows db) =
      some ⟨(tickLoop ctx rows done db).2, reminders⟩ := by
  induction rows generalizing done db with
  | nil => rfl
  | cons schedule rest ih =>
    rw [tickParts, tickLoop]
    by_cases inactive : schedule.state ≠ .active
    · rw [if_pos inactive, if_pos inactive]
      exact ih done db
    · rw [if_neg inactive, if_neg inactive, run_append (run_materialiseParts ctx schedule reminders db)]
      rcases materialise ctx schedule db with ⟨stop | drafted, after⟩
      · rfl
      · exact ih _ after

end Tick

/-- The loop over the due reminders does what its commands do. -/
theorem run_sendParts (now : DateTime) (rows done : List Reminder) (tables : ReminderDb) :
    run Part.step tables (sendParts now rows tables) = some (remindersLoop now rows done tables).after := by
  induction rows generalizing done tables with
  | nil => rfl
  | cons reminder rest ih =>
    rw [sendParts, remindersLoop]
    by_cases other : reminder.state ≠ .scheduled
    · rw [if_pos other, if_pos other]
      exact ih done tables
    rw [if_neg other, if_neg other, run, Part.step, Option.bind_some, Part.execute]
    cases tables.saveReminder (sentReminder reminder now) with
    | error e => rfl
    | ok after => exact ih _ after

/-- **A call does what its commands do.** -/
theorem Call.run_parts (call : Call) (tables : ReminderDb) :
    run Part.step tables (call.parts tables) = some (call.execute tables).2 := by
  cases call with
  | schedulesTick ctx => exact run_tickParts ctx tables.reminders _ ⟨[], []⟩ tables.db
  | remindersTick now => exact run_sendParts now _ [] tables
  | inbound consumer ctx topic eventId payload =>
    simp only [parts, execute, answering, Consumer.dispatch]
    cases consumer.route topic eventId payload with
    | error e => rfl
    | ok command =>
      cases command with
      | draftInvoice input => rfl
      | markPaid input => rfl
      | createCreditNote input => rfl
  | _ => rfl

/-! ### Calls one after the other -/

def Call.step (tables : ReminderDb) (call : Call) : Option ReminderDb := some (call.execute tables).2

theorem run_calls (tables : ReminderDb) (calls : List Call) :
    run Call.step tables calls = some (Mealy.after Call.execute tables calls) := by
  induction calls generalizing tables with
  | nil => rfl
  | cons call rest ih => exact ih (call.execute tables).2

/-- **What every command of every call keeps, a run of calls keeps**, where each command meets a guard. -/
theorem calls_keep {I : ReminderDb → Prop} {guard : ReminderDb → Part → Prop}
    (kept : ∀ tables part, I tables → guard tables part → I (part.execute tables)) {tables : ReminderDb}
    (start : I tables) {calls : List Call}
    (meets : Meets Call.step (fun tables call => Meets Part.step guard tables (call.parts tables))
      tables calls) :
    I (Mealy.after Call.execute tables calls) := by
  refine meets.keeps ?_ start (run_calls tables calls)
  rintro tables call next holds meets ⟨⟩
  refine meets.keeps ?_ holds (call.run_parts tables)
  rintro tables part next holds meets ⟨⟩
  exact kept tables part holds meets

/-! ### A ticker's rows are current -/

/-- A ticker's step works on a row as it is stored, and due. -/
def Part.Current (tables : ReminderDb) : Part → Prop
  | .advanceSchedule _ schedule =>
      tables.db.getSchedule schedule.id = some schedule ∧ schedule.state = .active
  | .sendReminder _ reminder => tables.getReminder reminder.id = some reminder ∧ reminder.state = .scheduled
  | _ => True

/-- The keys of schedules and reminders are unique. -/
structure ReminderDb.RowsUnique (tables : ReminderDb) : Prop where
  schedules : Distinct Schedule.id tables.db.schedules
  reminders : Distinct Reminder.id tables.reminders

/-- The steps of one run of a schedule are current where its row is stored. -/
theorem materialiseParts_current {ctx : TickCtx} {schedule : Schedule} {reminders : List Reminder} {db : Db}
    (stored : db.getSchedule schedule.id = some schedule) (active : schedule.state = .active) :
    Meets Part.step Part.Current ⟨db, reminders⟩ (materialiseParts ctx schedule db) := by
  refine ⟨trivial, ?_⟩
  rintro _ ⟨⟩
  have drafted := (draftStep_leaves ctx schedule db).2
  show Meets Part.step Part.Current ⟨(draftStep ctx schedule db).2, reminders⟩ _
  generalize draftStep ctx schedule db = drafts at drafted ⊢
  obtain ⟨stop | output, first⟩ := drafts
  · trivial
  have issued := (issueStep_leaves ctx schedule output first).2
  have issues : Meets Part.step Part.Current ⟨first, reminders⟩ (issueParts ctx schedule output) := by
    unfold issueParts
    split
    · exact ⟨trivial, fun _ _ => trivial⟩
    · trivial
  refine issues.append fun after ran => ?_
  obtain rfl := Option.some.inj ((run_issueParts ctx schedule reminders output first).symm.trans ran)
  generalize issueStep ctx schedule output first = issues at issued ⊢
  obtain ⟨stop | _, second⟩ := issues
  · trivial
  · have same : second.schedules = db.schedules := issued.trans drafted
    refine ⟨⟨?_, active⟩, fun _ _ => trivial⟩
    rw [← stored]
    exact congrArg (fun rows => find Schedule.id rows schedule.id) same

/-- A run of a schedule leaves the rows of the others. -/
theorem materialise_rows (ctx : TickCtx) (schedule : Schedule) (db : Db) {id : ScheduleId}
    (other : id ≠ schedule.id) : (materialise ctx schedule db).2.getSchedule id = db.getSchedule id := by
  have drafted := (draftStep_leaves ctx schedule db).2
  have ends := materialise_cases ctx schedule db
  have rows : ∀ {first second : Db}, second.schedules = first.schedules →
      second.getSchedule id = first.getSchedule id := fun same =>
    congrArg (fun rows => find Schedule.id rows id) same
  generalize materialise ctx schedule db = result at ends ⊢
  cases ends with
  | refused draft => rfl
  | drafted draft issue =>
    rw [draft] at drafted
    exact rows drafted
  | @issued output between _ _ draft issue save =>
    have issued := (issueStep_leaves ctx schedule output between).2
    rw [issue] at issued
    rw [draft] at drafted
    exact rows (issued.trans drafted)
  | @done output between between' _ draft issue next =>
    have issued := (issueStep_leaves ctx schedule output between).2
    rw [issue] at issued
    rw [draft] at drafted
    refine Eq.trans ?_ (rows (issued.trans drafted))
    exact find_upsert_other Schedule.keepsKey between'.schedules other

/-- **The rows a tick selected stay until it comes to them.** -/
theorem tickParts_current {ctx : TickCtx} {reminders : List Reminder} {rows : List Schedule}
    (distinct : Distinct Schedule.id rows) {db : Db}
    (stored : ∀ row ∈ rows, db.getSchedule row.id = some row) :
    Meets Part.step Part.Current ⟨db, reminders⟩ (tickParts ctx rows db) := by
  induction rows generalizing db with
  | nil => trivial
  | cons schedule rest ih =>
    obtain ⟨others, distinct'⟩ := List.nodup_cons.mp distinct
    obtain ⟨here, later⟩ := List.forall_mem_cons.mp stored
    rw [tickParts]
    by_cases inactive : schedule.state ≠ .active
    · rw [if_pos inactive]
      exact ih distinct' later
    rw [if_neg inactive]
    refine (materialiseParts_current here (not_not.mp inactive)).append fun after ran => ?_
    obtain rfl := Option.some.inj ((run_materialiseParts ctx schedule reminders db).symm.trans ran)
    have rows : ∀ row ∈ rest, (materialise ctx schedule db).2.getSchedule row.id = db.getSchedule row.id := by
      intro row there
      refine materialise_rows ctx schedule db fun same => others ?_
      rw [← same]
      exact List.mem_map_of_mem there
    generalize materialise ctx schedule db = result at rows ⊢
    obtain ⟨stop | drafted, after⟩ := result
    · trivial
    · exact ih distinct' fun row there => (rows row there).trans (later row there)

/-- The reminders a tick selected stay until it comes to them. -/
theorem sendParts_current {now : DateTime} {rows : List Reminder} (distinct : Distinct Reminder.id rows)
    {tables : ReminderDb} (stored : ∀ row ∈ rows, tables.getReminder row.id = some row) :
    Meets Part.step Part.Current tables (sendParts now rows tables) := by
  induction rows generalizing tables with
  | nil => trivial
  | cons reminder rest ih =>
    obtain ⟨others, distinct'⟩ := List.nodup_cons.mp distinct
    obtain ⟨here, later⟩ := List.forall_mem_cons.mp stored
    rw [sendParts]
    by_cases other : reminder.state ≠ .scheduled
    · rw [if_pos other]
      exact ih distinct' later
    rw [if_neg other]
    refine ⟨⟨here, not_not.mp other⟩, ?_⟩
    rintro _ ⟨⟩
    rw [Part.execute]
    cases saved : tables.saveReminder (sentReminder reminder now) with
    | error e => trivial
    | ok after =>
      refine ih distinct' fun row there => ?_
      have apart : row.id ≠ (sentReminder reminder now).id :=
        fun same => others (same ▸ List.mem_map_of_mem there)
      rw [(saveReminder_ok saved).1, getReminder_put, if_neg apart]
      exact later row there

/-- The due reminders are distinct. -/
theorem dueReminders_distinct {tables : ReminderDb} (distinct : Distinct Reminder.id tables.reminders)
    (now : DateTime) :
    Distinct Reminder.id (tables.dueReminders now) ∧
      ∀ row ∈ tables.dueReminders now, tables.getReminder row.id = some row := by
  have sorted := List.perm_insertionSort
    (fun first second : Reminder => first.scheduledAt.text ≤ second.scheduledAt.text)
    (tables.reminders.filter fun row =>
      decide (row.state = .scheduled) && decide (row.scheduledAt.text ≤ now.text))
  refine ⟨(sorted.map Reminder.id).nodup_iff.mpr
    (distinct.sublist (List.filter_sublist.map Reminder.id)), fun row there => ?_⟩
  exact find_of_mem distinct (List.mem_of_mem_filter (sorted.mem_iff.mp there))

/-- **Every step of a ticker works on a row as it is stored.** -/
theorem Call.parts_current {tables : ReminderDb} (unique : tables.RowsUnique) (call : Call) :
    Meets Part.step Part.Current tables (call.parts tables) := by
  cases call with
  | schedulesTick ctx =>
    have sorted := List.perm_insertionSort
      (fun first second : Schedule => first.nextRun.text ≤ second.nextRun.text)
      (tables.db.schedules.filter fun row =>
        decide (row.state = .active) && decide (row.nextRun.text ≤ ctx.today.text))
    refine tickParts_current ((sorted.map Schedule.id).nodup_iff.mpr
      (unique.schedules.sublist (List.filter_sublist.map Schedule.id))) fun row due => ?_
    exact find_of_mem unique.schedules (mem_dueSchedules.mp due).1
  | remindersTick now =>
    obtain ⟨distinct, stored⟩ := dueReminders_distinct unique.reminders now
    exact sendParts_current distinct stored
  | overdueTick now => trivial
  | inbound consumer ctx topic eventId payload =>
    rw [parts]
    cases consumer.route topic eventId payload with
    | error e => trivial
    | ok command =>
      refine ⟨?_, fun _ _ => trivial⟩
      cases command with
      | draftInvoice input => trivial
      | markPaid input => trivial
      | createCreditNote input => trivial
  | _ => exact ⟨trivial, fun _ _ => trivial⟩

end Invoicing
