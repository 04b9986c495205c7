/-
**Everything that publishes.**

* `schedulesTickPublished` — what a tick publishes: for each due schedule the events of its draft, of its
  issue and of its end.
* `Producer` — a command, a ticker pass or a relay pass; `Producer.run` is what it publishes when it
  succeeds. `Producer.Conforms` — when its payloads have the fields of their structs: never a payment or a
  new reminder, no overdue tick that finds an invoice, no relay pass over other rows than sends, views and
  voids.
* **`payloads_typed_iff`** — the events are typed exactly then. **`payment_not_typed`** — a payment.
-/

import Invoicing.Runs.Accepted
import Invoicing.Runs.Payloads

namespace Invoicing

open Chrono (DateTime)

/-! ### A tick -/

/-- What the issue of a run publishes, when the schedule asks for one. -/
def issueStepPublished (ctx : TickCtx) (schedule : Schedule) (drafted : DraftInvoiceOutput) (db : Db) :
    List BusEvent :=
  if schedule.autoIssue then
    (Request.issue (ctx.issue schedule.id) (tickIssueInput drafted.invoice.id)).published db
  else []

/-- What the advance of a schedule publishes; its row is saved afterwards. -/
def advanceStepPublished (ctx : TickCtx) (schedule : Schedule) : List BusEvent :=
  match schedule.cadence.advance schedule.nextRun with
  | none => []
  | some next =>
      if ∃ last ∈ schedule.endDate, last < next then endDateReachedEvents schedule ctx.now else []

/-- What one run of a due schedule publishes. -/
def materialisePublished (ctx : TickCtx) (schedule : Schedule) (db : Db) : List BusEvent :=
  (Request.draft (ctx.draft schedule.id) schedule.draftInput).published db ++
    match draftStep ctx schedule db with
    | (.error _, _) => []
    | (.ok drafted, db) => issueStepPublished ctx schedule drafted db ++
        match (issueStep ctx schedule drafted db).1 with
        | .error _ => []
        | .ok _ => advanceStepPublished ctx schedule

def tickLoopPublished (ctx : TickCtx) : List Schedule → Db → List BusEvent
  | [], _ => []
  | schedule :: rest, db =>
      if schedule.state ≠ .active then tickLoopPublished ctx rest db
      else materialisePublished ctx schedule db ++
        match materialise ctx schedule db with
        | (.error _, _) => []
        | (.ok _, db) => tickLoopPublished ctx rest db

/-- What `schedules_tick` publishes. -/
def schedulesTickPublished (ctx : TickCtx) (db : Db) : List BusEvent :=
  tickLoopPublished ctx (db.dueSchedules ctx.today) db

/-! ### Producers -/

/-- The events of an operation that succeeded. -/
def eventsIfOk {ε α : Type} (result : Except ε α) (events : α → List BusEvent) :
    Option (List BusEvent) :=
  match result with
  | .error _ => none
  | .ok output => some (events output)

theorem eventsIfOk_some {ε α : Type} {result : Except ε α} {events : α → List BusEvent}
    {published : List BusEvent} (ran : eventsIfOk result events = some published) :
    ∃ output, result = .ok output ∧ events output = published := by
  cases result with
  | error e => cases ran
  | ok output => exact ⟨output, rfl, Option.some.inj ran⟩

/-- What publishes: an invoice command or a fetch of a link, the other commands, the ticker passes and
the relay. -/
inductive Producer
  | invoice (request : Request)
  | createCreditNote (ctx : CoreCtx) (input : CreateCreditNoteInput)
  | issueCreditNote (ctx : CoreCtx) (input : IssueCreditNoteInput)
  | scheduleCreate (ctx : CoreCtx) (input : ScheduleCreateInput)
  | schedulePause (ctx : CoreCtx) (input : ScheduleStateChangeInput)
  | scheduleCancel (ctx : CoreCtx) (input : ScheduleStateChangeInput)
  | reminderSchedule (ctx : ReminderCtx) (input : ReminderScheduleInput)
  | reminderCancel (ctx : ReminderCtx) (input : ReminderCancelInput)
  | schedulesTick (ctx : TickCtx)
  | remindersTick (now : DateTime)
  | markOverdueTicker (now : DateTime)
  | relay (world : RelayWorld) (limit : ℤ)

/-- What it publishes when it succeeds. -/
def Producer.run (producer : Producer) (tables : ReminderDb) : Option (List BusEvent) :=
  match producer with
  | invoice request => eventsIfOk (request.execute tables.db).1 fun _ => request.published tables.db
  | createCreditNote ctx input => eventsIfOk (Invoicing.createCreditNote ctx input tables.db).1
      fun _ => createCreditNotePublished ctx input tables.db
  | issueCreditNote ctx input => eventsIfOk (Invoicing.issueCreditNote ctx input tables.db).1
      fun _ => issueCreditNotePublished ctx input tables.db
  | scheduleCreate ctx input => eventsIfOk (Invoicing.scheduleCreate ctx input tables.db).1
      fun output => scheduleCreatedEvents output.schedule input ctx.now
  | schedulePause ctx input => eventsIfOk (Invoicing.schedulePause ctx input tables.db).1
      fun output => scheduleChangedEvents topicSchedulePaused output.schedule input ctx.now
  | scheduleCancel ctx input => eventsIfOk (Invoicing.scheduleCancel ctx input tables.db).1
      fun output => scheduleChangedEvents topicScheduleCancelled output.schedule input ctx.now
  | reminderSchedule ctx input =>
      let emission := Invoicing.reminderSchedule ctx input tables
      eventsIfOk emission.result fun _ => emission.events
  | reminderCancel ctx input =>
      let emission := Invoicing.reminderCancel ctx input tables
      eventsIfOk emission.result fun _ => emission.events
  | schedulesTick ctx => eventsIfOk (Invoicing.schedulesTick ctx tables.db).1
      fun _ => schedulesTickPublished ctx tables.db
  | remindersTick now =>
      let emission := Invoicing.remindersTick now tables
      eventsIfOk emission.result fun _ => emission.events
  | markOverdueTicker now =>
      let emission := Invoicing.markOverdueTicker now tables
      eventsIfOk emission.result fun _ => emission.events
  | relay world limit =>
      match runOutboxRelay world limit ⟨tables.db, []⟩ with
      | (none, _) => none
      | (some _, store) => some (store.accepted.map Publication.event)

/-- A payment. -/
def Request.IsPayment : Request → Prop
  | .markPaid _ _ => True
  | _ => False

/-- The payloads have the fields of their structs. -/
def Producer.Conforms (producer : Producer) (tables : ReminderDb) : Prop :=
  match producer with
  | invoice request => ¬ request.IsPayment
  | reminderSchedule _ _ => False
  | markOverdueTicker now => ∀ inv ∈ tables.db.invoices, isOverdue inv now = false
  | relay world limit => ∀ outbox, ∀ row ∈ tables.db.pendingOutbox world.order limit outbox, row.Conforms
  | _ => True

/-! ### Each producer -/

section Typed

variable {parsers : WireParsers}

/-- The events of a committed edit are typed, unless it is a payment. -/
theorem Edit.events_typed {request : Request} {loaded : Option Invoice} {tx : InvoiceTx} {reply : Reply}
    (edit : Edit request loaded tx) :
    AllTyped parsers (request.events loaded tx reply) ↔ ¬ request.IsPayment := by
  cases edit with
  | draft summed => exact iff_of_true (drafted_typed _ _ _ _) id
  | issue draft toState target owners => exact iff_of_true (issued_typed _ _ _ _ _ _) id
  | send target open' => exact iff_of_true (sent_typed _ _ _ _ _ _ _) id
  | sendRender target open' => exact iff_of_true (sent_typed _ _ _ _ _ _ _) id
  | view verified sent => exact iff_of_true (viewed_typed _ _) id
  | void target accepted => exact iff_of_true (voided_typed _ _ _ _ _ _) id
  | markPaid target positive summed accepted =>
    exact iff_of_false (paid_not_typed _ _ _ _ _ _ _ _) fun other => other True.intro

theorem published_typed {request : Request} (other : ¬ request.IsPayment) (db : Db) :
    AllTyped parsers (request.published db) := by
  rcases request.published_cases db with ⟨_, none⟩ | ⟨loaded, tx, reply, edit, _, _, publishes⟩
  · rw [none]
    exact .nil
  · rw [publishes]
    exact edit.events_typed.mpr other

/-- A payment that succeeds commits a history row. -/
theorem markPaid_commits {ctx : CoreCtx} {input : MarkPaidInput} {db : Db} {reply : Reply}
    (done : (Request.execute (.markPaid ctx input) db).1 = .ok reply) :
    (Request.execute (.markPaid ctx input) db).2 ≠ db := by
  have unfolded : Request.execute (.markPaid ctx input) db =
      (perform (prepareMarkPaid ctx input db) db).map (toOutcome .paid) id := rfl
  rw [unfolded] at done ⊢
  cases performed : (perform (prepareMarkPaid ctx input db) db).1 with
  | error stop =>
    simp only [Prod.map_fst, performed] at done
    cases done
  | ok output =>
    rcases perform_ok performed with ⟨answered, _⟩ | ⟨loaded, tx, _, committed⟩
    · obtain ⟨_, _, _, _, _, _, _, write⟩ := prepareMarkPaid_ok answered
      cases write
    · intro same
      obtain ⟨applied, _⟩ := InvoiceTx.commit_ok committed
      have rows : db.history ++ [tx.history] = db.history := by
        have kept : (perform (prepareMarkPaid ctx input db) db).2 = db := same
        calc db.history ++ [tx.history] = (tx.apply db).history := rfl
          _ = db.history := by rw [← applied, kept]
      exact absurd (congrArg List.length rows) (by simp)

/-- **An invoice command that succeeds** publishes typed events, unless it is a payment. -/
theorem invoice_typed_iff {request : Request} {db : Db} {reply : Reply}
    (done : (request.execute db).1 = .ok reply) :
    AllTyped parsers (request.published db) ↔ ¬ request.IsPayment := by
  refine ⟨fun typed payment => ?_, fun other => published_typed other db⟩
  rcases request.published_cases db with ⟨same, _⟩ | ⟨loaded, tx, reply, edit, _, _, publishes⟩
  · cases request with
    | markPaid ctx input => exact markPaid_commits done same
    | _ => exact payment
  · rw [publishes] at typed
    exact edit.events_typed.mp typed payment

theorem createCreditNote_typed (ctx : CoreCtx) (input : CreateCreditNoteInput) (db : Db) :
    AllTyped parsers (createCreditNotePublished ctx input db) := by
  unfold createCreditNotePublished
  cases (createCreditNote ctx input db).1 with
  | error stop => exact .nil
  | ok output => exact creditNoteDrafted_typed _ _ _ _

theorem issueCreditNote_typed (ctx : CoreCtx) (input : IssueCreditNoteInput) (db : Db) :
    AllTyped parsers (issueCreditNotePublished ctx input db) := by
  unfold issueCreditNotePublished
  split
  · exact creditNoteIssued_typed _ _ _ _ _ _ _
  · exact .nil

theorem advanceStep_typed (ctx : TickCtx) (schedule : Schedule) :
    AllTyped parsers (advanceStepPublished ctx schedule) := by
  unfold advanceStepPublished
  cases schedule.cadence.advance schedule.nextRun with
  | none => exact .nil
  | some next =>
    simp only
    split
    · exact endDateReached_typed schedule ctx.now
    · exact .nil

theorem materialise_typed (ctx : TickCtx) (schedule : Schedule) (db : Db) :
    AllTyped parsers (materialisePublished ctx schedule db) := by
  refine allTyped_append.mpr ⟨published_typed id db, ?_⟩
  rcases draftStep ctx schedule db with ⟨stop | drafted, between⟩
  · exact .nil
  · refine allTyped_append.mpr ⟨?_, ?_⟩
    · unfold issueStepPublished
      split
      · exact published_typed id between
      · exact .nil
    · cases (issueStep ctx schedule drafted between).1 with
      | error stop => exact .nil
      | ok _ => exact advanceStep_typed ctx schedule

theorem tickLoop_typed (ctx : TickCtx) (due : List Schedule) (db : Db) :
    AllTyped parsers (tickLoopPublished ctx due db) := by
  induction due generalizing db with
  | nil => exact .nil
  | cons schedule rest ih =>
    unfold tickLoopPublished
    split
    · exact ih db
    · refine allTyped_append.mpr ⟨materialise_typed ctx schedule db, ?_⟩
      rcases materialise ctx schedule db with ⟨stop | drafted, after⟩
      · exact .nil
      · exact ih after

theorem remindersLoop_typed (roundTrips : parsers.RoundTrips) (now : DateTime) (due done : List Reminder)
    (tables : ReminderDb) : AllTyped parsers (remindersLoop now due done tables).events := by
  induction due generalizing done tables with
  | nil => exact .nil
  | cons reminder rest ih =>
    unfold remindersLoop
    split
    · exact ih done tables
    · cases tables.saveReminder (sentReminder reminder now) with
      | error e => exact .nil
      | ok after =>
        refine allTyped_append.mpr ⟨reminderSent_typed roundTrips _ now, ?_⟩
        exact ih (done ++ [sentReminder reminder now]) after

theorem reminderSchedule_not_typed {ctx : ReminderCtx} {input : ReminderScheduleInput}
    {tables : ReminderDb} {reminder : Reminder}
    (done : (reminderSchedule ctx input tables).result = .ok reminder) :
    ¬ AllTyped parsers (reminderSchedule ctx input tables).events := by
  rcases reminderSchedule_cases ctx input tables with ⟨⟨stop, failed⟩, _⟩ | ⟨_, _, _, published⟩
  · rw [failed] at done
    cases done
  · rw [published]
    exact reminderScheduled_not_typed _ input ctx.now

theorem reminderCancel_typed (ctx : ReminderCtx) (input : ReminderCancelInput) (tables : ReminderDb) :
    AllTyped parsers (reminderCancel ctx input tables).events := by
  unfold reminderCancel
  cases tables.getReminder input.reminderId with
  | none => exact .nil
  | some reminder =>
    simp only
    split
    · cases tables.saveReminder { reminder with state := .cancelled } with
      | error e => exact .nil
      | ok after => exact reminderCancelled_typed _ input ctx.now
    · exact reminderCancelled_typed reminder input ctx.now

theorem mem_collectUnpaidUnvoided {db : Db} {inv : Invoice} :
    inv ∈ collectUnpaidUnvoided db ↔ inv ∈ db.invoices ∧ (inv.state = .issued ∨ inv.state = .sent ∨
      inv.state = .viewed ∨ inv.state = .partiallyPaid) := by
  simp only [collectUnpaidUnvoided, Db.listByState, List.mem_flatMap, List.mem_insertionSort,
    List.mem_filter, decide_eq_true_eq, List.mem_cons, List.not_mem_nil, or_false]
  constructor
  · rintro ⟨state, unpaid, member, rfl⟩
    exact ⟨member, unpaid⟩
  · rintro ⟨member, unpaid⟩
    exact ⟨inv.state, unpaid, member, rfl⟩

/-- A tick reports the stored invoices that are overdue. -/
theorem mem_overdueInvoices {now : DateTime} {db : Db} {inv : Invoice} :
    inv ∈ overdueInvoices now db ↔ inv ∈ db.invoices ∧ isOverdue inv now = true := by
  unfold overdueInvoices
  rw [List.mem_filter, mem_collectUnpaidUnvoided]
  constructor
  · rintro ⟨⟨member, _⟩, overdue⟩
    exact ⟨member, overdue⟩
  · rintro ⟨member, overdue⟩
    have both := overdue
    unfold isOverdue at both
    rw [Bool.and_eq_true, decide_eq_true_eq] at both
    exact ⟨⟨member, both.1⟩, overdue⟩

theorem markOverdue_typed_iff (now : DateTime) (tables : ReminderDb) :
    AllTyped parsers (markOverdueTicker now tables).events ↔
      ∀ inv ∈ tables.db.invoices, isOverdue inv now = false := by
  constructor
  · intro typed inv member
    by_contra overdue
    have reported : inv ∈ overdueInvoices now tables.db :=
      mem_overdueInvoices.mpr ⟨member, Bool.of_not_eq_false overdue⟩
    have untyped : ¬ AllTyped parsers [overdueEvent inv now] := overdue_not_typed inv now
    refine untyped fun event there => ?_
    obtain rfl := List.mem_singleton.mp there
    exact typed _ (List.mem_map_of_mem reported)
  · intro none event there
    obtain ⟨inv, reported, _⟩ := List.mem_map.mp there
    obtain ⟨member, overdue⟩ := mem_overdueInvoices.mp reported
    cases (none inv member).symm.trans overdue

/-- What a relay pass that goes through publishes: the events of the rows it selects. -/
theorem relay_publishes {world : RelayWorld} {limit : ℤ} {db : Db} {stats : OutboxStats}
    (done : (runOutboxRelay world limit ⟨db, []⟩).1 = some stats) :
    (runOutboxRelay world limit ⟨db, []⟩).2.accepted.map Publication.event =
      (db.pendingOutbox world.order limit .invoices ++
        db.pendingOutbox world.order limit .creditNotes).flatMap OutboxRow.events := by
  rw [runOutboxRelay_done world done, List.nil_append, List.map_flatMap]
  refine congrArg (List.flatMap · _) (funext fun row => ?_)
  simp only [OutboxRow.publications, List.map_map, Function.comp_def, List.map_id']

theorem relay_typed_iff {world : RelayWorld} {limit : ℤ} {db : Db} {stats : OutboxStats}
    (done : (runOutboxRelay world limit ⟨db, []⟩).1 = some stats) :
    AllTyped parsers ((runOutboxRelay world limit ⟨db, []⟩).2.accepted.map Publication.event) ↔
      ∀ outbox, ∀ row ∈ db.pendingOutbox world.order limit outbox, row.Conforms := by
  have byRow : ∀ rows : List OutboxRow, AllTyped parsers (rows.flatMap OutboxRow.events) ↔
      ∀ row ∈ rows, row.Conforms := by
    intro rows
    unfold AllTyped
    rw [List.forall_mem_flatMap]
    exact forall₂_congr fun row _ => row.events_typed
  rw [relay_publishes done, byRow, List.forall_mem_append]
  constructor
  · rintro ⟨invoices, creditNotes⟩ outbox
    cases outbox with
    | invoices => exact invoices
    | creditNotes => exact creditNotes
  · intro conforms
    exact ⟨conforms .invoices, conforms .creditNotes⟩

/-- **Payloads are typed exactly where they conform**: for whatever succeeds, on any tables, every domain
event it publishes is read as the struct of its topic exactly if its payloads have the fields. -/
theorem payloads_typed_iff (roundTrips : parsers.RoundTrips) {producer : Producer} {tables : ReminderDb}
    {events : List BusEvent} (ran : producer.run tables = some events) :
    AllTyped parsers events ↔ producer.Conforms tables := by
  cases producer with
  | invoice request =>
    obtain ⟨reply, done, rfl⟩ := eventsIfOk_some ran
    exact invoice_typed_iff done
  | createCreditNote ctx input =>
    obtain ⟨_, _, rfl⟩ := eventsIfOk_some ran
    exact iff_of_true (createCreditNote_typed ctx input tables.db) True.intro
  | issueCreditNote ctx input =>
    obtain ⟨_, _, rfl⟩ := eventsIfOk_some ran
    exact iff_of_true (issueCreditNote_typed ctx input tables.db) True.intro
  | scheduleCreate ctx input =>
    obtain ⟨output, _, rfl⟩ := eventsIfOk_some ran
    exact iff_of_true (scheduleCreated_typed roundTrips output.schedule input ctx.now) True.intro
  | schedulePause ctx input =>
    obtain ⟨output, _, rfl⟩ := eventsIfOk_some ran
    exact iff_of_true (schedulePaused_typed output.schedule input ctx.now) True.intro
  | scheduleCancel ctx input =>
    obtain ⟨output, _, rfl⟩ := eventsIfOk_some ran
    exact iff_of_true (scheduleCancelled_typed output.schedule input ctx.now) True.intro
  | reminderSchedule ctx input =>
    obtain ⟨_, done, rfl⟩ := eventsIfOk_some ran
    exact iff_of_false (reminderSchedule_not_typed done) id
  | reminderCancel ctx input =>
    obtain ⟨_, _, rfl⟩ := eventsIfOk_some ran
    exact iff_of_true (reminderCancel_typed ctx input tables) True.intro
  | schedulesTick ctx =>
    obtain ⟨_, _, rfl⟩ := eventsIfOk_some ran
    exact iff_of_true (tickLoop_typed ctx _ tables.db) True.intro
  | remindersTick now =>
    obtain ⟨_, _, rfl⟩ := eventsIfOk_some ran
    exact iff_of_true (remindersLoop_typed roundTrips now _ [] tables) True.intro
  | markOverdueTicker now =>
    obtain rfl := Option.some.inj ran
    exact markOverdue_typed_iff now tables
  | relay world limit =>
    have passed : ∃ stats, (runOutboxRelay world limit ⟨tables.db, []⟩).1 = some stats ∧
        (runOutboxRelay world limit ⟨tables.db, []⟩).2.accepted.map Publication.event = events := by
      simp only [Producer.run] at ran
      split at ran
      · cases ran
      · rename_i stats store pass
        rw [pass]
        exact ⟨stats, rfl, Option.some.inj ran⟩
    obtain ⟨stats, done, rfl⟩ := passed
    exact relay_typed_iff done

end Typed

/-- Parsers that read every text of a time or a date. -/
def lenientParsers : WireParsers := ⟨fun _ _ => true⟩

theorem lenientParsers_roundTrips : lenientParsers.RoundTrips := ⟨fun _ => rfl, fun _ => rfl⟩

/-- The event of a new schedule is typed. -/
theorem schedule_typed :
    (Producer.scheduleCreate (sampleCtx (oneOClock firstOfMarch) 1) sampleSchedule).run ⟨sampleDb, []⟩ =
        some (scheduleCreatedEvents monthly sampleSchedule (oneOClock firstOfMarch)) ∧
      AllTyped lenientParsers (scheduleCreatedEvents monthly sampleSchedule (oneOClock firstOfMarch)) := by
  have ran : (Producer.scheduleCreate (sampleCtx (oneOClock firstOfMarch) 1) sampleSchedule).run
      ⟨sampleDb, []⟩ =
        some (scheduleCreatedEvents monthly sampleSchedule (oneOClock firstOfMarch)) := rfl
  exact ⟨ran, (payloads_typed_iff lenientParsers_roundTrips ran).mpr True.intro⟩

/-- The tables of the issued invoice, without reminders. -/
def issuedTables : ReminderDb := ⟨issuedDb, []⟩

/-- **The payload of a payment is not read as its struct**, by parsers that read every text. -/
theorem payment_not_typed :
    (Producer.invoice partPayment).run issuedTables = some (partPayment.published issuedDb) ∧
      ¬ AllTyped lenientParsers (partPayment.published issuedDb) := by
  obtain ⟨reply, done⟩ : ∃ reply, (partPayment.execute issuedDb).1 = .ok reply := ⟨_, rfl⟩
  have ran : (Producer.invoice partPayment).run issuedTables =
      some (partPayment.published issuedDb) := by
    simp only [Producer.run, issuedTables, eventsIfOk, done]
  exact ⟨ran, fun typed => (invoice_typed_iff done).mp typed True.intro⟩

end Invoicing
