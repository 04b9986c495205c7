/-
**Which invoices are reminded.**

* `ReminderDb.Sound` — reminder ids are unique and every reminder's invoice is stored.
* **`remindersTick_eq`** — on sound tables a tick saves every due reminder as sent and publishes one
  `reminder.sent` event for each, whatever the state of its invoice.
* `storedTick` — a tick over the stored tables: it reads the due rows first, and fails when one of them is
  not read. **`storedTick_isOk_iff`**, **`storedTick_eq`** — otherwise it does the same.
* `ReminderAction` — invoice, credit-note and schedule commands, and the reminder commands, one at a
  time.
* **`reminded_iff_sent`** — at any moment of any run a tick reminds only where the transition table
  accepts the event exactly if it fails on a due row or the invoice of every reminder whose time has come
  is sent. **`paid_and_reminded`** — a reminder scheduled before the payment goes out after it.
-/

import Invoicing.Commands.Reminder
import Invoicing.Runs.Actions
import Invoicing.Store.PlainTexts
import Invoicing.Store.TimeText

namespace Invoicing

open Chrono (DateTime)
open KeyedTable

/-! ### The reminder table -/

/-- Reminder ids are unique, and every reminder's invoice is stored. -/
structure ReminderDb.Sound (tables : ReminderDb) : Prop where
  distinct : Distinct Reminder.id tables.reminders
  owned : ∀ reminder ∈ tables.reminders, tables.db.getInvoice reminder.invoiceId ≠ none

theorem ReminderDb.Sound.empty (db : Db) : (⟨db, []⟩ : ReminderDb).Sound :=
  ⟨List.nodup_nil, fun _ absent => by cases absent⟩

theorem ReminderDb.Sound.put {tables : ReminderDb} {reminder : Reminder} (sound : tables.Sound)
    (stored : tables.db.getInvoice reminder.invoiceId ≠ none) :
    (tables.putReminder reminder).Sound := by
  refine ⟨distinct_upsert Reminder.keepsKey reminder sound.distinct, ?_⟩
  intro row member
  rcases (mem_upsert_iff Reminder.keepsKey sound.distinct reminder row).mp member with
    rfl | ⟨inTable, _⟩
  · cases find Reminder.id tables.reminders reminder.id with
    | none => exact stored
    | some old => exact stored
  · exact sound.owned row inTable

/-! ### A tick -/

/-- A due reminder is stored, scheduled, and its time has come. -/
theorem mem_dueReminders {tables : ReminderDb} {now : DateTime} {reminder : Reminder} :
    reminder ∈ tables.dueReminders now ↔
      reminder ∈ tables.reminders ∧ reminder.state = .scheduled ∧
        reminder.scheduledAt.text ≤ now.text := by
  unfold ReminderDb.dueReminders
  rw [List.mem_insertionSort, List.mem_filter]
  simp

/-- The event of a reminder a tick dispatches. -/
def remindedEvent (now : DateTime) (reminder : Reminder) : BusEvent :=
  reminderSentEvent (sentReminder reminder now) now

/-- The tables after a tick saved some reminders as sent. -/
def putSent (now : DateTime) (rows : List Reminder) (tables : ReminderDb) : ReminderDb :=
  rows.foldl (fun tables row => tables.putReminder (sentReminder row now)) tables

theorem remindersLoop_eq {now : DateTime} {rows done : List Reminder} {tables : ReminderDb}
    (scheduled : ∀ row ∈ rows, row.state = .scheduled)
    (owned : ∀ row ∈ rows, tables.db.getInvoice row.invoiceId ≠ none) :
    remindersLoop now rows done tables =
      ⟨.ok (done ++ rows.map fun row => sentReminder row now), putSent now rows tables,
        rows.map (remindedEvent now)⟩ := by
  induction rows generalizing done tables with
  | nil =>
    rw [List.map_nil, List.append_nil]
    rfl
  | cons row rest ih =>
    have saved : tables.saveReminder (sentReminder row now) =
        .ok (tables.putReminder (sentReminder row now)) :=
      saveReminder_of_stored (owned row List.mem_cons_self)
    have later := @ih (done ++ [sentReminder row now]) (tables.putReminder (sentReminder row now))
      (fun other member => scheduled other (List.mem_cons_of_mem _ member))
      (fun other member => owned other (List.mem_cons_of_mem _ member))
    rw [remindersLoop, if_neg (not_not.mpr (scheduled row List.mem_cons_self)), saved]
    dsimp only
    rw [later, List.append_assoc]
    rfl

/-- **What a tick does on sound tables**: every due reminder is saved as sent, and published. -/
theorem remindersTick_eq {tables : ReminderDb} (sound : tables.Sound) (now : DateTime) :
    remindersTick now tables =
      ⟨.ok ((tables.dueReminders now).map fun row => sentReminder row now),
        putSent now (tables.dueReminders now) tables,
        (tables.dueReminders now).map (remindedEvent now)⟩ := by
  unfold remindersTick
  rw [remindersLoop_eq, List.nil_append]
  · exact fun row member => (mem_dueReminders.mp member).2.1
  · exact fun row member => sound.owned row (mem_dueReminders.mp member).1

/-! ### A tick over the stored tables -/

/-- `reminders_tick`: the due rows are read before the first is dispatched. -/
def storedTick (texts : ColumnTexts) (order : OrderBy ReminderColumns.scheduledAt) (now : DateTime)
    (tables : ReminderDb) : ReadResult (Emission (List Reminder)) :=
  ((tables.stored texts).dueReminders texts now order).map fun due => remindersLoop now due [] tables

/-- The due reminders are read back. -/
def DueRead (now : DateTime) (tables : ReminderDb) : Prop :=
  ∀ reminder ∈ tables.dueReminders now, YearsFit reminder.times

section Stored

variable {texts : ColumnTexts} (documented : texts.Documented) {order : OrderBy ReminderColumns.scheduledAt}
  {now : DateTime} {tables : ReminderDb}

include documented

omit documented in
/-- The query asks for the columns of the due reminders. -/
theorem due_columns_iff {reminder : Reminder} :
    reminder ∈ tables.reminders ∧ reminder.columns ∈ (Query.ordered (fun row : ReminderColumns =>
        decide (row.state = "scheduled") && decide (row.scheduledAt ≤ tsToString now)) order none).rows
          (tables.reminders.map Reminder.columns) ↔ reminder ∈ tables.dueReminders now := by
  have state : reminder.columns.state = "scheduled" ↔ reminder.state = .scheduled :=
    (injective_of_read reminderStateFromStr_toStr).eq_iff' rfl
  have time : reminder.columns.scheduledAt ≤ tsToString now ↔
      reminder.scheduledAt.text ≤ now.text := ofList_le_iff
  rw [Query.mem_ordered, Bool.and_eq_true_iff, decide_eq_true_iff, decide_eq_true_iff, state, time,
    mem_dueReminders]
  constructor
  · rintro ⟨there, _, due⟩
    exact ⟨there, due⟩
  · rintro ⟨there, due⟩
    exact ⟨there, List.mem_map_of_mem there, due⟩

/-- **A tick goes on exactly when the due reminders are read back.** -/
theorem storedTick_isOk_iff :
    (∃ emission, storedTick texts order now tables = .ok emission) ↔ DueRead now tables := by
  have answered := @RowFormat.select_isOk_iff _ _ _ (reminderFormat documented) tables.reminders
    (.ordered (fun row => decide (row.state = "scheduled") && decide (row.scheduledAt ≤ tsToString now))
      order none)
  constructor
  · rintro ⟨emission, done⟩ reminder due
    obtain ⟨rows, read, _⟩ := map_ok done
    obtain ⟨there, asked⟩ := due_columns_iff.mpr due
    exact answered.mp (isOk_iff.mpr ⟨rows, read⟩) reminder there asked
  · intro fits
    obtain ⟨rows, read⟩ := isOk_iff.mp (answered.mpr fun reminder there asked =>
      fits reminder (due_columns_iff.mp ⟨there, asked⟩))
    have found : (tables.stored texts).dueReminders texts now order = .ok rows := read
    exact ⟨remindersLoop now rows [] tables, congrArg (Except.map _) found⟩

/-- **What such a tick does on sound tables**: it saves the due reminders as sent, and publishes them. -/
theorem storedTick_eq (sound : tables.Sound) {emission : Emission (List Reminder)}
    (done : storedTick texts order now tables = .ok emission) :
    ∃ due, (∀ reminder, reminder ∈ due ↔ reminder ∈ tables.dueReminders now) ∧
      emission = ⟨.ok (due.map fun row => sentReminder row now), putSent now due tables,
        due.map (remindedEvent now)⟩ := by
  obtain ⟨due, read, same⟩ := map_ok done
  have members : ∀ reminder, reminder ∈ due ↔ reminder ∈ tables.dueReminders now := by
    intro reminder
    exact ((reminderFormat documented).mem_of_select read).trans due_columns_iff
  refine ⟨due, members, ?_⟩
  rw [← same, remindersLoop_eq, List.nil_append]
  · exact fun row member => (mem_dueReminders.mp ((members row).mp member)).2.1
  · exact fun row member => sound.owned row (mem_dueReminders.mp ((members row).mp member)).1

end Stored

theorem putSent_sound {now : DateTime} {rows : List Reminder} {tables : ReminderDb}
    (sound : tables.Sound) (owned : ∀ row ∈ rows, tables.db.getInvoice row.invoiceId ≠ none) :
    (putSent now rows tables).Sound := by
  induction rows generalizing tables with
  | nil => exact sound
  | cons row rest ih =>
    exact ih (sound.put (owned row List.mem_cons_self))
      fun other member => owned other (List.mem_cons_of_mem _ member)

/-- A tick leaves the other reminders. -/
theorem getReminder_putSent {now : DateTime} {rows : List Reminder} {tables : ReminderDb}
    {id : ReminderId} (other : ∀ row ∈ rows, id ≠ row.id) :
    (putSent now rows tables).getReminder id = tables.getReminder id := by
  induction rows generalizing tables with
  | nil => rfl
  | cons row rest ih =>
    have different : id ≠ (sentReminder row now).id := other row List.mem_cons_self
    show (putSent now rest (tables.putReminder (sentReminder row now))).getReminder id = _
    rw [ih fun later member => other later (List.mem_cons_of_mem _ member), getReminder_put,
      if_neg different]

/-! ### Runs -/

/-- A reminder command, or any other action. -/
inductive ReminderAction
  | other (action : Action)
  | schedule (ctx : ReminderCtx) (input : ReminderScheduleInput)
  | cancel (ctx : ReminderCtx) (input : ReminderCancelInput)
  | tick (now : DateTime)

def ReminderAction.execute (action : ReminderAction) (tables : ReminderDb) : ReminderDb :=
  match action with
  | .other action => { tables with db := action.execute tables.db }
  | .schedule ctx input => (reminderSchedule ctx input tables).after
  | .cancel ctx input => (reminderCancel ctx input tables).after
  | .tick now => (remindersTick now tables).after

/-- Run actions one after the other. -/
def runReminders (tables : ReminderDb) (actions : List ReminderAction) : ReminderDb :=
  actions.foldl (fun tables action => action.execute tables) tables

/-- Invoices are not deleted. -/
theorem Action.keepsInvoice {id : InvoiceId} {db : Db} (stored : db.getInvoice id ≠ none)
    (action : Action) : (action.execute db).getInvoice id ≠ none := by
  refine Action.keeps (I := fun db => db.getInvoice id ≠ none) (P := fun _ _ => True) ?_ ?_ stored
    (action.each_of_forall (fun _ _ => trivial) db)
  · intro before after same stored
    unfold Db.getInvoice at stored ⊢
    rw [same.invoices]
    exact stored
  · intro db request stored _
    show ((Command.invoice request).execute db).2.getInvoice id ≠ none
    rcases (Command.invoice request).invoice_cases db with same | ⟨_, _, tx, _, _, _, committed⟩
    · unfold Db.getInvoice at stored ⊢
      rw [same.invoices]
      exact stored
    · rw [(InvoiceTx.commit_ok committed).1, InvoiceTx.getInvoice_apply]
      split
      · exact Option.some_ne_none _
      · exact stored

/-- **Every action keeps the reminder table sound.** -/
theorem ReminderAction.sound {tables : ReminderDb} (sound : tables.Sound)
    (action : ReminderAction) : (action.execute tables).Sound := by
  cases action with
  | other action =>
    exact ⟨sound.distinct, fun row member => action.keepsInvoice (sound.owned row member)⟩
  | schedule ctx input =>
    show (reminderSchedule ctx input tables).after.Sound
    rcases reminderSchedule_cases ctx input tables with ⟨_, same, _⟩ | ⟨_, same, stored, _⟩
    · rw [same]
      exact sound
    · rw [same]
      exact sound.put stored
  | cancel ctx input =>
    show (reminderCancel ctx input tables).after.Sound
    unfold reminderCancel
    cases tables.getReminder input.reminderId with
    | none => exact sound
    | some reminder =>
      dsimp only
      split
      · cases saved : tables.saveReminder { reminder with state := .cancelled } with
        | error e => exact sound
        | ok after =>
          obtain ⟨rfl, stored⟩ := saveReminder_ok saved
          exact sound.put stored
      · exact sound
  | tick now =>
    show (remindersTick now tables).after.Sound
    rw [remindersTick_eq sound]
    exact putSent_sound sound fun row member => sound.owned row (mem_dueReminders.mp member).1

theorem runReminders_sound {tables : ReminderDb} (sound : tables.Sound)
    (actions : List ReminderAction) : (runReminders tables actions).Sound := by
  induction actions generalizing tables with
  | nil => exact sound
  | cons action rest ih => exact ih (action.sound sound)

/-! ### Reminding by the transition table -/

/-- The stored invoice is in a state in which the table accepts a reminder. -/
def RemindAccepted (db : Db) (id : InvoiceId) : Prop :=
  ∃ inv next, db.getInvoice id = some inv ∧ nextState inv.state .remind = .ok next

/-- The tick saved the reminder as sent. -/
def MarkedSent (emission : Emission (List Reminder)) (reminder : Reminder) : Prop :=
  reminder.state ≠ .sent ∧ ∃ row, emission.after.getReminder reminder.id = some row ∧ row.state = .sent

/-- A tick over the stored tables publishes and marks only reminders of invoices the table lets remind. -/
def RemindsAccepted (texts : ColumnTexts) (order : OrderBy ReminderColumns.scheduledAt) (now : DateTime)
    (tables : ReminderDb) : Prop :=
  ∀ emission, storedTick texts order now tables = .ok emission → ∀ reminder ∈ tables.reminders,
    (remindedEvent now reminder ∈ emission.events ∨ MarkedSent emission reminder) →
      RemindAccepted tables.db reminder.invoiceId

/-- The invoice of every reminder whose time has come is sent. -/
def DueSent (now : DateTime) (tables : ReminderDb) : Prop :=
  ∀ reminder ∈ tables.reminders, reminder.state = .scheduled → reminder.scheduledAt ≤ now →
    ∃ inv, tables.db.getInvoice reminder.invoiceId = some inv ∧ inv.state = .sent

/-- Only a sent invoice may be reminded. -/
theorem nextState_remind {state next : InvoiceState} (accepted : nextState state .remind = .ok next) :
    state = .sent := by
  cases state <;> first | rfl | cases accepted

theorem remindAccepted_iff {db : Db} {id : InvoiceId} :
    RemindAccepted db id ↔ ∃ inv, db.getInvoice id = some inv ∧ inv.state = .sent := by
  constructor
  · rintro ⟨inv, next, stored, accepted⟩
    exact ⟨inv, stored, nextState_remind accepted⟩
  · rintro ⟨inv, stored, sent⟩
    exact ⟨inv, .sent, stored, by rw [sent]; rfl⟩

/-- The event names the reminder. -/
theorem remindedEvent_id {now : DateTime} {first second : Reminder}
    (same : remindedEvent now first = remindedEvent now second) : first.id = second.id := by
  have texts : first.id.text = second.id.text ∧ first.invoiceId.text = second.invoiceId.text ∧
      first.channel.text = second.channel.text := by
    have payloads := congrArg BusEvent.payload same
    simpa [remindedEvent, reminderSentEvent, sentReminder] using payloads
  exact EntityId.text_injective texts.1

/-- **A tick touches only the reminders it was given.** -/
theorem given_of_reminded {tables : ReminderDb} {now : DateTime} {reminder : Reminder} {due : List Reminder}
    {result : CoreResult (List Reminder)} (sound : tables.Sound) (given : ∀ row ∈ due, row ∈ tables.reminders)
    (member : reminder ∈ tables.reminders)
    (reminded : remindedEvent now reminder ∈ due.map (remindedEvent now) ∨
      MarkedSent ⟨result, putSent now due tables, due.map (remindedEvent now)⟩ reminder) :
    reminder ∈ due := by
  have byId : (∃ row ∈ due, reminder.id = row.id) → reminder ∈ due := by
    rintro ⟨row, there, sameId⟩
    rw [eq_of_key_eq sound.distinct member (given row there) sameId]
    exact there
  rcases reminded with published | ⟨notSent, row, stored, sent⟩
  · obtain ⟨row, there, same⟩ := List.mem_map.mp published
    exact byId ⟨row, there, (remindedEvent_id same).symm⟩
  · by_contra notGiven
    have other : ∀ row ∈ due, reminder.id ≠ row.id :=
      fun row there same => notGiven (byId ⟨row, there, same⟩)
    have stored : (putSent now due tables).getReminder reminder.id = some row := stored
    rw [getReminder_putSent other, ReminderDb.getReminder, find_of_mem sound.distinct member] at stored
    cases stored
    exact notSent sent

/-- On sound tables, a tick respects the transition table exactly if it fails, or the invoice of every
reminder that is due by its text is sent. -/
theorem remindsAccepted_iff {texts : ColumnTexts} (documented : texts.Documented)
    {order : OrderBy ReminderColumns.scheduledAt} {now : DateTime} {tables : ReminderDb}
    (sound : tables.Sound) :
    RemindsAccepted texts order now tables ↔ (DueRead now tables → ∀ reminder ∈ tables.dueReminders now,
      ∃ inv, tables.db.getInvoice reminder.invoiceId = some inv ∧ inv.state = .sent) := by
  constructor
  · intro accepted read reminder due
    obtain ⟨emission, done⟩ := (storedTick_isOk_iff documented).mpr read
    obtain ⟨given, members, rfl⟩ := storedTick_eq documented sound done
    refine remindAccepted_iff.mp (accepted _ done reminder (mem_dueReminders.mp due).1 (Or.inl ?_))
    exact List.mem_map_of_mem ((members reminder).mpr due)
  · intro allSent emission done reminder member reminded
    have read := (storedTick_isOk_iff documented).mp ⟨emission, done⟩
    obtain ⟨given, members, rfl⟩ := storedTick_eq documented sound done
    have there := given_of_reminded sound
      (fun row inside => (mem_dueReminders.mp ((members row).mp inside)).1) member reminded
    exact remindAccepted_iff.mpr (allSent read reminder ((members reminder).mp there))

/-- **When the due reminders are read back, they are those whose time has come.** A time outside the years
`0..9999` is due by its text, and then not read. -/
theorem due_iff_of_read {now : DateTime} {tables : ReminderDb} (inYears : now.FourDigitYear)
    (read : DueRead now tables) {reminder : Reminder} :
    reminder ∈ tables.dueReminders now ↔
      reminder ∈ tables.reminders ∧ reminder.state = .scheduled ∧ reminder.scheduledAt ≤ now := by
  have due := @mem_dueReminders tables now reminder
  constructor
  · intro there
    obtain ⟨stored, scheduled, text⟩ := due.mp there
    have fits := (yearsFit_cons.mp (read reminder there)).1
    exact ⟨stored, scheduled, (DateTime.text_le_iff fits inYears).mp text⟩
  · rintro ⟨stored, scheduled, time⟩
    refine due.mpr ⟨stored, scheduled, ?_⟩
    by_cases fits : reminder.scheduledAt.FourDigitYear
    · exact (DateTime.text_le_iff fits inYears).mpr time
    · exact le_of_lt (DateTime.text_lt_of_outside inYears fits)

/-- **A tick respects the transition table exactly if it cannot read a due reminder, or the invoice of
every due one is sent**, at any moment of any run of invoice and reminder commands. With a clock in the years
`0..9999` the due ones are those whose time has come. -/
theorem reminded_iff_sent {texts : ColumnTexts} (documented : texts.Documented)
    (order : OrderBy ReminderColumns.scheduledAt) (db : Db) (actions : List ReminderAction)
    (now : DateTime) :
    let tables := runReminders ⟨db, []⟩ actions
    (RemindsAccepted texts order now tables ↔ (DueRead now tables → ∀ reminder ∈ tables.dueReminders now,
      ∃ inv, tables.db.getInvoice reminder.invoiceId = some inv ∧ inv.state = .sent)) ∧
    (now.FourDigitYear →
      (RemindsAccepted texts order now tables ↔ (DueRead now tables → DueSent now tables))) := by
  intro tables
  have sound : tables.Sound := runReminders_sound (.empty db) actions
  have exactly := @remindsAccepted_iff texts documented order now tables sound
  refine ⟨exactly, fun inYears => exactly.trans (forall_congr' fun read => ?_)⟩
  constructor
  · intro allSent reminder stored scheduled time
    exact allSent reminder ((due_iff_of_read inYears read).mpr ⟨stored, scheduled, time⟩)
  · intro allSent reminder due
    obtain ⟨stored, scheduled, time⟩ := (due_iff_of_read inYears read).mp due
    exact allSent reminder stored scheduled time

/-- A reminder of the sample invoice on the second of March. -/
def sampleReminderInput : ReminderScheduleInput :=
  ⟨⟨1⟩, oneOClock secondOfMarch, .link, .cli "operator", .cli⟩

/-- The sample invoice is drafted, issued and sent, a reminder is scheduled, and the customer pays. -/
def remindAndPay : List ReminderAction :=
  [.other (.command (.invoice (.draft (sampleCtx (oneOClock firstOfMarch) 1) sampleDraft))),
    .other (.command (.invoice (.issue (sampleCtx (oneOClock firstOfMarch) 2) sampleIssue))),
    .other (.command (.invoice (.sendRender (sampleCtx (oneOClock firstOfMarch) 3)
      ⟨⟨1⟩, "link://", none, .cli "operator", .cli⟩))),
    .schedule ⟨oneOClock firstOfMarch, ⟨7⟩⟩ sampleReminderInput,
    .other (.command (.invoice (.markPaid (sampleCtx (oneOClock firstOfMarch) 4)
      (samplePayment 10000 fits_hundred))))]

/-- Rows of one time in the order they are stored in. -/
def inOrder : OrderBy ReminderColumns.scheduledAt := .stable _

/-- The tick of the second of March reminds the customer of a paid invoice. -/
theorem paid_and_reminded :
    let tables := runReminders ⟨sampleDb, []⟩ remindAndPay
    let reminder := newReminder ⟨oneOClock firstOfMarch, ⟨7⟩⟩ sampleReminderInput
    reminder ∈ tables.reminders ∧
      (∃ emission, storedTick plainTexts inOrder (oneOClock secondOfMarch) tables = .ok emission ∧
        remindedEvent (oneOClock secondOfMarch) reminder ∈ emission.events) ∧
      (tables.db.getInvoice reminder.invoiceId).map Invoice.state = some .paid ∧
      ¬ RemindAccepted tables.db reminder.invoiceId := by
  intro tables reminder
  have sound : tables.Sound := runReminders_sound (.empty sampleDb) remindAndPay
  have due : tables.dueReminders (oneOClock secondOfMarch) = [reminder] := by decide +kernel
  have paid : (tables.db.getInvoice reminder.invoiceId).map Invoice.state = some .paid := by
    decide +kernel
  refine ⟨?_, ?_, paid, ?_⟩
  · decide +kernel
  · have read : DueRead (oneOClock secondOfMarch) tables := by
      unfold DueRead
      rw [due]
      decide +kernel
    obtain ⟨emission, done⟩ := (storedTick_isOk_iff plainTexts_documented).mpr read
    refine ⟨emission, done, ?_⟩
    obtain ⟨given, members, rfl⟩ := storedTick_eq plainTexts_documented sound done
    refine List.mem_map_of_mem ((members reminder).mpr ?_)
    rw [due]
    exact List.mem_singleton_self _
  · intro accepted
    obtain ⟨inv, found, sent⟩ := remindAccepted_iff.mp accepted
    rw [found, Option.map_some, sent] at paid
    cases paid

/-- Before the payment the tick reminds the customer of the invoice that was sent. -/
theorem reminded_iff_sent_before_payment :
    let tables := runReminders ⟨sampleDb, []⟩ (remindAndPay.take 4)
    tables.dueReminders (oneOClock secondOfMarch) =
        [newReminder ⟨oneOClock firstOfMarch, ⟨7⟩⟩ sampleReminderInput] ∧
      RemindsAccepted plainTexts inOrder (oneOClock secondOfMarch) tables := by
  have exactly := reminded_iff_sent plainTexts_documented inOrder sampleDb (remindAndPay.take 4)
    (oneOClock secondOfMarch)
  refine ⟨by decide +kernel, (exactly.2 (by decide +kernel)).mpr fun _ reminder stored _ _ => ?_⟩
  have only : (runReminders ⟨sampleDb, []⟩ (remindAndPay.take 4)).reminders =
      [newReminder ⟨oneOClock firstOfMarch, ⟨7⟩⟩ sampleReminderInput] := by decide +kernel
  rw [only] at stored
  cases List.mem_singleton.mp stored
  have sent : ((runReminders ⟨sampleDb, []⟩ (remindAndPay.take 4)).db.getInvoice ⟨1⟩).map Invoice.state =
      some .sent := by decide +kernel
  exact Option.map_eq_some_iff.mp sent

end Invoicing
