/-
**The tables keep the books.**

* `Invoice.Shows`, `CreditNote.credit`, `Schedule.plan`, `Reminder.notice` — what a row says of its item;
  `ReminderDb.Shows` — the tables show the books.
* `Part.entries`, `Call.entries` — what is entered for a command, and for a call, as its answers tell.
* `Part.Ready` — a command draws an id nothing has, and its sums are exact. **`Part.kept`** — such a command
  enters only what the books allow, and leaves tables that show what they say then.
* **`books_kept`** — and so does every run of calls.
* **`nothing_undone`** — so no run of calls takes back what is paid, credited, settled, cancelled or sent.
-/

import Invoicing.Runs.Books
import Invoicing.Runs.Parts

namespace Invoicing

open Chrono (DateTime)
open KeyedTable Labelled Register

/-! ### What rows say -/

/-- How an invoice stands by its row. -/
def Standing.Of (inv : Invoice) : Standing → Prop
  | .draft => inv.state = .draft ∧ inv.amountPaid.value = 0
  | .due receivable =>
      ((inv.state = .issued ∨ inv.state = .sent ∨ inv.state = .viewed) ∧ receivable.received = 0 ∨
        inv.state = .partiallyPaid ∧ 0 < receivable.received) ∧
      inv.total.value = receivable.total ∧ inv.amountPaid.value = receivable.received
  | .settled settlement => inv.state = .paid ∧ inv.total.value = settlement.total ∧
      inv.amountPaid.value = settlement.received
  | .cancelled receivable => inv.state = .voided ∧ inv.total.value = receivable.total ∧
      inv.amountPaid.value = receivable.received

/-- The row is of the account. -/
structure Invoice.Shows (inv : Invoice) (account : Account) : Prop where
  customer : account.customer = inv.customerId
  currency : account.currency = inv.currency
  standing : account.standing.Of inv

def CreditNote.credit (note : CreditNote) : Credit :=
  ⟨note.invoiceId, note.currency, note.amount.value, decide (note.state = .issued)⟩

def Schedule.plan (schedule : Schedule) : Plan :=
  ⟨schedule.customerId, schedule.cadence, schedule.endDate, schedule.nextRun, schedule.state⟩

def Reminder.notice (reminder : Reminder) : Notice := ⟨reminder.invoiceId, reminder.state⟩

/-- **The tables show the books.** -/
structure ReminderDb.Shows (tables : ReminderDb) (books : Books) : Prop where
  unique : tables.RowsUnique
  accounts : Register.Shows Invoice.id Invoice.Shows tables.db.invoices books.accounts
  credits : Register.Shows CreditNote.id (fun note credit => note.credit = credit)
    tables.db.creditNotes books.credits
  plans : Register.Shows Schedule.id (fun schedule plan => schedule.plan = plan)
    tables.db.schedules books.plans
  notices : Register.Shows Reminder.id (fun reminder notice => reminder.notice = notice)
    tables.reminders books.notices

/-! ### Entries -/

/-- What is entered for an answer; nothing for an error. -/
def booked {α : Type} (result : CoreResult α) (entries : α → List Entry) : List Entry :=
  match result with
  | .error _ => []
  | .ok output => entries output

def Request.entries (db : Db) : Request → List Entry
  | .draft ctx input => booked (draftInvoice ctx input db).1 fun output =>
      if output.idempotencyReplay then []
      else [.draft output.invoice.id output.invoice.customerId output.invoice.currency]
  | .issue ctx input => booked (issueInvoice ctx input db).1 fun output =>
      [.bill output.invoice.id output.invoice.total.value]
  | .markPaid ctx input => booked (Invoicing.markPaid ctx input db).1 fun _ =>
      [.receive input.invoiceId input.amount.value]
  | .void ctx input => booked (voidInvoice ctx input db).1 fun _ => [.cancel input.invoiceId]
  | .send _ _ | .sendRender _ _ | .view _ _ => []

/-- **What is entered for a command.** -/
def Part.entries (tables : ReminderDb) : Part → List Entry
  | .invoice request => request.entries tables.db
  | .createCreditNote ctx input => booked (Invoicing.createCreditNote ctx input tables.db).1 fun output =>
      [.credit output.creditNote.id output.creditNote.invoiceId output.creditNote.amount.value]
  | .issueCreditNote ctx input => booked (Invoicing.issueCreditNote ctx input tables.db).1 fun output =>
      [.grant output.creditNote.id]
  | .createSchedule ctx input => booked (scheduleCreate ctx input tables.db).1 fun output =>
      [.plan output.schedule.id output.schedule.customerId output.schedule.cadence output.schedule.startDate
        output.schedule.endDate]
  | .pauseSchedule ctx input => booked (schedulePause ctx input tables.db).1 fun output =>
      [.suspend output.schedule.id]
  | .cancelSchedule ctx input => booked (scheduleCancel ctx input tables.db).1 fun output =>
      [.close output.schedule.id]
  | .advanceSchedule ctx schedule => booked (advanceStep ctx schedule tables.db).1 fun _ => [.run schedule.id]
  | .scheduleReminder ctx input => booked (reminderSchedule ctx input tables).result fun reminder =>
      [.remind reminder.id reminder.invoiceId]
  | .cancelReminder ctx input => booked (reminderCancel ctx input tables).result fun reminder =>
      [.drop reminder.id]
  | .sendReminder now reminder =>
      match tables.saveReminder (sentReminder reminder now) with
      | .error _ => []
      | .ok _ => [.deliver reminder.id]

/-- What is entered for a call: what is entered for its commands. -/
def Call.entries (tables : ReminderDb) (call : Call) : List Entry :=
  journal Part.step Part.entries tables (call.parts tables)

/-! ### One row -/

/-- A command draws an id that nothing has, and its sums are exact. -/
def Part.Ready (tables : ReminderDb) : Part → Prop
  | .invoice (.draft ctx _) => tables.db.getInvoice ctx.newInvoiceId = none
  | .invoice (.markPaid ctx _) => ctx.arith.ExactAdd
  | .createCreditNote ctx _ => tables.db.getCreditNote ctx.newCreditNoteId = none
  | .createSchedule ctx _ => tables.db.getSchedule ctx.newScheduleId = none
  | .scheduleReminder ctx _ => tables.getReminder ctx.newReminderId = none
  | _ => True

/-- The date of creation says nothing of the account. -/
theorem Invoice.Shows.merged {inv : Invoice} {account : Account} (row : inv.Shows account)
    (old : Option Invoice) : (KeyedTable.merged Invoice.mergeRow old inv).Shows account := by
  cases old with
  | none => exact row
  | some old => exact ⟨row.customer, row.currency, by cases standing : account.standing <;>
      exact standing ▸ row.standing⟩

theorem CreditNote.credit_merged (old : Option CreditNote) (note : CreditNote) :
    (KeyedTable.merged CreditNote.mergeRow old note).credit = note.credit := by
  cases old <;> rfl

theorem Schedule.plan_merged (old : Option Schedule) (schedule : Schedule) :
    (KeyedTable.merged Schedule.mergeRow old schedule).plan = schedule.plan := by
  cases old <;> rfl

theorem Reminder.notice_merged (old : Option Reminder) (reminder : Reminder) :
    (KeyedTable.merged (fun _ row => row) old reminder).notice = reminder.notice := by
  cases old <;> rfl

namespace ReminderDb.Shows

variable {tables : ReminderDb} {books : Books} (shows : tables.Shows books)

include shows

/-- A transaction whose row shows the entered account. -/
theorem invoice {tx : InvoiceTx} {entry : Entry} {change : Option Account → Option Account} {account : Account}
    (enters : books.enter entry = books.onAccount tx.invoice.id change)
    (changed : change (books.accounts tx.invoice.id) = some account) (row : tx.invoice.Shows account) :
    ∃ after, run Books.enter books [entry] = some after ∧
      ReminderDb.Shows { tables with db := tx.apply tables.db } after := by
  obtain ⟨accounts, altered, shown⟩ := shows.accounts.upsert Invoice.keepsKey changed (row.merged _)
  refine ⟨{ books with accounts := accounts }, ?_, ⟨shows.unique.schedules, shows.unique.reminders⟩, shown,
    shows.credits, shows.plans, shows.notices⟩
  rw [run_singleton, enters, Books.onAccount, altered]
  rfl

/-- A transaction whose row shows the account that is there. -/
theorem invoice_same {tx : InvoiceTx} {account : Account} (there : books.accounts tx.invoice.id = some account)
    (row : tx.invoice.Shows account) : ReminderDb.Shows { tables with db := tx.apply tables.db } books :=
  ⟨⟨shows.unique.schedules, shows.unique.reminders⟩,
    shows.accounts.upsert_same Invoice.keepsKey there (row.merged _), shows.credits, shows.plans,
    shows.notices⟩

theorem credit {tx : CreditTx} {entry : Entry} {change : Option Credit → Option Credit}
    (enters : books.enter entry = books.onCredit tx.note.id change)
    (changed : change (books.credits tx.note.id) = some tx.note.credit) :
    ∃ after, run Books.enter books [entry] = some after ∧
      ReminderDb.Shows { tables with db := tx.apply tables.db } after := by
  obtain ⟨credits, altered, shown⟩ := shows.credits.upsert CreditNote.keepsKey changed
    (CreditNote.credit_merged _ tx.note)
  refine ⟨{ books with credits := credits }, ?_, ⟨shows.unique.schedules, shows.unique.reminders⟩,
    shows.accounts, shown, shows.plans, shows.notices⟩
  rw [run_singleton, enters, Books.onCredit, altered]
  rfl

theorem plan {schedule : Schedule} {entry : Entry} {change : Option Plan → Option Plan}
    (enters : books.enter entry = books.onPlan schedule.id change)
    (changed : change (books.plans schedule.id) = some schedule.plan) :
    ∃ after, run Books.enter books [entry] = some after ∧
      ReminderDb.Shows { tables with db := tables.db.putSchedule schedule } after := by
  obtain ⟨plans, altered, shown⟩ :=
    shows.plans.upsert Schedule.keepsKey changed (Schedule.plan_merged _ schedule)
  refine ⟨{ books with plans := plans }, ?_,
    ⟨distinct_upsert Schedule.keepsKey schedule shows.unique.schedules, shows.unique.reminders⟩,
    shows.accounts, shows.credits, shown, shows.notices⟩
  rw [run_singleton, enters, Books.onPlan, altered]
  rfl

theorem notice (reminder : Reminder) {entry : Entry} {change : Option Notice → Option Notice}
    (enters : books.enter entry = books.onNotice reminder.id change)
    (changed : change (books.notices reminder.id) = some reminder.notice) :
    ∃ after, run Books.enter books [entry] = some after ∧
      (tables.putReminder reminder).Shows after := by
  obtain ⟨notices, altered, shown⟩ := shows.notices.upsert Reminder.keepsKey changed
    (Reminder.notice_merged _ reminder)
  refine ⟨{ books with notices := notices }, ?_,
    ⟨shows.unique.schedules, distinct_upsert Reminder.keepsKey reminder shows.unique.reminders⟩,
    shows.accounts, shows.credits, shows.plans, shown⟩
  rw [run_singleton, enters, Books.onNotice, altered]
  rfl

end ReminderDb.Shows

/-! ### Invoice commands -/

/-- Nothing is entered. -/
theorem kept_same {tables : ReminderDb} {books : Books} (shows : tables.Shows books) :
    ∃ after, run Books.enter books [] = some after ∧ tables.Shows after := ⟨books, rfl, shows⟩

/-- A command that is prepared enters what its answer says. -/
theorem perform_kept {α : Type} {prepared : CoreResult (Prepared α)} {entries : α → List Entry}
    {tables : ReminderDb} {books : Books} (shows : tables.Shows books)
    (answers : ∀ output, prepared = .ok (.answer output) → entries output = [])
    (writes : ∀ loaded tx output, prepared = .ok (.write loaded tx output) →
      ∃ after, run Books.enter books (entries output) = some after ∧
        ReminderDb.Shows { tables with db := tx.apply tables.db } after) :
    ∃ after, run Books.enter books (booked (perform prepared tables.db).1 entries) = some after ∧
      ReminderDb.Shows { tables with db := (perform prepared tables.db).2 } after := by
  cases done : (perform prepared tables.db).1 with
  | error stop =>
    rw [perform_error done]
    exact kept_same shows
  | ok output =>
    show ∃ after, run Books.enter books (entries output) = some after ∧ _
    rcases perform_ok done with ⟨answer, same⟩ | ⟨loaded, tx, write, committed⟩
    · rw [same, answers output answer]
      exact kept_same shows
    · rw [(InvoiceTx.commit_ok committed).1]
      exact writes loaded tx output write

/-- A stored invoice has an account. -/
theorem ReminderDb.Shows.account {tables : ReminderDb} {books : Books} (shows : tables.Shows books)
    {id : InvoiceId} {inv : Invoice} (found : tables.db.getInvoice id = some inv) :
    ∃ account, books.accounts inv.id = some account ∧ inv.Shows account := by
  rw [getInvoice_id found]
  exact shows.accounts.item found

/-- The account of a draft. -/
theorem Invoice.Shows.ofDraft {inv : Invoice} {account : Account} (row : inv.Shows account)
    (draft : inv.state = .draft) :
    account = ⟨inv.customerId, inv.currency, .draft⟩ ∧ inv.amountPaid.value = 0 := by
  obtain ⟨customer, currency, standing⟩ := account
  obtain ⟨rfl, rfl, stands⟩ := row
  cases standing with
  | draft => exact ⟨rfl, stands.2⟩
  | due receivable =>
    rw [Standing.Of, draft] at stands
    rcases stands.1 with ⟨other | other | other, _⟩ | ⟨other, _⟩ <;> cases other
  | settled settlement =>
    rw [Standing.Of, draft] at stands
    cases stands.1
  | cancelled receivable =>
    rw [Standing.Of, draft] at stands
    cases stands.1

/-- The account of an issued invoice that is neither paid nor voided. -/
theorem Invoice.Shows.ofOpen {inv : Invoice} {account : Account} (row : inv.Shows account)
    (issued : inv.state ≠ .draft) (opened : ¬ inv.state.Terminal) :
    ∃ receivable, account = ⟨inv.customerId, inv.currency, .due receivable⟩ ∧
      (Standing.due receivable).Of inv := by
  obtain ⟨customer, currency, standing⟩ := account
  obtain ⟨rfl, rfl, stands⟩ := row
  cases standing with
  | draft => exact absurd stands.1 issued
  | due receivable => exact ⟨receivable, rfl, stands⟩
  | settled settlement => exact absurd (Or.inl stands.1) opened
  | cancelled receivable => exact absurd (Or.inr stands.1) opened

/-- Nothing is accepted in a terminal state. -/
theorem nextState_open {current next : InvoiceState} {event : InvoiceEvent}
    (accepted : nextState current event = .ok next) : ¬ current.Terminal := by
  intro terminal
  rw [nextState_terminal terminal event] at accepted
  cases accepted

/-- **A payment is what the books say of it.** -/
theorem payTx_shows {ctx : CoreCtx} {input : MarkPaidInput} {inv : Invoice} {amountPaid : Decimal}
    {toState : InvoiceState} {receivable : Receivable} (exact' : ctx.arith.ExactAdd)
    (stands : (Standing.due receivable).Of inv) (positive : 0 < input.amount.value)
    (summed : ctx.arith.add inv.amountPaid input.amount = some amountPaid)
    (accepted : nextState inv.state (.pay amountPaid inv.total) = .ok toState) :
    (payTx ctx input inv amountPaid toState).invoice.Shows
      ⟨inv.customerId, inv.currency, receivable.receive input.amount.value positive⟩ := by
  obtain ⟨_, total, received⟩ := stands
  have sum : amountPaid.value = receivable.received + input.amount.value := by
    rw [exact' _ _ _ summed, received]
  have some : 0 < receivable.received + input.amount.value :=
    add_pos_of_nonneg_of_pos receivable.nonneg positive
  have notZero : ¬ amountPaid ≤ Decimal.zero := nextState_pay_positive accepted
  refine ⟨rfl, rfl, ?_⟩
  show (receivable.receive input.amount.value positive).Of _
  rcases (nextState_pay accepted).2 with ⟨⟨_, full⟩, rfl⟩ | ⟨part, rfl⟩
  · have covered : receivable.total ≤ receivable.received + input.amount.value := by
      rw [← total, ← sum]
      exact Decimal.le_iff.mp full
    rw [Receivable.receive, dif_pos covered]
    exact ⟨rfl, total, sum⟩
  · have uncovered : ¬ receivable.total ≤ receivable.received + input.amount.value := by
      rw [← total, ← sum]
      exact fun full => part ⟨notZero, Decimal.le_iff.mpr full⟩
    rw [Receivable.receive, dif_neg uncovered]
    exact ⟨Or.inr ⟨rfl, some⟩, total, sum⟩

section Invoices

variable {tables : ReminderDb} {books : Books} (shows : tables.Shows books)

include shows

theorem draft_kept {ctx : CoreCtx} (input : DraftInvoiceInput)
    (new : tables.db.getInvoice ctx.newInvoiceId = none) :
    ∃ after, run Books.enter books (Request.entries tables.db (.draft ctx input)) = some after ∧
      ReminderDb.Shows { tables with db := (draftInvoice ctx input tables.db).2 } after := by
  refine perform_kept shows (fun output answer => ?_) fun loaded tx output write => ?_
  · obtain ⟨_, existing, _, rfl⟩ := prepareDraft_answer answer
    rfl
  · obtain ⟨_, _, lines, subtotal, _, _, rfl, rfl⟩ := prepareDraft_write write
    have opened : Account.opened input.customerId input.currency (books.accounts ctx.newInvoiceId) =
        some ⟨input.customerId, input.currency, .draft⟩ := by
      rw [shows.accounts.absent new]
      rfl
    have row : (draftTx ctx input lines subtotal).invoice.Shows ⟨input.customerId, input.currency, .draft⟩ :=
      ⟨rfl, rfl, rfl, Decimal.value_zero⟩
    exact shows.invoice rfl opened row

theorem issue_kept {ctx : CoreCtx} (input : IssueInvoiceInput) :
    ∃ after, run Books.enter books (Request.entries tables.db (.issue ctx input)) = some after ∧
      ReminderDb.Shows { tables with db := (issueInvoice ctx input tables.db).2 } after := by
  refine perform_kept shows (fun output answer => ?_) fun loaded tx output write => ?_
  · obtain ⟨ready, _, finished⟩ := bind_ok answer
    obtain ⟨_, _, _, same⟩ := finishIssue_write finished
    cases same
  · obtain ⟨ready, done, finished⟩ := bind_ok write
    obtain ⟨blobRef, html, pdf, same⟩ := finishIssue_write finished
    cases same
    obtain ⟨found, draft, toState, _, _⟩ := prepareIssue_ok done
    obtain ⟨account, there, row⟩ := shows.account found
    obtain ⟨rfl, unpaid⟩ := row.ofDraft draft
    have billed : Account.billed ready.total.value (books.accounts ready.loaded.id) =
        some ⟨ready.loaded.customerId, ready.loaded.currency, .due (.ofTotal ready.total.value)⟩ := by
      rw [there]
      rfl
    exact shows.invoice rfl billed ⟨rfl, rfl, Or.inl ⟨Or.inl rfl, rfl⟩, rfl, unpaid⟩

theorem pay_kept {ctx : CoreCtx} (input : MarkPaidInput) (exact' : ctx.arith.ExactAdd) :
    ∃ after, run Books.enter books (Request.entries tables.db (.markPaid ctx input)) = some after ∧
      ReminderDb.Shows { tables with db := (markPaid ctx input tables.db).2 } after := by
  refine perform_kept shows (fun output answer => ?_) fun loaded tx output write => ?_
  · obtain ⟨_, _, _, _, _, _, _, same⟩ := prepareMarkPaid_ok answer
    cases same
  · obtain ⟨amount, inv, amountPaid, toState, found, summed, accepted, same⟩ := prepareMarkPaid_ok write
    cases same
    have positive : 0 < input.amount.value := Decimal.zero_lt_iff.mp (Decimal.not_le_zero.mp amount)
    obtain ⟨account, there, row⟩ := shows.account found
    obtain ⟨receivable, rfl, stands⟩ := row.ofOpen (nextState_pay accepted).1 (nextState_open accepted)
    have paid : Account.paid input.amount.value (books.accounts inv.id) =
        some ⟨inv.customerId, inv.currency, receivable.receive input.amount.value positive⟩ := by
      rw [there]
      exact dif_pos positive
    have target : inv.id = input.invoiceId := getInvoice_id found
    refine shows.invoice ?_ paid (payTx_shows exact' stands positive summed accepted)
    rw [← target]
    rfl

theorem void_kept {ctx : CoreCtx} (input : VoidInvoiceInput) :
    ∃ after, run Books.enter books (Request.entries tables.db (.void ctx input)) = some after ∧
      ReminderDb.Shows { tables with db := (voidInvoice ctx input tables.db).2 } after := by
  refine perform_kept shows (fun output answer => ?_) fun loaded tx output write => ?_
  · obtain ⟨_, _, _, _, same⟩ := prepareVoid_ok answer
    cases same
  · obtain ⟨inv, toState, found, accepted, same⟩ := prepareVoid_ok write
    cases same
    obtain ⟨notDraft, rfl⟩ := nextState_void accepted
    obtain ⟨account, there, row⟩ := shows.account found
    obtain ⟨receivable, rfl, stands⟩ := row.ofOpen notDraft (nextState_open accepted)
    have called : Account.called (books.accounts inv.id) =
        some ⟨inv.customerId, inv.currency, .cancelled receivable⟩ := by
      rw [there]
      rfl
    have target : inv.id = input.invoiceId := getInvoice_id found
    refine shows.invoice ?_ called ⟨rfl, rfl, rfl, stands.2⟩
    rw [← target]
    rfl

/-- A send or a view leaves the account as it is. -/
theorem unpaid_kept {tx : InvoiceTx} {inv : Invoice} (found : tables.db.getInvoice inv.id = some inv)
    (unpaid : inv.state = .issued ∨ inv.state = .sent)
    (moved : tx.invoice.state = .sent ∨ tx.invoice.state = .viewed)
    (same : tx.invoice.id = inv.id ∧ tx.invoice.customerId = inv.customerId ∧
      tx.invoice.currency = inv.currency ∧ tx.invoice.total = inv.total ∧
      tx.invoice.amountPaid = inv.amountPaid) :
    ReminderDb.Shows { tables with db := tx.apply tables.db } books := by
  obtain ⟨id, customer, currency, total, paid⟩ := same
  obtain ⟨account, there, row⟩ := shows.account found
  obtain ⟨receivable, rfl, states, asked, received⟩ := row.ofOpen
    (by rcases unpaid with state | state <;> rw [state] <;> decide)
    (by rcases unpaid with state | state <;> rw [state] <;> decide)
  have none : receivable.received = 0 := by
    rcases states with ⟨_, none⟩ | ⟨partly, _⟩
    · exact none
    · rcases unpaid with state | state <;> rw [state] at partly <;> cases partly
  have stands : (Standing.due receivable).Of tx.invoice :=
    ⟨Or.inl ⟨Or.inr moved, none⟩, by rw [total, asked], by rw [paid, received]⟩
  rw [← id] at there
  exact shows.invoice_same there ⟨customer.symm, currency.symm, stands⟩

/-- **An invoice command enters what its answer says.** -/
theorem request_kept (request : Request) (ready : (Part.invoice request).Ready tables) :
    ∃ after, run Books.enter books (request.entries tables.db) = some after ∧
      ReminderDb.Shows { tables with db := (request.execute tables.db).2 } after := by
  have unpaid : request.entries tables.db = [] → (∀ loaded tx, Edit request loaded tx →
      (∀ inv, loaded = some inv → tables.db.getInvoice inv.id = some inv) →
      ReminderDb.Shows { tables with db := tx.apply tables.db } books) →
      ∃ after, run Books.enter books (request.entries tables.db) = some after ∧
        ReminderDb.Shows { tables with db := (request.execute tables.db).2 } after := by
    intro nothing writes
    refine ⟨books, by rw [nothing]; rfl, ?_⟩
    cases request.executed tables.db with
    | failed stop same _ =>
      rw [same]
      exact shows
    | answered reply _ same =>
      rw [same]
      exact shows
    | committed loaded tx reply edit stored counted same =>
      rw [same, commitOutcome]
      cases committed : tx.commit tables.db with
      | error e => exact shows
      | ok after =>
        rw [(InvoiceTx.commit_ok committed).1]
        exact writes loaded tx edit stored
  cases request with
  | draft ctx input => exact draft_kept shows input ready
  | issue ctx input => exact issue_kept shows input
  | markPaid ctx input => exact pay_kept shows input ready
  | void ctx input => exact void_kept shows input
  | send ctx input =>
    refine unpaid rfl fun loaded tx edit stored => ?_
    cases edit with
    | send target open' =>
      exact unpaid_kept shows (stored _ rfl) open' (Or.inl rfl) ⟨rfl, rfl, rfl, rfl, rfl⟩
  | sendRender ctx input =>
    refine unpaid rfl fun loaded tx edit stored => ?_
    cases edit with
    | sendRender target open' =>
      exact unpaid_kept shows (stored _ rfl) open' (Or.inl rfl) ⟨rfl, rfl, rfl, rfl, rfl⟩
  | view state token =>
    refine unpaid rfl fun loaded tx edit stored => ?_
    cases edit with
    | view verified sent =>
      exact unpaid_kept shows (stored _ rfl) (Or.inr sent) (Or.inr rfl) ⟨rfl, rfl, rfl, rfl, rfl⟩

end Invoices

/-! ### The other commands -/

section Others

variable {tables : ReminderDb} {books : Books} (shows : tables.Shows books)

include shows

theorem creditCreated_kept {ctx : CoreCtx} (input : CreateCreditNoteInput)
    (new : tables.db.getCreditNote ctx.newCreditNoteId = none) :
    ∃ after, run Books.enter books ((Part.createCreditNote ctx input).entries tables) = some after ∧
      ReminderDb.Shows { tables with db := (createCreditNote ctx input tables.db).2 } after := by
  show ∃ after, run Books.enter books (booked (createCreditNote ctx input tables.db).1 _) = some after ∧ _
  unfold createCreditNote
  rcases performCredit_cases CreateCreditNoteOutput.mk (prepareCreateCreditNote ctx input tables.db)
    tables.db with ⟨same, stop, failed⟩ | ⟨tx, prepared, done⟩
  · rw [same, failed]
    exact kept_same shows
  · obtain ⟨inv, found, rfl⟩ := prepareCreateCreditNote_ok prepared
    obtain ⟨account, there, row⟩ := shows.account found
    rw [done]
    have opened : Credit.opened (books.accounts input.invoiceId) input.invoiceId
        (draftNote ctx input inv).amount.value (books.credits ctx.newCreditNoteId) =
        some (draftNote ctx input inv).credit := by
      rw [← getInvoice_id found, there, shows.credits.absent new, getInvoice_id found]
      exact congrArg (fun currency => some (Credit.mk input.invoiceId currency _ false)) row.currency
    exact shows.credit rfl opened

theorem creditIssued_kept {ctx : CoreCtx} (input : IssueCreditNoteInput) :
    ∃ after, run Books.enter books ((Part.issueCreditNote ctx input).entries tables) = some after ∧
      ReminderDb.Shows { tables with db := (issueCreditNote ctx input tables.db).2 } after := by
  show ∃ after, run Books.enter books (booked (issueCreditNote ctx input tables.db).1 _) = some after ∧ _
  unfold issueCreditNote
  rcases performCredit_cases IssueCreditNoteOutput.mk (prepareIssueCreditNote ctx input tables.db)
    tables.db with ⟨same, stop, failed⟩ | ⟨tx, prepared, done⟩
  · rw [same, failed]
    exact kept_same shows
  · obtain ⟨note, found, draft, rfl⟩ := prepareIssueCreditNote_ok prepared
    obtain ⟨credit, there, rfl⟩ := shows.credits.item found
    rw [done]
    have own : note.id = input.creditNoteId := key_of_find found
    have granted : Credit.grant (books.credits note.id) = some (issuedNote ctx note .issued
        (countCreditNotesIssuedInYear tables.db ctx.now.year)).credit := by
      rw [own, there, CreditNote.credit, draft]
      rfl
    exact shows.credit rfl granted

/-- A schedule row is saved, or the command fails and nothing is. -/
theorem saveRow_kept {α : Type} {schedule : Schedule} {output : α} {entries : α → List Entry} {entry : Entry}
    {change : Option Plan → Option Plan} (one : entries output = [entry])
    (enters : books.enter entry = books.onPlan schedule.id change)
    (changed : change (books.plans schedule.id) = some schedule.plan) :
    ∃ after, run Books.enter books (booked (saveRow schedule output tables.db).1 entries) = some after ∧
      ReminderDb.Shows { tables with db := (saveRow schedule output tables.db).2 } after := by
  unfold saveRow
  cases saved : tables.db.saveSchedule schedule with
  | error e => exact kept_same shows
  | ok after =>
    obtain rfl := Db.saveSchedule_ok saved
    show ∃ after, run Books.enter books (entries output) = some after ∧ _
    rw [one]
    exact shows.plan enters changed

theorem scheduleCreated_kept {ctx : CoreCtx} (input : ScheduleCreateInput)
    (new : tables.db.getSchedule ctx.newScheduleId = none) :
    ∃ after, run Books.enter books ((Part.createSchedule ctx input).entries tables) = some after ∧
      ReminderDb.Shows { tables with db := (scheduleCreate ctx input tables.db).2 } after := by
  show ∃ after, run Books.enter books (booked (scheduleCreate ctx input tables.db).1 _) = some after ∧ _
  unfold scheduleCreate
  cases input.validate with
  | error stop => exact kept_same shows
  | ok _ =>
    have opened : Plan.opened input.customerId input.cadence input.startDate input.endDate
        (books.plans ctx.newScheduleId) = some (newSchedule ctx input).plan := by
      rw [shows.plans.absent new]
      rfl
    exact saveRow_kept shows rfl rfl opened

/-- A schedule is moved to a state, or the command fails. -/
theorem transition_kept {ctx : CoreCtx} {input : ScheduleStateChangeInput} {toState : ScheduleState}
    (entry : ScheduleId → Entry) {change : Option Plan → Option Plan}
    (enters : ∀ id, books.enter (entry id) = books.onPlan id change)
    (changed : ∀ schedule : Schedule, ¬ (schedule.state = .cancelled ∧ toState ≠ .cancelled) →
      change (some schedule.plan) = some { schedule.plan with state := toState }) :
    ∃ after, run Books.enter books (booked (transitionSchedule ctx input toState tables.db).1
        fun output => [entry output.schedule.id]) = some after ∧
      ReminderDb.Shows { tables with db := (transitionSchedule ctx input toState tables.db).2 } after := by
  unfold transitionSchedule
  cases prepared : prepareTransition ctx input toState tables.db with
  | error stop => exact kept_same shows
  | ok moved =>
    obtain ⟨schedule, found, rest⟩ := bind_ok prepared
    split at rest
    · cases rest
    · rename_i allowed
      cases rest
      have stored := orNotFound_ok found
      obtain ⟨plan, there, rfl⟩ := shows.plans.item stored
      have own : schedule.id = input.scheduleId := key_of_find stored
      refine saveRow_kept shows rfl (enters schedule.id) ?_
      rw [own, there]
      exact changed schedule allowed

theorem schedulePaused_kept {ctx : CoreCtx} (input : ScheduleStateChangeInput) :
    ∃ after, run Books.enter books ((Part.pauseSchedule ctx input).entries tables) = some after ∧
      ReminderDb.Shows { tables with db := (schedulePause ctx input tables.db).2 } after := by
  refine transition_kept shows Entry.suspend (fun _ => rfl) fun schedule allowed => if_neg ?_
  exact fun cancelled => allowed ⟨cancelled, ScheduleState.noConfusion⟩

theorem scheduleCancelled_kept {ctx : CoreCtx} (input : ScheduleStateChangeInput) :
    ∃ after, run Books.enter books ((Part.cancelSchedule ctx input).entries tables) = some after ∧
      ReminderDb.Shows { tables with db := (scheduleCancel ctx input tables.db).2 } after :=
  transition_kept shows Entry.close (fun _ => rfl) fun _ _ => rfl

/-- A tick goes on from the date the plan says. -/
theorem advanced_kept {ctx : TickCtx} {schedule : Schedule}
    (current : (Part.advanceSchedule ctx schedule).Current tables) :
    ∃ after, run Books.enter books ((Part.advanceSchedule ctx schedule).entries tables) = some after ∧
      ReminderDb.Shows { tables with db := (advanceStep ctx schedule tables.db).2 } after := by
  obtain ⟨stored, active⟩ := current
  obtain ⟨plan, there, rfl⟩ := shows.plans.item stored
  show ∃ after, run Books.enter books (booked (advanceStep ctx schedule tables.db).1 _) = some after ∧ _
  unfold advanceStep
  cases advanced : schedule.cadence.advance schedule.nextRun with
  | none => exact kept_same shows
  | some next =>
    refine saveRow_kept shows rfl rfl ?_
    have ran : Plan.ran (some schedule.plan) = some (schedule.advanced next ctx.now).plan := by
      rw [Plan.ran, if_pos (show schedule.plan.state = .active from active)]
      show (schedule.cadence.advance schedule.nextRun).map _ = _
      rw [advanced, Schedule.plan, Schedule.advanced, active]
      rfl
    exact there ▸ ran

theorem reminderScheduled_kept {ctx : ReminderCtx} (input : ReminderScheduleInput)
    (new : tables.getReminder ctx.newReminderId = none) :
    ∃ after, run Books.enter books ((Part.scheduleReminder ctx input).entries tables) = some after ∧
      (reminderSchedule ctx input tables).after.Shows after := by
  show ∃ after, run Books.enter books (booked (reminderSchedule ctx input tables).result _) = some after ∧ _
  rcases reminderSchedule_cases ctx input tables with ⟨⟨stop, failed⟩, same, _⟩ | ⟨done, same, stored, _⟩
  · rw [failed, same]
    exact kept_same shows
  · obtain ⟨inv, found⟩ := Option.ne_none_iff_exists'.mp stored
    obtain ⟨account, there, _⟩ := shows.account found
    rw [done, same]
    have opened : Notice.opened (books.accounts input.invoiceId) input.invoiceId
        (books.notices ctx.newReminderId) = some (newReminder ctx input).notice := by
      rw [← getInvoice_id found, there, shows.notices.absent new, getInvoice_id found]
      rfl
    exact shows.notice (newReminder ctx input) rfl opened

theorem reminderCancelled_kept {ctx : ReminderCtx} (input : ReminderCancelInput) :
    ∃ after, run Books.enter books ((Part.cancelReminder ctx input).entries tables) = some after ∧
      (reminderCancel ctx input tables).after.Shows after := by
  show ∃ after, run Books.enter books (booked (reminderCancel ctx input tables).result _) = some after ∧ _
  unfold reminderCancel
  cases found : tables.getReminder input.reminderId with
  | none => exact kept_same shows
  | some reminder =>
    obtain ⟨notice, there, rfl⟩ := shows.notices.item found
    have own : reminder.id = input.reminderId := key_of_find found
    rw [← own] at there
    dsimp only
    by_cases scheduled : reminder.state = .scheduled
    · rw [if_pos scheduled]
      cases saved : tables.saveReminder { reminder with state := .cancelled } with
      | error e => exact kept_same shows
      | ok after =>
        obtain ⟨rfl, _⟩ := saveReminder_ok saved
        have dropped : Notice.dropped (books.notices reminder.id) =
            some (Reminder.notice { reminder with state := .cancelled }) := by
          rw [there, Reminder.notice, scheduled]
          rfl
        exact shows.notice { reminder with state := .cancelled } rfl dropped
    · rw [if_neg scheduled]
      -- a reminder that went out or was cancelled is dropped again to no effect
      have dropped : Notice.dropped (some reminder.notice) = some reminder.notice := by
        rw [Reminder.notice]
        cases state : reminder.state with
        | scheduled => exact absurd state scheduled
        | sent => rfl
        | cancelled => rfl
      refine ⟨books, ?_, shows⟩
      show run Books.enter books [.drop reminder.id] = some books
      rw [run_singleton, Books.enter, Books.onNotice, alter, there, dropped, Option.map_some, ← there,
        Function.update_eq_self]
      rfl

/-- A tick sends what is still scheduled. -/
theorem sent_kept {now : DateTime} {reminder : Reminder}
    (current : (Part.sendReminder now reminder).Current tables) :
    ∃ after, run Books.enter books ((Part.sendReminder now reminder).entries tables) = some after ∧
      ((Part.sendReminder now reminder).execute tables).Shows after := by
  obtain ⟨stored, scheduled⟩ := current
  obtain ⟨notice, there, rfl⟩ := shows.notices.item stored
  simp only [Part.entries, Part.execute]
  cases saved : tables.saveReminder (sentReminder reminder now) with
  | error e => exact kept_same shows
  | ok after =>
    obtain ⟨rfl, _⟩ := saveReminder_ok saved
    have delivered :
        Notice.delivered (books.notices reminder.id) = some (sentReminder reminder now).notice := by
      rw [there, Reminder.notice, scheduled]
      rfl
    exact shows.notice (sentReminder reminder now) rfl delivered

/-- **A command enters what its answer says**, and leaves tables that show it. -/
theorem part_kept (part : Part) (current : part.Current tables) (ready : part.Ready tables) :
    ∃ after, run Books.enter books (part.entries tables) = some after ∧
      (part.execute tables).Shows after := by
  cases part with
  | invoice request => exact request_kept shows request ready
  | createCreditNote ctx input => exact creditCreated_kept shows input ready
  | issueCreditNote ctx input => exact creditIssued_kept shows input
  | createSchedule ctx input => exact scheduleCreated_kept shows input ready
  | pauseSchedule ctx input => exact schedulePaused_kept shows input
  | cancelSchedule ctx input => exact scheduleCancelled_kept shows input
  | advanceSchedule ctx schedule => exact advanced_kept shows current
  | scheduleReminder ctx input => exact reminderScheduled_kept shows input ready
  | cancelReminder ctx input => exact reminderCancelled_kept shows input
  | sendReminder now reminder => exact sent_kept shows current

end Others

/-! ### Runs of calls -/

/-- Every command of the call is ready when its turn comes. -/
def Call.Ready (tables : ReminderDb) (call : Call) : Prop :=
  Meets Part.step Part.Ready tables (call.parts tables)

/-- **A call enters what its commands' answers say**, and leaves tables that show it. -/
theorem ReminderDb.Shows.call {tables : ReminderDb} {books : Books} (shows : tables.Shows books) (call : Call)
    (ready : call.Ready tables) :
    ∃ after, run Books.enter books (call.entries tables) = some after ∧
      (call.execute tables).2.Shows after := by
  have both : Meets Part.step (fun tables part => part.Current tables ∧ part.Ready tables) tables
      (call.parts tables) := (call.parts_current shows.unique).and ready
  refine both.refines ?_ shows (call.run_parts tables)
  rintro tables books part next shows ⟨current, ready⟩ ⟨⟩
  exact part_kept shows part current ready

theorem ReminderDb.Shows.calls {tables : ReminderDb} {books : Books} (shows : tables.Shows books)
    {calls : List Call} (ready : Meets Call.step Call.Ready tables calls) :
    ∃ after, run Books.enter books (journal Call.step Call.entries tables calls) = some after ∧
      (Mealy.after Call.execute tables calls).Shows after := by
  refine ready.refines ?_ shows (run_calls tables calls)
  rintro tables books call next shows ready ⟨⟩
  exact shows.call call ready

/-- **The tables keep the books**: a run of calls, of every kind and in every order, enters in the books what
its answers say; the books allow every entry, and the tables show what they say then. -/
theorem books_kept {tables : ReminderDb} {books : Books} (shows : tables.Shows books) {calls : List Call}
    (ready : Meets Call.step Call.Ready tables calls) :
    ∃ after, run Books.enter books (journal Call.step Call.entries tables calls) = some after ∧
      (Mealy.after Call.execute tables calls).Shows after :=
  shows.calls ready

/-- Tables without invoices, credit notes, schedules and reminders. -/
structure ReminderDb.Bare (tables : ReminderDb) : Prop where
  invoices : tables.db.invoices = []
  creditNotes : tables.db.creditNotes = []
  schedules : tables.db.schedules = []
  reminders : tables.reminders = []

theorem ReminderDb.Bare.shows {tables : ReminderDb} (bare : tables.Bare) : tables.Shows .empty := by
  obtain ⟨⟨customers, invoices, lines, history, sendKeys, creditNotes, creditHistory, schedules⟩,
    reminders⟩ := tables
  obtain ⟨rfl, rfl, rfl, rfl⟩ := bare
  exact ⟨⟨List.nodup_nil, List.nodup_nil⟩, fun _ => .none, fun _ => .none, fun _ => .none, fun _ => .none⟩

theorem billAndPay_ready : Meets Call.step Call.Ready ⟨sampleDb, []⟩ billAndPay := by
  refine ⟨⟨rfl, fun _ _ => trivial⟩, ?_⟩
  rintro _ ⟨⟩
  refine ⟨⟨trivial, fun _ _ => trivial⟩, ?_⟩
  rintro _ ⟨⟩
  exact ⟨⟨Arith.exact_exactAdd, fun _ _ => trivial⟩, fun _ _ => trivial⟩

theorem sampleDb_bare : ReminderDb.Bare ⟨sampleDb, []⟩ := ⟨rfl, rfl, rfl, rfl⟩

/-- The sample invoice is billed with 100 and paid with 40. -/
theorem books_kept_billAndPay :
    journal Call.step Call.entries ⟨sampleDb, []⟩ billAndPay =
        [.draft ⟨1⟩ ⟨1⟩ Currency.cad, .bill ⟨1⟩ 100, .receive ⟨1⟩ 40] ∧
      ∃ after, run Books.enter .empty (journal Call.step Call.entries ⟨sampleDb, []⟩ billAndPay) = some after ∧
        (Mealy.after Call.execute ⟨sampleDb, []⟩ billAndPay).Shows after :=
  ⟨by decide +kernel, books_kept sampleDb_bare.shows billAndPay_ready⟩

/-! ### Nothing is undone -/

theorem Standing.Of.received {inv : Invoice} {standing : Standing} (stands : standing.Of inv) :
    inv.amountPaid.value = standing.received := by
  cases standing with
  | draft => exact stands.2
  | due receivable => exact stands.2.2
  | settled settlement => exact stands.2.2
  | cancelled receivable => exact stands.2.2

/-- An issued invoice asks for its total. -/
theorem Standing.Of.total_iff {inv : Invoice} {standing : Standing} (stands : standing.Of inv) (total : ℚ) :
    standing.total = some total ↔ inv.state ≠ .draft ∧ inv.total.value = total := by
  cases standing with
  | draft =>
    exact ⟨(fun absent => nomatch absent), fun both => absurd stands.1 both.1⟩
  | due receivable =>
    have issued : inv.state ≠ .draft := by
      rcases stands.1 with ⟨state | state | state, _⟩ | ⟨state, _⟩ <;> rw [state] <;> decide
    rw [and_iff_right issued, stands.2.1]
    exact Option.some_inj
  | settled settlement =>
    have issued : inv.state ≠ .draft := by rw [stands.1]; decide
    rw [and_iff_right issued, stands.2.1]
    exact Option.some_inj
  | cancelled receivable =>
    have issued : inv.state ≠ .draft := by rw [stands.1]; decide
    rw [and_iff_right issued, stands.2.1]
    exact Option.some_inj

theorem Standing.Of.closed {inv : Invoice} {standing : Standing} (stands : standing.Of inv)
    (terminal : inv.state.Terminal) : standing.Closed := by
  cases standing with
  | draft =>
    rw [stands.1] at terminal
    exact absurd terminal (by decide)
  | due receivable =>
    have opened : ¬ inv.state.Terminal := by
      rcases stands.1 with ⟨state | state | state, _⟩ | ⟨state, _⟩ <;> rw [state] <;> decide
    exact opened terminal
  | settled settlement => trivial
  | cancelled receivable => trivial

/-- The invoice as it may be later. -/
structure Invoice.Onward (before after : Invoice) : Prop where
  customer : after.customerId = before.customerId
  currency : after.currency = before.currency
  issued : before.state ≠ .draft → after.state ≠ .draft ∧ after.total.value = before.total.value
  paid : before.amountPaid.value ≤ after.amountPaid.value
  closed : before.state.Terminal →
    after.state = before.state ∧ after.amountPaid.value = before.amountPaid.value

theorem Account.Later.onward {before after : Invoice} {account account' : Account}
    (shows : before.Shows account) (later : account.Later account') (shows' : after.Shows account') :
    before.Onward after where
  customer := shows'.customer.symm.trans (later.customer.trans shows.customer)
  currency := shows'.currency.symm.trans (later.currency.trans shows.currency)
  issued := fun issued => (shows'.standing.total_iff _).mp
    (later.total _ ((shows.standing.total_iff before.total.value).mpr ⟨issued, rfl⟩))
  paid := by
    rw [shows.standing.received, shows'.standing.received]
    exact later.received
  closed := by
    intro terminal
    have closed := shows.standing.closed terminal
    obtain rfl := later.closed closed
    refine ⟨?_, shows'.standing.received.trans shows.standing.received.symm⟩
    have stands := shows.standing
    have stands' := shows'.standing
    cases standing : account'.standing with
    | draft =>
      rw [standing] at closed
      exact closed.elim
    | due receivable =>
      rw [standing] at closed
      exact closed.elim
    | settled settlement =>
      rw [standing] at stands stands'
      exact stands'.1.trans stands.1.symm
    | cancelled receivable =>
      rw [standing] at stands stands'
      exact stands'.1.trans stands.1.symm

/-- The tables as they may be later: every row is still there, and nothing it says is taken back. -/
structure ReminderDb.Onward (before after : ReminderDb) : Prop where
  invoices : ∀ id inv, before.db.getInvoice id = some inv →
    ∃ inv', after.db.getInvoice id = some inv' ∧ inv.Onward inv'
  creditNotes : ∀ id note, before.db.getCreditNote id = some note →
    ∃ note', after.db.getCreditNote id = some note' ∧ note.credit.Later note'.credit
  schedules : ∀ id schedule, before.db.getSchedule id = some schedule →
    ∃ schedule', after.db.getSchedule id = some schedule' ∧ schedule.plan.Later schedule'.plan
  reminders : ∀ id reminder, before.getReminder id = some reminder →
    ∃ reminder', after.getReminder id = some reminder' ∧ reminder.notice.Later reminder'.notice

/-- Tables that show later books are later tables. -/
theorem Books.Later.onward {before after : ReminderDb} {books books' : Books} (shows : before.Shows books)
    (later : books.Later books') (shows' : after.Shows books') : before.Onward after where
  invoices := by
    intro id inv found
    obtain ⟨inv', account, account', found', row, row', later⟩ :=
      shows.accounts.keeps later.accounts shows'.accounts found
    exact ⟨inv', found', later.onward row row'⟩
  creditNotes := by
    intro id note found
    obtain ⟨note', _, _, found', rfl, rfl, later⟩ := shows.credits.keeps later.credits shows'.credits found
    exact ⟨note', found', later⟩
  schedules := by
    intro id schedule found
    obtain ⟨schedule', _, _, found', rfl, rfl, later⟩ := shows.plans.keeps later.plans shows'.plans found
    exact ⟨schedule', found', later⟩
  reminders := by
    intro id reminder found
    obtain ⟨reminder', _, _, found', rfl, rfl, later⟩ :=
      shows.notices.keeps later.notices shows'.notices found
    exact ⟨reminder', found', later⟩

/-- **No run of calls takes anything back**: not the customer, the currency or, once it is issued, the total of
an invoice, nor what was paid on it; not a credit that was issued; and a paid or voided invoice, a suspended or
closed schedule, and a reminder that went out or was cancelled, stay that way. -/
theorem nothing_undone {tables : ReminderDb} (bare : tables.Bare) {first second : List Call}
    (ready : Meets Call.step Call.Ready tables first)
    (ready' : Meets Call.step Call.Ready (Mealy.after Call.execute tables first) second) :
    (Mealy.after Call.execute tables first).Onward
      (Mealy.after Call.execute (Mealy.after Call.execute tables first) second) := by
  obtain ⟨books, _, shows⟩ := bare.shows.calls ready
  obtain ⟨books', entered, shows'⟩ := shows.calls ready'
  exact (Books.run_later entered).onward shows shows'

/-- A partly paid invoice is voided, and what was paid stays. -/
theorem nothing_undone_voided :
    let before := Mealy.after Call.execute ⟨sampleDb, []⟩ billAndPay
    let after := Mealy.after Call.execute before
      [.invoice (.void (sampleCtx (oneOClock firstOfMarch) 4) sampleVoid)]
    (∃ inv, after.db.getInvoice ⟨1⟩ = some inv ∧ inv.state = .voided ∧ inv.amountPaid.value = 40) ∧
      before.Onward after := by
  intro before after
  refine ⟨by decide +kernel, nothing_undone sampleDb_bare billAndPay_ready ⟨⟨trivial, ?_⟩, ?_⟩⟩
  · exact fun _ _ => trivial
  · exact fun _ _ => trivial

end Invoicing
