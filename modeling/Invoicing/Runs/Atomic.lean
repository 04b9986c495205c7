/-
**Commands as database sessions.**

* `draftSession`, `issueSession`, `sendSession`, … — each command call by call: its queries, its
  computations, and the statements of its transaction. A call that fails ends the command, and an
  open transaction is rolled back.
* `AtomicCommand` — the commands together. **`session_faultless`** — when no call fails a session is
  its command.
* **`command_atomic`** — a command that fails, for whatever reason and at whatever call, leaves every
  table as it was.
-/

import Invoicing.Lib.Session
import Invoicing.Runs.Keyed

namespace Invoicing

open Session

abbrev CommandSession (α : Type) : Type := Session Db (Stop CoreError) α

/-- A statement that the store refuses. -/
def storeRaised (e : StoreError) : Stop CoreError := .error (.repo e)

/-! ### Transactions -/

/-- The statements that replace the lines of an invoice. -/
def lineStatements (id : InvoiceId) : Option (List InvoiceLine) → List (Db → Except StoreError Db)
  | none => []
  | some lines =>
      (fun db => .ok { db with lines := db.lines.filter fun line => decide (line.invoiceId ≠ id) }) ::
        lines.map fun line db => db.insertLine line

/-- The statement that records a send under its key. -/
def sendKeyStatements : Option SendIdempotencyRecord → List (Db → Except StoreError Db)
  | none => []
  | some record => [fun db => db.insertSendKey record]

/-- The statements of a write set, in their order. -/
def InvoiceTx.statements (tx : InvoiceTx) : List (Db → Except StoreError Db) :=
  (fun db => db.saveInvoice tx.invoice) :: lineStatements tx.invoice.id tx.lines ++
    (fun db => db.insertHistory tx.history) :: sendKeyStatements tx.sendKey

def CreditTx.statements (tx : CreditTx) : List (Db → Except StoreError Db) :=
  [fun db => db.saveCreditNote tx.note, fun db => db.insertCreditHistory tx.history]

theorem inOrder_insertLines (lines : List InvoiceLine) (db : Db) :
    inOrder (lines.map fun line db => db.insertLine line) db = lines.foldlM Db.insertLine db := by
  induction lines generalizing db with
  | nil => rfl
  | cons line rest ih =>
    rw [List.map_cons, inOrder, List.foldlM_cons]
    exact bind_congr ih

theorem inOrder_lineStatements (id : InvoiceId) (lines : Option (List InvoiceLine)) (db : Db) :
    inOrder (lineStatements id lines) db = db.writeLines id lines := by
  cases lines with
  | none => rfl
  | some lines => exact inOrder_insertLines lines _

theorem inOrder_sendKeyStatements (record : Option SendIdempotencyRecord) (db : Db) :
    inOrder (sendKeyStatements record) db = db.writeSendKey record := by
  cases record with
  | none => rfl
  | some record => exact bind_pure (db.insertSendKey record)

/-- **The statements of a write set are its transaction.** -/
theorem InvoiceTx.inOrder_statements (tx : InvoiceTx) (db : Db) :
    inOrder tx.statements db = tx.commit db := by
  unfold statements commit
  rw [List.cons_append, inOrder]
  refine bind_congr fun saved => ?_
  rw [inOrder_append, inOrder_lineStatements]
  refine bind_congr fun written => ?_
  rw [inOrder]
  exact bind_congr fun inserted => inOrder_sendKeyStatements tx.sendKey inserted

theorem CreditTx.inOrder_statements (tx : CreditTx) (db : Db) :
    inOrder tx.statements db = tx.commit db :=
  bind_congr fun saved => bind_pure (saved.insertCreditHistory tx.history)

/-- Answer, or run the transaction. -/
def Prepared.session {α : Type} : Prepared α → CommandSession α
  | .answer output => pure output
  | .write _ tx output => do
      transaction storeRaised tx.statements
      return output

/-- Run the transaction of a credit note. -/
def CreditTx.session {α : Type} (output : CreditNote → α) (tx : CreditTx) : CommandSession α := do
  transaction storeRaised tx.statements
  return output tx.note

theorem Prepared.session_atomic {α : Type} (prepared : Prepared α) : Atomic prepared.session := by
  cases prepared with
  | answer output => exact (Quiet.pure output).atomic
  | write loaded tx output => exact (transaction_atomic _ _).bind_pure fun _ => output

theorem CreditTx.session_atomic {α : Type} (output : CreditNote → α) (tx : CreditTx) :
    Atomic (tx.session output) := (transaction_atomic _ _).bind_pure fun _ => output tx.note

theorem Prepared.session_does {α : Type} (prepared : Prepared α) :
    Does prepared.session prepared.finish := by
  cases prepared with
  | answer output => exact .pure output
  | write loaded tx output =>
    have does := transaction_does storeRaised tx.statements output
    have same : transactionEffect storeRaised tx.statements output =
        (Prepared.write loaded tx output).finish := by
      funext db
      unfold transactionEffect Prepared.finish
      rw [tx.inOrder_statements]
      dsimp only
      cases tx.commit db with
      | error e => rfl
      | ok db' => rfl
    rw [same] at does
    exact does

theorem CreditTx.session_does {α : Type} (output : CreditNote → α) (tx : CreditTx) :
    Does (tx.session output) fun db => performCredit output (.ok tx) db := by
  have does := transaction_does storeRaised tx.statements (output tx.note)
  have same : transactionEffect storeRaised tx.statements (output tx.note) =
      fun db => performCredit output (.ok tx) db := by
    funext db
    unfold transactionEffect performCredit
    rw [tx.inOrder_statements]
    dsimp only
    cases tx.commit db with
    | error e => rfl
    | ok db' => rfl
  rw [same] at does
  exact does

/-! ### Loading -/

def invoiceSession (id : InvoiceId) : CommandSession Invoice := do
  let found ← query fun db => db.getInvoice id
  raise (orNotFound found ("invoice " ++ id.text))

def customerSession (inv : Invoice) : CommandSession Customer := do
  let found ← query fun db => db.getCustomer inv.customerId
  raise (orNotFound found
    ("customer " ++ inv.customerId.text ++ " (referenced by invoice " ++ inv.id.text ++ ")"))

theorem invoiceSession_reads (id : InvoiceId) :
    Reads (invoiceSession id) fun db => invoiceOf db id :=
  (Reads.query _).bind fun _ => .raise _

theorem customerSession_reads (inv : Invoice) :
    Reads (customerSession inv) fun db => customerOf db inv :=
  (Reads.query _).bind fun _ => .raise _

theorem invoiceSession_quiet (id : InvoiceId) : Quiet (invoiceSession id) :=
  (Quiet.query _).bind fun _ => .raise _

theorem customerSession_quiet (inv : Invoice) : Quiet (customerSession inv) :=
  (Quiet.query _).bind fun _ => .raise _

/-! ### The commands up to their transactions -/

def lookupKey : Option String → CommandSession (Option Invoice)
  | none => pure none
  | some key => query fun db => db.findByIdempotencyKey key

/-- Answer with the stored invoice, or draft. -/
def draftOr (ctx : CoreCtx) (input : DraftInvoiceInput) :
    Option Invoice → CommandSession (Prepared DraftInvoiceOutput)
  | some existing => do
      let lines ← query fun db => db.linesOf existing.id
      return .answer ⟨existing, lines, true⟩
  | none => do
      let summed ← raise (orPanic (draftLines ctx input.currency input.lines))
      let tx := draftTx ctx input summed.1 summed.2
      return .write none tx ⟨tx.invoice, summed.1, false⟩

def draftSession (ctx : CoreCtx) (input : DraftInvoiceInput) :
    CommandSession (Prepared DraftInvoiceOutput) := do
  raise input.validate
  let found ← lookupKey input.idempotencyKey
  draftOr ctx input found

/-- The taxes and totals of an issue. -/
def taxLines (ctx : CoreCtx) (inv : Invoice) (toState : InvoiceState) (customer : Customer)
    (lines : List InvoiceLine) : CoreResult IssueReady := do
  let sums ← lines.foldlM (issueLine ctx inv customer) ⟨[], Decimal.zero, Decimal.zero, false⟩
  let subtotal := inv.currency.round sums.subtotal
  let taxTotal := inv.currency.round sums.taxTotal
  let total ← orPanic (ctx.arith.add subtotal taxTotal)
  return ⟨inv, toState, customer, sums.lines, subtotal, taxTotal, inv.currency.round total,
    sums.nexusReview⟩

def issueSession (ctx : CoreCtx) (input : IssueInvoiceInput) :
    CommandSession (Prepared IssueInvoiceOutput) := do
  let inv ← invoiceSession input.invoiceId
  let lines ← query fun db => db.linesOf input.invoiceId
  let toState ← raise (orRejected (nextState inv.state .issue))
  let customer ← customerSession inv
  let ready ← raise (taxLines ctx inv toState customer lines)
  let count ← query fun db => countInvoicesIssuedInYear db ctx.now.year
  raise (finishIssue ctx input ready count)

def markPaidSession (ctx : CoreCtx) (input : MarkPaidInput) :
    CommandSession (Prepared MarkPaidOutput) := do
  raise input.validate
  let inv ← invoiceSession input.invoiceId
  raise do
    let amountPaid ← orPanic (ctx.arith.add inv.amountPaid input.amount)
    let toState ← orRejected (nextState inv.state (.pay amountPaid inv.total))
    let tx := payTx ctx input inv amountPaid toState
    return .write (some inv) tx ⟨tx.invoice, decide (toState = .paid)⟩

def voidSession (ctx : CoreCtx) (input : VoidInvoiceInput) :
    CommandSession (Prepared VoidInvoiceOutput) := do
  let inv ← invoiceSession input.invoiceId
  raise do
    let toState ← orRejected (nextState inv.state .void)
    let tx := voidTx ctx input inv toState
    return .write (some inv) tx ⟨tx.invoice⟩

def lookupSend (id : InvoiceId) : Option String → CommandSession (Option SendIdempotencyRecord)
  | none => pure none
  | some key => query fun db => db.findSend id key

/-- Answer with the recorded send, or send. -/
def sendOr (call : SendCall) :
    Option SendIdempotencyRecord → CommandSession (Prepared SendInvoiceOutput)
  | some record => do
      let inv ← invoiceSession call.invoiceId
      let lines ← query fun db => db.linesOf call.invoiceId
      let customer ← customerSession inv
      let pages ← raise (call.ctx.render inv customer lines)
      return .answer ⟨inv, lines, pages.1, pages.2, record.deliveredTo, true⟩
  | none => do
      let inv ← invoiceSession call.invoiceId
      let lines ← query fun db => db.linesOf call.invoiceId
      let toState ← raise (orRejected (sendTarget inv.state))
      let customer ← customerSession inv
      let pages ← raise (call.ctx.render inv customer lines)
      let deliveredTo ← raise (call.deliverTo pages.2)
      return finalizeSend call.ctx ⟨inv, lines, pages.1, pages.2, toState⟩ call.actor call.channel
        deliveredTo call.key

def sendSession (call : SendCall) : CommandSession (Prepared SendInvoiceOutput) := do
  raise call.check
  let record ← lookupSend call.invoiceId call.key
  sendOr call record

def createCreditSession (ctx : CoreCtx) (input : CreateCreditNoteInput) : CommandSession CreditTx := do
  raise input.validate
  let inv ← invoiceSession input.invoiceId
  return createCreditTx ctx input inv

def issueCreditSession (ctx : CoreCtx) (input : IssueCreditNoteInput) : CommandSession CreditTx := do
  let found ← query fun db => db.getCreditNote input.creditNoteId
  let note ← raise (orNotFound found ("credit note " ++ input.creditNoteId.text))
  let toState ← raise ((CreditNoteEvent.issue.nextState note.state).mapError fun e =>
    Stop.error (CoreError.validation ("credit-note FSM rejected: " ++ e.text)))
  let count ← query fun db => countCreditNotesIssuedInYear db ctx.now.year
  return issueCreditTx ctx input note toState count

/-! ### They change nothing -/

theorem lookupKey_quiet (key : Option String) : Quiet (lookupKey key) := by
  cases key with
  | none => exact .pure none
  | some key => exact .query _

theorem draftSession_quiet (ctx : CoreCtx) (input : DraftInvoiceInput) :
    Quiet (draftSession ctx input) := by
  refine (Quiet.raise _).bind fun _ => (lookupKey_quiet _).bind fun found => ?_
  cases found with
  | none => exact (Quiet.raise _).bind fun _ => .pure _
  | some existing => exact (Quiet.query _).bind fun _ => .pure _

theorem issueSession_quiet (ctx : CoreCtx) (input : IssueInvoiceInput) :
    Quiet (issueSession ctx input) :=
  (invoiceSession_quiet _).bind fun inv => (Quiet.query _).bind fun _ => (Quiet.raise _).bind fun _ =>
    (customerSession_quiet inv).bind fun _ => (Quiet.raise _).bind fun _ =>
      (Quiet.query _).bind fun _ => .raise _

theorem markPaidSession_quiet (ctx : CoreCtx) (input : MarkPaidInput) :
    Quiet (markPaidSession ctx input) :=
  (Quiet.raise _).bind fun _ => (invoiceSession_quiet _).bind fun _ => .raise _

theorem voidSession_quiet (ctx : CoreCtx) (input : VoidInvoiceInput) :
    Quiet (voidSession ctx input) :=
  (invoiceSession_quiet _).bind fun _ => .raise _

theorem lookupSend_quiet (id : InvoiceId) (key : Option String) : Quiet (lookupSend id key) := by
  cases key with
  | none => exact .pure none
  | some key => exact .query _

theorem sendSession_quiet (call : SendCall) : Quiet (sendSession call) := by
  refine (Quiet.raise _).bind fun _ => (lookupSend_quiet _ _).bind fun record => ?_
  cases record with
  | some record =>
    exact (invoiceSession_quiet _).bind fun inv => (Quiet.query _).bind fun _ =>
      (customerSession_quiet inv).bind fun _ => (Quiet.raise _).bind fun _ => .pure _
  | none =>
    exact (invoiceSession_quiet _).bind fun inv => (Quiet.query _).bind fun _ =>
      (Quiet.raise _).bind fun _ => (customerSession_quiet inv).bind fun _ =>
        (Quiet.raise _).bind fun _ => (Quiet.raise _).bind fun _ => .pure _

theorem createCreditSession_quiet (ctx : CoreCtx) (input : CreateCreditNoteInput) :
    Quiet (createCreditSession ctx input) :=
  (Quiet.raise _).bind fun _ => (invoiceSession_quiet _).bind fun _ => .pure _

theorem issueCreditSession_quiet (ctx : CoreCtx) (input : IssueCreditNoteInput) :
    Quiet (issueCreditSession ctx input) :=
  (Quiet.query _).bind fun _ => (Quiet.raise _).bind fun _ => (Quiet.raise _).bind fun _ =>
    (Quiet.query _).bind fun _ => .pure _

/-! ### Without faults they compute what the commands do -/

theorem lookupKey_reads (key : Option String) :
    Reads (lookupKey key) fun db => .ok (key.bind db.findByIdempotencyKey) := by
  cases key with
  | none => exact .pure none
  | some key => exact Reads.query fun db : Db => db.findByIdempotencyKey key

/-- What follows the lookup of a draft's key. -/
def draftPlan (ctx : CoreCtx) (input : DraftInvoiceInput) (db : Db) :
    Option Invoice → CoreResult (Prepared DraftInvoiceOutput)
  | some existing => .ok (.answer ⟨existing, db.linesOf existing.id, true⟩)
  | none => do
      let summed ← orPanic (draftLines ctx input.currency input.lines)
      let tx := draftTx ctx input summed.1 summed.2
      return .write none tx ⟨tx.invoice, summed.1, false⟩

theorem draftOr_reads (ctx : CoreCtx) (input : DraftInvoiceInput) (found : Option Invoice) :
    Reads (draftOr ctx input found) fun db => draftPlan ctx input db found := by
  cases found with
  | some existing =>
    exact (Reads.query fun db : Db => db.linesOf existing.id).bind fun _ => .pure _
  | none => exact (Reads.raise _).bind fun _ => .pure _

theorem draftSession_reads (ctx : CoreCtx) (input : DraftInvoiceInput) :
    Reads (draftSession ctx input) fun db => prepareDraft ctx input db := by
  have reads := (Reads.raise input.validate).bind fun _ =>
    (lookupKey_reads input.idempotencyKey).bind fun found => draftOr_reads ctx input found
  refine reads.congr fun db => ?_
  unfold prepareDraft
  refine bind_congr fun _ => ?_
  cases found : input.idempotencyKey.bind db.findByIdempotencyKey with
  | some existing => rfl
  | none => rfl

theorem issueSession_reads (ctx : CoreCtx) (input : IssueInvoiceInput) :
    Reads (issueSession ctx input) fun db => prepareIssue ctx input db >>= fun ready =>
      finishIssue ctx input ready (countInvoicesIssuedInYear db ctx.now.year) := by
  have reads := (invoiceSession_reads input.invoiceId).bind fun inv =>
    (Reads.query fun db : Db => db.linesOf input.invoiceId).bind fun lines =>
      (Reads.raise (orRejected (nextState inv.state .issue))).bind fun toState =>
        (customerSession_reads inv).bind fun customer =>
          (Reads.raise (taxLines ctx inv toState customer lines)).bind fun ready =>
            (Reads.query fun db : Db => countInvoicesIssuedInYear db ctx.now.year).bind fun count =>
              Reads.raise (finishIssue ctx input ready count)
  refine reads.congr fun db => ?_
  unfold prepareIssue
  simp only [bind_assoc]
  refine bind_congr fun inv => ?_
  show (orRejected (nextState inv.state .issue) >>= fun toState =>
    customerOf db inv >>= fun customer =>
      taxLines ctx inv toState customer (db.linesOf input.invoiceId) >>= fun ready =>
        finishIssue ctx input ready (countInvoicesIssuedInYear db ctx.now.year)) = _
  refine bind_congr fun toState => bind_congr fun customer => ?_
  unfold taxLines
  simp only [bind_assoc]

theorem markPaidSession_reads (ctx : CoreCtx) (input : MarkPaidInput) :
    Reads (markPaidSession ctx input) fun db => prepareMarkPaid ctx input db :=
  (Reads.raise _).bind fun _ => (invoiceSession_reads _).bind fun _ => .raise _

theorem voidSession_reads (ctx : CoreCtx) (input : VoidInvoiceInput) :
    Reads (voidSession ctx input) fun db => prepareVoid ctx input db :=
  (invoiceSession_reads _).bind fun _ => .raise _

theorem lookupSend_reads (id : InvoiceId) (key : Option String) :
    Reads (lookupSend id key) fun db => .ok (key.bind (db.findSend id)) := by
  cases key with
  | none => exact .pure none
  | some key => exact Reads.query fun db : Db => db.findSend id key

/-- What follows the lookup of a send's key. -/
def sendPlan (call : SendCall) (db : Db) :
    Option SendIdempotencyRecord → CoreResult (Prepared SendInvoiceOutput)
  | some record => (call.replay record db).map Prepared.answer
  | none => call.go db

theorem sendOr_reads (call : SendCall) (record : Option SendIdempotencyRecord) :
    Reads (sendOr call record) fun db => sendPlan call db record := by
  cases record with
  | some record =>
    have reads := (invoiceSession_reads call.invoiceId).bind fun inv =>
      (Reads.query fun db : Db => db.linesOf call.invoiceId).bind fun lines =>
        (customerSession_reads inv).bind fun customer =>
          (Reads.raise (call.ctx.render inv customer lines)).bind fun pages =>
            Reads.pure (Prepared.answer
              (SendInvoiceOutput.mk inv lines pages.1 pages.2 record.deliveredTo true))
    refine reads.congr fun db => ?_
    show _ = Prepared.answer <$> call.replay record db
    unfold SendCall.replay
    simp only [map_bind]
    rfl
  | none =>
    have reads := (invoiceSession_reads call.invoiceId).bind fun inv =>
      (Reads.query fun db : Db => db.linesOf call.invoiceId).bind fun lines =>
        (Reads.raise (orRejected (sendTarget inv.state))).bind fun toState =>
          (customerSession_reads inv).bind fun customer =>
            (Reads.raise (call.ctx.render inv customer lines)).bind fun pages =>
              (Reads.raise (call.deliverTo pages.2)).bind fun deliveredTo =>
                Reads.pure (finalizeSend call.ctx ⟨inv, lines, pages.1, pages.2, toState⟩ call.actor
                  call.channel deliveredTo call.key)
    refine reads.congr fun db => ?_
    unfold sendPlan SendCall.go prepareSend
    simp only [bind_assoc]
    rfl

theorem sendSession_reads (call : SendCall) :
    Reads (sendSession call) fun db => call.check >>= fun _ =>
      replayOr call.ctx call.invoiceId call.key db (call.go db) := by
  have reads := (Reads.raise call.check).bind fun _ =>
    (lookupSend_reads call.invoiceId call.key).bind fun record => sendOr_reads call record
  refine reads.congr fun db => bind_congr fun _ => ?_
  rw [call.replayOr_eq db]
  show sendPlan call db (call.key.bind (db.findSend call.invoiceId)) = _
  cases call.key.bind (db.findSend call.invoiceId) with
  | none => rfl
  | some record => rfl

theorem createCreditSession_reads (ctx : CoreCtx) (input : CreateCreditNoteInput) :
    Reads (createCreditSession ctx input) fun db => prepareCreateCreditNote ctx input db :=
  (Reads.raise _).bind fun _ => (invoiceSession_reads _).bind fun _ => .pure _

theorem issueCreditSession_reads (ctx : CoreCtx) (input : IssueCreditNoteInput) :
    Reads (issueCreditSession ctx input) fun db => prepareIssueCreditNote ctx input db :=
  (Reads.query fun db : Db => db.getCreditNote input.creditNoteId).bind fun _ =>
    (Reads.raise _).bind fun _ => (Reads.raise _).bind fun _ =>
      (Reads.query fun db : Db => countCreditNotesIssuedInYear db ctx.now.year).bind fun _ => .pure _

/-! ### The commands -/

/-- A call of one of the commands. -/
inductive AtomicCommand
  | draftInvoice (ctx : CoreCtx) (input : DraftInvoiceInput)
  | issueInvoice (ctx : CoreCtx) (input : IssueInvoiceInput)
  | sendInvoice (call : SendCall)
  | markPaid (ctx : CoreCtx) (input : MarkPaidInput)
  | voidInvoice (ctx : CoreCtx) (input : VoidInvoiceInput)
  | createCreditNote (ctx : CoreCtx) (input : CreateCreditNoteInput)
  | issueCreditNote (ctx : CoreCtx) (input : IssueCreditNoteInput)

namespace AtomicCommand

/-- What the command returns. -/
def Output : AtomicCommand → Type
  | draftInvoice _ _ => DraftInvoiceOutput
  | issueInvoice _ _ => IssueInvoiceOutput
  | sendInvoice _ => SendInvoiceOutput
  | markPaid _ _ => MarkPaidOutput
  | voidInvoice _ _ => VoidInvoiceOutput
  | createCreditNote _ _ => CreateCreditNoteOutput
  | issueCreditNote _ _ => IssueCreditNoteOutput

/-- The command call by call. -/
def session : (command : AtomicCommand) → CommandSession command.Output
  | draftInvoice ctx input => draftSession ctx input >>= Prepared.session
  | issueInvoice ctx input => issueSession ctx input >>= Prepared.session
  | sendInvoice call => sendSession call >>= Prepared.session
  | markPaid ctx input => markPaidSession ctx input >>= Prepared.session
  | voidInvoice ctx input => voidSession ctx input >>= Prepared.session
  | createCreditNote ctx input =>
      createCreditSession ctx input >>= CreditTx.session CreateCreditNoteOutput.mk
  | issueCreditNote ctx input =>
      issueCreditSession ctx input >>= CreditTx.session IssueCreditNoteOutput.mk

/-- The command as a whole. -/
def execute : (command : AtomicCommand) → Db → CoreResult command.Output × Db
  | draftInvoice ctx input, db => Invoicing.draftInvoice ctx input db
  | issueInvoice ctx input, db => Invoicing.issueInvoice ctx input db
  | sendInvoice call, db => call.execute db
  | markPaid ctx input, db => Invoicing.markPaid ctx input db
  | voidInvoice ctx input, db => Invoicing.voidInvoice ctx input db
  | createCreditNote ctx input, db => Invoicing.createCreditNote ctx input db
  | issueCreditNote ctx input, db => Invoicing.issueCreditNote ctx input db

end AtomicCommand

theorem session_performs {α : Type} {program : CommandSession (Prepared α)}
    {prepare : Db → CoreResult (Prepared α)} (reads : Reads program prepare) :
    Does (program >>= Prepared.session) fun db => perform (prepare db) db := by
  have does := reads.bind_does Prepared.session_does
  have same : afterwards prepare Prepared.finish = fun db => perform (prepare db) db := by
    funext db
    unfold afterwards perform
    cases prepare db with
    | error e => rfl
    | ok prepared => rfl
  rw [same] at does
  exact does

theorem session_performsCredit {α : Type} {program : CommandSession CreditTx}
    {prepare : Db → CoreResult CreditTx} (output : CreditNote → α) (reads : Reads program prepare) :
    Does (program >>= CreditTx.session output) fun db => performCredit output (prepare db) db := by
  have does := reads.bind_does (CreditTx.session_does output)
  have same : afterwards prepare (fun tx db => performCredit output (.ok tx) db) =
      fun db => performCredit output (prepare db) db := by
    funext db
    unfold afterwards
    cases prepare db with
    | error e => rfl
    | ok tx => rfl
  rw [same] at does
  exact does

/-- **A session in which no call fails is its command.** -/
theorem session_faultless (command : AtomicCommand) (db : Db) :
    Session.run command.session noFaults db =
      ((command.execute db).1.mapError .raised, (command.execute db).2) := by
  cases command with
  | draftInvoice ctx input => exact (session_performs (draftSession_reads ctx input)).run db
  | issueInvoice ctx input => exact (session_performs (issueSession_reads ctx input)).run db
  | sendInvoice call =>
    have ran := (session_performs (sendSession_reads call)).run db
    rw [← call.execute_eq db] at ran
    exact ran
  | markPaid ctx input => exact (session_performs (markPaidSession_reads ctx input)).run db
  | voidInvoice ctx input => exact (session_performs (voidSession_reads ctx input)).run db
  | createCreditNote ctx input =>
    exact (session_performsCredit _ (createCreditSession_reads ctx input)).run db
  | issueCreditNote ctx input =>
    exact (session_performsCredit _ (issueCreditSession_reads ctx input)).run db

theorem session_atomic (command : AtomicCommand) : Atomic command.session := by
  cases command with
  | draftInvoice ctx input =>
    exact (draftSession_quiet ctx input).bind_atomic Prepared.session_atomic
  | issueInvoice ctx input =>
    exact (issueSession_quiet ctx input).bind_atomic Prepared.session_atomic
  | sendInvoice call => exact (sendSession_quiet call).bind_atomic Prepared.session_atomic
  | markPaid ctx input =>
    exact (markPaidSession_quiet ctx input).bind_atomic Prepared.session_atomic
  | voidInvoice ctx input => exact (voidSession_quiet ctx input).bind_atomic Prepared.session_atomic
  | createCreditNote ctx input =>
    exact (createCreditSession_quiet ctx input).bind_atomic (CreditTx.session_atomic _)
  | issueCreditNote ctx input =>
    exact (issueCreditSession_quiet ctx input).bind_atomic (CreditTx.session_atomic _)

/-- **Commands are atomic**: on any tables, whichever database calls fail, a command that returns an
error leaves every table as it was. -/
theorem command_atomic (command : AtomicCommand) (faults : Faults) (db : Db)
    {e : Failure (Stop CoreError)}
    (failed : (Session.run command.session faults db).1 = .error e) :
    (Session.run command.session faults db).2 = db :=
  (session_atomic command).run failed

/-- The database call that fails. -/
def faultAt (call : ℕ) : Faults := fun n => decide (n = call)

/-- A draft of one line begins, saves the invoice, deletes and inserts lines, inserts the history row,
and cannot commit. -/
theorem draft_rolled_back :
    let draft := AtomicCommand.draftInvoice (sampleCtx (oneOClock firstOfMarch) 1) sampleDraft
    (Session.run draft.session (faultAt 5) sampleDb).1 = .error .database ∧
      (Session.run draft.session (faultAt 5) sampleDb).2 = sampleDb ∧
      (Session.run draft.session noFaults sampleDb).2 ≠ sampleDb := by
  intro draft
  have failed : (Session.run draft.session (faultAt 5) sampleDb).1 = .error .database := rfl
  refine ⟨failed, command_atomic draft (faultAt 5) sampleDb failed, ?_⟩
  decide +kernel

end Invoicing
