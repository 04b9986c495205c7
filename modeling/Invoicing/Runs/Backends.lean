/-
**The commands on SQLite and on Postgres.**

* `fetch`, `ask`, `transactionOn` — a query with its text, a query of a repository, and a transaction with
  the texts of its statements. A backend that does not accept a text refuses the call; one that does runs
  it as any other.
* `draftOn`, `issueOn`, … — the sessions of the commands with every text they send. On SQLite, and where
  all texts are rewritten, they are the sessions without texts (**`sessionOn_sqlite`**,
  **`sessionOn_rewritten`**).
* **`backend_independent_iff`** — a call that succeeds on SQLite succeeds on Postgres, with the same rows,
  exactly when it issues neither an invoice nor a credit note. **`issue_on_postgres`** — an issue that
  does not.
-/

import Invoicing.Runs.Atomic
import Invoicing.Runs.Taxed
import Invoicing.Store.Sql

namespace Invoicing

open Session

/-! ### Calls with their texts -/

/-- A query, sent as a text with bound values. -/
def fetch {α : Type} (backend : Backend) (sql : String) (binds : ℕ) (select : Db → α) : CommandSession α :=
  if backend.Accepts sql binds then query select else refused

/-- A query of a repository. -/
def ask {α : Type} (backend : Backend) (statement : RepoSql) (select : Db → α) : CommandSession α :=
  fetch backend (portableSql backend statement.text) statement.binds select

/-- A statement of a transaction: its text, and what it does. -/
abbrev TxStatement : Type := RepoSql × (Db → Except StoreError Db)

def executeOn (backend : Backend) (statement : TxStatement) : CommandSession Unit :=
  if backend.Accepts (portableSqlForTx backend statement.1.text) statement.1.binds then
    execute storeRaised statement.2
  else refused

def executeAllOn (backend : Backend) : List TxStatement → CommandSession Unit
  | [] => pure ()
  | statement :: rest => do
      executeOn backend statement
      executeAllOn backend rest

def transactionOn (backend : Backend) (statements : List TxStatement) : CommandSession Unit := do
  begin
  executeAllOn backend statements
  commit

/-- Queries of repositories run on every backend. -/
theorem ask_eq {α : Type} (backend : Backend) (statement : RepoSql) (select : Db → α) :
    ask backend statement select = query select := if_pos (statement.accepted backend)

theorem executeAllOn_eq (backend : Backend) (statements : List TxStatement) :
    executeAllOn backend statements = executeAll storeRaised (statements.map (·.2)) := by
  induction statements with
  | nil => rfl
  | cons statement rest ih =>
    have first : executeOn backend statement = execute storeRaised statement.2 :=
      if_pos (statement.1.accepted backend)
    rw [executeAllOn, first, ih]
    rfl

/-- **Transactions run on every backend.** -/
theorem transactionOn_eq (backend : Backend) (statements : List TxStatement) :
    transactionOn backend statements = transaction storeRaised (statements.map (·.2)) := by
  rw [transactionOn, executeAllOn_eq]
  rfl

/-! ### Transactions -/

def lineTexts (id : InvoiceId) : Option (List InvoiceLine) → List TxStatement
  | none => []
  | some lines =>
      (.deleteLines, fun db =>
        .ok { db with lines := db.lines.filter fun line => decide (line.invoiceId ≠ id) }) ::
        lines.map fun line => (.insertLine, fun db => db.insertLine line)

def sendKeyTexts : Option SendIdempotencyRecord → List TxStatement
  | none => []
  | some record => [(.insertSend, fun db => db.insertSendKey record)]

/-- The statements of a write set with their texts. -/
def InvoiceTx.texts (tx : InvoiceTx) : List TxStatement :=
  (.saveInvoice, fun db => db.saveInvoice tx.invoice) :: lineTexts tx.invoice.id tx.lines ++
    (.insertHistory, fun db => db.insertHistory tx.history) :: sendKeyTexts tx.sendKey

def CreditTx.texts (tx : CreditTx) : List TxStatement :=
  [(.saveCreditNote, fun db => db.saveCreditNote tx.note),
    (.insertCreditHistory, fun db => db.insertCreditHistory tx.history)]

theorem InvoiceTx.map_texts (tx : InvoiceTx) : tx.texts.map (·.2) = tx.statements := by
  have lines : (lineTexts tx.invoice.id tx.lines).map (·.2) = lineStatements tx.invoice.id tx.lines := by
    cases tx.lines with
    | none => rfl
    | some lines =>
      unfold lineTexts
      rw [List.map_cons, List.map_map]
      rfl
  have send : (sendKeyTexts tx.sendKey).map (·.2) = sendKeyStatements tx.sendKey := by
    cases tx.sendKey with
    | none => rfl
    | some record => rfl
  unfold texts statements
  rw [List.cons_append, List.map_cons, List.map_append, List.map_cons, lines, send]
  rfl

def Prepared.sessionOn {α : Type} (backend : Backend) : Prepared α → CommandSession α
  | .answer output => pure output
  | .write _ tx output => do
      transactionOn backend tx.texts
      return output

def CreditTx.sessionOn {α : Type} (backend : Backend) (output : CreditNote → α) (tx : CreditTx) :
    CommandSession α := do
  transactionOn backend tx.texts
  return output tx.note

theorem Prepared.sessionOn_eq {α : Type} (backend : Backend) (prepared : Prepared α) :
    prepared.sessionOn backend = prepared.session := by
  cases prepared with
  | answer output => rfl
  | write loaded tx output =>
    show (transactionOn backend tx.texts >>= fun _ => pure output) = _
    rw [transactionOn_eq, tx.map_texts]
    rfl

theorem CreditTx.sessionOn_eq {α : Type} (backend : Backend) (output : CreditNote → α) (tx : CreditTx) :
    tx.sessionOn backend output = tx.session output := by
  unfold sessionOn
  rw [transactionOn_eq]
  rfl

/-! ### The commands up to their transactions -/

section Programs

variable (backend : Backend)

def invoiceOn (id : InvoiceId) : CommandSession Invoice := do
  let found ← ask backend .getInvoice fun db => db.getInvoice id
  raise (orNotFound found ("invoice " ++ id.text))

def customerOn (inv : Invoice) : CommandSession Customer := do
  let found ← ask backend .getCustomer fun db => db.getCustomer inv.customerId
  raise (orNotFound found
    ("customer " ++ inv.customerId.text ++ " (referenced by invoice " ++ inv.id.text ++ ")"))

def linesOn (id : InvoiceId) : CommandSession (List InvoiceLine) :=
  ask backend .listLines fun db => db.linesOf id

def lookupKeyOn : Option String → CommandSession (Option Invoice)
  | none => pure none
  | some key => ask backend .findByIdempotencyKey fun db => db.findByIdempotencyKey key

def draftOrOn (ctx : CoreCtx) (input : DraftInvoiceInput) :
    Option Invoice → CommandSession (Prepared DraftInvoiceOutput)
  | some existing => do
      let lines ← linesOn backend existing.id
      return .answer ⟨existing, lines, true⟩
  | none => do
      let summed ← raise (orPanic (draftLines ctx input.currency input.lines))
      let tx := draftTx ctx input summed.1 summed.2
      return .write none tx ⟨tx.invoice, summed.1, false⟩

def draftOn (ctx : CoreCtx) (input : DraftInvoiceInput) : CommandSession (Prepared DraftInvoiceOutput) := do
  raise input.validate
  let found ← lookupKeyOn backend input.idempotencyKey
  draftOrOn backend ctx input found

/-- The text of the count is sent as it is. -/
def countInvoicesOn (year : ℤ) : CommandSession ℕ :=
  fetch backend countInvoicesSql 2 fun db => countInvoicesIssuedInYear db year

def issueOn (ctx : CoreCtx) (input : IssueInvoiceInput) : CommandSession (Prepared IssueInvoiceOutput) := do
  let inv ← invoiceOn backend input.invoiceId
  let lines ← linesOn backend input.invoiceId
  let toState ← raise (orRejected (nextState inv.state .issue))
  let customer ← customerOn backend inv
  let ready ← raise (taxLines ctx inv toState customer lines)
  let count ← countInvoicesOn backend ctx.now.year
  raise (finishIssue ctx input ready count)

def markPaidOn (ctx : CoreCtx) (input : MarkPaidInput) : CommandSession (Prepared MarkPaidOutput) := do
  raise input.validate
  let inv ← invoiceOn backend input.invoiceId
  raise do
    let amountPaid ← orPanic (ctx.arith.add inv.amountPaid input.amount)
    let toState ← orRejected (nextState inv.state (.pay amountPaid inv.total))
    let tx := payTx ctx input inv amountPaid toState
    return .write (some inv) tx ⟨tx.invoice, decide (toState = .paid)⟩

def voidOn (ctx : CoreCtx) (input : VoidInvoiceInput) : CommandSession (Prepared VoidInvoiceOutput) := do
  let inv ← invoiceOn backend input.invoiceId
  raise do
    let toState ← orRejected (nextState inv.state .void)
    let tx := voidTx ctx input inv toState
    return .write (some inv) tx ⟨tx.invoice⟩

def lookupSendOn (id : InvoiceId) : Option String → CommandSession (Option SendIdempotencyRecord)
  | none => pure none
  | some key => ask backend .findSend fun db => db.findSend id key

def sendOrOn (call : SendCall) :
    Option SendIdempotencyRecord → CommandSession (Prepared SendInvoiceOutput)
  | some record => do
      let inv ← invoiceOn backend call.invoiceId
      let lines ← linesOn backend call.invoiceId
      let customer ← customerOn backend inv
      let pages ← raise (call.ctx.render inv customer lines)
      return .answer ⟨inv, lines, pages.1, pages.2, record.deliveredTo, true⟩
  | none => do
      let inv ← invoiceOn backend call.invoiceId
      let lines ← linesOn backend call.invoiceId
      let toState ← raise (orRejected (sendTarget inv.state))
      let customer ← customerOn backend inv
      let pages ← raise (call.ctx.render inv customer lines)
      let deliveredTo ← raise (call.deliverTo pages.2)
      return finalizeSend call.ctx ⟨inv, lines, pages.1, pages.2, toState⟩ call.actor call.channel
        deliveredTo call.key

def sendOn (call : SendCall) : CommandSession (Prepared SendInvoiceOutput) := do
  raise call.check
  let record ← lookupSendOn backend call.invoiceId call.key
  sendOrOn backend call record

def createCreditOn (ctx : CoreCtx) (input : CreateCreditNoteInput) : CommandSession CreditTx := do
  raise input.validate
  let inv ← invoiceOn backend input.invoiceId
  return createCreditTx ctx input inv

/-- The text of the count is sent as it is. -/
def countCreditNotesOn (year : ℤ) : CommandSession ℕ :=
  fetch backend countCreditNotesSql 2 fun db => countCreditNotesIssuedInYear db year

def issueCreditOn (ctx : CoreCtx) (input : IssueCreditNoteInput) : CommandSession CreditTx := do
  let found ← ask backend .getCreditNote fun db => db.getCreditNote input.creditNoteId
  let note ← raise (orNotFound found ("credit note " ++ input.creditNoteId.text))
  let toState ← raise ((CreditNoteEvent.issue.nextState note.state).mapError fun e =>
    Stop.error (CoreError.validation ("credit-note FSM rejected: " ++ e.text)))
  let count ← countCreditNotesOn backend ctx.now.year
  return issueCreditTx ctx input note toState count

end Programs

/-- The command call by call, with every text it sends. -/
def AtomicCommand.sessionOn (backend : Backend) :
    (command : AtomicCommand) → CommandSession command.Output
  | .draftInvoice ctx input => draftOn backend ctx input >>= Prepared.sessionOn backend
  | .issueInvoice ctx input => issueOn backend ctx input >>= Prepared.sessionOn backend
  | .sendInvoice call => sendOn backend call >>= Prepared.sessionOn backend
  | .markPaid ctx input => markPaidOn backend ctx input >>= Prepared.sessionOn backend
  | .voidInvoice ctx input => voidOn backend ctx input >>= Prepared.sessionOn backend
  | .createCreditNote ctx input =>
      createCreditOn backend ctx input >>= CreditTx.sessionOn backend CreateCreditNoteOutput.mk
  | .issueCreditNote ctx input =>
      issueCreditOn backend ctx input >>= CreditTx.sessionOn backend IssueCreditNoteOutput.mk

/-- The command issues an invoice or a credit note. -/
def AtomicCommand.Issues : AtomicCommand → Prop
  | .issueInvoice _ _ => True
  | .issueCreditNote _ _ => True
  | _ => False

/-! ### Where the texts make no difference -/

section Same

variable (backend : Backend)

theorem invoiceOn_eq (id : InvoiceId) : invoiceOn backend id = invoiceSession id := by
  unfold invoiceOn
  rw [ask_eq]
  rfl

theorem customerOn_eq (inv : Invoice) : customerOn backend inv = customerSession inv := by
  unfold customerOn
  rw [ask_eq]
  rfl

theorem linesOn_eq (id : InvoiceId) : linesOn backend id = query fun db => db.linesOf id :=
  ask_eq backend .listLines _

theorem draftOn_eq (ctx : CoreCtx) (input : DraftInvoiceInput) :
    draftOn backend ctx input = draftSession ctx input := by
  have lookup : lookupKeyOn backend input.idempotencyKey = lookupKey input.idempotencyKey := by
    cases input.idempotencyKey with
    | none => rfl
    | some key => exact ask_eq backend .findByIdempotencyKey _
  unfold draftOn draftSession
  rw [lookup]
  congr 1
  funext _
  congr 1
  funext found
  cases found with
  | none => rfl
  | some existing =>
    show (linesOn backend existing.id >>= _) = _
    rw [linesOn_eq]
    rfl

/-- An issue of an invoice, when its count is accepted. -/
theorem issueOn_eq (accepted : backend.Accepts countInvoicesSql 2) (ctx : CoreCtx)
    (input : IssueInvoiceInput) : issueOn backend ctx input = issueSession ctx input := by
  have count : countInvoicesOn backend ctx.now.year =
      query fun db => countInvoicesIssuedInYear db ctx.now.year := if_pos accepted
  unfold issueOn issueSession
  rw [invoiceOn_eq, linesOn_eq]
  simp only [customerOn_eq, count]

theorem markPaidOn_eq (ctx : CoreCtx) (input : MarkPaidInput) :
    markPaidOn backend ctx input = markPaidSession ctx input := by
  unfold markPaidOn
  rw [invoiceOn_eq]
  rfl

theorem voidOn_eq (ctx : CoreCtx) (input : VoidInvoiceInput) :
    voidOn backend ctx input = voidSession ctx input := by
  unfold voidOn
  rw [invoiceOn_eq]
  rfl

theorem sendOn_eq (call : SendCall) : sendOn backend call = sendSession call := by
  have lookup : lookupSendOn backend call.invoiceId call.key = lookupSend call.invoiceId call.key := by
    cases call.key with
    | none => rfl
    | some key => exact ask_eq backend .findSend _
  have rest : sendOrOn backend call = sendOr call := by
    funext record
    cases record with
    | none =>
      unfold sendOrOn
      rw [invoiceOn_eq, linesOn_eq]
      simp only [customerOn_eq]
      rfl
    | some record =>
      unfold sendOrOn
      rw [invoiceOn_eq, linesOn_eq]
      simp only [customerOn_eq]
      rfl
  unfold sendOn
  rw [lookup, rest]
  rfl

theorem createCreditOn_eq (ctx : CoreCtx) (input : CreateCreditNoteInput) :
    createCreditOn backend ctx input = createCreditSession ctx input := by
  unfold createCreditOn
  rw [invoiceOn_eq]
  rfl

/-- An issue of a credit note, when its count is accepted. -/
theorem issueCreditOn_eq (accepted : backend.Accepts countCreditNotesSql 2) (ctx : CoreCtx)
    (input : IssueCreditNoteInput) : issueCreditOn backend ctx input = issueCreditSession ctx input := by
  have count : countCreditNotesOn backend ctx.now.year =
      query fun db => countCreditNotesIssuedInYear db ctx.now.year := if_pos accepted
  unfold issueCreditOn
  rw [ask_eq, count]
  rfl

end Same

theorem Prepared.bind_sessionOn {α : Type} (backend : Backend) (program : CommandSession (Prepared α)) :
    program >>= Prepared.sessionOn backend = program >>= Prepared.session := by
  congr 1
  funext prepared
  exact prepared.sessionOn_eq backend

theorem CreditTx.bind_sessionOn {α : Type} (backend : Backend) (program : CommandSession CreditTx)
    (output : CreditNote → α) :
    program >>= CreditTx.sessionOn backend output = program >>= CreditTx.session output := by
  congr 1
  funext tx
  exact tx.sessionOn_eq backend output

/-- Sessions with texts are the sessions without, wherever the counts are accepted. -/
theorem sessionOn_eq (command : AtomicCommand) (backend : Backend)
    (invoices : command.Issues → backend.Accepts countInvoicesSql 2)
    (notes : command.Issues → backend.Accepts countCreditNotesSql 2) :
    command.sessionOn backend = command.session := by
  cases command with
  | draftInvoice ctx input => exact (Prepared.bind_sessionOn backend _).trans (by rw [draftOn_eq]; rfl)
  | issueInvoice ctx input =>
    exact (Prepared.bind_sessionOn backend _).trans (by rw [issueOn_eq backend (invoices trivial)]; rfl)
  | sendInvoice call => exact (Prepared.bind_sessionOn backend _).trans (by rw [sendOn_eq]; rfl)
  | markPaid ctx input => exact (Prepared.bind_sessionOn backend _).trans (by rw [markPaidOn_eq]; rfl)
  | voidInvoice ctx input => exact (Prepared.bind_sessionOn backend _).trans (by rw [voidOn_eq]; rfl)
  | createCreditNote ctx input =>
    exact (CreditTx.bind_sessionOn backend _ _).trans (by rw [createCreditOn_eq]; rfl)
  | issueCreditNote ctx input =>
    exact (CreditTx.bind_sessionOn backend _ _).trans (by rw [issueCreditOn_eq backend (notes trivial)]; rfl)

/-- **On SQLite the texts make no difference.** -/
theorem sessionOn_sqlite (command : AtomicCommand) : command.sessionOn .sqlite = command.session :=
  sessionOn_eq command .sqlite (fun _ => (countSql_accepts (.inl rfl)).1)
    (fun _ => (countSql_accepts (.inr rfl)).1)

/-- **A command that does not issue is the same on every backend.** -/
theorem sessionOn_rewritten (command : AtomicCommand) (backend : Backend) (kept : ¬ command.Issues) :
    command.sessionOn backend = command.session :=
  sessionOn_eq command backend (fun issues => absurd issues kept) (fun issues => absurd issues kept)

/-! ### Where they do -/

/-- A query whose text is refused never succeeds. -/
theorem fetch_neverOk {α : Type} {backend : Backend} {sql : String} {binds : ℕ}
    (refuses : ¬ backend.Accepts sql binds) (select : Db → α) : NeverOk (fetch backend sql binds select) := by
  unfold fetch
  rw [if_neg refuses]
  exact neverOk_refused

theorem issueOn_neverOk (ctx : CoreCtx) (input : IssueInvoiceInput) :
    NeverOk (issueOn .postgres ctx input) := by
  have count : NeverOk (countInvoicesOn .postgres ctx.now.year) :=
    fetch_neverOk (countSql_accepts (.inl rfl)).2 _
  unfold issueOn
  refine NeverOk.later (fun inv => ?_) _
  refine NeverOk.later (fun lines => ?_) _
  refine NeverOk.later (fun toState => ?_) _
  refine NeverOk.later (fun customer => ?_) _
  refine NeverOk.later (fun ready => ?_) _
  exact count.bind _

theorem issueCreditOn_neverOk (ctx : CoreCtx) (input : IssueCreditNoteInput) :
    NeverOk (issueCreditOn .postgres ctx input) := by
  have count : NeverOk (countCreditNotesOn .postgres ctx.now.year) :=
    fetch_neverOk (countSql_accepts (.inr rfl)).2 _
  unfold issueCreditOn
  refine NeverOk.later (fun found => ?_) _
  refine NeverOk.later (fun note => ?_) _
  refine NeverOk.later (fun toState => ?_) _
  exact count.bind _

/-- **No command that issues succeeds on Postgres.** -/
theorem issues_neverOk (command : AtomicCommand) (issues : command.Issues) :
    NeverOk (command.sessionOn .postgres) := by
  cases command with
  | issueInvoice ctx input => exact (issueOn_neverOk ctx input).bind _
  | issueCreditNote ctx input => exact (issueCreditOn_neverOk ctx input).bind _
  | draftInvoice ctx input => exact absurd issues not_false
  | sendInvoice call => exact absurd issues not_false
  | markPaid ctx input => exact absurd issues not_false
  | voidInvoice ctx input => exact absurd issues not_false
  | createCreditNote ctx input => exact absurd issues not_false

theorem issues_refused (command : AtomicCommand) (issues : command.Issues) (faults : Faults)
    (db after : Db) (output : command.Output) :
    Session.run (command.sessionOn .postgres) faults db ≠ (.ok output, after) := by
  intro postgres
  obtain ⟨e, failed⟩ := issues_neverOk command issues faults ⟨db, none, 0⟩
  have ok : (command.sessionOn .postgres faults ⟨db, none, 0⟩).1 = .ok output :=
    congrArg Prod.fst postgres
  rw [failed] at ok
  cases ok

/-- **Backend independence**: on any rows, whichever database calls fail, a call that succeeds on SQLite
succeeds on Postgres, with the same output and the same rows, exactly when it does not issue. -/
theorem backend_independent_iff {command : AtomicCommand} {faults : Faults} {db after : Db}
    {output : command.Output}
    (sqlite : Session.run (command.sessionOn .sqlite) faults db = (.ok output, after)) :
    Session.run (command.sessionOn .postgres) faults db = (.ok output, after) ↔ ¬ command.Issues := by
  constructor
  · intro postgres issues
    exact issues_refused command issues faults db after output postgres
  · intro kept
    rw [sessionOn_rewritten command .postgres kept, ← sessionOn_sqlite command]
    exact sqlite

/-- A command that succeeds succeeds on SQLite. -/
theorem sqlite_ok (command : AtomicCommand) {db : Db} {output : command.Output}
    (done : (command.execute db).1 = .ok output) :
    Session.run (command.sessionOn .sqlite) noFaults db = (.ok output, (command.execute db).2) := by
  rw [sessionOn_sqlite, session_faultless, done]
  rfl

/-- A void of the invoice of 100.00 CAD. -/
theorem backend_independent_iff_void :
    ∃ output, Session.run ((AtomicCommand.voidInvoice (sampleCtx (oneOClock firstOfMarch) 3)
        sampleVoid).sessionOn .postgres) noFaults issuedDb =
      (.ok output, (voidInvoice (sampleCtx (oneOClock firstOfMarch) 3) sampleVoid issuedDb).2) := by
  have state : ((voidInvoice (sampleCtx (oneOClock firstOfMarch) 3) sampleVoid issuedDb).1.map
      fun output => output.invoice.state) = .ok .voided := by decide +kernel
  obtain ⟨output, done, _⟩ := map_ok state
  have sqlite := sqlite_ok (.voidInvoice _ sampleVoid) done
  exact ⟨output, (backend_independent_iff sqlite).mpr not_false⟩

/-- **An issue of the draft of 100.00 CAD succeeds on SQLite and not on Postgres.** -/
theorem issue_on_postgres :
    ¬ ∀ (command : AtomicCommand) (faults : Faults) (db after : Db) (output : command.Output),
      Session.run (command.sessionOn .sqlite) faults db = (.ok output, after) →
        Session.run (command.sessionOn .postgres) faults db = (.ok output, after) := by
  intro independent
  have state : ((issueInvoice (sampleCtx (oneOClock firstOfMarch) 2) sampleIssue keptDraftDb).1.map
      fun output => output.invoice.state) = .ok .issued := by decide +kernel
  obtain ⟨output, done, _⟩ := map_ok state
  have sqlite := sqlite_ok (.issueInvoice _ sampleIssue) done
  exact issues_refused (.issueInvoice _ sampleIssue) trivial noFaults keptDraftDb _ output
    (independent (.issueInvoice _ sampleIssue) noFaults _ _ output sqlite)

end Invoicing
