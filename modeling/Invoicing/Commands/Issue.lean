/-
**`issue_invoice`.**

* `prepareIssue` — the first step: load the draft, its lines and its customer, ask the transition
  table, and resolve the tax of every line.
* `countInvoicesIssuedInYear` — the second step: the count the sequence number comes from, read
  outside the transaction. Counts and sequence numbers are 32-bit.
* `finishIssue` — number, freeze and render, and the write set of the third step.
* `issueInvoice` — the three steps in a row. **`finishIssue_write`** — everything an issue writes.
* **`onlyPanics_prepareIssue`** — a draft that was prepared once is stopped by an overflow only.
-/

import Invoicing.Commands.Ctx

namespace Invoicing

open Chrono DigitText

structure IssueInvoiceInput where
  invoiceId : InvoiceId
  idempotencyKey : Option String
  actor : Actor
  channel : Channel
  deriving DecidableEq

structure IssueInvoiceOutput where
  invoice : Invoice
  lines : List InvoiceLine
  html : String
  pdf : List UInt8

/-! ### Load and tax -/

/-- The lines done so far and their sums. -/
structure IssueSums where
  lines : List InvoiceLine
  subtotal : Decimal
  taxTotal : Decimal
  nexusReview : Bool

/-- Resolve the tax of a line and add it up. -/
def issueLine (ctx : CoreCtx) (inv : Invoice) (customer : Customer) (sums : IssueSums)
    (line : InvoiceLine) : CoreResult IssueSums := do
  let resolved ← (resolveTax ctx.arith inv.sellerJurisdiction customer.address line inv.currency
    ctx.taxTable ctx.nexus NexusFigures.default ctx.now).mapError (Stop.map CoreError.tax)
  let product ← orPanic (ctx.arith.mul line.quantity line.unitPrice)
  let lineSubtotal := inv.currency.round product
  let lineTotal ← orPanic (ctx.arith.add lineSubtotal resolved.amount)
  let subtotal ← orPanic (ctx.arith.add sums.subtotal lineSubtotal)
  let taxTotal ← orPanic (ctx.arith.add sums.taxTotal resolved.amount)
  return { lines := sums.lines ++ [{ line with
             taxRateIds := resolved.appliedRateIds
             taxAmount := resolved.amount
             lineTotal := inv.currency.round lineTotal }]
           subtotal := subtotal
           taxTotal := taxTotal
           nexusReview := sums.nexusReview || resolved.nexusReview }

/-- What an issue has in hand before it counts. -/
structure IssueReady where
  loaded : Invoice
  toState : InvoiceState
  customer : Customer
  lines : List InvoiceLine
  subtotal : Decimal
  taxTotal : Decimal
  total : Decimal
  nexusReview : Bool

def prepareIssue (ctx : CoreCtx) (input : IssueInvoiceInput) (db : Db) :
    CoreResult IssueReady := do
  let inv ← invoiceOf db input.invoiceId
  let lines := db.linesOf input.invoiceId
  let toState ← orRejected (nextState inv.state .issue)
  let customer ← customerOf db inv
  let sums ← lines.foldlM (issueLine ctx inv customer) ⟨[], Decimal.zero, Decimal.zero, false⟩
  let subtotal := inv.currency.round sums.subtotal
  let taxTotal := inv.currency.round sums.taxTotal
  let total ← orPanic (ctx.arith.add subtotal taxTotal)
  return ⟨inv, toState, customer, sums.lines, subtotal, taxTotal, inv.currency.round total,
    sums.nexusReview⟩

/-! ### Count and number -/

/-- `u32` values. -/
def wrapU32 (n : ℕ) : ℕ := n % 2 ^ 32

def countInvoicesIssuedInYear (db : Db) (year : ℤ) : ℕ := wrapU32 (db.countIssuedInvoices year)

/-- The sequence number after a count; the addition wraps. -/
def nextSequence (count : ℕ) : ℕ := wrapU32 (count + 1)

/-- A document number. -/
def documentNumber (series : String) (year : ℤ) (sequence : ℕ) : String :=
  series ++ "-" ++ String.ofList (paddedYear year) ++ "-" ++ String.ofList (padDigits 4 sequence)

/-- `INV-YYYY-NNNN`. -/
def invoiceNumber (year : ℤ) (sequence : ℕ) : String := documentNumber "INV" year sequence

/-! ### Freeze and render -/

/-- The issued row, before the blob reference. -/
def issuedRow (ctx : CoreCtx) (ready : IssueReady) (count : ℕ) : Invoice :=
  { ready.loaded with
    state := .issued
    number := some (invoiceNumber ctx.now.year (nextSequence count))
    issuedAt := some ctx.now
    subtotal := ready.subtotal
    taxTotal := ready.taxTotal
    total := ready.total
    nexusReview := ready.nexusReview
    updatedAt := ctx.now }

/-- Store the PDF, when there is a blob store; the reference to put on the row. -/
def storePdf (ctx : CoreCtx) (inv : Invoice) (pdf : List UInt8) : CoreResult (Option String) :=
  match ctx.blobStore with
  | none => .ok inv.pdfBlobRef
  | some put =>
      match put pdf with
      | .error message => fail (.repo (.blob message))
      | .ok ref => .ok (some ref)

/-- The write set of an issue. -/
def issueTx (ctx : CoreCtx) (input : IssueInvoiceInput) (ready : IssueReady) (count : ℕ)
    (blobRef : Option String) : InvoiceTx where
  invoice := { issuedRow ctx ready count with pdfBlobRef := blobRef }
  lines := some ready.lines
  history := transitionRow ctx ready.loaded ready.toState "issue" input.actor input.channel ctx.now
  sendKey := none

def finishIssue (ctx : CoreCtx) (input : IssueInvoiceInput) (ready : IssueReady) (count : ℕ) :
    CoreResult (Prepared IssueInvoiceOutput) := do
  let inv := issuedRow ctx ready count
  let (html, pdf) ← ctx.render inv ready.customer ready.lines
  let blobRef ← storePdf ctx inv pdf
  let tx := issueTx ctx input ready count blobRef
  return .write (some ready.loaded) tx ⟨tx.invoice, ready.lines, html, pdf⟩

theorem schemaFree_issueLine (ctx : CoreCtx) (inv : Invoice) (customer : Customer) (sums : IssueSums)
    (line : InvoiceLine) : SchemaFree (issueLine ctx inv customer sums line) := by
  refine SchemaFree.bind ?_ fun _ => (schemaFree_orPanic _).bind fun _ =>
    (schemaFree_orPanic _).bind fun _ => (schemaFree_orPanic _).bind fun _ =>
      (schemaFree_orPanic _).bind fun _ => .ok _
  intro e same
  cases resolved : resolveTax ctx.arith inv.sellerJurisdiction customer.address line inv.currency
    ctx.taxTable ctx.nexus NexusFigures.default ctx.now with
  | error stop =>
    rw [resolved] at same
    cases stop <;> cases same
  | ok tax =>
    rw [resolved] at same
    cases same

theorem schemaFree_prepareIssue (ctx : CoreCtx) (input : IssueInvoiceInput) (db : Db) :
    SchemaFree (prepareIssue ctx input db) :=
  (schemaFree_invoiceOf _ _).bind fun inv => (schemaFree_orRejected _).bind fun _ =>
    (schemaFree_customerOf _ _).bind fun customer =>
      (SchemaFree.foldlM (schemaFree_issueLine ctx inv customer) _ _).bind fun _ =>
        (schemaFree_orPanic _).bind fun _ => .ok _

theorem schemaFree_finishIssue (ctx : CoreCtx) (input : IssueInvoiceInput) (ready : IssueReady)
    (count : ℕ) : SchemaFree (finishIssue ctx input ready count) := by
  refine (schemaFree_render _ _ _ _).bind fun (_, pdf) => SchemaFree.bind ?_ fun _ => .ok _
  unfold storePdf
  split
  · exact .ok _
  · split
    · rename_i message _
      intro e same
      cases same
      exact ⟨message, rfl⟩
    · exact .ok _

/-- **`issue_invoice`**, with nothing in between its steps. -/
def issueInvoice (ctx : CoreCtx) (input : IssueInvoiceInput) (db : Db) :
    CoreResult IssueInvoiceOutput × Db :=
  perform (do
    let ready ← prepareIssue ctx input db
    finishIssue ctx input ready (countInvoicesIssuedInYear db ctx.now.year)) db

/-! ### What an issue does -/

theorem issueLine_ok {ctx : CoreCtx} {inv : Invoice} {customer : Customer} {sums after : IssueSums}
    {line : InvoiceLine} (done : issueLine ctx inv customer sums line = .ok after) :
    ∃ taxed : InvoiceLine, after.lines = sums.lines ++ [taxed] ∧ taxed.place = line.place := by
  obtain ⟨_, _, rest⟩ := bind_ok done
  obtain ⟨_, _, rest⟩ := bind_ok rest
  obtain ⟨_, _, rest⟩ := bind_ok rest
  obtain ⟨_, _, rest⟩ := bind_ok rest
  obtain ⟨_, _, rest⟩ := bind_ok rest
  cases rest
  exact ⟨_, rfl, rfl⟩

/-- The lines an issue computed keep their ids, owners and positions. -/
theorem issueLines_places {ctx : CoreCtx} {inv : Invoice} {customer : Customer}
    {lines : List InvoiceLine} {sums after : IssueSums}
    (done : lines.foldlM (issueLine ctx inv customer) sums = .ok after) :
    after.lines.map InvoiceLine.place = (sums.lines ++ lines).map InvoiceLine.place := by
  induction lines generalizing sums with
  | nil =>
    cases done
    simp
  | cons line rest ih =>
    rw [List.foldlM_cons] at done
    obtain ⟨next, first, done⟩ := bind_ok done
    obtain ⟨taxed, lines, place⟩ := issueLine_ok first
    rw [ih done, lines]
    simp [place]

/-- **What the first step found.** -/
theorem prepareIssue_ok {ctx : CoreCtx} {input : IssueInvoiceInput} {db : Db} {ready : IssueReady}
    (prepared : prepareIssue ctx input db = .ok ready) :
    db.getInvoice input.invoiceId = some ready.loaded ∧ ready.loaded.state = .draft ∧
      ready.toState = .issued ∧ db.getCustomer ready.loaded.customerId = some ready.customer ∧
      ready.lines.map InvoiceLine.place =
        (db.linesOf input.invoiceId).map InvoiceLine.place := by
  obtain ⟨inv, found, rest⟩ := bind_ok prepared
  obtain ⟨toState, accepted, rest⟩ := bind_ok rest
  obtain ⟨customer, buyer, rest⟩ := bind_ok rest
  obtain ⟨sums, summed, rest⟩ := bind_ok rest
  obtain ⟨total, _, rest⟩ := bind_ok rest
  cases rest
  obtain ⟨draft, issued⟩ := nextState_issue (orRejected_ok accepted)
  refine ⟨orNotFound_ok found, draft, issued, orNotFound_ok buyer, ?_⟩
  simpa using issueLines_places summed

/-- A buyer whose tax was resolved is classified. -/
theorem issueLine_classified {ctx : CoreCtx} {inv : Invoice} {customer : Customer} {sums after : IssueSums}
    {line : InvoiceLine} (done : issueLine ctx inv customer sums line = .ok after) :
    ∃ scope, classify inv.sellerJurisdiction customer.address = .ok scope := by
  obtain ⟨resolved, tax, _⟩ := bind_ok done
  cases classified : classify inv.sellerJurisdiction customer.address with
  | ok scope => exact ⟨scope, rfl⟩
  | error e =>
    unfold resolveTax at tax
    rw [classified] at tax
    cases tax

theorem onlyPanics_issueLine {inv : Invoice} {customer : Customer} {scope : BuyerScope}
    (classified : classify inv.sellerJurisdiction customer.address = .ok scope) (ctx : CoreCtx)
    (sums : IssueSums) (line : InvoiceLine) : OnlyPanics (issueLine ctx inv customer sums line) :=
  ((onlyPanics_resolveTax classified _ _ _ _ _ _ _).mapError _).bind fun _ =>
    (onlyPanics_orPanic _).bind fun _ => (onlyPanics_orPanic _).bind fun _ =>
      (onlyPanics_orPanic _).bind fun _ => (onlyPanics_orPanic _).bind fun _ => .ok _

/-- **A draft that was prepared once is stopped by an overflow only**, under any configuration and at any
time. -/
theorem onlyPanics_prepareIssue {ctx : CoreCtx} {input : IssueInvoiceInput} {db : Db} {ready : IssueReady}
    (prepared : prepareIssue ctx input db = .ok ready) (retry : CoreCtx) :
    OnlyPanics (prepareIssue retry input db) := by
  obtain ⟨inv, found, rest⟩ := bind_ok prepared
  obtain ⟨toState, accepted, rest⟩ := bind_ok rest
  obtain ⟨customer, buyer, rest⟩ := bind_ok rest
  obtain ⟨sums, summed, _⟩ := bind_ok rest
  have lines : OnlyPanics ((db.linesOf input.invoiceId).foldlM (issueLine retry inv customer)
      ⟨[], Decimal.zero, Decimal.zero, false⟩) := by
    refine OnlyPanics.foldlM (fun sums line there => ?_) _
    obtain ⟨before, after, turn⟩ := ok_of_mem_foldlM summed there
    obtain ⟨scope, classified⟩ := issueLine_classified turn
    exact onlyPanics_issueLine classified retry sums line
  unfold prepareIssue
  rw [found]
  show OnlyPanics (orRejected (nextState inv.state .issue) >>= _)
  rw [accepted]
  show OnlyPanics (customerOf db inv >>= _)
  rw [buyer]
  exact lines.bind fun _ => (onlyPanics_orPanic _).bind fun _ => .ok _

/-- **What an issue writes.** -/
theorem finishIssue_write {ctx : CoreCtx} {input : IssueInvoiceInput} {ready : IssueReady}
    {count : ℕ} {prepared : Prepared IssueInvoiceOutput}
    (finished : finishIssue ctx input ready count = .ok prepared) :
    ∃ blobRef html pdf, prepared = .write (some ready.loaded)
      (issueTx ctx input ready count blobRef)
      ⟨(issueTx ctx input ready count blobRef).invoice, ready.lines, html, pdf⟩ := by
  obtain ⟨⟨html, pdf⟩, _, rest⟩ := bind_ok finished
  obtain ⟨blobRef, _, rest⟩ := bind_ok rest
  cases rest
  exact ⟨blobRef, html, pdf, rfl⟩

/-- **What an issue that succeeded did** to the row it was asked for. -/
theorem issueInvoice_ok {ctx : CoreCtx} {input : IssueInvoiceInput} {db : Db}
    {output : IssueInvoiceOutput} (done : (issueInvoice ctx input db).1 = .ok output) :
    ∃ inv, db.getInvoice input.invoiceId = some inv ∧ inv.state = .draft ∧
      output.invoice.state = .issued ∧ output.invoice.idempotencyKey = inv.idempotencyKey ∧
      (issueInvoice ctx input db).2.getInvoice input.invoiceId = some output.invoice := by
  unfold issueInvoice at done ⊢
  rcases perform_ok done with ⟨answered, _⟩ | ⟨loaded, tx, written, committed⟩
  · obtain ⟨ready, _, finished⟩ := bind_ok answered
    obtain ⟨blobRef, html, pdf, shape⟩ := finishIssue_write finished
    cases shape
  · obtain ⟨ready, prepared, finished⟩ := bind_ok written
    obtain ⟨blobRef, html, pdf, shape⟩ := finishIssue_write finished
    cases shape
    obtain ⟨found, draft, _⟩ := prepareIssue_ok prepared
    have target : ready.loaded.id = input.invoiceId := KeyedTable.key_of_find found
    refine ⟨ready.loaded, found, draft, rfl, rfl, ?_⟩
    rw [(InvoiceTx.commit_ok committed).1, InvoiceTx.getInvoice_apply]
    show (if input.invoiceId = ready.loaded.id then
      some (KeyedTable.merged Invoice.mergeRow (db.getInvoice ready.loaded.id) _) else _) = _
    rw [if_pos target.symm, target, found]
    rfl

end Invoicing
