/-
**Commands as runs of database steps.**

* `Request` — a call of an invoice command with everything it uses. `Request.execute` is the command
  executed alone.
* `Run` — where a call stands: not started, about to count (an issue), about to commit, or done.
  `advance` takes its next database step: load, count, or commit. `Run.elsewhere` stands for any
  command that writes other tables.
* `Edit` — everything a write set can be, one case for each command. **`load_committing`**,
  **`advance_cases`** — a loaded run carries an edit of the row it loaded, and the tables change only
  when an edit commits or a command elsewhere writes.
* **`solo_execute`** — a run that takes its steps alone does what the command does.
-/

import Invoicing.Api.View
import Invoicing.Commands.Draft
import Invoicing.Commands.Issue
import Invoicing.Commands.Pay
import Invoicing.Commands.Send
import Invoicing.Lib.Interleave

namespace Invoicing

open Interleave

/-! ### Requests -/

/-- A call of an invoice command. -/
inductive Request
  | draft (ctx : CoreCtx) (input : DraftInvoiceInput)
  | issue (ctx : CoreCtx) (input : IssueInvoiceInput)
  | send (ctx : CoreCtx) (input : SendInvoiceInput)
  | sendRender (ctx : CoreCtx) (input : SendInvoiceRenderInput)
  | view (state : ApiState) (token : String)
  | markPaid (ctx : CoreCtx) (input : MarkPaidInput)
  | void (ctx : CoreCtx) (input : VoidInvoiceInput)

/-- What a call returns. -/
inductive Reply
  | drafted (output : DraftInvoiceOutput)
  | issued (output : IssueInvoiceOutput)
  | sent (output : SendInvoiceOutput)
  | viewed (html : String)
  | paid (output : MarkPaidOutput)
  | voided (output : VoidInvoiceOutput)

abbrev Outcome := Except (Stop ApiError) Reply

/-- A command's result as an outcome. -/
def toOutcome {α : Type} (reply : α → Reply) (result : CoreResult α) : Outcome :=
  match result with
  | .error e => .error (e.map ApiError.core)
  | .ok output => .ok (reply output)

/-- The context a call uses. -/
def Request.ctx : Request → CoreCtx
  | .draft ctx _ | .issue ctx _ | .send ctx _ | .sendRender ctx _ | .markPaid ctx _ | .void ctx _ =>
      ctx
  | .view state _ => state.ctx

/-- The command executed alone. -/
def Request.execute (request : Request) (db : Db) : Outcome × Db :=
  match request with
  | .draft ctx input => (draftInvoice ctx input db).map (toOutcome .drafted) id
  | .issue ctx input => (issueInvoice ctx input db).map (toOutcome .issued) id
  | .send ctx input => (sendInvoice ctx input db).map (toOutcome .sent) id
  | .sendRender ctx input => (sendInvoiceRender ctx input db).map (toOutcome .sent) id
  | .view state token => (viewInvoice state token db).map
      (fun result => match result with
        | .error e => .error e
        | .ok html => .ok (.viewed html)) id
  | .markPaid ctx input => (Invoicing.markPaid ctx input db).map (toOutcome .paid) id
  | .void ctx input => (voidInvoice ctx input db).map (toOutcome .voided) id

/-! ### Steps -/

/-- Where a call stands. -/
inductive Run
  | start (request : Request)
  | counting (ctx : CoreCtx) (input : IssueInvoiceInput) (ready : IssueReady)
  | committing (request : Request) (loaded : Option Invoice) (tx : InvoiceTx) (reply : Reply)
  | finished (request : Request) (outcome : Outcome)
  | elsewhere (write : Db → Db)

/-- Where a call stands once it is prepared. -/
def prepared {α : Type} (request : Request) (reply : α → Reply)
    (result : CoreResult (Prepared α)) : Run :=
  match result with
  | .error e => .finished request (.error (e.map ApiError.core))
  | .ok (.answer output) => .finished request (.ok (reply output))
  | .ok (.write loaded tx output) => .committing request loaded tx (reply output)

/-- The first step: load and check. -/
def Request.load (request : Request) (db : Db) : Run :=
  match request with
  | .draft ctx input => prepared request .drafted (prepareDraft ctx input db)
  | .issue ctx input =>
      match prepareIssue ctx input db with
      | .error e => .finished request (.error (e.map ApiError.core))
      | .ok ready => .counting ctx input ready
  | .send ctx input => prepared request .sent (prepareSendInvoice ctx input db)
  | .sendRender ctx input => prepared request .sent (prepareSendRender ctx input db)
  | .view state token =>
      match prepareView state token db with
      | .error e => .finished request (.error e)
      | .ok (.answer html) => .finished request (.ok (.viewed html))
      | .ok (.write loaded tx html) => .committing request loaded tx (.viewed html)
  | .markPaid ctx input => prepared request .paid (prepareMarkPaid ctx input db)
  | .void ctx input => prepared request .voided (prepareVoid ctx input db)

/-- The next database step of a run. -/
def advance (run : Run) (db : Db) : Run × Db :=
  match run with
  | .start request => (request.load db, db)
  | .counting ctx input ready =>
      (prepared (.issue ctx input) .issued
        (finishIssue ctx input ready (countInvoicesIssuedInYear db ctx.now.year)), db)
  | .committing request _ tx reply =>
      match tx.commit db with
      | .error e => (.finished request (.error (.error (.core (.repo e)))), db)
      | .ok db' => (.finished request (.ok reply), db')
  | .finished request outcome => (.finished request outcome, db)
  | .elsewhere write =>
      (.elsewhere write, { write db with
        invoices := db.invoices
        lines := db.lines
        history := db.history
        sendKeys := db.sendKeys })

/-! ### What a step can do -/

/-- Everything a write set can be, with the checks made before it. -/
inductive Edit : Request → Option Invoice → InvoiceTx → Prop
  | draft {ctx : CoreCtx} {input : DraftInvoiceInput} {lines : List InvoiceLine}
      {subtotal : Decimal} (summed : draftLines ctx input.currency input.lines = some (lines, subtotal)) :
      Edit (.draft ctx input) none (draftTx ctx input lines subtotal)
  | issue {ctx : CoreCtx} {input : IssueInvoiceInput} {ready : IssueReady} {count : ℕ}
      {blobRef : Option String} (draft : ready.loaded.state = .draft)
      (toState : ready.toState = .issued) (target : ready.loaded.id = input.invoiceId)
      (owners : ∀ line ∈ ready.lines, line.invoiceId = ready.loaded.id) :
      Edit (.issue ctx input) (some ready.loaded) (issueTx ctx input ready count blobRef)
  | send {ctx : CoreCtx} {input : SendInvoiceInput} {inv : Invoice} {deliveredTo : String}
      (target : inv.id = input.invoiceId) (open' : inv.state = .issued ∨ inv.state = .sent) :
      Edit (.send ctx input) (some inv)
        (sendTx ctx inv .sent input.actor input.channel deliveredTo input.idempotencyKey)
  | sendRender {ctx : CoreCtx} {input : SendInvoiceRenderInput} {inv : Invoice}
      {deliveredTo : String} (target : inv.id = input.invoiceId)
      (open' : inv.state = .issued ∨ inv.state = .sent) :
      Edit (.sendRender ctx input) (some inv)
        (sendTx ctx inv .sent input.actor input.channel deliveredTo input.idempotencyKey)
  | view {state : ApiState} {token : String} {inv : Invoice}
      (verified : state.verifyLink token = some inv.id) (sent : inv.state = .sent) :
      Edit (.view state token) (some inv) (viewTx state.ctx inv)
  | markPaid {ctx : CoreCtx} {input : MarkPaidInput} {inv : Invoice} {amountPaid : Decimal}
      {toState : InvoiceState} (target : inv.id = input.invoiceId) (positive : ¬ input.amount ≤ Decimal.zero)
      (summed : ctx.arith.add inv.amountPaid input.amount = some amountPaid)
      (accepted : nextState inv.state (.pay amountPaid inv.total) = .ok toState) :
      Edit (.markPaid ctx input) (some inv) (payTx ctx input inv amountPaid toState)
  | void {ctx : CoreCtx} {input : VoidInvoiceInput} {inv : Invoice} {toState : InvoiceState}
      (target : inv.id = input.invoiceId) (accepted : nextState inv.state .void = .ok toState) :
      Edit (.void ctx input) (some inv) (voidTx ctx input inv toState)

/-- The invoice a call is on; for a draft, the one it creates. -/
def Request.On (request : Request) (id : InvoiceId) : Prop :=
  match request with
  | .draft ctx _ => ctx.newInvoiceId = id
  | .issue _ input => input.invoiceId = id
  | .send _ input => input.invoiceId = id
  | .sendRender _ input => input.invoiceId = id
  | .view state token => state.verifyLink token = some id
  | .markPaid _ input => input.invoiceId = id
  | .void _ input => input.invoiceId = id

/-- A write set is on the invoice of its call. -/
theorem Edit.on {request : Request} {loaded : Option Invoice} {tx : InvoiceTx}
    (edit : Edit request loaded tx) : request.On tx.invoice.id := by
  cases edit with
  | draft summed => rfl
  | issue draft toState target owners => exact target.symm
  | send target open' => exact target.symm
  | sendRender target open' => exact target.symm
  | view verified sent => exact verified
  | markPaid target positive summed accepted => exact target.symm
  | void target accepted => exact target.symm

/-- The history row of an edit belongs to its invoice, and so does the loaded row. -/
theorem Edit.owners {request : Request} {loaded : Option Invoice} {tx : InvoiceTx}
    (edit : Edit request loaded tx) :
    tx.history.invoiceId = tx.invoice.id ∧ ∀ inv, loaded = some inv → inv.id = tx.invoice.id := by
  cases edit with
  | draft => exact ⟨rfl, fun _ absent => by cases absent⟩
  | _ =>
    refine ⟨rfl, ?_⟩
    intro inv same
    cases same
    rfl

/-- The lines of a write set belong to its invoice. -/
theorem Edit.lines_owner {request : Request} {loaded : Option Invoice} {tx : InvoiceTx}
    (edit : Edit request loaded tx) :
    ∀ new, tx.lines = some new → ∀ line ∈ new, line.invoiceId = tx.invoice.id := by
  intro new same
  cases edit with
  | draft summed =>
    cases same
    exact draftLines_owner summed
  | issue draft toState target owners =>
    cases same
    exact owners
  | _ => cases same

/-- What an issue has in hand while it counts. -/
structure IssueReady.Checked (ready : IssueReady) (input : IssueInvoiceInput) : Prop where
  draft : ready.loaded.state = .draft
  toState : ready.toState = .issued
  target : ready.loaded.id = input.invoiceId
  owners : ∀ line ∈ ready.lines, line.invoiceId = ready.loaded.id

/-- A run that carries what its steps so far computed. -/
def Run.WellFormed : Run → Prop
  | .counting _ input ready => ready.Checked input
  | .committing request loaded tx _ => Edit request loaded tx
  | _ => True

theorem getInvoice_id {db : Db} {id : InvoiceId} {inv : Invoice}
    (found : db.getInvoice id = some inv) : inv.id = id := KeyedTable.key_of_find found

theorem prepareIssue_checked {ctx : CoreCtx} {input : IssueInvoiceInput} {db : Db}
    {ready : IssueReady} (done : prepareIssue ctx input db = .ok ready) :
    ready.Checked input ∧ db.getInvoice input.invoiceId = some ready.loaded := by
  obtain ⟨found, draft, toState, _, places⟩ := prepareIssue_ok done
  have target := getInvoice_id found
  refine ⟨⟨draft, toState, target, ?_⟩, found⟩
  intro line member
  have place : line.place ∈ ready.lines.map InvoiceLine.place := List.mem_map_of_mem member
  rw [places, List.mem_map] at place
  obtain ⟨other, inDb, same⟩ := place
  have owner : other.invoiceId = line.invoiceId := congrArg (fun place => place.2.1) same
  rw [target, ← owner]
  exact Db.linesOf_owner other inDb

/-- A send that writes writes an edit of the row it loaded. -/
theorem prepareSendRender_write {ctx : CoreCtx} {input : SendInvoiceRenderInput} {db : Db}
    {loaded : Option Invoice} {tx : InvoiceTx} {output : SendInvoiceOutput}
    (done : prepareSendRender ctx input db = .ok (.write loaded tx output)) :
    ∃ inv, loaded = some inv ∧ db.getInvoice input.invoiceId = some inv ∧
      (inv.state = .issued ∨ inv.state = .sent) ∧
      tx = sendTx ctx inv .sent input.actor input.channel input.destinationUri
        input.idempotencyKey := by
  obtain ⟨_, _, rest⟩ := bind_ok done
  rcases replayOr_ok rest with ⟨_, _, _, _, answer⟩ | ⟨_, rest⟩
  · cases answer
  · obtain ⟨send, loadedSend, rest⟩ := bind_ok rest
    obtain ⟨found, target, _⟩ := prepareSend_ok loadedSend
    obtain ⟨open', toState⟩ := sendTarget_ok target
    cases rest
    exact ⟨send.invoice, rfl, found, open', by rw [toState]⟩

theorem prepareSendInvoice_write {ctx : CoreCtx} {input : SendInvoiceInput} {db : Db}
    {loaded : Option Invoice} {tx : InvoiceTx} {output : SendInvoiceOutput}
    (done : prepareSendInvoice ctx input db = .ok (.write loaded tx output)) :
    ∃ inv deliveredTo, loaded = some inv ∧ db.getInvoice input.invoiceId = some inv ∧
      (inv.state = .issued ∨ inv.state = .sent) ∧
      tx = sendTx ctx inv .sent input.actor input.channel deliveredTo input.idempotencyKey := by
  obtain ⟨_, _, rest⟩ := bind_ok done
  obtain ⟨_, _, rest⟩ := bind_ok rest
  rcases replayOr_ok rest with ⟨_, _, _, _, answer⟩ | ⟨_, rest⟩
  · cases answer
  · obtain ⟨send, loadedSend, rest⟩ := bind_ok rest
    obtain ⟨found, target, _⟩ := prepareSend_ok loadedSend
    obtain ⟨open', toState⟩ := sendTarget_ok target
    obtain ⟨deliveredTo, _, rest⟩ := bind_ok rest
    cases rest
    exact ⟨send.invoice, deliveredTo, rfl, found, open', by rw [toState]⟩

theorem prepared_committing {α : Type} {request request' : Request} {reply : α → Reply}
    {result : CoreResult (Prepared α)} {loaded : Option Invoice} {tx : InvoiceTx} {r : Reply}
    (there : prepared request reply result = .committing request' loaded tx r) :
    request' = request ∧ ∃ output, result = .ok (.write loaded tx output) ∧ r = reply output := by
  unfold prepared at there
  split at there
  · cases there
  · cases there
  · cases there
    exact ⟨rfl, _, rfl, rfl⟩

/-- **A loaded run carries an edit of the row it loaded.** -/
theorem load_committing {request request' : Request} {db : Db} {loaded : Option Invoice}
    {tx : InvoiceTx} {reply : Reply}
    (there : request.load db = .committing request' loaded tx reply) :
    request' = request ∧ Edit request loaded tx ∧
      ∀ inv, loaded = some inv → db.getInvoice inv.id = some inv := by
  have same : ∀ {id : InvoiceId} {inv : Invoice}, db.getInvoice id = some inv →
      ∀ inv', some inv = some inv' → db.getInvoice inv'.id = some inv' := by
    intro id inv found inv' same
    cases same
    rw [getInvoice_id found]
    exact found
  cases request with
  | draft ctx input =>
    obtain ⟨rfl, output, done, rfl⟩ := prepared_committing there
    obtain ⟨_, _, lines, subtotal, summed, rfl, rfl, _⟩ := prepareDraft_write done
    exact ⟨rfl, .draft summed, fun _ absent => by cases absent⟩
  | issue ctx input =>
    simp only [Request.load] at there
    split at there
    · cases there
    · cases there
  | send ctx input =>
    obtain ⟨rfl, output, done, rfl⟩ := prepared_committing there
    obtain ⟨inv, deliveredTo, rfl, found, open', rfl⟩ := prepareSendInvoice_write done
    exact ⟨rfl, .send (getInvoice_id found) open', same found⟩
  | sendRender ctx input =>
    obtain ⟨rfl, output, done, rfl⟩ := prepared_committing there
    obtain ⟨inv, rfl, found, open', rfl⟩ := prepareSendRender_write done
    exact ⟨rfl, .sendRender (getInvoice_id found) open', same found⟩
  | view state token =>
    simp only [Request.load] at there
    split at there
    · cases there
    · cases there
    · rename_i done
      cases there
      obtain ⟨id, inv, verified, found, sent, rfl, rfl⟩ := prepareView_write done
      rw [← getInvoice_id found] at verified
      exact ⟨rfl, .view verified sent, same found⟩
  | markPaid ctx input =>
    obtain ⟨rfl, output, done, rfl⟩ := prepared_committing there
    obtain ⟨positive, inv, amountPaid, toState, found, summed, accepted, shape⟩ :=
      prepareMarkPaid_ok done
    cases shape
    exact ⟨rfl, .markPaid (getInvoice_id found) positive summed accepted, same found⟩
  | void ctx input =>
    obtain ⟨rfl, output, done, rfl⟩ := prepared_committing there
    obtain ⟨inv, toState, found, accepted, shape⟩ := prepareVoid_ok done
    cases shape
    exact ⟨rfl, .void (getInvoice_id found) accepted, same found⟩

/-- Loaded runs are well formed. -/
theorem load_wellFormed (request : Request) (db : Db) : (request.load db).WellFormed := by
  cases there : request.load db with
  | committing request' loaded tx reply =>
    obtain ⟨rfl, edit, _⟩ := load_committing there
    exact edit
  | counting ctx input ready =>
    cases request with
    | issue ctx' input' =>
      simp only [Request.load] at there
      split at there
      · cases there
      · rename_i done
        cases there
        exact (prepareIssue_checked done).1
    | draft ctx' input' => simp only [Request.load, prepared] at there; split at there <;> cases there
    | send ctx' input' => simp only [Request.load, prepared] at there; split at there <;> cases there
    | sendRender ctx' input' =>
      simp only [Request.load, prepared] at there; split at there <;> cases there
    | view state token => simp only [Request.load] at there; split at there <;> cases there
    | markPaid ctx' input' =>
      simp only [Request.load, prepared] at there; split at there <;> cases there
    | void ctx' input' => simp only [Request.load, prepared] at there; split at there <;> cases there
  | _ => trivial

/-- A counted issue carries an edit of the draft it loaded. -/
theorem counting_committing {ctx : CoreCtx} {input : IssueInvoiceInput} {ready : IssueReady}
    {db : Db} {request : Request} {loaded : Option Invoice} {tx : InvoiceTx} {reply : Reply}
    (checked : ready.Checked input)
    (there : (advance (.counting ctx input ready) db).1 = .committing request loaded tx reply) :
    request = .issue ctx input ∧ loaded = some ready.loaded ∧ Edit request loaded tx ∧
      ∃ blobRef, tx = issueTx ctx input ready (countInvoicesIssuedInYear db ctx.now.year) blobRef := by
  obtain ⟨rfl, output, done, rfl⟩ := prepared_committing there
  obtain ⟨blobRef, html, pdf, shape⟩ := finishIssue_write done
  cases shape
  exact ⟨rfl, rfl, .issue checked.draft checked.toState checked.target checked.owners, blobRef, rfl⟩

/-- Steps keep runs well formed. -/
theorem advance_wellFormed {run : Run} (wellFormed : run.WellFormed) (db : Db) :
    (advance run db).1.WellFormed := by
  cases run with
  | start request => exact load_wellFormed request db
  | counting ctx input ready =>
    cases there : (advance (.counting ctx input ready) db).1 with
    | committing request loaded tx reply => exact (counting_committing wellFormed there).2.2.1
    | counting ctx' input' ready' =>
      simp only [advance, prepared] at there
      split at there <;> cases there
    | _ => trivial
  | committing request loaded tx reply =>
    simp only [advance]
    cases tx.commit db with
    | error e => trivial
    | ok db' => trivial
  | finished request outcome => trivial
  | elsewhere write => trivial

/-- **The tables change only when an edit commits, or when a command elsewhere writes.** -/
theorem advance_cases (run : Run) (db : Db) :
    (advance run db).2 = db ∨
      (∃ request loaded tx reply, run = .committing request loaded tx reply ∧
        tx.commit db = .ok (advance run db).2 ∧
        (advance run db).1 = .finished request (.ok reply)) ∨
      (∃ write, run = .elsewhere write ∧ (advance run db).1 = .elsewhere write ∧
        (advance run db).2.invoices = db.invoices ∧ (advance run db).2.lines = db.lines ∧
        (advance run db).2.history = db.history ∧ (advance run db).2.sendKeys = db.sendKeys) := by
  cases run with
  | start request => exact Or.inl rfl
  | counting ctx input ready => exact Or.inl rfl
  | committing request loaded tx reply =>
    simp only [advance]
    cases committed : tx.commit db with
    | error e => exact Or.inl rfl
    | ok db' => exact Or.inr (Or.inl ⟨request, loaded, tx, reply, rfl, committed, rfl⟩)
  | finished request outcome => exact Or.inl rfl
  | elsewhere write => exact Or.inr (Or.inr ⟨write, rfl, rfl, rfl, rfl, rfl, rfl⟩)

/-- The call a run makes. -/
def Run.request? : Run → Option Request
  | .start request => some request
  | .counting ctx input _ => some (.issue ctx input)
  | .committing request _ _ _ => some request
  | .finished request _ => some request
  | .elsewhere _ => none

theorem prepared_request {α : Type} (request : Request) (reply : α → Reply)
    (result : CoreResult (Prepared α)) : (prepared request reply result).request? = some request := by
  unfold prepared
  split <;> rfl

/-- A run keeps its call. -/
theorem advance_request (run : Run) (db : Db) : (advance run db).1.request? = run.request? := by
  cases run with
  | start request =>
    cases request with
    | issue ctx input =>
      simp only [advance, Request.load]
      split <;> rfl
    | view state token =>
      simp only [advance, Request.load]
      split <;> rfl
    | _ => exact prepared_request _ _ _
  | counting ctx input ready => exact prepared_request _ _ _
  | committing request loaded tx reply =>
    simp only [advance]
    split <;> rfl
  | finished request outcome => rfl
  | elsewhere write => rfl

/-- The schema refuses the write set in this state. -/
def InvoiceTx.Refused (tx : InvoiceTx) (db : Db) : Prop := (tx.commit db).isOk = false

instance (tx : InvoiceTx) (db : Db) : Decidable (tx.Refused db) :=
  inferInstanceAs (Decidable (_ = false))

theorem not_refused {tx : InvoiceTx} {db db' : Db} (committed : tx.commit db = .ok db') :
    ¬ tx.Refused db := by
  simp [InvoiceTx.Refused, committed, Except.isOk, Except.toBool]

/-- A condition on the commits that are not refused. -/
def OnCommit (condition : Db → Request → Option Invoice → InvoiceTx → Prop) (db : Db)
    (run : Run) : Prop :=
  ∀ request loaded tx reply, run = .committing request loaded tx reply → ¬ tx.Refused db →
    condition db request loaded tx

instance (condition : Db → Request → Option Invoice → InvoiceTx → Prop)
    [∀ db request loaded tx, Decidable (condition db request loaded tx)] (db : Db) (run : Run) :
    Decidable (OnCommit condition db run) :=
  match run with
  | .committing request loaded tx _ =>
      decidable_of_iff (¬ tx.Refused db → condition db request loaded tx)
        ⟨fun holds _ _ _ _ same => by cases same; exact holds, fun holds => holds _ _ _ _ rfl⟩
  | .start _ | .counting _ _ _ | .finished _ _ | .elsewhere _ =>
      .isTrue fun _ _ _ _ same => by cases same

/-- A step keeps a relation of the tables exactly when its commit meets the condition, if the
relation reads only what commands elsewhere leave alone. -/
theorem advance_relates_iff {R : Db → Db → Prop}
    {condition : Db → Request → Option Invoice → InvoiceTx → Prop} {run : Run} {db : Db}
    (refl : R db db)
    (elsewhere : ∀ db', db'.invoices = db.invoices → db'.lines = db.lines →
      db'.history = db.history → db'.sendKeys = db.sendKeys → R db db')
    (commit : ∀ request loaded tx reply, run = .committing request loaded tx reply →
      ∀ db', tx.commit db = .ok db' → (R db db' ↔ condition db request loaded tx)) :
    R db (advance run db).2 ↔ OnCommit condition db run := by
  rcases advance_cases run db with same | ⟨request, loaded, tx, reply, rfl, committed, _⟩ |
    ⟨write, rfl, _, invoices, lines, history, sendKeys⟩
  · refine iff_of_true (by rw [same]; exact refl) ?_
    rintro request loaded tx reply rfl notRefused
    -- the step left the tables alone, so the commit it made was the identity
    cases committed : tx.commit db with
    | error e => exact absurd (by unfold InvoiceTx.Refused; rw [committed]; rfl) notRefused
    | ok db' =>
      have after : (advance (.committing request loaded tx reply) db).2 = db' := by
        simp only [advance, committed]
      rw [same] at after
      subst after
      exact (commit request loaded tx reply rfl _ committed).mp refl
  · rw [commit request loaded tx reply rfl _ committed]
    constructor
    · rintro holds request' loaded' tx' reply' same _
      cases same
      exact holds
    · intro holds
      exact holds request loaded tx reply rfl (not_refused committed)
  · refine iff_of_true (elsewhere _ invoices lines history sendKeys) ?_
    intro request loaded tx reply absurd'
    cases absurd'

/-- The runs at the beginning: no call has started. -/
def Starting (runs : List Run) : Prop :=
  ∀ run ∈ runs, (∃ request, run = .start request) ∨ ∃ write, run = .elsewhere write

theorem Starting.wellFormed {runs : List Run} (starting : Starting runs) :
    ∀ run ∈ runs, run.WellFormed := by
  intro run member
  rcases starting run member with ⟨request, rfl⟩ | ⟨write, rfl⟩
  · trivial
  · trivial

/-! ### Runs alone -/

/-- The outcome of a run that is done. -/
def Run.outcome : Run → Option Outcome
  | .finished _ outcome => some outcome
  | _ => none

/-- A run takes its steps alone: load, count, commit. -/
def solo (request : Request) (db : Db) : Run × Db :=
  let (run, db) := advance (.start request) db
  let (run, db) := advance run db
  advance run db

/-- The committing step runs the transaction. -/
theorem advance_prepared {α : Type} (request : Request) (reply : α → Reply)
    (result : CoreResult (Prepared α)) (db : Db) :
    advance (prepared request reply result) db =
      (.finished request (toOutcome reply (perform result db).1), (perform result db).2) := by
  cases result with
  | error e => rfl
  | ok done =>
    cases done with
    | answer output => rfl
    | write loaded tx output =>
      simp only [prepared, advance, perform, Prepared.finish]
      cases tx.commit db with
      | error e => rfl
      | ok db' => rfl

/-- **A run that takes its steps alone does what the command does.** -/
theorem solo_execute (request : Request) (db : Db) :
    solo request db = (.finished request (request.execute db).1, (request.execute db).2) := by
  have twoSteps : ∀ {α : Type} (reply : α → Reply) (result : CoreResult (Prepared α)),
      request.load db = prepared request reply result →
      solo request db =
        (.finished request (toOutcome reply (perform result db).1), (perform result db).2) := by
    intro α reply result loaded
    have first : advance (.start request) db = (prepared request reply result, db) := by
      rw [← loaded]
      rfl
    simp only [solo, first, advance_prepared]
    rfl
  cases request with
  | draft ctx input => exact twoSteps .drafted _ rfl
  | send ctx input => exact twoSteps .sent _ rfl
  | sendRender ctx input => exact twoSteps .sent _ rfl
  | markPaid ctx input => exact twoSteps .paid _ rfl
  | void ctx input => exact twoSteps .voided _ rfl
  | issue ctx input =>
    simp only [solo, advance, Request.load, Request.execute, issueInvoice]
    cases prepareIssue ctx input db with
    | error e => rfl
    | ok ready =>
      show advance (prepared (.issue ctx input) .issued _) db = _
      rw [advance_prepared]
      rfl
  | view state token =>
    simp only [solo, advance, Request.load, Request.execute, viewInvoice]
    cases prepareView state token db with
    | error e => rfl
    | ok done =>
      cases done with
      | answer html => rfl
      | write loaded tx html =>
        simp only [Prepared.finish]
        cases tx.commit db with
        | error e => rfl
        | ok db' => rfl

/-! ### A small world -/

/-- One in the morning of a day. -/
def oneOClock (date : Chrono.NaiveDate) : Chrono.DateTime := ⟨date, 3600, 0, by decide⟩

def firstOfMarch : Chrono.NaiveDate := ⟨2025, 3, 1, by decide⟩

theorem valid_secondOfMarch : Chrono.ValidYmd 2025 3 2 := by decide

def secondOfMarch : Chrono.NaiveDate := ⟨2025, 3, 2, valid_secondOfMarch⟩

/-- A customer in Quebec. -/
def sampleCustomer : Customer where
  id := ⟨1⟩
  displayName := "Customer"
  email := none
  address := ⟨"CA", some "QC", none, none, none, none⟩
  metadata := []
  createdAt := oneOClock firstOfMarch
  updatedAt := oneOClock firstOfMarch

/-- Tables with the customer and nothing else. -/
def sampleDb : Db := ⟨[sampleCustomer], [], [], [], [], [], [], []⟩

/-- A call at a time that draws the ids of one number; no tax rates, exact arithmetic, renderers that
give the empty document. -/
def sampleCtx (now : Chrono.DateTime) (draw : ℕ) : CoreCtx where
  taxTable := ⟨[]⟩
  nexus := ⟨[]⟩
  now := now
  arith := Arith.exact
  newInvoiceId := ⟨BitVec.ofNat 128 draw⟩
  newLineId i := ⟨BitVec.ofNat 128 (1000 * draw + i)⟩
  newHistoryId := ⟨BitVec.ofNat 128 draw⟩
  newCreditNoteId := ⟨BitVec.ofNat 128 draw⟩
  newScheduleId := ⟨BitVec.ofNat 128 draw⟩
  renderHtml _ _ _ _ := .ok ""
  renderPdf _ := .ok []
  blobStore := none
  writeFile _ _ := .ok ()

theorem fits_hundred : Decimal.Fits 10000 2 := by decide

theorem fits_forty : Decimal.Fits 4000 2 := by decide

/-- One line of 100.00 CAD for the customer. -/
def sampleDraft : DraftInvoiceInput where
  customerId := ⟨1⟩
  sellerJurisdiction := .quebecCa
  currency := Currency.cad
  lines := [⟨"Work", ⟨1, 0, Decimal.fits_one⟩, ⟨10000, 2, fits_hundred⟩, .standard⟩]
  idempotencyKey := none
  actor := .cli "operator"
  channel := .cli
  dueAt := none
  templatePath := none
  scheduleId := none

def sampleIssue : IssueInvoiceInput := ⟨⟨1⟩, none, .cli "operator", .cli⟩

def sampleVoid : VoidInvoiceInput := ⟨⟨1⟩, none, none, .cli "operator", .cli⟩

/-- A payment in cents. -/
def samplePayment (cents : ℤ) (fits : Decimal.Fits cents 2) : MarkPaidInput :=
  ⟨⟨1⟩, ⟨cents, 2, fits⟩, none, none, none, .cli "operator", .cli⟩

end Invoicing
