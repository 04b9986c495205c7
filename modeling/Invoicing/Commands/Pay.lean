/-
**`mark_paid` and `void_invoice`.**

* `prepareMarkPaid` — add the payment to the sum paid, ask the transition table with that sum and the
  total, and write the row with a `pay` history row that records the amount as text. The idempotency
  key of the input is not looked at.
* `prepareVoid` — ask the table, and write the row with a `void` history row.
* **`prepareMarkPaid_ok`**, **`prepareVoid_ok`** — everything the two write.
-/

import Invoicing.Commands.Ctx

namespace Invoicing

open Chrono

/-! ### Payments -/

structure MarkPaidInput where
  invoiceId : InvoiceId
  amount : Decimal
  receivedAt : Option DateTime
  idempotencyKey : Option String
  busEventId : Option String
  actor : Actor
  channel : Channel
  deriving DecidableEq

structure MarkPaidOutput where
  invoice : Invoice
  fullyPaid : Bool

def MarkPaidInput.validate (input : MarkPaidInput) : CoreResult Unit :=
  if input.amount ≤ Decimal.zero then
    fail (.validation ("payment amount must be > 0, got " ++ input.amount.toString))
  else .ok ()

theorem MarkPaidInput.validate_ok {input : MarkPaidInput} :
    input.validate = .ok () ↔ ¬ input.amount ≤ Decimal.zero := by
  unfold MarkPaidInput.validate
  split
  · rename_i nonPositive
    simp [nonPositive, fail]
  · rename_i positive
    simp [positive]

/-- The row after a payment. -/
def paidRow (inv : Invoice) (amountPaid : Decimal) (toState : InvoiceState) (time : DateTime) :
    Invoice :=
  { inv with
    amountPaid := amountPaid
    state := toState
    updatedAt := time
    paidAt := if toState = .paid then some time else inv.paidAt }

/-- The write set of a payment. -/
def payTx (ctx : CoreCtx) (input : MarkPaidInput) (inv : Invoice) (amountPaid : Decimal)
    (toState : InvoiceState) : InvoiceTx where
  invoice := paidRow inv amountPaid toState (input.receivedAt.getD ctx.now)
  lines := none
  history := { transitionRow ctx inv toState "pay" input.actor input.channel
    (input.receivedAt.getD ctx.now) with
    busEventId := input.busEventId
    metadata := [("amount", input.amount.toString)] }
  sendKey := none

def prepareMarkPaid (ctx : CoreCtx) (input : MarkPaidInput) (db : Db) :
    CoreResult (Prepared MarkPaidOutput) := do
  input.validate
  let inv ← invoiceOf db input.invoiceId
  let amountPaid ← orPanic (ctx.arith.add inv.amountPaid input.amount)
  let toState ← orRejected (nextState inv.state (.pay amountPaid inv.total))
  let tx := payTx ctx input inv amountPaid toState
  return .write (some inv) tx ⟨tx.invoice, decide (toState = .paid)⟩

theorem schemaFree_prepareMarkPaid (ctx : CoreCtx) (input : MarkPaidInput) (db : Db) :
    SchemaFree (prepareMarkPaid ctx input db) := by
  refine SchemaFree.bind ?_ fun _ => (schemaFree_invoiceOf _ _).bind fun _ =>
    (schemaFree_orPanic _).bind fun _ => (schemaFree_orRejected _).bind fun _ => .ok _
  unfold MarkPaidInput.validate
  split
  · exact .fail fun _ => by simp
  · exact .ok ()

/-- **`mark_paid`.** -/
def markPaid (ctx : CoreCtx) (input : MarkPaidInput) (db : Db) :
    CoreResult MarkPaidOutput × Db :=
  perform (prepareMarkPaid ctx input db) db

/-- **What a payment writes**, and what was checked before. -/
theorem prepareMarkPaid_ok {ctx : CoreCtx} {input : MarkPaidInput} {db : Db}
    {prepared : Prepared MarkPaidOutput} (done : prepareMarkPaid ctx input db = .ok prepared) :
    ¬ input.amount ≤ Decimal.zero ∧
      ∃ inv amountPaid toState, db.getInvoice input.invoiceId = some inv ∧
        ctx.arith.add inv.amountPaid input.amount = some amountPaid ∧
        nextState inv.state (.pay amountPaid inv.total) = .ok toState ∧
        prepared = .write (some inv) (payTx ctx input inv amountPaid toState)
          ⟨(payTx ctx input inv amountPaid toState).invoice, decide (toState = .paid)⟩ := by
  obtain ⟨_, valid, rest⟩ := bind_ok done
  obtain ⟨inv, found, rest⟩ := bind_ok rest
  obtain ⟨amountPaid, summed, rest⟩ := bind_ok rest
  obtain ⟨toState, accepted, rest⟩ := bind_ok rest
  cases rest
  exact ⟨MarkPaidInput.validate_ok.mp valid, inv, amountPaid, toState, orNotFound_ok found,
    orPanic_ok summed, orRejected_ok accepted, rfl⟩

/-! ### Voiding -/

structure VoidInvoiceInput where
  invoiceId : InvoiceId
  reason : Option String
  idempotencyKey : Option String
  actor : Actor
  channel : Channel
  deriving DecidableEq

structure VoidInvoiceOutput where
  invoice : Invoice

/-- The row of a voided invoice. -/
def voidedRow (inv : Invoice) (toState : InvoiceState) (time : DateTime) : Invoice :=
  { inv with state := toState, voidedAt := some time, updatedAt := time }

/-- The write set of a void. -/
def voidTx (ctx : CoreCtx) (input : VoidInvoiceInput) (inv : Invoice) (toState : InvoiceState) :
    InvoiceTx where
  invoice := voidedRow inv toState ctx.now
  lines := none
  history := { transitionRow ctx inv toState "void" input.actor input.channel ctx.now with
    reason := input.reason }
  sendKey := none

def prepareVoid (ctx : CoreCtx) (input : VoidInvoiceInput) (db : Db) :
    CoreResult (Prepared VoidInvoiceOutput) := do
  let inv ← invoiceOf db input.invoiceId
  let toState ← orRejected (nextState inv.state .void)
  let tx := voidTx ctx input inv toState
  return .write (some inv) tx ⟨tx.invoice⟩

theorem schemaFree_prepareVoid (ctx : CoreCtx) (input : VoidInvoiceInput) (db : Db) :
    SchemaFree (prepareVoid ctx input db) :=
  (schemaFree_invoiceOf _ _).bind fun _ => (schemaFree_orRejected _).bind fun _ => .ok _

/-- **`void_invoice`.** -/
def voidInvoice (ctx : CoreCtx) (input : VoidInvoiceInput) (db : Db) :
    CoreResult VoidInvoiceOutput × Db :=
  perform (prepareVoid ctx input db) db

/-- **What a void writes**, and what was checked before. -/
theorem prepareVoid_ok {ctx : CoreCtx} {input : VoidInvoiceInput} {db : Db}
    {prepared : Prepared VoidInvoiceOutput} (done : prepareVoid ctx input db = .ok prepared) :
    ∃ inv toState, db.getInvoice input.invoiceId = some inv ∧
      nextState inv.state .void = .ok toState ∧
      prepared = .write (some inv) (voidTx ctx input inv toState)
        ⟨(voidTx ctx input inv toState).invoice⟩ := by
  obtain ⟨inv, found, rest⟩ := bind_ok done
  obtain ⟨toState, accepted, rest⟩ := bind_ok rest
  cases rest
  exact ⟨inv, toState, orNotFound_ok found, orRejected_ok accepted, rfl⟩

end Invoicing
