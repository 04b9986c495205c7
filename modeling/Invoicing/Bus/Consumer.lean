/-
**The consumer of inbound events.**

* `remapTopic` — a deployment's name for a topic, made canonical.
* `ChargeCreatedPayload`, `PaymentReceivedPayload`, `PaymentRefundedPayload` — what the payload of
  each topic is read as; `PayloadParsers` reads them, and the ids inside, outside this repository.
* `Consumer.route` — the command an event asks for, or why there is none. An event without a key of
  its own is keyed by its event id.
* `Consumer.dispatch` — the command, run. `InboundCommand.prepare` is the command up to its
  transaction, and **`InboundCommand.finish_prepare`** says that the two are one.
-/

import Invoicing.Commands.Credit
import Invoicing.Commands.Draft
import Invoicing.Commands.Pay

namespace Invoicing

open Chrono (DateTime)

/-! ### Topics -/

/-- The `[bus.remap]` block: topics and their canonical names. -/
structure TopicMap where
  entries : List (String × String)

def TopicMap.get (map : TopicMap) (topic : String) : Option String := map.entries.lookup topic

/-- The canonical name of a topic; a topic without an entry is its own. -/
def remapTopic (map : TopicMap) (topic : String) : String := (map.get topic).getD topic

/-! ### Payloads -/

structure ChargeLine where
  description : String
  quantity : Decimal
  unitPrice : Decimal
  taxCategory : Option TaxCategory

/-- The payload of `fin.billing.charge.created`. -/
structure ChargeCreatedPayload where
  customerId : String
  currency : Currency
  sellerJurisdiction : Option Jurisdiction
  lines : List ChargeLine
  dueDate : Option DateTime
  idempotencyKey : Option String

/-- The payload of `fin.billing.payment.received`. -/
structure PaymentReceivedPayload where
  invoiceRef : Option String
  amount : Decimal
  receivedAt : DateTime
  idempotencyKey : Option String

/-- The payload of `fin.billing.payment.refunded`. -/
structure PaymentRefundedPayload where
  invoiceRef : String
  amount : Decimal
  reason : Option String
  refundId : Option String

/-- What reads payloads and the ids in them. -/
structure PayloadParsers where
  chargeCreated : String → Except String ChargeCreatedPayload
  paymentReceived : String → Except String PaymentReceivedPayload
  paymentRefunded : String → Except String PaymentRefundedPayload
  customerId : String → Except String CustomerId
  invoiceId : String → Except String InvoiceId

/-- How a dispatch fails. -/
inductive DispatchError
  | unknownTopic (topic : String)
  | decodePayload (topic : String) (source : String)
  | invalidPayload (topic : String) (message : String)
  | command (name : String) (source : CoreError)
  deriving DecidableEq

/-! ### Routing -/

def decodePayload {α : Type} (topic : String) (parsed : Except String α) : Except DispatchError α :=
  parsed.mapError (DispatchError.decodePayload topic)

def parseCustomerId (parsers : PayloadParsers) (topic s : String) :
    Except DispatchError CustomerId :=
  (parsers.customerId s).mapError fun e =>
    .invalidPayload topic ("invalid customer_id `" ++ s ++ "`: " ++ e)

/-- What follows the uri of an invoice, or the whole text. -/
def stripInvoiceUri (s : String) : String :=
  if s.toList.take 14 = "inv://invoice/".toList then String.ofList (s.toList.drop 14) else s

/-- A bare typeid or the uri of an invoice. -/
def parseInvoiceIdFromRef (parsers : PayloadParsers) (topic s : String) :
    Except DispatchError InvoiceId :=
  (parsers.invoiceId (stripInvoiceUri s)).mapError fun e =>
    .invalidPayload topic ("invalid invoice_ref `" ++ s ++ "`: " ++ e)

/-- The command an event asks for. -/
inductive InboundCommand
  | draftInvoice (input : DraftInvoiceInput)
  | markPaid (input : MarkPaidInput)
  | createCreditNote (input : CreateCreditNoteInput)

def InboundCommand.name : InboundCommand → String
  | .draftInvoice _ => "draft_invoice"
  | .markPaid _ => "mark_paid"
  | .createCreditNote _ => "create_credit_note"

def handleChargeCreated (parsers : PayloadParsers) (topic eventId payload : String) :
    Except DispatchError DraftInvoiceInput := do
  let p ← decodePayload topic (parsers.chargeCreated payload)
  let customerId ← parseCustomerId parsers topic p.customerId
  return {
    customerId := customerId
    sellerJurisdiction := p.sellerJurisdiction.getD .quebecCa
    currency := p.currency
    lines := p.lines.map fun l =>
      ⟨l.description, l.quantity, l.unitPrice, l.taxCategory.getD .standard⟩
    idempotencyKey := some (p.idempotencyKey.getD eventId)
    actor := .bus "fin"
    channel := .bus
    dueAt := p.dueDate
    templatePath := none
    scheduleId := none }

def handlePaymentReceived (parsers : PayloadParsers) (topic eventId payload : String) :
    Except DispatchError MarkPaidInput := do
  let p ← decodePayload topic (parsers.paymentReceived payload)
  match p.invoiceRef with
  | none => .error (.invalidPayload topic
      "payment.received without invoice_ref is not routable at v1")
  | some invoiceRef =>
      let invoiceId ← parseInvoiceIdFromRef parsers topic invoiceRef
      return {
        invoiceId := invoiceId
        amount := p.amount
        receivedAt := some p.receivedAt
        idempotencyKey := some (p.idempotencyKey.getD eventId)
        busEventId := some eventId
        actor := .bus "fin"
        channel := .bus }

def handlePaymentRefunded (parsers : PayloadParsers) (topic eventId payload : String) :
    Except DispatchError CreateCreditNoteInput := do
  let p ← decodePayload topic (parsers.paymentRefunded payload)
  let invoiceId ← parseInvoiceIdFromRef parsers topic p.invoiceRef
  return {
    invoiceId := invoiceId
    amount := p.amount
    reason := p.reason
    refundRef := some (p.refundId.getD eventId)
    idempotencyKey := some eventId
    actor := .bus "fin"
    channel := .bus }

/-- The consumer, with the remap of its deployment. -/
structure Consumer where
  remap : TopicMap
  parsers : PayloadParsers

/-- Remap the topic, decode the payload and build the input of its command. -/
def Consumer.route (consumer : Consumer) (topic eventId payload : String) :
    Except DispatchError InboundCommand :=
  let canonical := remapTopic consumer.remap topic
  if canonical = "fin.billing.charge.created" then
    (handleChargeCreated consumer.parsers canonical eventId payload).map .draftInvoice
  else if canonical = "fin.billing.payment.received" then
    (handlePaymentReceived consumer.parsers canonical eventId payload).map .markPaid
  else if canonical = "fin.billing.payment.refunded" then
    (handlePaymentRefunded consumer.parsers canonical eventId payload).map .createCreditNote
  else .error (.unknownTopic canonical)

/-! ### Dispatch -/

/-- What a dispatch gives. -/
inductive DispatchOutput
  | drafted (output : DraftInvoiceOutput)
  | paid (output : MarkPaidOutput)
  | refunded (output : CreateCreditNoteOutput)

abbrev DispatchResult := Except (Stop DispatchError) DispatchOutput

/-- A command's result as the result of its dispatch. -/
def toDispatch {α : Type} (name : String) (reply : α → DispatchOutput) (result : CoreResult α) :
    DispatchResult :=
  match result with
  | .error e => .error (e.map (DispatchError.command name))
  | .ok output => .ok (reply output)

def InboundCommand.execute (command : InboundCommand) (ctx : CoreCtx) (db : Db) :
    DispatchResult × Db :=
  match command with
  | .draftInvoice input => (Invoicing.draftInvoice ctx input db).map (toDispatch "draft_invoice" .drafted) id
  | .markPaid input => (Invoicing.markPaid ctx input db).map (toDispatch "mark_paid" .paid) id
  | .createCreditNote input =>
      (Invoicing.createCreditNote ctx input db).map (toDispatch "create_credit_note" .refunded) id

/-- **`Consumer::dispatch`.** -/
def Consumer.dispatch (consumer : Consumer) (ctx : CoreCtx) (topic eventId payload : String)
    (db : Db) : DispatchResult × Db :=
  match consumer.route topic eventId payload with
  | .error e => (.error (.error e), db)
  | .ok command => command.execute ctx db

/-! ### Up to the transaction -/

/-- The write set of a command. -/
inductive InboundWrite
  | invoice (tx : InvoiceTx)
  | credit (tx : CreditTx)

def InboundWrite.commit (write : InboundWrite) (db : Db) : Except StoreError Db :=
  match write with
  | .invoice tx => tx.commit db
  | .credit tx => tx.commit db

def InboundWrite.apply (write : InboundWrite) (db : Db) : Db :=
  match write with
  | .invoice tx => tx.apply db
  | .credit tx => tx.apply db

theorem InboundWrite.commit_ok {write : InboundWrite} {db db' : Db}
    (committed : write.commit db = .ok db') : db' = write.apply db := by
  cases write with
  | invoice tx => exact (InvoiceTx.commit_ok committed).1
  | credit tx => exact (CreditTx.commit_ok committed).1

/-- A command up to its transaction: its output, and its write set unless it writes nothing. -/
structure InboundReady where
  write : Option InboundWrite
  output : DispatchOutput

/-- A prepared invoice command as an inbound one. -/
def Prepared.inbound {α : Type} (reply : α → DispatchOutput) : Prepared α → InboundReady
  | .answer output => ⟨none, reply output⟩
  | .write _ tx output => ⟨some (.invoice tx), reply output⟩

def InboundCommand.prepare (command : InboundCommand) (ctx : CoreCtx) (db : Db) :
    CoreResult InboundReady :=
  match command with
  | .draftInvoice input => (prepareDraft ctx input db).map (Prepared.inbound .drafted)
  | .markPaid input => (prepareMarkPaid ctx input db).map (Prepared.inbound .paid)
  | .createCreditNote input => (prepareCreateCreditNote ctx input db).map fun tx =>
      ⟨some (.credit tx), .refunded ⟨tx.note⟩⟩

/-- Run the transaction of a prepared command. -/
def InboundReady.finish (name : String) (ready : InboundReady) (db : Db) : DispatchResult × Db :=
  match ready.write with
  | none => (.ok ready.output, db)
  | some write =>
      match write.commit db with
      | .error e => (.error (.error (.command name (.repo e))), db)
      | .ok db' => (.ok ready.output, db')

theorem finish_inbound {α : Type} (name : String) (reply : α → DispatchOutput)
    (prepared : CoreResult (Prepared α)) (db : Db) :
    (perform prepared db).map (toDispatch name reply) id =
      match prepared.map (Prepared.inbound reply) with
      | .error e => (.error (e.map (DispatchError.command name)), db)
      | .ok ready => ready.finish name db := by
  cases prepared with
  | error e => rfl
  | ok prepared =>
    cases prepared with
    | answer output => rfl
    | write loaded tx output =>
      show Prod.map _ id (Prepared.finish (.write loaded tx output) db) =
        InboundReady.finish name ⟨some (.invoice tx), reply output⟩ db
      simp only [Prepared.finish, InboundReady.finish, InboundWrite.commit]
      cases tx.commit db with
      | error e => rfl
      | ok db' => rfl

/-- **A command is its preparation, then its transaction.** -/
theorem InboundCommand.finish_prepare (command : InboundCommand) (ctx : CoreCtx) (db : Db) :
    command.execute ctx db =
      match command.prepare ctx db with
      | .error e => (.error (e.map (DispatchError.command command.name)), db)
      | .ok ready => ready.finish command.name db := by
  cases command with
  | draftInvoice input => exact finish_inbound _ _ _ db
  | markPaid input => exact finish_inbound _ _ _ db
  | createCreditNote input =>
    simp only [execute, prepare, Invoicing.createCreditNote, name]
    cases prepareCreateCreditNote ctx input db with
    | error e => rfl
    | ok tx =>
      show Prod.map _ id (performCredit CreateCreditNoteOutput.mk (.ok tx) db) =
        InboundReady.finish _ ⟨some (.credit tx), _⟩ db
      simp only [performCredit, InboundReady.finish, InboundWrite.commit]
      cases tx.commit db with
      | error e => rfl
      | ok db' => rfl

end Invoicing
