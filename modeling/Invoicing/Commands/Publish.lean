/-
**What the commands publish.**

* `draftedEvents`, `issuedEvents`, … — the events each command publishes once its transaction is
  committed, in order: the mechanic triplet of the move, then the domain event. A view publishes the
  domain event alone.
* `tryPublish` — a publish that fails is swallowed.
-/

import Invoicing.Api.View
import Invoicing.Bus.Events
import Invoicing.Commands.Credit
import Invoicing.Commands.Pay
import Invoicing.Commands.Schedule
import Invoicing.Commands.Send

namespace Invoicing

open Chrono (DateTime)

/-! ### The publisher -/

/-- A publisher accepts an event, or refuses it with a message. -/
abbrev Publisher := BusEvent → Except String Unit

/-- Publish, when there is a publisher; a refusal is swallowed. The events accepted so far. -/
def tryPublish (publisher : Option Publisher) (accepted : List BusEvent) (event : BusEvent) :
    List BusEvent :=
  match publisher with
  | none => accepted
  | some publish =>
      match publish event with
      | .error _ => accepted
      | .ok _ => accepted ++ [event]

/-! ### Invoices -/

def draftedEvents (input : DraftInvoiceInput) (inv : Invoice) (channel : HistoryChannel)
    (now : DateTime) : List BusEvent :=
  [⟨topicInvoiceDrafted,
    .obj [("invoice_id", .str inv.id.text), ("customer_id", .str inv.customerId.text),
      ("currency", .str inv.currency.asStr), ("subtotal", .str inv.subtotal.toString),
      ("total", .str inv.total.toString), ("actor", .str input.actor.auditString),
      ("channel", .str (historyChannelStr channel))], now⟩]

def issuedEvents (inv : Invoice) (fromState toState : InvoiceState) (actor : Actor)
    (channel : HistoryChannel) (now : DateTime) : List BusEvent :=
  invoiceTriplet inv.id fromState toState .issue (some actor.auditString) channel now ++
    [⟨topicInvoiceIssued,
      .obj [("invoice_id", .str inv.id.text), ("number", Json.ofOption inv.number),
        ("customer_id", .str inv.customerId.text), ("currency", .str inv.currency.asStr),
        ("subtotal", .str inv.subtotal.toString), ("tax_total", .str inv.taxTotal.toString),
        ("total", .str inv.total.toString), ("nexus_review", .bool inv.nexusReview),
        ("actor", .str actor.auditString), ("channel", .str (historyChannelStr channel))], now⟩]

def sentEvents (inv : Invoice) (fromState toState : InvoiceState) (actor : Actor)
    (channel : HistoryChannel) (now : DateTime) (destination : String) : List BusEvent :=
  invoiceTriplet inv.id fromState toState .send (some actor.auditString) channel now ++
    [⟨topicInvoiceSent,
      .obj [("invoice_id", .str inv.id.text), ("number", Json.ofOption inv.number),
        ("destination", .str destination), ("actor", .str actor.auditString),
        ("channel", .str (historyChannelStr channel))], now⟩]

def viewedEvents (inv : Invoice) (now : DateTime) : List BusEvent :=
  [⟨topicInvoiceViewed,
    .obj [("invoice_id", .str inv.id.text), ("actor", .str "link.viewer"), ("channel", .str "api")],
    now⟩]

def paidEvents (inv : Invoice) (input : MarkPaidInput) (fromState toState : InvoiceState)
    (event : InvoiceEvent) (channel : HistoryChannel) (now : DateTime) (fullyPaid : Bool) :
    List BusEvent :=
  invoiceTriplet inv.id fromState toState event (some input.actor.auditString) channel now ++
    [⟨if fullyPaid then topicInvoicePaid else topicInvoicePartiallyPaid,
      .obj [("invoice_id", .str inv.id.text), ("amount", .str input.amount.toString),
        ("amount_paid", .str inv.amountPaid.toString), ("total", .str inv.total.toString),
        ("currency", .str inv.currency.asStr), ("actor", .str input.actor.auditString),
        ("channel", .str (historyChannelStr channel)),
        ("bus_event_id", Json.ofOption input.busEventId)], now⟩]

def voidedEvents (inv : Invoice) (input : VoidInvoiceInput) (fromState toState : InvoiceState)
    (channel : HistoryChannel) (now : DateTime) : List BusEvent :=
  invoiceTriplet inv.id fromState toState .void (some input.actor.auditString) channel now ++
    [⟨topicInvoiceVoided,
      .obj [("invoice_id", .str inv.id.text), ("reason", Json.ofOption input.reason),
        ("actor", .str input.actor.auditString), ("channel", .str (historyChannelStr channel))],
      now⟩]

/-! ### Credit notes -/

def creditNoteDraftedEvents (note : CreditNote) (input : CreateCreditNoteInput)
    (channel : HistoryChannel) (now : DateTime) : List BusEvent :=
  [⟨topicCreditNoteDrafted,
    .obj [("credit_note_id", .str note.id.text), ("invoice_id", .str note.invoiceId.text),
      ("amount", .str note.amount.toString), ("currency", .str note.currency.asStr),
      ("refund_ref", Json.ofOption note.refundRef), ("actor", .str input.actor.auditString),
      ("channel", .str (historyChannelStr channel))], now⟩]

def creditNoteIssuedEvents (note : CreditNote) (fromState toState : CreditNoteState)
    (event : CreditNoteEvent) (actor : Actor) (channel : HistoryChannel) (now : DateTime) :
    List BusEvent :=
  creditNoteTriplet note.id fromState toState event (some actor.auditString) channel now ++
    [⟨topicCreditNoteIssued,
      .obj [("credit_note_id", .str note.id.text), ("number", Json.ofOption note.number),
        ("invoice_id", .str note.invoiceId.text), ("amount", .str note.amount.toString),
        ("currency", .str note.currency.asStr), ("actor", .str actor.auditString),
        ("channel", .str (historyChannelStr channel))], now⟩]

/-- What `create_credit_note` publishes. -/
def createCreditNotePublished (ctx : CoreCtx) (input : CreateCreditNoteInput) (db : Db) :
    List BusEvent :=
  match (createCreditNote ctx input db).1 with
  | .error _ => []
  | .ok output => creditNoteDraftedEvents output.creditNote input input.channel.toHistory ctx.now

/-- What `issue_credit_note` publishes. -/
def issueCreditNotePublished (ctx : CoreCtx) (input : IssueCreditNoteInput) (db : Db) :
    List BusEvent :=
  match (issueCreditNote ctx input db).1, db.getCreditNote input.creditNoteId with
  | .ok output, some loaded => creditNoteIssuedEvents output.creditNote loaded.state
      output.creditNote.state .issue input.actor input.channel.toHistory ctx.now
  | _, _ => []

/-! ### Schedules -/

def scheduleCreatedEvents (schedule : Schedule) (input : ScheduleCreateInput) (now : DateTime) :
    List BusEvent :=
  [⟨topicScheduleCreated,
    .obj [("schedule_id", .str schedule.id.text), ("customer_id", .str schedule.customerId.text),
      ("cadence", .str schedule.cadence.text), ("currency", .str schedule.currency.asStr),
      ("auto_issue", .bool schedule.autoIssue), ("start_date", .str (dateText schedule.startDate)),
      ("actor", .str input.actor.auditString),
      ("channel", .str (historyChannelStr input.channel.toHistory))], now⟩]

/-- The lower-cased name of a state. -/
def ScheduleState.lower : ScheduleState → String
  | .active => "active"
  | .paused => "paused"
  | .cancelled => "cancelled"

def scheduleChangedEvents (topic : String) (schedule : Schedule) (input : ScheduleStateChangeInput)
    (now : DateTime) : List BusEvent :=
  [⟨topic,
    .obj [("schedule_id", .str schedule.id.text), ("state", .str schedule.state.lower),
      ("actor", .str input.actor.auditString),
      ("channel", .str (historyChannelStr input.channel.toHistory))], now⟩]

/-- What a tick publishes for a schedule that is past its end date. -/
def endDateReachedEvents (schedule : Schedule) (now : DateTime) : List BusEvent :=
  [⟨topicScheduleCancelled,
    .obj [("schedule_id", .str schedule.id.text), ("state", .str "cancelled"),
      ("reason", .str "end_date_reached")], now⟩]

end Invoicing
