/-
**The domain events and their typed payloads.**

* `topicInvoiceDrafted`, … — the topics of the domain events.
* `invoiceDraftedPayload`, … — the payload struct of each topic, as a schema; `typedPayload` is the
  struct of a topic.
* `WireParsers` — what reads the times and dates in a payload, outside this repository.
* `BusEvent.Typed` — the payload of an event is read as the struct of its topic.
-/

import Invoicing.State.Events

namespace Invoicing

open Chrono (DateTime NaiveDate)
open Json (Schema FieldType)

/-! ### Topics -/

def topicInvoiceDrafted : String := "inv.billing.invoice.drafted"
def topicInvoiceIssued : String := "inv.billing.invoice.issued"
def topicInvoiceSent : String := "inv.billing.invoice.sent"
def topicInvoiceViewed : String := "inv.billing.invoice.viewed"
def topicInvoicePaid : String := "inv.billing.invoice.paid"
def topicInvoicePartiallyPaid : String := "inv.billing.invoice.partially_paid"
def topicInvoiceOverdue : String := "inv.billing.invoice.overdue"
def topicInvoiceVoided : String := "inv.billing.invoice.voided"
def topicCreditNoteDrafted : String := "inv.billing.creditnote.drafted"
def topicCreditNoteIssued : String := "inv.billing.creditnote.issued"
def topicReminderScheduled : String := "inv.billing.reminder.scheduled"
def topicReminderSent : String := "inv.billing.reminder.sent"
def topicReminderCancelled : String := "inv.billing.reminder.cancelled"
def topicScheduleCreated : String := "inv.billing.schedule.created"
def topicSchedulePaused : String := "inv.billing.schedule.paused"
def topicScheduleCancelled : String := "inv.billing.schedule.cancelled"

/-! ### Payload structs -/

/-- A text of a payload that is parsed. -/
inductive WireKind
  | dateTime
  | naiveDate
  deriving DecidableEq

abbrev PayloadSchema := Schema WireKind

def invoiceDraftedPayload : PayloadSchema :=
  [("invoice_id", .string), ("customer_id", .string), ("currency", .string), ("subtotal", .string),
    ("total", .string), ("actor", .string), ("channel", .string)]

def invoiceIssuedPayload : PayloadSchema :=
  [("invoice_id", .string), ("number", .optionalString), ("customer_id", .string),
    ("currency", .string), ("subtotal", .string), ("tax_total", .string), ("total", .string),
    ("nexus_review", .bool), ("actor", .string), ("channel", .string)]

/-- The payload of `sent` and of `viewed`. -/
def invoiceTouchedPayload : PayloadSchema :=
  [("invoice_id", .string), ("actor", .string), ("channel", .string)]

def invoiceSentPayload : PayloadSchema := invoiceTouchedPayload

def invoiceViewedPayload : PayloadSchema := invoiceTouchedPayload

/-- The payload of `paid` and of `partially_paid`. -/
def invoicePaymentPayload : PayloadSchema :=
  [("invoice_id", .string), ("amount_paid", .string), ("cumulative_paid", .string),
    ("total", .string), ("actor", .string), ("channel", .string)]

def invoicePaidPayload : PayloadSchema := invoicePaymentPayload

def invoicePartiallyPaidPayload : PayloadSchema := invoicePaymentPayload

def invoiceOverduePayload : PayloadSchema :=
  [("invoice_id", .string), ("due_at", .parsed .dateTime), ("actor", .string)]

def invoiceVoidedPayload : PayloadSchema :=
  [("invoice_id", .string), ("reason", .optionalString), ("actor", .string), ("channel", .string)]

def creditNoteDraftedPayload : PayloadSchema :=
  [("credit_note_id", .string), ("invoice_id", .string), ("amount", .string), ("currency", .string),
    ("refund_ref", .optionalString), ("actor", .string), ("channel", .string)]

def creditNoteIssuedPayload : PayloadSchema :=
  [("credit_note_id", .string), ("number", .optionalString), ("invoice_id", .string),
    ("amount", .string), ("currency", .string), ("actor", .string), ("channel", .string)]

def reminderScheduledPayload : PayloadSchema :=
  [("reminder_id", .string), ("invoice_id", .string), ("due_at", .parsed .dateTime),
    ("channel", .string), ("actor", .string)]

def reminderSentPayload : PayloadSchema :=
  [("reminder_id", .string), ("invoice_id", .string), ("channel", .string),
    ("sent_at", .parsed .dateTime)]

def reminderCancelledPayload : PayloadSchema :=
  [("reminder_id", .string), ("invoice_id", .string), ("reason", .optionalString),
    ("actor", .string)]

def scheduleCreatedPayload : PayloadSchema :=
  [("schedule_id", .string), ("customer_id", .string), ("cadence", .string), ("currency", .string),
    ("auto_issue", .bool), ("start_date", .parsed .naiveDate), ("actor", .string),
    ("channel", .string)]

def schedulePausedPayload : PayloadSchema :=
  [("schedule_id", .string), ("state", .string), ("actor", .string), ("channel", .string)]

def scheduleCancelledPayload : PayloadSchema :=
  [("schedule_id", .string), ("state", .string), ("reason", .optionalString)]

/-- The topics of the domain events, each with its payload struct. -/
def typedPayloads : List (String × PayloadSchema) :=
  [(topicInvoiceDrafted, invoiceDraftedPayload), (topicInvoiceIssued, invoiceIssuedPayload),
    (topicInvoiceSent, invoiceSentPayload), (topicInvoiceViewed, invoiceViewedPayload),
    (topicInvoicePaid, invoicePaidPayload), (topicInvoicePartiallyPaid, invoicePartiallyPaidPayload),
    (topicInvoiceOverdue, invoiceOverduePayload), (topicInvoiceVoided, invoiceVoidedPayload),
    (topicCreditNoteDrafted, creditNoteDraftedPayload),
    (topicCreditNoteIssued, creditNoteIssuedPayload),
    (topicReminderScheduled, reminderScheduledPayload), (topicReminderSent, reminderSentPayload),
    (topicReminderCancelled, reminderCancelledPayload), (topicScheduleCreated, scheduleCreatedPayload),
    (topicSchedulePaused, schedulePausedPayload), (topicScheduleCancelled, scheduleCancelledPayload)]

/-- The payload struct of a topic; the mechanic topics have none here. -/
def typedPayload (topic : String) : Option PayloadSchema := typedPayloads.lookup topic

/-! ### Reading payloads -/

/-- The parsers of the times and dates in payloads. -/
structure WireParsers where
  accepts : WireKind → String → Bool

/-- The text of an instant with the offset `+00:00`. -/
def rfc3339 (time : DateTime) : String := String.ofList time.text

def dateText (date : NaiveDate) : String := String.ofList date.text

/-- The parsers read what their own library prints. -/
structure WireParsers.RoundTrips (parsers : WireParsers) : Prop where
  dateTime : ∀ time : DateTime, parsers.accepts .dateTime (rfc3339 time) = true
  naiveDate : ∀ date : NaiveDate, parsers.accepts .naiveDate (dateText date) = true

/-- The payload is read as the struct of its topic, when the topic has one. -/
def BusEvent.Typed (parsers : WireParsers) (event : BusEvent) : Prop :=
  ∀ schema, typedPayload event.topic = some schema → schema.Reads parsers.accepts event.payload

/-- A domain event: its topic has a payload struct. -/
def BusEvent.IsDomain (event : BusEvent) : Prop := (typedPayload event.topic).isSome = true

/-- An event of a topic whose struct is known. -/
theorem BusEvent.typed_iff {parsers : WireParsers} {event : BusEvent} {schema : PayloadSchema}
    (struct : typedPayload event.topic = some schema) :
    event.Typed parsers ↔ schema.Reads parsers.accepts event.payload := by
  unfold BusEvent.Typed
  rw [struct]
  constructor
  · intro typed
    exact typed schema rfl
  · intro reads other same
    cases same
    exact reads

/-- A mechanic event is typed by its own struct, not by one of these. -/
theorem invoiceTriplet_not_domain {id : InvoiceId} {fromState toState : InvoiceState}
    {event : InvoiceEvent} {actor : Option String} {channel : HistoryChannel} {time : DateTime} :
    ∀ e ∈ invoiceTriplet id fromState toState event actor channel time, ¬ e.IsDomain := by
  intro e member
  simp only [invoiceTriplet, List.mem_cons, List.not_mem_nil, or_false] at member
  rcases member with rfl | rfl | rfl
  · exact (by decide : ¬ (typedPayload topicProposed).isSome = true)
  · exact (by decide : ¬ (typedPayload topicTransitioned).isSome = true)
  · exact (by decide : ¬ (typedPayload topicEntered).isSome = true)

theorem creditNoteTriplet_not_domain {id : CreditNoteId} {fromState toState : CreditNoteState}
    {event : CreditNoteEvent} {actor : Option String} {channel : HistoryChannel} {time : DateTime} :
    ∀ e ∈ creditNoteTriplet id fromState toState event actor channel time, ¬ e.IsDomain := by
  intro e member
  simp only [creditNoteTriplet, List.mem_cons, List.not_mem_nil, or_false] at member
  rcases member with rfl | rfl | rfl
  · exact (by decide : ¬ (typedPayload topicCreditNoteProposed).isSome = true)
  · exact (by decide : ¬ (typedPayload topicCreditNoteTransitioned).isSome = true)
  · exact (by decide : ¬ (typedPayload topicCreditNoteEntered).isSome = true)

end Invoicing
