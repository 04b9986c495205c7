/-
**Payloads and their structs.**

* `AllTyped` — every domain event of a list is read as the struct of its topic. `drafted_typed`, … — the
  events of each command; **`paid_not_typed`**, **`overdue_not_typed`**, **`reminderScheduled_not_typed`**
  — three whose payload lacks a field the struct needs.
* `OutboxRow.Conforms` — the rows whose rebuilt payload has the fields of the struct: a send, a view or a
  void with an actor.
* `Producer` — a command, a ticker pass or a relay pass; `Producer.run` is what it publishes when it
  succeeds. **`payloads_typed_iff`** — when its events are typed. **`payment_not_typed`** — a payment.
-/

import Invoicing.Commands.Reminder
import Invoicing.Runs.Drain
import Invoicing.Runs.Published

namespace Invoicing

open Chrono (DateTime)
open Json (Schema)

/-! ### Events and their structs -/

/-- Every domain event is read as the struct of its topic. -/
def AllTyped (parsers : WireParsers) (events : List BusEvent) : Prop :=
  ∀ event ∈ events, event.Typed parsers

section Typed

variable {parsers : WireParsers}

theorem AllTyped.nil : AllTyped parsers [] := fun _ absent => by cases absent

theorem allTyped_append {first second : List BusEvent} :
    AllTyped parsers (first ++ second) ↔ AllTyped parsers first ∧ AllTyped parsers second := by
  unfold AllTyped
  exact List.forall_mem_append

theorem BusEvent.typed_of_not_domain {event : BusEvent} (mechanic : ¬ event.IsDomain) :
    event.Typed parsers := by
  intro schema struct
  refine absurd ?_ mechanic
  unfold BusEvent.IsDomain
  rw [struct]
  rfl

/-- One event whose payload has the fields of its struct. -/
theorem allTyped_singleton {topic : String} {payload : Json} {time : DateTime} {schema : PayloadSchema}
    (struct : typedPayload topic = some schema)
    (all : (schema.all fun entry =>
      Schema.readsField parsers.accepts entry.2 (payload.field entry.1)) = true) :
    AllTyped parsers [⟨topic, payload, time⟩] := by
  intro event member
  obtain rfl := List.mem_singleton.mp member
  exact (BusEvent.typed_iff struct).mpr fun entry inSchema => List.all_eq_true.mp all entry inSchema

/-- One event whose payload lacks a field its struct needs. -/
theorem not_allTyped_singleton {topic : String} {payload : Json} {time : DateTime}
    {schema : PayloadSchema} (struct : typedPayload topic = some schema) {name : String}
    {type : Json.FieldType WireKind} (member : (name, type) ∈ schema) (needed : type ≠ .optionalString)
    (missing : payload.field name = none) : ¬ AllTyped parsers [⟨topic, payload, time⟩] := by
  intro typed
  have reads := (BusEvent.typed_iff struct).mp (typed _ List.mem_cons_self)
  exact Schema.not_reads_of_missing parsers.accepts member needed missing reads

theorem invoiceTriplet_typed {id : InvoiceId} {fromState toState : InvoiceState} {event : InvoiceEvent}
    {actor : Option String} {channel : HistoryChannel} {time : DateTime} :
    AllTyped parsers (invoiceTriplet id fromState toState event actor channel time) :=
  fun e member => BusEvent.typed_of_not_domain (invoiceTriplet_not_domain e member)

theorem creditNoteTriplet_typed {id : CreditNoteId} {fromState toState : CreditNoteState}
    {event : CreditNoteEvent} {actor : Option String} {channel : HistoryChannel} {time : DateTime} :
    AllTyped parsers (creditNoteTriplet id fromState toState event actor channel time) :=
  fun e member => BusEvent.typed_of_not_domain (creditNoteTriplet_not_domain e member)

/-! ### What the commands publish -/

theorem drafted_typed (input : DraftInvoiceInput) (inv : Invoice) (channel : HistoryChannel)
    (now : DateTime) : AllTyped parsers (draftedEvents input inv channel now) :=
  allTyped_singleton rfl rfl

theorem issued_typed (inv : Invoice) (fromState toState : InvoiceState) (actor : Actor)
    (channel : HistoryChannel) (now : DateTime) :
    AllTyped parsers (issuedEvents inv fromState toState actor channel now) := by
  refine allTyped_append.mpr ⟨invoiceTriplet_typed, ?_⟩
  cases inv.number <;> exact allTyped_singleton rfl rfl

theorem sent_typed (inv : Invoice) (fromState toState : InvoiceState) (actor : Actor)
    (channel : HistoryChannel) (now : DateTime) (destination : String) :
    AllTyped parsers (sentEvents inv fromState toState actor channel now destination) :=
  allTyped_append.mpr ⟨invoiceTriplet_typed, allTyped_singleton rfl rfl⟩

theorem viewed_typed (inv : Invoice) (now : DateTime) : AllTyped parsers (viewedEvents inv now) :=
  allTyped_singleton rfl rfl

/-- **The payload of a payment has no `cumulative_paid`.** -/
theorem paid_not_typed (inv : Invoice) (input : MarkPaidInput) (fromState toState : InvoiceState)
    (event : InvoiceEvent) (channel : HistoryChannel) (now : DateTime) (fullyPaid : Bool) :
    ¬ AllTyped parsers (paidEvents inv input fromState toState event channel now fullyPaid) := by
  intro typed
  have domain := (allTyped_append.mp typed).2
  have needs : ("cumulative_paid", Json.FieldType.string) ∈ invoicePaymentPayload := by
    simp [invoicePaymentPayload]
  cases fullyPaid with
  | true => exact not_allTyped_singleton rfl needs nofun rfl domain
  | false => exact not_allTyped_singleton rfl needs nofun rfl domain

theorem voided_typed (inv : Invoice) (input : VoidInvoiceInput) (fromState toState : InvoiceState)
    (channel : HistoryChannel) (now : DateTime) :
    AllTyped parsers (voidedEvents inv input fromState toState channel now) := by
  refine allTyped_append.mpr ⟨invoiceTriplet_typed, ?_⟩
  cases input.reason <;> exact allTyped_singleton rfl rfl

theorem creditNoteDrafted_typed (note : CreditNote) (input : CreateCreditNoteInput)
    (channel : HistoryChannel) (now : DateTime) :
    AllTyped parsers (creditNoteDraftedEvents note input channel now) := by
  unfold creditNoteDraftedEvents
  cases note.refundRef <;> exact allTyped_singleton rfl rfl

theorem creditNoteIssued_typed (note : CreditNote) (fromState toState : CreditNoteState)
    (event : CreditNoteEvent) (actor : Actor) (channel : HistoryChannel) (now : DateTime) :
    AllTyped parsers (creditNoteIssuedEvents note fromState toState event actor channel now) := by
  refine allTyped_append.mpr ⟨creditNoteTriplet_typed, ?_⟩
  cases note.number <;> exact allTyped_singleton rfl rfl

theorem schedulePaused_typed (schedule : Schedule) (input : ScheduleStateChangeInput) (now : DateTime) :
    AllTyped parsers (scheduleChangedEvents topicSchedulePaused schedule input now) :=
  allTyped_singleton rfl rfl

theorem scheduleCancelled_typed (schedule : Schedule) (input : ScheduleStateChangeInput)
    (now : DateTime) : AllTyped parsers (scheduleChangedEvents topicScheduleCancelled schedule input now) :=
  allTyped_singleton rfl rfl

theorem endDateReached_typed (schedule : Schedule) (now : DateTime) :
    AllTyped parsers (endDateReachedEvents schedule now) := allTyped_singleton rfl rfl

theorem reminderCancelled_typed (reminder : Reminder) (input : ReminderCancelInput) (now : DateTime) :
    AllTyped parsers [reminderCancelledEvent reminder input now] := allTyped_singleton rfl rfl

/-- **The payload of a scheduled reminder has no `due_at`.** -/
theorem reminderScheduled_not_typed (reminder : Reminder) (input : ReminderScheduleInput)
    (now : DateTime) : ¬ AllTyped parsers [reminderScheduledEvent reminder input now] := by
  have needs : ("due_at", Json.FieldType.parsed WireKind.dateTime) ∈ reminderScheduledPayload := by
    simp [reminderScheduledPayload]
  exact not_allTyped_singleton rfl needs nofun rfl

/-- **The payload of an overdue invoice has no `actor`.** -/
theorem overdue_not_typed (inv : Invoice) (now : DateTime) :
    ¬ AllTyped parsers [overdueEvent inv now] := by
  have needs : ("actor", Json.FieldType.string) ∈ invoiceOverduePayload := by
    simp [invoiceOverduePayload]
  exact not_allTyped_singleton rfl needs nofun rfl

section Times

variable (roundTrips : parsers.RoundTrips)

include roundTrips

theorem scheduleCreated_typed (schedule : Schedule) (input : ScheduleCreateInput) (now : DateTime) :
    AllTyped parsers (scheduleCreatedEvents schedule input now) := by
  refine allTyped_singleton rfl ?_
  have date := roundTrips.naiveDate schedule.startDate
  simp [scheduleCreatedPayload, Schema.readsField, Json.field, List.lookup_cons, date]

theorem reminderSent_typed (reminder : Reminder) (now : DateTime) :
    AllTyped parsers [reminderSentEvent reminder now] := by
  refine allTyped_singleton rfl ?_
  have time := roundTrips.dateTime now
  simp [reminderSentPayload, Schema.readsField, Json.field, List.lookup_cons, time]

end Times

/-! ### What the relay publishes -/

/-- The rebuilt payload has the fields of the struct of its topic, or there is no topic. -/
def OutboxRow.Conforms : OutboxRow → Prop
  | .invoice row => ∀ topic, invoiceDomainTopic row.event row.toState = some topic →
      (row.toState = .sent ∨ row.toState = .viewed ∨ row.toState = .voided) ∧ row.actor ≠ none
  | .creditNote row => creditNoteDomainTopic row.event row.toState = none

/-- The domain topic of the rows that lead to a state, whatever their tag. -/
def topicInto : InvoiceState → String
  | .draft => topicInvoiceDrafted
  | .issued => topicInvoiceIssued
  | .sent => topicInvoiceSent
  | .viewed => topicInvoiceViewed
  | .partiallyPaid => topicInvoicePartiallyPaid
  | .paid => topicInvoicePaid
  | .voided => topicInvoiceVoided

theorem invoiceDomainTopic_eq {tag : String} {toState : InvoiceState} {topic : String}
    (domain : invoiceDomainTopic tag toState = some topic) : topic = topicInto toState := by
  unfold invoiceDomainTopic at domain
  split at domain <;> cases domain <;> rfl

theorem invoiceRowTriplet_typed (row : InvoiceStateHistory) :
    AllTyped parsers (invoiceRowTriplet row) := by
  unfold invoiceRowTriplet
  split
  · exact .nil
  · split
    · exact .nil
    · split
      · exact .nil
      · exact invoiceTriplet_typed

section Rebuilt

variable (row : InvoiceStateHistory)

/-- The rebuilt domain event of a row that leads to a state. -/
def rebuiltInto (state : InvoiceState) : List BusEvent :=
  [⟨topicInto state, invoiceDomainPayload row, row.occurredAt⟩]

/-- A struct that asks for the actor, and otherwise for fields that every row has. -/
theorem rebuilt_typed_iff (state : InvoiceState) {schema : PayloadSchema}
    (struct : typedPayload (topicInto state) = some schema)
    (member : ("actor", Json.FieldType.string) ∈ schema)
    (all : ∀ actor, row.actor = some actor → (schema.all fun entry =>
      Schema.readsField parsers.accepts entry.2 ((invoiceDomainPayload row).field entry.1)) = true) :
    AllTyped parsers (rebuiltInto row state) ↔ row.actor ≠ none := by
  constructor
  · intro typed absent
    have reads := (BusEvent.typed_iff struct).mp (typed _ List.mem_cons_self)
    have actor := reads _ member
    have value : (invoiceDomainPayload row).field "actor" = some (Json.ofOption row.actor) := rfl
    simp only [value, absent] at actor
    cases actor
  · intro present
    obtain ⟨actor, there⟩ := Option.ne_none_iff_exists'.mp present
    exact allTyped_singleton struct (all actor there)

/-- The fields of the structs of sends, views and voids. -/
theorem touched_fields {actor : String} (there : row.actor = some actor) :
    (invoiceTouchedPayload.all fun entry => Schema.readsField parsers.accepts entry.2
        ((invoiceDomainPayload row).field entry.1)) = true ∧
      (invoiceVoidedPayload.all fun entry => Schema.readsField parsers.accepts entry.2
        ((invoiceDomainPayload row).field entry.1)) = true := by
  unfold invoiceDomainPayload
  rw [there]
  refine ⟨rfl, ?_⟩
  cases row.reason <;> rfl

/-- **The rebuilt payload of an invoice row** has the fields of its struct exactly if the row is a send,
a view or a void with an actor. -/
theorem rebuilt_typed (state : InvoiceState) : AllTyped parsers (rebuiltInto row state) ↔
    (state = .sent ∨ state = .viewed ∨ state = .voided) ∧ row.actor ≠ none := by
  have lacks : ∀ {schema : PayloadSchema} {name : String}, typedPayload (topicInto state) = some schema →
      (name, Json.FieldType.string) ∈ schema → (invoiceDomainPayload row).field name = none →
      ¬ AllTyped parsers (rebuiltInto row state) :=
    fun struct member missing => not_allTyped_singleton struct member nofun missing
  cases state with
  | draft =>
    have needs : ("customer_id", Json.FieldType.string) ∈ invoiceDraftedPayload := by
      simp [invoiceDraftedPayload]
    exact iff_of_false (lacks rfl needs rfl) (by simp)
  | issued =>
    have needs : ("customer_id", Json.FieldType.string) ∈ invoiceIssuedPayload := by
      simp [invoiceIssuedPayload]
    exact iff_of_false (lacks rfl needs rfl) (by simp)
  | paid =>
    have needs : ("amount_paid", Json.FieldType.string) ∈ invoicePaymentPayload := by
      simp [invoicePaymentPayload]
    exact iff_of_false (lacks rfl needs rfl) (by simp)
  | partiallyPaid =>
    have needs : ("amount_paid", Json.FieldType.string) ∈ invoicePaymentPayload := by
      simp [invoicePaymentPayload]
    exact iff_of_false (lacks rfl needs rfl) (by simp)
  | sent =>
    have needs : ("actor", Json.FieldType.string) ∈ invoiceTouchedPayload := by
      simp [invoiceTouchedPayload]
    rw [rebuilt_typed_iff row .sent rfl needs fun _ there => (touched_fields row there).1]
    simp
  | viewed =>
    have needs : ("actor", Json.FieldType.string) ∈ invoiceTouchedPayload := by
      simp [invoiceTouchedPayload]
    rw [rebuilt_typed_iff row .viewed rfl needs fun _ there => (touched_fields row there).1]
    simp
  | voided =>
    have needs : ("actor", Json.FieldType.string) ∈ invoiceVoidedPayload := by
      simp [invoiceVoidedPayload]
    rw [rebuilt_typed_iff row .voided rfl needs fun _ there => (touched_fields row there).2]
    simp

end Rebuilt

theorem creditNoteRowTriplet_typed (row : CreditNoteStateHistory) :
    AllTyped parsers (creditNoteRowTriplet row) := by
  unfold creditNoteRowTriplet
  split
  · exact .nil
  · split
    · exact .nil
    · exact creditNoteTriplet_typed

/-- The struct of a rebuilt credit-note event asks for the invoice, which is not on the row. -/
theorem creditNoteDomain_not_typed {row : CreditNoteStateHistory} {topic : String}
    (domain : creditNoteDomainTopic row.event row.toState = some topic) :
    ¬ AllTyped parsers [⟨topic, creditNoteDomainPayload row, row.occurredAt⟩] := by
  unfold creditNoteDomainTopic at domain
  split at domain
  · cases domain
    have needs : ("invoice_id", Json.FieldType.string) ∈ creditNoteDraftedPayload := by
      simp [creditNoteDraftedPayload]
    exact not_allTyped_singleton rfl needs nofun rfl
  · cases domain
    have needs : ("invoice_id", Json.FieldType.string) ∈ creditNoteIssuedPayload := by
      simp [creditNoteIssuedPayload]
    exact not_allTyped_singleton rfl needs nofun rfl
  · cases domain

/-- **The events of a row** are read as their structs exactly if the row conforms. -/
theorem OutboxRow.events_typed (row : OutboxRow) : AllTyped parsers row.events ↔ row.Conforms := by
  cases row with
  | invoice row =>
    show AllTyped parsers (invoiceRowToEvents row) ↔ ∀ topic, _ = some topic → _
    unfold invoiceRowToEvents
    rw [allTyped_append, and_iff_right (invoiceRowTriplet_typed row)]
    cases domain : invoiceDomainTopic row.event row.toState with
    | none => exact iff_of_true .nil fun _ absent => by cases absent
    | some topic =>
      obtain rfl := invoiceDomainTopic_eq domain
      exact (rebuilt_typed row row.toState).trans
        ⟨fun conforms _ _ => conforms, fun conforms => conforms _ rfl⟩
  | creditNote row =>
    show AllTyped parsers (creditNoteRowToEvents row) ↔
      creditNoteDomainTopic row.event row.toState = none
    unfold creditNoteRowToEvents
    rw [allTyped_append, and_iff_right (creditNoteRowTriplet_typed row)]
    cases domain : creditNoteDomainTopic row.event row.toState with
    | none => exact iff_of_true .nil rfl
    | some topic => exact iff_of_false (creditNoteDomain_not_typed domain) fun absent => by cases absent

end Typed

end Invoicing
