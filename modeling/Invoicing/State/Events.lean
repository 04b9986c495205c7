/-
**The mechanic events of the two machines.**

* `InvoiceProposed`, `InvoiceTransitioned`, `InvoiceEntered` — what subscribers learn about a move of
  the invoice machine, with their topics and their JSON; the same three for credit notes.
* `invoiceTriplet`, `creditNoteTriplet` — the three in the order they are published.
-/

import Invoicing.Lib.Json
import Invoicing.State.Transitions

namespace Invoicing

open Chrono (DateTime NaiveDate)

/-! ### Texts -/

/-- RFC 3339 text with the offset `Z`, as instants are serialised in JSON. -/
def wireTime (time : DateTime) : Json :=
  .str (String.ofList (time.dateNaive.text ++ 'T' :: (Chrono.timeText time.secs time.nanos ++ ['Z'])))

/-- The text of a state in JSON. -/
def invoiceStateStr : InvoiceState → String
  | .draft => "draft"
  | .issued => "issued"
  | .sent => "sent"
  | .viewed => "viewed"
  | .partiallyPaid => "partially_paid"
  | .paid => "paid"
  | .voided => "voided"

def creditNoteStateStr : CreditNoteState → String
  | .draft => "draft"
  | .issued => "issued"

/-- The text of a channel in JSON. -/
def historyChannelStr : HistoryChannel → String
  | .cli => "cli"
  | .api => "api"
  | .ws => "ws"
  | .mcp => "mcp"
  | .bus => "bus"

/-- An event of the invoice machine, tagged by its kind. -/
def InvoiceEvent.toJson : InvoiceEvent → Json
  | .issue => .obj [("kind", .str "issue")]
  | .send => .obj [("kind", .str "send")]
  | .remind => .obj [("kind", .str "remind")]
  | .view => .obj [("kind", .str "view")]
  | .pay amountPaid total => .obj [("kind", .str "pay"),
      ("amount_paid", .str amountPaid.toString), ("total", .str total.toString)]
  | .void => .obj [("kind", .str "void")]

def CreditNoteEvent.toJson : CreditNoteEvent → Json
  | .issue => .obj [("kind", .str "issue")]

/-! ### Events on the bus -/

/-- What a publisher is called with. -/
structure BusEvent where
  topic : String
  payload : Json
  occurredAt : DateTime

/-! ### Invoices -/

def topicProposed : String := "inv.billing.invoice.proposed"
def topicTransitioned : String := "inv.billing.invoice.transitioned"
def topicEntered : String := "inv.billing.invoice.entered"

/-- Payload of `topicProposed`. -/
structure InvoiceProposed where
  invoiceId : InvoiceId
  fromState : InvoiceState
  toState : InvoiceState
  event : InvoiceEvent
  actor : Option String
  channel : HistoryChannel
  proposedAt : DateTime

/-- Payload of `topicTransitioned`. -/
structure InvoiceTransitioned where
  invoiceId : InvoiceId
  fromState : InvoiceState
  toState : InvoiceState
  event : InvoiceEvent
  actor : Option String
  channel : HistoryChannel
  occurredAt : DateTime

/-- Payload of `topicEntered`. -/
structure InvoiceEntered where
  invoiceId : InvoiceId
  state : InvoiceState
  channel : HistoryChannel
  actor : Option String
  enteredAt : DateTime

def InvoiceProposed.toJson (p : InvoiceProposed) : Json :=
  .obj ([("invoice_id", .str p.invoiceId.text), ("from", .str (invoiceStateStr p.fromState)),
      ("to", .str (invoiceStateStr p.toState)), ("event", p.event.toJson)] ++
    Json.unlessNone "actor" p.actor ++
    [("channel", .str (historyChannelStr p.channel)), ("proposed_at", wireTime p.proposedAt)])

def InvoiceTransitioned.toJson (p : InvoiceTransitioned) : Json :=
  .obj ([("invoice_id", .str p.invoiceId.text), ("from", .str (invoiceStateStr p.fromState)),
      ("to", .str (invoiceStateStr p.toState)), ("event", p.event.toJson)] ++
    Json.unlessNone "actor" p.actor ++
    [("channel", .str (historyChannelStr p.channel)), ("occurred_at", wireTime p.occurredAt)])

def InvoiceEntered.toJson (p : InvoiceEntered) : Json :=
  .obj ([("invoice_id", .str p.invoiceId.text), ("state", .str (invoiceStateStr p.state)),
      ("channel", .str (historyChannelStr p.channel))] ++ Json.unlessNone "actor" p.actor ++
    [("entered_at", wireTime p.enteredAt)])

/-- The three mechanic events of a move, in order. -/
def invoiceTriplet (id : InvoiceId) (fromState toState : InvoiceState) (event : InvoiceEvent)
    (actor : Option String) (channel : HistoryChannel) (time : DateTime) : List BusEvent :=
  [⟨topicProposed, (InvoiceProposed.mk id fromState toState event actor channel time).toJson, time⟩,
    ⟨topicTransitioned,
      (InvoiceTransitioned.mk id fromState toState event actor channel time).toJson, time⟩,
    ⟨topicEntered, (InvoiceEntered.mk id toState channel actor time).toJson, time⟩]

/-! ### Credit notes -/

def topicCreditNoteProposed : String := "inv.billing.creditnote.proposed"
def topicCreditNoteTransitioned : String := "inv.billing.creditnote.transitioned"
def topicCreditNoteEntered : String := "inv.billing.creditnote.entered"

/-- Payload of `topicCreditNoteProposed`. -/
structure CreditNoteProposed where
  creditNoteId : CreditNoteId
  fromState : CreditNoteState
  toState : CreditNoteState
  event : CreditNoteEvent
  actor : Option String
  channel : HistoryChannel
  proposedAt : DateTime

/-- Payload of `topicCreditNoteTransitioned`. -/
structure CreditNoteTransitioned where
  creditNoteId : CreditNoteId
  fromState : CreditNoteState
  toState : CreditNoteState
  event : CreditNoteEvent
  actor : Option String
  channel : HistoryChannel
  occurredAt : DateTime

/-- Payload of `topicCreditNoteEntered`. -/
structure CreditNoteEntered where
  creditNoteId : CreditNoteId
  state : CreditNoteState
  channel : HistoryChannel
  actor : Option String
  enteredAt : DateTime

def CreditNoteProposed.toJson (p : CreditNoteProposed) : Json :=
  .obj ([("credit_note_id", .str p.creditNoteId.text),
      ("from", .str (creditNoteStateStr p.fromState)), ("to", .str (creditNoteStateStr p.toState)),
      ("event", p.event.toJson)] ++
    Json.unlessNone "actor" p.actor ++
    [("channel", .str (historyChannelStr p.channel)), ("proposed_at", wireTime p.proposedAt)])

def CreditNoteTransitioned.toJson (p : CreditNoteTransitioned) : Json :=
  .obj ([("credit_note_id", .str p.creditNoteId.text),
      ("from", .str (creditNoteStateStr p.fromState)), ("to", .str (creditNoteStateStr p.toState)),
      ("event", p.event.toJson)] ++
    Json.unlessNone "actor" p.actor ++
    [("channel", .str (historyChannelStr p.channel)), ("occurred_at", wireTime p.occurredAt)])

def CreditNoteEntered.toJson (p : CreditNoteEntered) : Json :=
  .obj ([("credit_note_id", .str p.creditNoteId.text), ("state", .str (creditNoteStateStr p.state)),
      ("channel", .str (historyChannelStr p.channel))] ++ Json.unlessNone "actor" p.actor ++
    [("entered_at", wireTime p.enteredAt)])

def creditNoteTriplet (id : CreditNoteId) (fromState toState : CreditNoteState)
    (event : CreditNoteEvent) (actor : Option String) (channel : HistoryChannel) (time : DateTime) :
    List BusEvent :=
  [⟨topicCreditNoteProposed,
      (CreditNoteProposed.mk id fromState toState event actor channel time).toJson, time⟩,
    ⟨topicCreditNoteTransitioned,
      (CreditNoteTransitioned.mk id fromState toState event actor channel time).toJson, time⟩,
    ⟨topicCreditNoteEntered, (CreditNoteEntered.mk id toState channel actor time).toJson, time⟩]

end Invoicing
