/-
**What the invoice commands publish, and what the relay rebuilds.**

* `Request.ready` — a call up to its transaction. **`Request.ready_cases`** — the call ends there, or tries
  to commit an edit.
* `Request.events` — what a call publishes of the edit it committed. `Request.published` — what it
  publishes when it is executed; nothing when the transaction is refused.
* `Rebuilds` — how the events rebuilt from the row compare to the published ones.
  **`relay_rebuilds`** — so they do for every row that moved its invoice. **`payment_rebuilt`** — the
  amounts of a payment are not rebuilt.
-/

import Invoicing.Bus.Outbox
import Invoicing.Commands.Publish
import Invoicing.Runs.Commands

namespace Invoicing

open Chrono (DateTime)

/-! ### Up to the transaction -/

/-- A call up to its transaction: loaded, and an issue counted. -/
def Request.ready (request : Request) (db : Db) : Run :=
  match request.load db with
  | .counting ctx input ready => (advance (.counting ctx input ready) db).1
  | run => run

theorem prepared_cases {α : Type} (request : Request) (reply : α → Reply)
    (result : CoreResult (Prepared α)) :
    (∃ outcome, prepared request reply result = .finished request outcome) ∨
      ∃ loaded tx output, prepared request reply result = .committing request loaded tx (reply output) := by
  cases result with
  | error e => exact Or.inl ⟨_, rfl⟩
  | ok done =>
    cases done with
    | answer output => exact Or.inl ⟨_, rfl⟩
    | write loaded tx output => exact Or.inr ⟨loaded, tx, output, rfl⟩

/-- Where a call stands once it is loaded. -/
theorem load_cases (request : Request) (db : Db) :
    (∃ outcome, request.load db = .finished request outcome) ∨
      (∃ loaded tx reply, request.load db = .committing request loaded tx reply) ∨
      ∃ ctx input ready, request = .issue ctx input ∧ ready.Checked input ∧
        request.load db = .counting ctx input ready := by
  have byPrepared : ∀ {α : Type} (reply : α → Reply) (result : CoreResult (Prepared α)),
      request.load db = prepared request reply result →
      (∃ outcome, request.load db = .finished request outcome) ∨
        (∃ loaded tx reply, request.load db = .committing request loaded tx reply) ∨
        ∃ ctx input ready, request = .issue ctx input ∧ ready.Checked input ∧
          request.load db = .counting ctx input ready := by
    intro α reply result loads
    rw [loads]
    rcases prepared_cases request reply result with ends | ⟨loaded, tx, output, commits⟩
    · exact Or.inl ends
    · exact Or.inr (Or.inl ⟨loaded, tx, reply output, commits⟩)
  cases request with
  | draft ctx input => exact byPrepared .drafted _ rfl
  | send ctx input => exact byPrepared .sent _ rfl
  | sendRender ctx input => exact byPrepared .sent _ rfl
  | markPaid ctx input => exact byPrepared .paid _ rfl
  | void ctx input => exact byPrepared .voided _ rfl
  | issue ctx input =>
    simp only [Request.load]
    cases done : prepareIssue ctx input db with
    | error e => exact Or.inl ⟨_, rfl⟩
    | ok ready => exact Or.inr (Or.inr ⟨ctx, input, ready, rfl, (prepareIssue_checked done).1, rfl⟩)
  | view state token =>
    simp only [Request.load]
    cases prepareView state token db with
    | error e => exact Or.inl ⟨_, rfl⟩
    | ok done =>
      cases done with
      | answer html => exact Or.inl ⟨_, rfl⟩
      | write loaded tx html => exact Or.inr (Or.inl ⟨loaded, tx, _, rfl⟩)

/-- Committing is the last step. -/
theorem advance_committing (request : Request) (loaded : Option Invoice) (tx : InvoiceTx) (reply : Reply)
    (db : Db) : advance (.committing request loaded tx reply) db =
      (.finished request (commitOutcome tx reply db).1, (commitOutcome tx reply db).2) := by
  simp only [advance, commitOutcome]
  cases tx.commit db with
  | error e => rfl
  | ok after => rfl

/-- **A call ends before its transaction, or tries to commit an edit.** -/
theorem Request.ready_cases (request : Request) (db : Db) :
    (∃ outcome, request.ready db = .finished request outcome ∧ request.execute db = (outcome, db)) ∨
      ∃ loaded tx reply, request.ready db = .committing request loaded tx reply ∧
        Edit request loaded tx ∧ request.execute db = commitOutcome tx reply db := by
  have alone := solo_execute request db
  have byExecute : ∀ {outcome : Outcome} {after : Db},
      solo request db = (.finished request outcome, after) → request.execute db = (outcome, after) := by
    intro outcome after same
    rw [alone] at same
    obtain ⟨run, tables⟩ := Prod.mk.inj same
    exact Prod.ext (Run.finished.inj run).2 tables
  unfold Request.ready
  rcases load_cases request db with ⟨outcome, loads⟩ | ⟨loaded, tx, reply, loads⟩ |
    ⟨ctx, input, ready, rfl, checked, loads⟩
  · rw [loads]
    refine Or.inl ⟨outcome, rfl, byExecute ?_⟩
    simp only [solo, advance, loads]
  · have edit := (load_committing loads).2.1
    rw [loads]
    refine Or.inr ⟨loaded, tx, reply, rfl, edit, byExecute ?_⟩
    have first : advance (.start request) db = (.committing request loaded tx reply, db) := by
      rw [← loads]
      rfl
    simp only [solo, first, advance_committing]
    rfl
  · rw [loads]
    simp only
    have first : advance (.start (.issue ctx input)) db = (.counting ctx input ready, db) := by
      rw [← loads]
      rfl
    rcases prepared_cases (.issue ctx input) .issued
        (finishIssue ctx input ready (countInvoicesIssuedInYear db ctx.now.year)) with
      ⟨outcome, counts⟩ | ⟨loaded, tx, output, counts⟩
    · have second : advance (.counting ctx input ready) db =
          (.finished (.issue ctx input) outcome, db) := by
        rw [← counts]
        rfl
      refine Or.inl ⟨outcome, by rw [second], byExecute ?_⟩
      simp only [solo, first, second]
      rfl
    · have second : advance (.counting ctx input ready) db =
          (.committing (.issue ctx input) loaded tx (.issued output), db) := by
        rw [← counts]
        rfl
      have counted : (advance (.counting ctx input ready) db).1 =
          .committing (.issue ctx input) loaded tx (.issued output) := by rw [second]
      have edit := (counting_committing checked counted).2.2.1
      refine Or.inr ⟨loaded, tx, _, by rw [second], edit, byExecute ?_⟩
      simp only [solo, first, second, advance_committing]
      rfl

/-! ### Publishing -/

/-- The destination a send reports. -/
def Reply.deliveredTo : Reply → String
  | .sent output => output.deliveredTo
  | _ => ""

/-- What a call publishes once its transaction is committed. -/
def Request.events (request : Request) (loaded : Option Invoice) (tx : InvoiceTx) (reply : Reply) :
    List BusEvent :=
  let inv := tx.invoice
  let toState := tx.history.toState
  match request, loaded with
  | .draft ctx input, _ => draftedEvents input inv input.channel.toHistory ctx.now
  | .issue ctx input, some old =>
      issuedEvents inv old.state toState input.actor input.channel.toHistory ctx.now
  | .send ctx input, some old =>
      sentEvents inv old.state toState input.actor input.channel.toHistory ctx.now reply.deliveredTo
  | .sendRender ctx input, some old =>
      sentEvents inv old.state toState input.actor input.channel.toHistory ctx.now reply.deliveredTo
  | .view state _, some _ => viewedEvents inv state.ctx.now
  | .markPaid ctx input, some old =>
      paidEvents inv input old.state toState (.pay inv.amountPaid inv.total)
        input.channel.toHistory (input.receivedAt.getD ctx.now) (decide (toState = .paid))
  | .void ctx input, some old =>
      voidedEvents inv input old.state toState input.channel.toHistory ctx.now
  -- every command but the draft has loaded the row it edits
  | _, none => []

/-- What a call publishes when it is executed. -/
def Request.published (request : Request) (db : Db) : List BusEvent :=
  match request.ready db with
  | .committing _ loaded tx reply =>
      match tx.commit db with
      | .error _ => []
      | .ok _ => request.events loaded tx reply
  | _ => []

/-- **A call that adds a history row** has committed an edit with it and publishes the events of the
edit; any other call publishes nothing. -/
theorem Request.published_cases (request : Request) (db : Db) :
    ((request.execute db).2 = db ∧ request.published db = []) ∨
      ∃ loaded tx reply, Edit request loaded tx ∧ tx.commit db = .ok (tx.apply db) ∧
        request.execute db = (.ok reply, tx.apply db) ∧
        request.published db = request.events loaded tx reply := by
  unfold Request.published
  rcases request.ready_cases db with ⟨outcome, ready, executes⟩ | ⟨loaded, tx, reply, ready, edit, executes⟩
  · rw [ready, executes]
    exact Or.inl ⟨rfl, rfl⟩
  · rw [ready, executes]
    unfold commitOutcome
    cases committed : tx.commit db with
    | error e =>
      refine Or.inl ⟨rfl, ?_⟩
      simp only [committed]
    | ok after =>
      obtain rfl := (InvoiceTx.commit_ok committed).1
      refine Or.inr ⟨loaded, tx, reply, edit, committed, rfl, ?_⟩
      simp only [committed]

theorem Request.published_of_row {request : Request} {db : Db} {row : InvoiceStateHistory}
    (added : (request.execute db).2.history = db.history ++ [row]) :
    ∃ loaded tx reply, Edit request loaded tx ∧ tx.history = row ∧
      request.published db = request.events loaded tx reply := by
  rcases request.published_cases db with ⟨same, _⟩ | ⟨loaded, tx, reply, edit, _, executes, publishes⟩
  · rw [same] at added
    have length := congrArg List.length added
    simp at length
  · refine ⟨loaded, tx, reply, edit, ?_, publishes⟩
    rw [executes] at added
    have rows : db.history ++ [tx.history] = db.history ++ [row] := added
    exact List.singleton_inj.mp (List.append_cancel_left rows)

/-! ### The relay and the commands -/

/-- An event of the invoice machine. -/
def BusEvent.isMechanic (event : BusEvent) : Bool :=
  decide (event.topic = topicProposed ∨ event.topic = topicTransitioned ∨ event.topic = topicEntered)

/-- The mechanic events of a move that a row records. -/
def InvoiceStateHistory.triplet (row : InvoiceStateHistory) (fromState : InvoiceState)
    (event : InvoiceEvent) : List BusEvent :=
  invoiceTriplet row.invoiceId fromState row.toState event row.actor row.channel row.occurredAt

/-- How what the relay rebuilds from a row compares to what the command published. -/
def Rebuilds (request : Request) (row : InvoiceStateHistory) (published rebuilt : List BusEvent) : Prop :=
  match request with
  -- a view published the domain event alone
  | .view _ _ => ∃ domain, published.map BusEvent.topic = [domain] ∧
      rebuilt.map BusEvent.topic = [topicProposed, topicTransitioned, topicEntered, domain]
  -- the amounts of a payment are not on the row: stand-ins of the same class replace them
  | .markPaid _ _ => published.map BusEvent.topic = rebuilt.map BusEvent.topic ∧
      ∃ fromState paid standIn, row.fromState = some fromState ∧
        published.filter BusEvent.isMechanic = row.triplet fromState paid ∧
        rebuilt.filter BusEvent.isMechanic = row.triplet fromState standIn ∧
        nextState fromState paid = .ok row.toState ∧ nextState fromState standIn = .ok row.toState
  | _ => published.map BusEvent.topic = rebuilt.map BusEvent.topic ∧
      published.filter BusEvent.isMechanic = rebuilt.filter BusEvent.isMechanic

theorem filter_triplet (row : InvoiceStateHistory) (fromState : InvoiceState) (event : InvoiceEvent)
    {domain : BusEvent} (notMechanic : domain.isMechanic = false) :
    (row.triplet fromState event ++ [domain]).filter BusEvent.isMechanic =
      row.triplet fromState event := by
  have all : (row.triplet fromState event).filter BusEvent.isMechanic = row.triplet fromState event := by
    refine List.filter_eq_self.mpr ?_
    intro e member
    simp only [InvoiceStateHistory.triplet, invoiceTriplet, List.mem_cons, List.not_mem_nil,
      or_false] at member
    rcases member with rfl | rfl | rfl
    · rfl
    · rfl
    · rfl
  rw [List.filter_append, all, List.filter_cons_of_neg (by simp [notMechanic]), List.filter_nil,
    List.append_nil]

/-- The stand-in for a payment is accepted where the payment was, and leads where it led. -/
theorem reconstruct_pay {fromState toState : InvoiceState} {amountPaid total : Decimal}
    (accepted : nextState fromState (.pay amountPaid total) = .ok toState) :
    ∃ standIn, reconstructInvoiceEvent "pay" toState = some standIn ∧
      nextState fromState standIn = .ok toState := by
  have full : FullPayment ⟨1, 0, by decide⟩ ⟨1, 0, by decide⟩ := by decide
  rcases (nextState_pay accepted).2 with ⟨_, rfl⟩ | ⟨_, rfl⟩
  · refine ⟨_, rfl, ?_⟩
    cases fromState with
    | draft => exact absurd rfl (nextState_pay accepted).1
    | paid => cases accepted
    | voided => cases accepted
    | _ => rfl
  · refine ⟨_, rfl, ?_⟩
    cases fromState with
    | draft => exact absurd rfl (nextState_pay accepted).1
    | paid => cases accepted
    | voided => cases accepted
    | _ => rfl

/-- What the relay rebuilds from a row that moved its invoice and names an event of the machine. -/
theorem rebuilt_of_moved {row : InvoiceStateHistory} {fromState : InvoiceState} {event : InvoiceEvent}
    {topic : String} (before : row.fromState = some fromState) (moved : fromState ≠ row.toState)
    (reconstructs : reconstructInvoiceEvent row.event row.toState = some event)
    (domain : invoiceDomainTopic row.event row.toState = some topic) :
    invoiceRowToEvents row =
      row.triplet fromState event ++ [⟨topic, invoiceDomainPayload row, row.occurredAt⟩] := by
  have notSelf : ¬ some fromState = some row.toState := fun same => moved (Option.some.inj same)
  unfold invoiceRowToEvents invoiceRowTriplet
  rw [before, if_neg notSelf]
  simp only [reconstructs, domain]
  rfl

/-- The published and the rebuilt events of a move: the topics are the same, and the mechanic events are
those of an event of the machine and of its stand-in. -/
structure RebuiltAs (row : InvoiceStateHistory) (published : List BusEvent) (fromState : InvoiceState)
    (event standIn : InvoiceEvent) : Prop where
  topics : published.map BusEvent.topic = (invoiceRowToEvents row).map BusEvent.topic
  published : published.filter BusEvent.isMechanic = row.triplet fromState event
  rebuilt : (invoiceRowToEvents row).filter BusEvent.isMechanic = row.triplet fromState standIn

/-- A move published as its mechanic events and a domain event is rebuilt from its row. -/
theorem rebuiltAs_of {row : InvoiceStateHistory} {fromState : InvoiceState}
    {event standIn : InvoiceEvent} {topic : String} {payload : Json} {time : DateTime}
    {published : List BusEvent} (before : row.fromState = some fromState)
    (moved : fromState ≠ row.toState)
    (reconstructs : reconstructInvoiceEvent row.event row.toState = some standIn)
    (domain : invoiceDomainTopic row.event row.toState = some topic)
    (notMechanic : ∀ payload time, (BusEvent.mk topic payload time).isMechanic = false)
    (publishes : published = row.triplet fromState event ++ [⟨topic, payload, time⟩]) :
    RebuiltAs row published fromState event standIn := by
  have rebuilt := rebuilt_of_moved before moved reconstructs domain
  refine ⟨?_, ?_, ?_⟩
  · rw [rebuilt, publishes]
    rfl
  · rw [publishes]
    exact filter_triplet row fromState event (notMechanic _ _)
  · rw [rebuilt]
    exact filter_triplet row fromState standIn (notMechanic _ _)

theorem RebuiltAs.same {row : InvoiceStateHistory} {published : List BusEvent}
    {fromState : InvoiceState} {event : InvoiceEvent} (as : RebuiltAs row published fromState event event) :
    published.map BusEvent.topic = (invoiceRowToEvents row).map BusEvent.topic ∧
      published.filter BusEvent.isMechanic = (invoiceRowToEvents row).filter BusEvent.isMechanic :=
  ⟨as.topics, as.published.trans as.rebuilt.symm⟩

/-- An issue. -/
theorem issued_rebuilt {ctx : CoreCtx} {input : IssueInvoiceInput} {ready : IssueReady} {count : ℕ}
    {blobRef : Option String} (toState : ready.toState = .issued)
    (moved : ready.loaded.state ≠ ready.toState) :
    let tx := issueTx ctx input ready count blobRef
    RebuiltAs tx.history
      (issuedEvents tx.invoice ready.loaded.state tx.history.toState input.actor
        input.channel.toHistory ctx.now) ready.loaded.state .issue .issue := by
  have domain : invoiceDomainTopic "issue" ready.toState = some topicInvoiceIssued := by
    rw [toState]
    rfl
  exact rebuiltAs_of rfl moved rfl domain (fun _ _ => rfl) rfl

/-- The first send of an invoice. -/
theorem sent_rebuilt {ctx : CoreCtx} {inv : Invoice} {actor : Actor} {channel : Channel}
    {deliveredTo : String} {key : Option String} (destination : String) (moved : inv.state ≠ .sent) :
    let tx := sendTx ctx inv .sent actor channel deliveredTo key
    RebuiltAs tx.history
      (sentEvents tx.invoice inv.state tx.history.toState actor channel.toHistory ctx.now destination)
      inv.state .send .send :=
  rebuiltAs_of rfl moved rfl rfl (fun _ _ => rfl) rfl

/-- A payment. -/
theorem paid_rebuilt {ctx : CoreCtx} {input : MarkPaidInput} {inv : Invoice} {amountPaid : Decimal}
    {toState : InvoiceState} (accepted : nextState inv.state (.pay amountPaid inv.total) = .ok toState)
    (moved : inv.state ≠ toState) :
    let tx := payTx ctx input inv amountPaid toState
    ∃ standIn, nextState inv.state standIn = .ok toState ∧
      RebuiltAs tx.history
        (paidEvents tx.invoice input inv.state toState (.pay amountPaid inv.total)
          input.channel.toHistory (input.receivedAt.getD ctx.now) (decide (toState = .paid)))
        inv.state (.pay amountPaid inv.total) standIn := by
  obtain ⟨standIn, reconstructs, leads⟩ := reconstruct_pay accepted
  refine ⟨standIn, leads, ?_⟩
  rcases (nextState_pay accepted).2 with ⟨_, rfl⟩ | ⟨_, rfl⟩
  · exact rebuiltAs_of rfl moved reconstructs rfl (fun _ _ => rfl) rfl
  · exact rebuiltAs_of rfl moved reconstructs rfl (fun _ _ => rfl) rfl

/-- **The relay rebuilds what the commands published**, from every row that moved its invoice: the same
topics in order and the same mechanic events, but for the amounts of a payment and the mechanic events of
a view. -/
theorem relay_rebuilds {request : Request} {db : Db} {row : InvoiceStateHistory}
    (added : (request.execute db).2.history = db.history ++ [row])
    (moved : row.fromState ≠ some row.toState) :
    Rebuilds request row (request.published db) (invoiceRowToEvents row) := by
  obtain ⟨loaded, tx, reply, edit, rfl, publishes⟩ := Request.published_of_row added
  rw [publishes]
  cases edit with
  | draft summed => exact ⟨rfl, rfl⟩
  | issue draft toState target owners =>
    exact (issued_rebuilt toState fun same => moved (congrArg some same)).same
  | send target open' => exact (sent_rebuilt _ (fun same => moved (congrArg some same))).same
  | sendRender target open' => exact (sent_rebuilt _ (fun same => moved (congrArg some same))).same
  | @view state token inv verified sent =>
    refine ⟨topicInvoiceViewed, rfl, ?_⟩
    have notSelf : inv.state ≠ .viewed := by
      rw [sent]
      nofun
    have rebuilt : invoiceRowToEvents (viewTx state.ctx inv).history =
        (viewTx state.ctx inv).history.triplet inv.state .view ++ [⟨topicInvoiceViewed,
          invoiceDomainPayload (viewTx state.ctx inv).history, state.ctx.now⟩] :=
      rebuilt_of_moved rfl notSelf rfl rfl
    rw [rebuilt]
    rfl
  | markPaid target positive summed accepted =>
    obtain ⟨standIn, leads, as⟩ := paid_rebuilt accepted fun same => moved (congrArg some same)
    exact ⟨as.topics, _, _, standIn, rfl, as.published, as.rebuilt, accepted, leads⟩
  | void target accepted =>
    obtain ⟨_, rfl⟩ := nextState_void accepted
    exact RebuiltAs.same (rebuiltAs_of rfl (fun same => moved (congrArg some same)) rfl rfl
      (fun _ _ => rfl) rfl)

/-- A payment of 40.00. -/
def partPayment : Request :=
  .markPaid (sampleCtx (oneOClock firstOfMarch) 3) (samplePayment 4000 fits_forty)

/-- The history row of the payment. -/
def partPaymentRow : InvoiceStateHistory where
  id := ⟨3⟩
  invoiceId := ⟨1⟩
  fromState := some .issued
  toState := .partiallyPaid
  event := "pay"
  actor := some "operator"
  channel := .cli
  busEventId := none
  reason := none
  occurredAt := oneOClock firstOfMarch
  publishedAt := none
  metadata := [("amount", "40.00")]

theorem partPayment_added :
    (partPayment.execute issuedDb).2.history = issuedDb.history ++ [partPaymentRow] := by
  decide +kernel

/-- The sum paid that the mechanic events of a payment carry. -/
def amountsPaid (events : List BusEvent) : List (Option String) :=
  (events.filter BusEvent.isMechanic).map fun event =>
    ((event.payload.field "event").bind (Json.field "amount_paid")).bind Json.text?

/-- **The amounts of a payment are not rebuilt**: the command published 40.00, the relay 1. -/
theorem payment_rebuilt :
    (partPayment.execute issuedDb).2.history = issuedDb.history ++ [partPaymentRow] ∧
      (partPayment.published issuedDb).filter BusEvent.isMechanic ≠
        (invoiceRowToEvents partPaymentRow).filter BusEvent.isMechanic := by
  refine ⟨partPayment_added, fun same => ?_⟩
  have amounts : amountsPaid (partPayment.published issuedDb) =
      amountsPaid (invoiceRowToEvents partPaymentRow) := by
    unfold amountsPaid
    rw [same]
  have published : amountsPaid (partPayment.published issuedDb) = [some "40.00", some "40.00", none] := by
    decide +kernel
  have rebuilt : amountsPaid (invoiceRowToEvents partPaymentRow) = [some "1", some "1", none] := by
    decide +kernel
  rw [published, rebuilt] at amounts
  revert amounts
  decide

theorem payment_rebuilds :
    Rebuilds partPayment partPaymentRow (partPayment.published issuedDb)
      (invoiceRowToEvents partPaymentRow) :=
  relay_rebuilds partPayment_added (by decide)

end Invoicing
