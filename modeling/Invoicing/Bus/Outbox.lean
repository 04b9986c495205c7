/-
**The outbox relay.**

* `invoiceRowToEvents`, `creditNoteRowToEvents` — the events a history row stands for: the mechanic
  triplet of a move, rebuilt from the row, then the domain event.
* `Outbox`, `OutboxRow` — the two outbox tables, and a row of either. `Db.pendingOutbox`,
  `Db.markPublished` — the statements of the relay.
* `RelayPass`, `RelayPass.advance` — a pass, one database or publisher call at a time; any call may
  fail, and ends the pass.
* `runOutboxRelay` — a whole pass; **`relay_alone`** — a pass whose calls are not interrupted is one.
-/

import Invoicing.Bus.Events
import Invoicing.Lib.OrderBy
import Invoicing.Store.Db

namespace Invoicing

open Chrono (DateTime)

/-! ### Rows and events -/

/-- The event of the machine a tag stands for. The amounts of a payment are not on the row; the two
stand-ins classify as the state the row leads to. -/
def reconstructInvoiceEvent (tag : String) (toState : InvoiceState) : Option InvoiceEvent :=
  match tag with
  | "issue" => some .issue
  | "send" => some .send
  | "remind" => some .remind
  | "view" => some .view
  | "pay" =>
      match toState with
      | .paid => some (.pay ⟨1, 0, by decide⟩ ⟨1, 0, by decide⟩)
      | .partiallyPaid => some (.pay ⟨1, 0, by decide⟩ ⟨2, 0, by decide⟩)
      | _ => none
  | "void" => some .void
  | _ => none

def invoiceDomainTopic (tag : String) (toState : InvoiceState) : Option String :=
  match tag, toState with
  | "draft", .draft => some topicInvoiceDrafted
  | "issue", .issued => some topicInvoiceIssued
  | "send", .sent => some topicInvoiceSent
  | "view", .viewed => some topicInvoiceViewed
  | "pay", .paid => some topicInvoicePaid
  | "pay", .partiallyPaid => some topicInvoicePartiallyPaid
  | "void", .voided => some topicInvoiceVoided
  | _, _ => none

def invoiceDomainPayload (row : InvoiceStateHistory) : Json :=
  .obj [("invoice_id", .str row.invoiceId.text),
    ("from_state", Json.ofOption (row.fromState.map invoiceStateStr)),
    ("to_state", .str (invoiceStateStr row.toState)), ("event", .str row.event),
    ("actor", Json.ofOption row.actor), ("channel", .str (historyChannelStr row.channel)),
    ("occurred_at", wireTime row.occurredAt), ("reason", Json.ofOption row.reason)]

/-- The triplet of a row that moved the machine. -/
def invoiceRowTriplet (row : InvoiceStateHistory) : List BusEvent :=
  -- a row that stays in its state has no triplet
  if row.fromState = some row.toState then []
  else
    match row.fromState with
    | none => []
    | some fromState =>
        match reconstructInvoiceEvent row.event row.toState with
        | none => []
        | some event => invoiceTriplet row.invoiceId fromState row.toState event row.actor
            row.channel row.occurredAt

def invoiceRowToEvents (row : InvoiceStateHistory) : List BusEvent :=
  invoiceRowTriplet row ++
    match invoiceDomainTopic row.event row.toState with
    | none => []
    | some topic => [⟨topic, invoiceDomainPayload row, row.occurredAt⟩]

def creditNoteDomainTopic (tag : String) (toState : CreditNoteState) : Option String :=
  match tag, toState with
  | "draft", .draft => some topicCreditNoteDrafted
  | "issue", .issued => some topicCreditNoteIssued
  | _, _ => none

def creditNoteDomainPayload (row : CreditNoteStateHistory) : Json :=
  .obj [("credit_note_id", .str row.creditNoteId.text),
    ("from_state", Json.ofOption (row.fromState.map creditNoteStateStr)),
    ("to_state", .str (creditNoteStateStr row.toState)), ("event", .str row.event),
    ("actor", Json.ofOption row.actor), ("channel", .str (historyChannelStr row.channel)),
    ("occurred_at", wireTime row.occurredAt)]

def creditNoteRowTriplet (row : CreditNoteStateHistory) : List BusEvent :=
  match row.fromState with
  | none => []
  | some fromState =>
      if fromState = row.toState then []
      else creditNoteTriplet row.creditNoteId fromState row.toState .issue row.actor row.channel
        row.occurredAt

def creditNoteRowToEvents (row : CreditNoteStateHistory) : List BusEvent :=
  creditNoteRowTriplet row ++
    match creditNoteDomainTopic row.event row.toState with
    | none => []
    | some topic => [⟨topic, creditNoteDomainPayload row, row.occurredAt⟩]

/-! ### The two outbox tables -/

/-- An outbox table. -/
inductive Outbox
  | invoices
  | creditNotes
  deriving DecidableEq

/-- A row of an outbox table. -/
inductive OutboxRow
  | invoice (row : InvoiceStateHistory)
  | creditNote (row : CreditNoteStateHistory)
  deriving DecidableEq

namespace OutboxRow

def outbox : OutboxRow → Outbox
  | invoice _ => .invoices
  | creditNote _ => .creditNotes

def id : OutboxRow → HistoryId
  | invoice row => row.id
  | creditNote row => row.id

def occurredAt : OutboxRow → DateTime
  | invoice row => row.occurredAt
  | creditNote row => row.occurredAt

def publishedAt : OutboxRow → Option DateTime
  | invoice row => row.publishedAt
  | creditNote row => row.publishedAt

/-- The row marked as published. -/
def marked (time : DateTime) : OutboxRow → OutboxRow
  | invoice row => invoice { row with publishedAt := some time }
  | creditNote row => creditNote { row with publishedAt := some time }

/-- The row as it was before it was marked. -/
def unmarked : OutboxRow → OutboxRow
  | invoice row => invoice { row with publishedAt := none }
  | creditNote row => creditNote { row with publishedAt := none }

/-- The events of a row. -/
def events : OutboxRow → List BusEvent
  | invoice row => invoiceRowToEvents row
  | creditNote row => creditNoteRowToEvents row

/-- The text rows are ordered by. -/
def timeText (row : OutboxRow) : List Char := row.occurredAt.text

@[simp] theorem outbox_marked (time : DateTime) (row : OutboxRow) :
    (row.marked time).outbox = row.outbox := by cases row <;> rfl

@[simp] theorem id_marked (time : DateTime) (row : OutboxRow) : (row.marked time).id = row.id := by
  cases row <;> rfl

@[simp] theorem timeText_marked (time : DateTime) (row : OutboxRow) :
    (row.marked time).timeText = row.timeText := by cases row <;> rfl

@[simp] theorem publishedAt_marked (time : DateTime) (row : OutboxRow) :
    (row.marked time).publishedAt = some time := by cases row <;> rfl

@[simp] theorem unmarked_marked (time : DateTime) (row : OutboxRow) :
    (row.marked time).unmarked = row.unmarked := by cases row <;> rfl

@[simp] theorem outbox_unmarked (row : OutboxRow) : row.unmarked.outbox = row.outbox := by
  cases row <;> rfl

@[simp] theorem id_unmarked (row : OutboxRow) : row.unmarked.id = row.id := by cases row <;> rfl

/-- The events of a row do not depend on its mark. -/
@[simp] theorem events_unmarked (row : OutboxRow) : row.unmarked.events = row.events := by
  cases row <;> rfl

/-- What a mark of a row makes of a row: the rows of its table with its id are marked. -/
def afterMark (row : OutboxRow) (time : DateTime) (other : OutboxRow) : OutboxRow :=
  if other.outbox = row.outbox ∧ other.id = row.id then other.marked time else other

section AfterMark

variable (row : OutboxRow) (time : DateTime) (other : OutboxRow)

@[simp] theorem outbox_afterMark : (row.afterMark time other).outbox = other.outbox := by
  unfold afterMark
  split <;> simp

@[simp] theorem id_afterMark : (row.afterMark time other).id = other.id := by
  unfold afterMark
  split <;> simp

@[simp] theorem unmarked_afterMark : (row.afterMark time other).unmarked = other.unmarked := by
  unfold afterMark
  split <;> simp

@[simp] theorem timeText_afterMark : (row.afterMark time other).timeText = other.timeText := by
  unfold afterMark
  split <;> simp

end AfterMark

/-- A row still to be published. -/
def Pending (row : OutboxRow) : Prop := row.publishedAt = none

instance (row : OutboxRow) : Decidable row.Pending := inferInstanceAs (Decidable (_ = none))

theorem Pending.unmarked_eq {row : OutboxRow} (pending : row.Pending) : row.unmarked = row := by
  cases row with
  | invoice row =>
    have absent : row.publishedAt = none := pending
    unfold OutboxRow.unmarked
    rw [← absent]
  | creditNote row =>
    have absent : row.publishedAt = none := pending
    unfold OutboxRow.unmarked
    rw [← absent]

end OutboxRow

/-- The rows of an outbox table, in insertion order. -/
def Db.outbox (db : Db) : Outbox → List OutboxRow
  | .invoices => db.history.map .invoice
  | .creditNotes => db.creditHistory.map .creditNote

/-- The text the history of an invoice is listed by. -/
def InvoiceStateHistory.timeText (row : InvoiceStateHistory) : List Char := row.occurredAt.text

/-- `list_for_invoice`: `SELECT … WHERE invoice_id = … ORDER BY occurred_at`. -/
def Db.listForInvoice (db : Db) (order : OrderBy InvoiceStateHistory.timeText) (id : InvoiceId) :
    List InvoiceStateHistory :=
  order.rows (db.historyOf id)

/-- `SELECT … WHERE published_at IS NULL ORDER BY occurred_at LIMIT …`. -/
def Db.pendingOutbox (db : Db) (order : OrderBy OutboxRow.timeText) (limit : ℤ) (outbox : Outbox) :
    List OutboxRow :=
  limitRows limit (order.rows ((db.outbox outbox).filter fun row => decide row.Pending))

/-- `UPDATE … SET published_at = … WHERE id = …`, on the table of the row. -/
def Db.markPublished (db : Db) (row : OutboxRow) (time : DateTime) : Db :=
  match row with
  | .invoice row => { db with history := db.history.map fun other =>
      if other.id = row.id then { other with publishedAt := some time } else other }
  | .creditNote row => { db with creditHistory := db.creditHistory.map fun other =>
      if other.id = row.id then { other with publishedAt := some time } else other }

/-- **What marking does to the tables**: the rows with the id are marked, in the row's own table. -/
theorem Db.outbox_markPublished (db : Db) (row : OutboxRow) (time : DateTime) (outbox : Outbox) :
    (db.markPublished row time).outbox outbox = (db.outbox outbox).map (row.afterMark time) := by
  cases row with
  | invoice mine =>
    cases outbox with
    | invoices =>
      simp only [Db.outbox, Db.markPublished, List.map_map]
      refine List.map_congr_left fun other _ => ?_
      by_cases same : other.id = mine.id
      · simp [same, OutboxRow.afterMark, OutboxRow.outbox, OutboxRow.id, OutboxRow.marked]
      · simp [same, OutboxRow.afterMark, OutboxRow.outbox, OutboxRow.id]
    | creditNotes =>
      simp only [Db.outbox, Db.markPublished, List.map_map]
      exact List.map_congr_left fun other _ => by simp [OutboxRow.afterMark, OutboxRow.outbox]
  | creditNote mine =>
    cases outbox with
    | invoices =>
      simp only [Db.outbox, Db.markPublished, List.map_map]
      exact List.map_congr_left fun other _ => by simp [OutboxRow.afterMark, OutboxRow.outbox]
    | creditNotes =>
      simp only [Db.outbox, Db.markPublished, List.map_map]
      refine List.map_congr_left fun other _ => ?_
      by_cases same : other.id = mine.id
      · simp [same, OutboxRow.afterMark, OutboxRow.outbox, OutboxRow.id, OutboxRow.marked]
      · simp [same, OutboxRow.afterMark, OutboxRow.outbox, OutboxRow.id]

/-- A mark leaves the ids of a table. -/
theorem OutboxRow.ids_afterMark (row : OutboxRow) (time : DateTime) (table : List OutboxRow) :
    (table.map (row.afterMark time)).map OutboxRow.id = table.map OutboxRow.id := by
  rw [List.map_map]
  exact List.map_congr_left fun other _ => OutboxRow.id_afterMark row time other

/-- A row that a mark leaves pending is as it was, and not the marked one. -/
theorem OutboxRow.pending_afterMark {row other : OutboxRow} {time : DateTime}
    (pending : (row.afterMark time other).Pending) :
    row.afterMark time other = other ∧ ¬ (other.outbox = row.outbox ∧ other.id = row.id) := by
  by_cases mine : other.outbox = row.outbox ∧ other.id = row.id
  · unfold OutboxRow.afterMark at pending
    rw [if_pos mine] at pending
    cases (OutboxRow.publishedAt_marked time other).symm.trans pending
  · exact ⟨if_neg mine, mine⟩

/-! ### One call at a time -/

/-- What a pass reports. -/
structure OutboxStats where
  rowsProcessed : ℕ
  eventsPublished : ℕ
  deriving DecidableEq

/-- What a pass uses of the world: the order its queries give rows with one time, the clock of its
calls, and whether its `n`-th call to the database or the publisher succeeds. -/
structure RelayWorld where
  order : OrderBy OutboxRow.timeText
  clock : ℕ → DateTime
  answers : ℕ → Bool

/-- An event the publisher accepted, and the row it was published for. -/
structure Publication where
  row : OutboxRow
  event : BusEvent

/-- Every event of a row, published in order. -/
def OutboxRow.publications (row : OutboxRow) : List Publication := row.events.map (Publication.mk row)

/-- The tables, and everything the publisher has accepted. -/
structure RelayStore where
  db : Db
  accepted : List Publication

/-- Where a pass stands: about to select rows, about to publish the events left of a row or, when none
is left, to mark it, or at its end. -/
inductive RelayPoint
  | selecting (outbox : Outbox)
  | relaying (row : OutboxRow) (left : List BusEvent) (rest : List OutboxRow)
  | finished
  | failed

/-- A pass. -/
structure RelayPass where
  world : RelayWorld
  limit : ℤ
  calls : ℕ
  stats : OutboxStats
  point : RelayPoint

/-- A pass that has not started. -/
def RelayPass.start (world : RelayWorld) (limit : ℤ) : RelayPass :=
  ⟨world, limit, 0, ⟨0, 0⟩, .selecting .invoices⟩

/-- Where a pass goes on with the rows it still has: the credit notes come after the invoices. -/
def nextPoint (outbox : Outbox) : List OutboxRow → RelayPoint
  | row :: rest => .relaying row row.events rest
  | [] =>
      match outbox with
      | .invoices => .selecting .creditNotes
      | .creditNotes => .finished

/-- The rows a pass still has. -/
def RelayPoint.rows : RelayPoint → List OutboxRow
  | .relaying row _ rest => row :: rest
  | _ => []

@[simp] theorem rows_nextPoint (outbox : Outbox) (rows : List OutboxRow) :
    (nextPoint outbox rows).rows = rows := by
  cases rows with
  | cons row rest => rfl
  | nil => cases outbox <;> rfl

/-- The publisher accepts an event of a row. -/
def RelayStore.accept (store : RelayStore) (row : OutboxRow) (event : BusEvent) : RelayStore :=
  { store with accepted := store.accepted ++ [⟨row, event⟩] }

/-- A row is marked. -/
def RelayStore.mark (store : RelayStore) (row : OutboxRow) (time : DateTime) : RelayStore :=
  { store with db := store.db.markPublished row time }

/-- The next call of a pass. -/
def RelayPass.advance (pass : RelayPass) (store : RelayStore) : RelayPass × RelayStore :=
  let after := { pass with calls := pass.calls + 1 }
  match pass.point with
  | .selecting outbox =>
      if pass.world.answers pass.calls then
        let rows := store.db.pendingOutbox pass.world.order pass.limit outbox
        ({ after with point := nextPoint outbox rows }, store)
      else ({ after with point := .failed }, store)
  | .relaying row (event :: left) rest =>
      if pass.world.answers pass.calls then
        ({ after with
            point := .relaying row left rest
            stats := { pass.stats with eventsPublished := pass.stats.eventsPublished + 1 } },
          store.accept row event)
      else ({ after with point := .failed }, store)
  | .relaying row [] rest =>
      if pass.world.answers pass.calls then
        ({ after with
            point := nextPoint row.outbox rest
            stats := { pass.stats with rowsProcessed := pass.stats.rowsProcessed + 1 } },
          store.mark row (pass.world.clock pass.calls))
      else ({ after with point := .failed }, store)
  | .finished => (pass, store)
  | .failed => (pass, store)

/-- What the next call of a pass does to its point and to the store. -/
inductive Advanced (world : RelayWorld) (limit : ℤ) (store : RelayStore) :
    RelayPoint → RelayPoint → RelayStore → Prop
  | selected (outbox : Outbox) : Advanced world limit store (.selecting outbox)
      (nextPoint outbox (store.db.pendingOutbox world.order limit outbox)) store
  | accepted (row : OutboxRow) (event : BusEvent) (left : List BusEvent) (rest : List OutboxRow) :
      Advanced world limit store (.relaying row (event :: left) rest) (.relaying row left rest)
        (store.accept row event)
  | marked (row : OutboxRow) (rest : List OutboxRow) (time : DateTime) :
      Advanced world limit store (.relaying row [] rest) (nextPoint row.outbox rest)
        (store.mark row time)
  | refused (point : RelayPoint) : Advanced world limit store point .failed store
  | ended (point : RelayPoint) (atEnd : point = .finished ∨ point = .failed) :
      Advanced world limit store point point store

/-- **The next call of a pass** selects rows, publishes an event or marks a row, or fails. -/
theorem RelayPass.advanced (pass : RelayPass) (store : RelayStore) :
    ∃ calls stats point after,
      pass.advance store = (⟨pass.world, pass.limit, calls, stats, point⟩, after) ∧
        Advanced pass.world pass.limit store pass.point point after := by
  obtain ⟨world, limit, calls, stats, point⟩ := pass
  by_cases answer : world.answers calls = true
  · cases point with
    | selecting outbox =>
      simp only [RelayPass.advance, answer, if_true]
      exact ⟨_, _, _, _, rfl, .selected outbox⟩
    | relaying row left rest =>
      cases left with
      | cons event left =>
        simp only [RelayPass.advance, answer, if_true]
        exact ⟨_, _, _, _, rfl, .accepted row event left rest⟩
      | nil =>
        simp only [RelayPass.advance, answer, if_true]
        exact ⟨_, _, _, _, rfl, .marked row rest (world.clock calls)⟩
    | finished => exact ⟨_, _, _, _, rfl, .ended _ (Or.inl rfl)⟩
    | failed => exact ⟨_, _, _, _, rfl, .ended _ (Or.inr rfl)⟩
  · cases point with
    | selecting outbox =>
      simp only [RelayPass.advance, answer]
      exact ⟨_, _, _, _, rfl, .refused _⟩
    | relaying row left rest =>
      cases left with
      | cons event left =>
        simp only [RelayPass.advance, answer]
        exact ⟨_, _, _, _, rfl, .refused _⟩
      | nil =>
        simp only [RelayPass.advance, answer]
        exact ⟨_, _, _, _, rfl, .refused _⟩
    | finished => exact ⟨_, _, _, _, rfl, .ended _ (Or.inl rfl)⟩
    | failed => exact ⟨_, _, _, _, rfl, .ended _ (Or.inr rfl)⟩

/-! ### A whole pass -/

/-- The state of a pass between two calls. -/
structure RelayRun where
  calls : ℕ
  stats : OutboxStats
  store : RelayStore

/-- Publish the events of a row; whether all were accepted. -/
def publishEvents (world : RelayWorld) (row : OutboxRow) : List BusEvent → RelayRun → Bool × RelayRun
  | [], run => (true, run)
  | event :: left, run =>
      if world.answers run.calls then
        publishEvents world row left ⟨run.calls + 1,
          { run.stats with eventsPublished := run.stats.eventsPublished + 1 },
          run.store.accept row event⟩
      else (false, { run with calls := run.calls + 1 })

/-- Publish the events of a row and mark it. -/
def relayRow (world : RelayWorld) (row : OutboxRow) (run : RelayRun) : Bool × RelayRun :=
  match publishEvents world row row.events run with
  | (false, run) => (false, run)
  | (true, run) =>
      if world.answers run.calls then
        (true, ⟨run.calls + 1, { run.stats with rowsProcessed := run.stats.rowsProcessed + 1 },
          run.store.mark row (world.clock run.calls)⟩)
      else (false, { run with calls := run.calls + 1 })

def relayRows (world : RelayWorld) : List OutboxRow → RelayRun → Bool × RelayRun
  | [], run => (true, run)
  | row :: rest, run =>
      match relayRow world row run with
      | (false, run) => (false, run)
      | (true, run) => relayRows world rest run

/-- The part of a pass on one outbox table. -/
def relayOutbox (world : RelayWorld) (limit : ℤ) (outbox : Outbox) (run : RelayRun) :
    Bool × RelayRun :=
  if world.answers run.calls then
    relayRows world (run.store.db.pendingOutbox world.order limit outbox)
      { run with calls := run.calls + 1 }
  else (false, { run with calls := run.calls + 1 })

/-- **`run_outbox_relay`**: the stats, when no call failed, and what the pass leaves. -/
def runOutboxRelay (world : RelayWorld) (limit : ℤ) (store : RelayStore) :
    Option OutboxStats × RelayStore :=
  match relayOutbox world limit .invoices ⟨0, ⟨0, 0⟩, store⟩ with
  | (false, run) => (none, run.store)
  | (true, run) =>
      match relayOutbox world limit .creditNotes run with
      | (false, run) => (none, run.store)
      | (true, run) => (some run.stats, run.store)

/-! ### The calls of a pass -/

/-- The pass makes calls, nothing in between, and comes from the first to the second. -/
def Calls (first second : RelayPass × RelayStore) : Prop :=
  ∃ n, (fun turn : RelayPass × RelayStore => turn.1.advance turn.2)^[n] first = second

theorem Calls.refl (turn : RelayPass × RelayStore) : Calls turn turn := ⟨0, rfl⟩

theorem Calls.trans {first second third : RelayPass × RelayStore} (one : Calls first second)
    (two : Calls second third) : Calls first third := by
  obtain ⟨n, rfl⟩ := one
  obtain ⟨m, rfl⟩ := two
  exact ⟨m + n, Function.iterate_add_apply _ m n first⟩

theorem Calls.one {first second : RelayPass × RelayStore} (next : first.1.advance first.2 = second) :
    Calls first second := ⟨1, next⟩

section Alone

variable (world : RelayWorld) (limit : ℤ)

/-- The pass of a state of a run, at a point. -/
def RelayRun.pass (run : RelayRun) (point : RelayPoint) : RelayPass × RelayStore :=
  (⟨world, limit, run.calls, run.stats, point⟩, run.store)

/-- A part of a pass went through to a point, or failed. -/
def Comes (first : RelayPass × RelayStore) (result : Bool × RelayRun) (point : RelayPoint) : Prop :=
  Calls first (result.2.pass world limit (if result.1 then point else .failed))

/-- A call that fails ends the pass. -/
theorem RelayRun.fails {run : RelayRun} {point : RelayPoint} (notDone : point ≠ .finished)
    (notFailed : point ≠ .failed) (answer : ¬ world.answers run.calls = true) :
    Calls (run.pass world limit point)
      ({ run with calls := run.calls + 1 }.pass world limit .failed) := by
  refine Calls.one ?_
  show RelayPass.advance ⟨world, limit, run.calls, run.stats, point⟩ run.store = _
  cases point with
  | selecting outbox =>
    simp only [RelayPass.advance, answer]
    rfl
  | relaying row left rest =>
    cases left with
    | nil =>
      simp only [RelayPass.advance, answer]
      rfl
    | cons event left =>
      simp only [RelayPass.advance, answer]
      rfl
  | finished => exact absurd rfl notDone
  | failed => exact absurd rfl notFailed

theorem publishEvents_comes (row : OutboxRow) (left : List BusEvent) (rest : List OutboxRow)
    (run : RelayRun) :
    Comes world limit (run.pass world limit (.relaying row left rest))
      (publishEvents world row left run) (.relaying row [] rest) := by
  induction left generalizing run with
  | nil => exact .refl _
  | cons event left ih =>
    unfold publishEvents
    by_cases answer : world.answers run.calls = true
    · rw [if_pos answer]
      refine Calls.trans (.one ?_) (ih _)
      show (RelayPass.advance ⟨world, limit, run.calls, run.stats, _⟩ run.store) = _
      simp only [RelayPass.advance, answer, if_true]
      rfl
    · rw [if_neg answer]
      exact RelayRun.fails world limit nofun nofun answer

theorem relayRow_comes (row : OutboxRow) (rest : List OutboxRow) (run : RelayRun) :
    Comes world limit (run.pass world limit (.relaying row row.events rest)) (relayRow world row run)
      (nextPoint row.outbox rest) := by
  have published := publishEvents_comes world limit row row.events rest run
  unfold relayRow
  cases events : publishEvents world row row.events run with
  | mk accepted after =>
    rw [events] at published
    cases accepted with
    | false => exact published
    | true =>
      simp only
      by_cases answer : world.answers after.calls = true
      · rw [if_pos answer]
        refine Calls.trans published (.one ?_)
        show (RelayPass.advance ⟨world, limit, after.calls, after.stats, _⟩ after.store) = _
        simp only [RelayPass.advance, if_true, answer]
        rfl
      · rw [if_neg answer]
        exact Calls.trans published (RelayRun.fails world limit nofun nofun answer)

theorem relayRows_comes (outbox : Outbox) (rows : List OutboxRow)
    (own : ∀ row ∈ rows, row.outbox = outbox) (run : RelayRun) :
    Comes world limit (run.pass world limit (nextPoint outbox rows)) (relayRows world rows run)
      (nextPoint outbox []) := by
  induction rows generalizing run with
  | nil => exact .refl _
  | cons row rest ih =>
    have first := relayRow_comes world limit row rest run
    rw [own row List.mem_cons_self] at first
    unfold relayRows
    cases relayed : relayRow world row run with
    | mk done after =>
      rw [relayed] at first
      cases done with
      | false => exact first
      | true => exact Calls.trans first (ih (fun r member => own r (List.mem_cons_of_mem _ member)) after)

end Alone

theorem Db.mem_pendingOutbox {db : Db} {order : OrderBy OutboxRow.timeText} {limit : ℤ}
    {outbox : Outbox} {row : OutboxRow} (member : row ∈ db.pendingOutbox order limit outbox) :
    row ∈ db.outbox outbox ∧ row.Pending := by
  have there := (limitRows_isPrefix limit _).subset member
  rw [order.mem_rows, List.mem_filter] at there
  exact ⟨there.1, of_decide_eq_true there.2⟩

theorem Db.outbox_of_mem {db : Db} {outbox : Outbox} {row : OutboxRow} (member : row ∈ db.outbox outbox) :
    row.outbox = outbox := by
  cases outbox with
  | invoices =>
    obtain ⟨_, _, rfl⟩ := List.mem_map.mp member
    rfl
  | creditNotes =>
    obtain ⟨_, _, rfl⟩ := List.mem_map.mp member
    rfl

theorem relayOutbox_comes (world : RelayWorld) (limit : ℤ) (outbox : Outbox) (run : RelayRun) :
    Comes world limit (run.pass world limit (.selecting outbox)) (relayOutbox world limit outbox run)
      (nextPoint outbox []) := by
  unfold relayOutbox
  by_cases answer : world.answers run.calls = true
  · rw [if_pos answer]
    refine Calls.trans (.one ?_) (relayRows_comes world limit outbox _
      (fun row member => Db.outbox_of_mem (Db.mem_pendingOutbox member).1) _)
    show (RelayPass.advance ⟨world, limit, run.calls, run.stats, _⟩ run.store) = _
    simp only [RelayPass.advance, answer, if_true]
    rfl
  · rw [if_neg answer]
    exact RelayRun.fails world limit nofun nofun answer

/-- **A pass whose calls are not interrupted is `run_outbox_relay`**: it ends, finished with the stats
of the function, or failed where the function fails. -/
theorem relay_alone (world : RelayWorld) (limit : ℤ) (store : RelayStore) :
    ∃ pass, Calls (.start world limit, store) (pass, (runOutboxRelay world limit store).2) ∧
      ((∃ stats, (runOutboxRelay world limit store).1 = some stats ∧ pass.point = .finished ∧
          pass.stats = stats) ∨
        ((runOutboxRelay world limit store).1 = none ∧ pass.point = .failed)) := by
  have first := relayOutbox_comes world limit .invoices ⟨0, ⟨0, 0⟩, store⟩
  unfold runOutboxRelay
  cases invoices : relayOutbox world limit .invoices ⟨0, ⟨0, 0⟩, store⟩ with
  | mk done between =>
    rw [invoices] at first
    cases done with
    | false => exact ⟨_, first, Or.inr ⟨rfl, rfl⟩⟩
    | true =>
      have second := relayOutbox_comes world limit .creditNotes between
      simp only
      cases creditNotes : relayOutbox world limit .creditNotes between with
      | mk done after =>
        rw [creditNotes] at second
        cases done with
        | false => exact ⟨_, first.trans second, Or.inr ⟨rfl, rfl⟩⟩
        | true => exact ⟨_, first.trans second, Or.inl ⟨_, rfl, rfl, rfl⟩⟩

end Invoicing
