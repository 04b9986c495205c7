/-
**The inbox of inbound events.**

* `BusInboxRecord` — a row of `bus_inbox`; the event id is its primary key.
* `tryInsert` — a row already there, or a new one: a select, then an insert that the primary key may
  still refuse. `dispatchInboundEvent` registers an event with it.
* `markProcessed` — an update that finds its row by the event id, or finds none.
* **`insertEvent_ok`**, **`mem_markProcessed`** — what the two writes do.
-/

import Invoicing.Domain.Ids
import Invoicing.Store.Db

namespace Invoicing

open Chrono (DateTime)
open KeyedTable

/-- A row of `bus_inbox`. -/
structure BusInboxRecord where
  eventId : String
  topic : String
  source : String
  receivedAt : DateTime
  payloadJson : String
  processedAt : Option DateTime
  invoiceId : Option InvoiceId
  deriving DecidableEq

abbrev BusInbox := List BusInboxRecord

namespace BusInbox

/-! ### The statements -/

/-- `SELECT event_id FROM bus_inbox WHERE event_id = ?`. -/
def getEvent (inbox : BusInbox) (eventId : String) : Option BusInboxRecord :=
  find BusInboxRecord.eventId inbox eventId

/-- `INSERT INTO bus_inbox …`. -/
def insertEvent (inbox : BusInbox) (row : BusInboxRecord) : Except StoreError BusInbox :=
  if inbox.getEvent row.eventId = none then .ok (inbox ++ [row])
  else .error (.unique "bus_inbox.event_id")

/-- `UPDATE bus_inbox SET processed_at = ? WHERE event_id = ?`. -/
def markProcessed (inbox : BusInbox) (eventId : String) (now : DateTime) : BusInbox :=
  inbox.map fun row => if row.eventId = eventId then { row with processedAt := some now } else row

/-! ### Registering an event -/

/-- Insert a row unless its key is there; whether it was inserted. -/
def tryInsert (inbox : BusInbox) (row : BusInboxRecord) : Except StoreError Bool × BusInbox :=
  match inbox.getEvent row.eventId with
  | some _ => (.ok false, inbox)
  | none =>
      match inbox.insertEvent row with
      | .error e => (.error e, inbox)
      | .ok inbox' => (.ok true, inbox')

/-- The row of an event that just arrived. -/
def receivedRow (now : DateTime) (eventId topic source payload : String) : BusInboxRecord :=
  ⟨eventId, topic, source, now, payload, none, none⟩

/-- **`dispatch_inbound_event`.** -/
def dispatchInboundEvent (inbox : BusInbox) (now : DateTime)
    (eventId topic source payload : String) : Except StoreError Bool × BusInbox :=
  inbox.tryInsert (receivedRow now eventId topic source payload)

/-! ### What the writes do -/

/-- **A row is inserted only under a new key.** -/
theorem insertEvent_ok {inbox inbox' : BusInbox} {row : BusInboxRecord}
    (inserted : inbox.insertEvent row = .ok inbox') :
    inbox.getEvent row.eventId = none ∧ inbox' = inbox ++ [row] := by
  unfold insertEvent at inserted
  split at inserted
  · rename_i fresh
    cases inserted
    exact ⟨fresh, rfl⟩
  · cases inserted

theorem getEvent_append (inbox : BusInbox) (row : BusInboxRecord) (eventId : String) :
    BusInbox.getEvent (inbox ++ [row]) eventId =
      (inbox.getEvent eventId).or (if row.eventId = eventId then some row else none) := by
  unfold getEvent find
  rw [List.find?_append, List.find?_singleton]
  simp only [decide_eq_true_eq]

/-- An inserted event is there. -/
theorem getEvent_append_self (inbox : BusInbox) (row : BusInboxRecord) :
    BusInbox.getEvent (inbox ++ [row]) row.eventId ≠ none := by
  rw [getEvent_append, if_pos rfl]
  cases inbox.getEvent row.eventId <;> exact Option.some_ne_none _

/-- An event that is there stays. -/
theorem getEvent_append_stays {inbox : BusInbox} (row : BusInboxRecord) {eventId : String}
    (there : inbox.getEvent eventId ≠ none) :
    BusInbox.getEvent (inbox ++ [row]) eventId ≠ none := by
  rw [getEvent_append]
  cases found : inbox.getEvent eventId with
  | none => exact absurd found there
  | some old => exact Option.some_ne_none _

theorem distinct_append {inbox : BusInbox} {row : BusInboxRecord}
    (distinct : Distinct BusInboxRecord.eventId inbox) (fresh : inbox.getEvent row.eventId = none) :
    Distinct BusInboxRecord.eventId (inbox ++ [row]) := by
  unfold Distinct
  rw [List.map_append, List.nodup_append]
  refine ⟨distinct, List.nodup_singleton _, ?_⟩
  intro eventId member other member' same
  obtain ⟨old, inTable, rfl⟩ := List.mem_map.mp member
  obtain rfl : other = row.eventId := by simpa using member'
  exact find_eq_none.mp fresh old inTable same

/-- The rows after an update keep their keys. -/
theorem map_eventId_markProcessed (inbox : BusInbox) (eventId : String) (now : DateTime) :
    (inbox.markProcessed eventId now).map BusInboxRecord.eventId =
      inbox.map BusInboxRecord.eventId := by
  unfold markProcessed
  rw [List.map_map]
  refine List.map_congr_left ?_
  intro row _
  show BusInboxRecord.eventId (if row.eventId = eventId then _ else row) = row.eventId
  split <;> rfl

/-- **An update marks the row of the event** and leaves the others. -/
theorem mem_markProcessed {inbox : BusInbox} {eventId : String} {now : DateTime}
    {row : BusInboxRecord} (member : row ∈ inbox.markProcessed eventId now) :
    row.eventId = eventId ∨ row ∈ inbox := by
  obtain ⟨old, inTable, rfl⟩ := List.mem_map.mp member
  by_cases same : old.eventId = eventId
  · rw [if_pos same]
    exact Or.inl same
  · rw [if_neg same]
    exact Or.inr inTable

/-- Events are there after an update exactly if they were before. -/
theorem getEvent_markProcessed {inbox : BusInbox} {eventId : String} {now : DateTime}
    {other : String} :
    (inbox.markProcessed eventId now).getEvent other = none ↔ inbox.getEvent other = none := by
  have keys : ∀ table : BusInbox, table.getEvent other = none ↔
      other ∉ table.map BusInboxRecord.eventId := by
    intro table
    unfold getEvent
    rw [find_eq_none, List.mem_map]
    constructor
    · rintro absent ⟨row, member, same⟩
      exact absent row member same
    · intro absent row member same
      exact absent ⟨row, member, same⟩
  rw [keys, keys, map_eventId_markProcessed]

end BusInbox

end Invoicing
