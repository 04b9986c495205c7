/-
**The tables and the statements of the repositories.**

* `Db` — the tables, each the list of its rows in insertion order, rows as typed values. Columns are
  compared as texts only where a statement compares texts: the time bounds of
  `Db.countIssuedInvoices` and the dates of `Db.dueSchedules`. A lookup here gives the typed row; whether
  the stored row can be read back at all is settled over the columns (`StoredDb`, `Db.fetchInvoice`), and a
  command whose lookup fails there changes nothing.
* `Db.saveInvoice`, `Db.replaceLines`, `Db.insertHistory`, … — one definition for each write, with
  the unique, primary and foreign keys of the schema. Each fails with a `StoreError` and is followed
  by the lemma that says what it did when it did not.
* `InvoiceTx` — the write set of an invoice command: the invoice row, its lines, a history row and
  the record of a keyed send. **`InvoiceTx.commit_ok`**, **`InvoiceTx.commit_of_admissible`** — what
  its transaction does, and when it goes through.
-/

import Invoicing.Domain.Schedule
import Invoicing.Lib.Fallible
import Invoicing.Lib.KeyedTable
import Mathlib.Data.List.Sort

namespace Invoicing

open Chrono DigitText

/-- Why the store failed; a violated key is named by its columns. -/
inductive StoreError
  | unique (columns : String)
  | foreignKey (column : String)
  | blob (message : String)
  deriving DecidableEq

/-- A year in at least four characters. -/
def paddedYear (year : ℤ) : List Char :=
  if year < 0 then '-' :: padDigits 3 year.natAbs else padDigits 4 year.natAbs

/-- The record of a keyed send. -/
structure SendIdempotencyRecord where
  invoiceId : InvoiceId
  idempotencyKey : String
  historyId : HistoryId
  deliveredTo : String
  createdAt : DateTime
  deriving DecidableEq

/-- The tables. -/
structure Db where
  customers : List Customer
  invoices : List Invoice
  lines : List InvoiceLine
  history : List InvoiceStateHistory
  sendKeys : List SendIdempotencyRecord
  creditNotes : List CreditNote
  creditHistory : List CreditNoteStateHistory
  schedules : List Schedule
  deriving DecidableEq

/-- What identifies a line. -/
def InvoiceLine.place (line : InvoiceLine) : LineId × InvoiceId × ℕ :=
  (line.id, line.invoiceId, line.position)

/-- An upsert of an invoice keeps the stored `created_at`. -/
def Invoice.mergeRow (old row : Invoice) : Invoice := { row with createdAt := old.createdAt }

def CreditNote.mergeRow (old row : CreditNote) : CreditNote := { row with createdAt := old.createdAt }

def Schedule.mergeRow (old row : Schedule) : Schedule := { row with createdAt := old.createdAt }

theorem Invoice.keepsKey : KeyedTable.KeepsKey Invoice.id Invoice.mergeRow := fun _ _ _ => rfl

theorem CreditNote.keepsKey : KeyedTable.KeepsKey CreditNote.id CreditNote.mergeRow :=
  fun _ _ _ => rfl

theorem Schedule.keepsKey : KeyedTable.KeepsKey Schedule.id Schedule.mergeRow := fun _ _ _ => rfl

namespace Db

/-! ### Reading -/

def getInvoice (db : Db) (id : InvoiceId) : Option Invoice :=
  KeyedTable.find Invoice.id db.invoices id

def getCustomer (db : Db) (id : CustomerId) : Option Customer :=
  KeyedTable.find Customer.id db.customers id

def getCreditNote (db : Db) (id : CreditNoteId) : Option CreditNote :=
  KeyedTable.find CreditNote.id db.creditNotes id

def getSchedule (db : Db) (id : ScheduleId) : Option Schedule :=
  KeyedTable.find Schedule.id db.schedules id

/-- The lines of an invoice, by position. -/
def linesOf (db : Db) (id : InvoiceId) : List InvoiceLine :=
  (db.lines.filter fun line => decide (line.invoiceId = id)).insertionSort
    fun first second => first.position ≤ second.position

theorem linesOf_owner {db : Db} {id : InvoiceId} : ∀ line ∈ db.linesOf id, line.invoiceId = id := by
  intro line member
  have there := (List.mem_insertionSort _).mp member
  simpa using (List.mem_filter.mp there).2

theorem linesOf_sorted (db : Db) (id : InvoiceId) :
    (db.linesOf id).Pairwise fun first second => first.position ≤ second.position := by
  have total : Std.Total fun first second : InvoiceLine => first.position ≤ second.position :=
    ⟨fun _ _ => le_total _ _⟩
  have trans : IsTrans InvoiceLine fun first second => first.position ≤ second.position :=
    ⟨fun _ _ _ => le_trans⟩
  exact List.pairwise_insertionSort _ _

/-- The history rows of an invoice, in insertion order. -/
def historyOf (db : Db) (id : InvoiceId) : List InvoiceStateHistory :=
  db.history.filter fun row => decide (row.invoiceId = id)

/-- The row under a key; `fetchByKey` reads it from its columns, and fails when its years do not fit. -/
def findByIdempotencyKey (db : Db) (key : String) : Option Invoice :=
  db.invoices.find? fun row => decide (row.idempotencyKey = some key)

def findSend (db : Db) (id : InvoiceId) (key : String) : Option SendIdempotencyRecord :=
  db.sendKeys.find? fun row => decide (row.invoiceId = id ∧ row.idempotencyKey = key)

/-- The text a year is bounded by: midnight of its first day, with the offset `Z`. -/
def yearBound (year : ℤ) : List Char := paddedYear year ++ yearStartTail

/-- A time whose text is in a year's text bounds. -/
def textInYear (year : ℤ) (time : DateTime) : Bool :=
  decide (yearBound year ≤ time.text) && decide (time.text < yearBound (year + 1))

/-- How many of the given times are in a year's text bounds. -/
def countInYear (year : ℤ) (times : List (Option DateTime)) : ℕ :=
  times.countP fun time => time.any (textInYear year)

/-- `SELECT COUNT(*) FROM invoices WHERE issued_at …`. -/
def countIssuedInvoices (db : Db) (year : ℤ) : ℕ :=
  countInYear year (db.invoices.map Invoice.issuedAt)

/-- `SELECT COUNT(*) FROM credit_notes WHERE issued_at …`. -/
def countIssuedCreditNotes (db : Db) (year : ℤ) : ℕ :=
  countInYear year (db.creditNotes.map CreditNote.issuedAt)

/-- Active schedules due at a date, by the text of their next run. -/
def dueSchedules (db : Db) (cutoff : NaiveDate) : List Schedule :=
  (db.schedules.filter fun row =>
    decide (row.state = .active) && decide (row.nextRun.text ≤ cutoff.text)).insertionSort
      fun first second => first.nextRun.text ≤ second.nextRun.text

/-! ### Unique keys -/

/-- Primary keys and idempotency keys of invoices are unique. -/
structure KeysUnique (db : Db) : Prop where
  distinct : KeyedTable.Distinct Invoice.id db.invoices
  keys : ∀ inv ∈ db.invoices, ∀ other ∈ db.invoices, inv.idempotencyKey ≠ none →
    other.idempotencyKey = inv.idempotencyKey → other.id = inv.id

/-- **The lookup of a stored key finds its row.** -/
theorem KeysUnique.findByIdempotencyKey {db : Db} (unique : db.KeysUnique) {inv : Invoice}
    {key : String} (member : inv ∈ db.invoices) (keyed : inv.idempotencyKey = some key) :
    db.findByIdempotencyKey key = some inv := by
  unfold Db.findByIdempotencyKey
  cases found : db.invoices.find? (fun row => decide (row.idempotencyKey = some key)) with
  | none =>
    have absent := List.find?_eq_none.mp found inv member
    exact absurd (decide_eq_true keyed) absent
  | some other =>
    have holds : other.idempotencyKey = some key := by simpa using List.find?_some found
    have inTable := List.mem_of_find?_eq_some found
    have sameId := unique.keys inv member other inTable (by rw [keyed]; exact Option.some_ne_none _)
      (by rw [holds, keyed])
    rw [KeyedTable.eq_of_key_eq unique.distinct inTable member sameId]

theorem KeysUnique.findByIdempotencyKey_iff {db : Db} (unique : db.KeysUnique) {inv : Invoice}
    {key : String} : db.findByIdempotencyKey key = some inv ↔
      inv ∈ db.invoices ∧ inv.idempotencyKey = some key := by
  constructor
  · intro found
    exact ⟨List.mem_of_find?_eq_some found, by simpa using List.find?_some found⟩
  · rintro ⟨member, keyed⟩
    exact unique.findByIdempotencyKey member keyed

/-! ### Invoices and lines -/

/-- Another row holds this row's value of a unique column; an absent value never clashes. -/
def Clashes {ρ κ ν : Type} (key : ρ → κ) (column : ρ → Option ν) (table : List ρ) (row : ρ) : Prop :=
  ∃ other ∈ table, key other ≠ key row ∧ column row ≠ none ∧ column other = column row

instance {ρ κ ν : Type} [DecidableEq κ] [DecidableEq ν] (key : ρ → κ) (column : ρ → Option ν)
    (table : List ρ) (row : ρ) : Decidable (Clashes key column table row) :=
  inferInstanceAs (Decidable (∃ other ∈ table, _ ∧ _ ∧ _))

def saveInvoice (db : Db) (inv : Invoice) : Except StoreError Db :=
  if Clashes Invoice.id Invoice.number db.invoices inv then .error (.unique "invoices.number")
  else if Clashes Invoice.id Invoice.idempotencyKey db.invoices inv then
    .error (.unique "invoices.idempotency_key")
  else if db.getCustomer inv.customerId = none then .error (.foreignKey "invoices.customer_id")
  else .ok { db with invoices := KeyedTable.upsert Invoice.id Invoice.mergeRow db.invoices inv }

theorem saveInvoice_ok {db db' : Db} {inv : Invoice} (saved : db.saveInvoice inv = .ok db') :
    ¬ Clashes Invoice.id Invoice.number db.invoices inv ∧
    ¬ Clashes Invoice.id Invoice.idempotencyKey db.invoices inv ∧
    db.getCustomer inv.customerId ≠ none ∧
    db' = { db with
      invoices := KeyedTable.upsert Invoice.id Invoice.mergeRow db.invoices inv } := by
  unfold saveInvoice at saved
  split at saved
  · cases saved
  · rename_i number
    split at saved
    · cases saved
    · rename_i key
      split at saved
      · cases saved
      · rename_i customer
        cases saved
        exact ⟨number, key, customer, rfl⟩

def insertLine (db : Db) (line : InvoiceLine) : Except StoreError Db :=
  if ∃ row ∈ db.lines, row.id = line.id then .error (.unique "invoice_lines.id")
  else if ∃ row ∈ db.lines, row.invoiceId = line.invoiceId ∧ row.position = line.position then
    .error (.unique "invoice_lines.invoice_id, invoice_lines.position")
  else if db.getInvoice line.invoiceId = none then .error (.foreignKey "invoice_lines.invoice_id")
  else .ok { db with lines := db.lines ++ [line] }

/-- Delete the lines of an invoice, then insert the given ones. -/
def replaceLines (db : Db) (id : InvoiceId) (lines : List InvoiceLine) : Except StoreError Db :=
  lines.foldlM insertLine
    { db with lines := db.lines.filter fun line => decide (line.invoiceId ≠ id) }

theorem insertLine_ok {db db' : Db} {line : InvoiceLine} (inserted : db.insertLine line = .ok db') :
    db' = { db with lines := db.lines ++ [line] } := by
  unfold insertLine at inserted
  split at inserted
  · cases inserted
  · split at inserted
    · cases inserted
    · split at inserted
      · cases inserted
      · cases inserted
        rfl

theorem insertLines_ok {lines : List InvoiceLine} {db db' : Db}
    (inserted : lines.foldlM insertLine db = .ok db') :
    db' = { db with lines := db.lines ++ lines } := by
  induction lines generalizing db with
  | nil =>
    cases inserted
    simp
  | cons line rest ih =>
    rw [List.foldlM_cons] at inserted
    cases first : db.insertLine line with
    | error e => rw [first] at inserted; cases inserted
    | ok middle =>
      rw [first] at inserted
      rw [ih inserted, insertLine_ok first]
      simp

theorem replaceLines_ok {db db' : Db} {id : InvoiceId} {lines : List InvoiceLine}
    (replaced : db.replaceLines id lines = .ok db') :
    db' = { db with
      lines := (db.lines.filter fun line => decide (line.invoiceId ≠ id)) ++ lines } :=
  insertLines_ok replaced

/-- A line is refused for the keys of its own table. -/
theorem insertLine_error {db : Db} {line : InvoiceLine} {e : StoreError}
    (failed : db.insertLine line = .error e) :
    e = .unique "invoice_lines.id" ∨
      e = .unique "invoice_lines.invoice_id, invoice_lines.position" ∨
      e = .foreignKey "invoice_lines.invoice_id" := by
  unfold insertLine at failed
  split at failed
  · cases failed
    exact Or.inl rfl
  · split at failed
    · cases failed
      exact Or.inr (Or.inl rfl)
    · split at failed
      · cases failed
        exact Or.inr (Or.inr rfl)
      · cases failed

theorem insertLines_error {lines : List InvoiceLine} {db : Db} {e : StoreError}
    (failed : lines.foldlM insertLine db = .error e) :
    e = .unique "invoice_lines.id" ∨
      e = .unique "invoice_lines.invoice_id, invoice_lines.position" ∨
      e = .foreignKey "invoice_lines.invoice_id" := by
  induction lines generalizing db with
  | nil => cases failed
  | cons line rest ih =>
    rw [List.foldlM_cons] at failed
    rcases bind_error failed with first | ⟨middle, _, later⟩
    · exact insertLine_error first
    · exact ih later

/-- The lines table after an invoice's lines were replaced, or left. -/
def linesAfter (table : List InvoiceLine) (id : InvoiceId) :
    Option (List InvoiceLine) → List InvoiceLine
  | none => table
  | some new => (table.filter fun line => decide (line.invoiceId ≠ id)) ++ new

/-- The lines a command writes, if any. -/
def writeLines (db : Db) (id : InvoiceId) : Option (List InvoiceLine) → Except StoreError Db
  | none => .ok db
  | some lines => db.replaceLines id lines

theorem writeLines_ok {db db' : Db} {id : InvoiceId} {lines : Option (List InvoiceLine)}
    (written : db.writeLines id lines = .ok db') :
    db' = { db with lines := linesAfter db.lines id lines } := by
  cases lines with
  | none =>
    cases written
    rfl
  | some new => exact replaceLines_ok written

/-- Lines that can follow the rows of a table: new ids, new positions. -/
def LinesFit (table lines : List InvoiceLine) : Prop :=
  ((table ++ lines).map InvoiceLine.id).Nodup ∧
    ((table ++ lines).map fun line => (line.invoiceId, line.position)).Nodup

theorem insertLines_of_fit {lines : List InvoiceLine} {db : Db} (fit : LinesFit db.lines lines)
    (owners : ∀ line ∈ lines, db.getInvoice line.invoiceId ≠ none) :
    lines.foldlM insertLine db = .ok { db with lines := db.lines ++ lines } := by
  induction lines generalizing db with
  | nil => simp [pure, Except.pure]
  | cons line rest ih =>
    obtain ⟨ids, positions⟩ := fit
    have shape : db.lines ++ line :: rest = (db.lines ++ [line]) ++ rest := by simp
    have newId : ¬ ∃ row ∈ db.lines, row.id = line.id := by
      rintro ⟨row, member, same⟩
      rw [List.map_append, List.nodup_append] at ids
      exact ids.2.2 _ (List.mem_map_of_mem member) _ (List.mem_map_of_mem List.mem_cons_self) same
    have newPosition : ¬ ∃ row ∈ db.lines,
        row.invoiceId = line.invoiceId ∧ row.position = line.position := by
      rintro ⟨row, member, sameInvoice, samePosition⟩
      rw [List.map_append, List.nodup_append] at positions
      exact positions.2.2 _ (List.mem_map_of_mem member) _
        (List.mem_map_of_mem List.mem_cons_self) (by rw [sameInvoice, samePosition])
    have first : db.insertLine line = .ok { db with lines := db.lines ++ [line] } := by
      unfold insertLine
      rw [if_neg newId, if_neg newPosition, if_neg (owners line List.mem_cons_self)]
    have rest' := @ih { db with lines := db.lines ++ [line] }
      ⟨by rw [← shape]; exact ids, by rw [← shape]; exact positions⟩
      (fun other member => owners other (List.mem_cons_of_mem _ member))
    rw [List.foldlM_cons, first]
    show rest.foldlM insertLine { db with lines := db.lines ++ [line] } = _
    rw [rest']
    simp

/-! ### History and send records -/

def insertHistory (db : Db) (row : InvoiceStateHistory) : Except StoreError Db :=
  if ∃ other ∈ db.history, other.id = row.id then .error (.unique "invoice_state_history.id")
  else if db.getInvoice row.invoiceId = none then
    .error (.foreignKey "invoice_state_history.invoice_id")
  else .ok { db with history := db.history ++ [row] }

theorem insertHistory_ok {db db' : Db} {row : InvoiceStateHistory}
    (inserted : db.insertHistory row = .ok db') :
    (∀ other ∈ db.history, other.id ≠ row.id) ∧
      db' = { db with history := db.history ++ [row] } := by
  unfold insertHistory at inserted
  split at inserted
  · cases inserted
  · rename_i fresh
    split at inserted
    · cases inserted
    · cases inserted
      exact ⟨fun other member same => fresh ⟨other, member, same⟩, rfl⟩

def insertSendKey (db : Db) (record : SendIdempotencyRecord) : Except StoreError Db :=
  if ∃ row ∈ db.sendKeys,
      row.invoiceId = record.invoiceId ∧ row.idempotencyKey = record.idempotencyKey then
    .error (.unique "send_idempotency.invoice_id, send_idempotency.idempotency_key")
  else if db.getInvoice record.invoiceId = none then
    .error (.foreignKey "send_idempotency.invoice_id")
  else .ok { db with sendKeys := db.sendKeys ++ [record] }

theorem insertSendKey_ok {db db' : Db} {record : SendIdempotencyRecord}
    (inserted : db.insertSendKey record = .ok db') :
    (∀ row ∈ db.sendKeys,
        ¬ (row.invoiceId = record.invoiceId ∧ row.idempotencyKey = record.idempotencyKey)) ∧
      db' = { db with sendKeys := db.sendKeys ++ [record] } := by
  unfold insertSendKey at inserted
  split at inserted
  · cases inserted
  · rename_i fresh
    split at inserted
    · cases inserted
    · cases inserted
      exact ⟨fun row member same => fresh ⟨row, member, same⟩, rfl⟩

/-- The send record a command writes, if any. -/
def writeSendKey (db : Db) : Option SendIdempotencyRecord → Except StoreError Db
  | none => .ok db
  | some record => db.insertSendKey record

theorem writeSendKey_ok {db db' : Db} {sendKey : Option SendIdempotencyRecord}
    (written : db.writeSendKey sendKey = .ok db') :
    (∀ record, sendKey = some record → ∀ row ∈ db.sendKeys,
        ¬ (row.invoiceId = record.invoiceId ∧ row.idempotencyKey = record.idempotencyKey)) ∧
      db' = { db with sendKeys := db.sendKeys ++ sendKey.toList } := by
  cases sendKey with
  | none =>
    cases written
    refine ⟨?_, ?_⟩
    · intro record absent
      cases absent
    · simp
  | some record =>
    obtain ⟨fresh, same⟩ := insertSendKey_ok written
    refine ⟨?_, same⟩
    intro other same
    cases same
    exact fresh

/-! ### Credit notes and schedules -/

def saveCreditNote (db : Db) (note : CreditNote) : Except StoreError Db :=
  if Clashes CreditNote.id CreditNote.number db.creditNotes note then
    .error (.unique "credit_notes.number")
  else if db.getInvoice note.invoiceId = none then .error (.foreignKey "credit_notes.invoice_id")
  else .ok { db with
    creditNotes := KeyedTable.upsert CreditNote.id CreditNote.mergeRow db.creditNotes note }

theorem saveCreditNote_ok {db db' : Db} {note : CreditNote}
    (saved : db.saveCreditNote note = .ok db') :
    ¬ Clashes CreditNote.id CreditNote.number db.creditNotes note ∧
      db' = { db with
        creditNotes :=
          KeyedTable.upsert CreditNote.id CreditNote.mergeRow db.creditNotes note } := by
  unfold saveCreditNote at saved
  split at saved
  · cases saved
  · rename_i number
    split at saved
    · cases saved
    · cases saved
      exact ⟨number, rfl⟩

/-- A note under a free number, of a stored invoice, is saved. -/
theorem saveCreditNote_of_free {db : Db} {note : CreditNote}
    (free : ¬ Clashes CreditNote.id CreditNote.number db.creditNotes note)
    (owner : db.getInvoice note.invoiceId ≠ none) :
    db.saveCreditNote note = .ok { db with
      creditNotes := KeyedTable.upsert CreditNote.id CreditNote.mergeRow db.creditNotes note } := by
  rw [saveCreditNote, if_neg free, if_neg owner]

def insertCreditHistory (db : Db) (row : CreditNoteStateHistory) : Except StoreError Db :=
  if ∃ other ∈ db.creditHistory, other.id = row.id then
    .error (.unique "credit_note_state_history.id")
  else if db.getCreditNote row.creditNoteId = none then
    .error (.foreignKey "credit_note_state_history.credit_note_id")
  else .ok { db with creditHistory := db.creditHistory ++ [row] }

theorem insertCreditHistory_ok {db db' : Db} {row : CreditNoteStateHistory}
    (inserted : db.insertCreditHistory row = .ok db') :
    db' = { db with creditHistory := db.creditHistory ++ [row] } := by
  unfold insertCreditHistory at inserted
  split at inserted
  · cases inserted
  · split at inserted
    · cases inserted
    · cases inserted
      rfl

/-- A history row under a new id, of a stored note, is inserted. -/
theorem insertCreditHistory_of_new {db : Db} {row : CreditNoteStateHistory}
    (new : ∀ other ∈ db.creditHistory, other.id ≠ row.id)
    (owner : db.getCreditNote row.creditNoteId ≠ none) :
    db.insertCreditHistory row = .ok { db with creditHistory := db.creditHistory ++ [row] } := by
  have absent : ¬ ∃ other ∈ db.creditHistory, other.id = row.id := by
    rintro ⟨other, member, same⟩
    exact new other member same
  rw [insertCreditHistory, if_neg absent, if_neg owner]

/-- A history row that was inserted has a new id. -/
theorem insertCreditHistory_new {db db' : Db} {row : CreditNoteStateHistory}
    (inserted : db.insertCreditHistory row = .ok db') : ∀ other ∈ db.creditHistory, other.id ≠ row.id := by
  intro other member same
  unfold insertCreditHistory at inserted
  rw [if_pos ⟨other, member, same⟩] at inserted
  cases inserted

/-- The tables after a schedule row was saved. -/
def putSchedule (db : Db) (schedule : Schedule) : Db :=
  { db with schedules := KeyedTable.upsert Schedule.id Schedule.mergeRow db.schedules schedule }

def saveSchedule (db : Db) (schedule : Schedule) : Except StoreError Db :=
  if db.getCustomer schedule.customerId = none then .error (.foreignKey "schedules.customer_id")
  else .ok (db.putSchedule schedule)

theorem saveSchedule_ok {db db' : Db} {schedule : Schedule}
    (saved : db.saveSchedule schedule = .ok db') : db' = db.putSchedule schedule := by
  unfold saveSchedule at saved
  split at saved
  · cases saved
  · cases saved
    rfl

/-- The saved row is stored, with its time of creation if it is new. -/
theorem getSchedule_put (db : Db) (schedule : Schedule) :
    (db.putSchedule schedule).getSchedule schedule.id =
      some (KeyedTable.merged Schedule.mergeRow (db.getSchedule schedule.id) schedule) :=
  KeyedTable.find_upsert_self Schedule.keepsKey db.schedules schedule

end Db

/-! ### The transaction of an invoice command -/

/-- The write set of an invoice command. -/
structure InvoiceTx where
  invoice : Invoice
  lines : Option (List InvoiceLine)
  history : InvoiceStateHistory
  sendKey : Option SendIdempotencyRecord

namespace InvoiceTx

/-- Run the statements of the write set; an error rolls all of them back. -/
def commit (tx : InvoiceTx) (db : Db) : Except StoreError Db := do
  let db ← db.saveInvoice tx.invoice
  let db ← db.writeLines tx.invoice.id tx.lines
  let db ← db.insertHistory tx.history
  db.writeSendKey tx.sendKey

/-- The tables after the transaction. -/
def apply (tx : InvoiceTx) (db : Db) : Db :=
  { db with
    invoices := KeyedTable.upsert Invoice.id Invoice.mergeRow db.invoices tx.invoice
    lines := Db.linesAfter db.lines tx.invoice.id tx.lines
    history := db.history ++ [tx.history]
    sendKeys := db.sendKeys ++ tx.sendKey.toList }

/-- **What a transaction that went through did**, and what it found. -/
theorem commit_ok {tx : InvoiceTx} {db db' : Db} (committed : tx.commit db = .ok db') :
    db' = tx.apply db ∧
    ¬ Db.Clashes Invoice.id Invoice.number db.invoices tx.invoice ∧
    ¬ Db.Clashes Invoice.id Invoice.idempotencyKey db.invoices tx.invoice ∧
    (∀ row ∈ db.history, row.id ≠ tx.history.id) ∧
    (∀ record, tx.sendKey = some record → ∀ row ∈ db.sendKeys,
      ¬ (row.invoiceId = record.invoiceId ∧ row.idempotencyKey = record.idempotencyKey)) := by
  obtain ⟨db₁, saved, rest⟩ := bind_ok committed
  obtain ⟨db₂, written, rest⟩ := bind_ok rest
  obtain ⟨db₃, inserted, rest⟩ := bind_ok rest
  obtain ⟨number, key, _, rfl⟩ := Db.saveInvoice_ok saved
  obtain rfl := Db.writeLines_ok written
  obtain ⟨freshHistory, rfl⟩ := Db.insertHistory_ok inserted
  obtain ⟨freshSend, rfl⟩ := Db.writeSendKey_ok rest
  exact ⟨rfl, number, key, freshHistory, freshSend⟩

/-- A number another invoice holds refuses the transaction. -/
theorem commit_of_clash {tx : InvoiceTx} {db : Db}
    (clash : Db.Clashes Invoice.id Invoice.number db.invoices tx.invoice) :
    tx.commit db = .error (.unique "invoices.number") := by
  unfold commit Db.saveInvoice
  rw [if_pos clash]
  rfl

/-- A transaction refused for its number has a number another invoice holds. -/
theorem commit_number {tx : InvoiceTx} {db : Db}
    (failed : tx.commit db = .error (.unique "invoices.number")) :
    Db.Clashes Invoice.id Invoice.number db.invoices tx.invoice := by
  by_contra free
  rcases bind_error failed with saving | ⟨db₁, _, rest⟩
  · unfold Db.saveInvoice at saving
    rw [if_neg free] at saving
    split at saving
    · simp at saving
    · split at saving
      · simp at saving
      · cases saving
  rcases bind_error rest with writing | ⟨db₂, _, rest⟩
  · cases written : tx.lines with
    | none =>
      rw [written] at writing
      cases writing
    | some lines =>
      rw [written] at writing
      rcases Db.insertLines_error writing with same | same | same <;> simp at same
  rcases bind_error rest with inserting | ⟨db₃, _, recording⟩
  · unfold Db.insertHistory at inserting
    split at inserting
    · simp at inserting
    · split at inserting
      · simp at inserting
      · cases inserting
  · cases keyed : tx.sendKey with
    | none =>
      rw [keyed] at recording
      cases recording
    | some record =>
      rw [keyed] at recording
      simp only [Db.writeSendKey, Db.insertSendKey] at recording
      split at recording
      · simp at recording
      · split at recording
        · simp at recording
        · cases recording

/-- The invoice row after the transaction is the written one, merged with the stored one. -/
theorem getInvoice_apply (tx : InvoiceTx) (db : Db) (id : InvoiceId) :
    (tx.apply db).getInvoice id =
      if id = tx.invoice.id then
        some (KeyedTable.merged Invoice.mergeRow (db.getInvoice tx.invoice.id) tx.invoice)
      else db.getInvoice id :=
  KeyedTable.find_upsert Invoice.keepsKey db.invoices tx.invoice id

theorem getInvoice_apply_other {tx : InvoiceTx} (db : Db) {id : InvoiceId} (other : id ≠ tx.invoice.id) :
    (tx.apply db).getInvoice id = db.getInvoice id := by
  rw [getInvoice_apply, if_neg other]

/-- The row a transaction leaves is the written one, but for its date of creation. -/
theorem getInvoice_apply_self (tx : InvoiceTx) (db : Db) :
    ∃ createdAt, (tx.apply db).getInvoice tx.invoice.id =
      some { tx.invoice with createdAt := createdAt } := by
  rw [getInvoice_apply, if_pos rfl]
  cases db.getInvoice tx.invoice.id with
  | none => exact ⟨_, rfl⟩
  | some old => exact ⟨old.createdAt, rfl⟩

/-- What a lookup finds after a transaction: the row of another invoice, or the written one. -/
theorem getInvoice_apply_cases {tx : InvoiceTx} {db : Db} {id : InvoiceId} {inv : Invoice}
    (found : (tx.apply db).getInvoice id = some inv) :
    (id ≠ tx.invoice.id ∧ db.getInvoice id = some inv) ∨
      (id = tx.invoice.id ∧ ∃ createdAt, inv = { tx.invoice with createdAt := createdAt }) := by
  by_cases mine : id = tx.invoice.id
  · subst mine
    obtain ⟨createdAt, written⟩ := getInvoice_apply_self tx db
    exact Or.inr ⟨rfl, createdAt, Option.some.inj (found.symm.trans written)⟩
  · rw [getInvoice_apply_other db mine] at found
    exact Or.inl ⟨mine, found⟩

/-- **Transactions keep the keys unique.** -/
theorem keysUnique_apply {tx : InvoiceTx} {db : Db} (unique : db.KeysUnique)
    (free : ¬ Db.Clashes Invoice.id Invoice.idempotencyKey db.invoices tx.invoice) :
    (tx.apply db).KeysUnique := by
  have members := KeyedTable.mem_upsert_iff Invoice.keepsKey unique.distinct tx.invoice
  have row : ∀ old : Option Invoice,
      (KeyedTable.merged Invoice.mergeRow old tx.invoice).id = tx.invoice.id ∧
        (KeyedTable.merged Invoice.mergeRow old tx.invoice).idempotencyKey =
          tx.invoice.idempotencyKey := by
    intro old
    cases old <;> exact ⟨rfl, rfl⟩
  refine ⟨KeyedTable.distinct_upsert Invoice.keepsKey tx.invoice unique.distinct, ?_⟩
  intro inv member other member' keyed same
  rcases (members inv).mp member with rfl | ⟨inTable, different⟩
  · rw [(row _).2] at keyed same
    rw [(row _).1]
    rcases (members other).mp member' with rfl | ⟨inTable', different'⟩
    · exact (row _).1
    · exact absurd ⟨other, inTable', different', keyed, same⟩ free
  · rcases (members other).mp member' with rfl | ⟨inTable', _⟩
    · rw [(row _).2] at same
      refine absurd ⟨inv, inTable, different, ?_, same.symm⟩ free
      rw [same]
      exact keyed
    · exact unique.keys inv inTable other inTable' keyed same

/-- A row written under another key, over a row that had another key, moves no lookup. -/
theorem findByIdempotencyKey_apply {tx : InvoiceTx} {db : Db} {key : String}
    (unique : db.KeysUnique)
    (free : ¬ Db.Clashes Invoice.id Invoice.idempotencyKey db.invoices tx.invoice)
    (newKey : tx.invoice.idempotencyKey ≠ some key)
    (oldKey : ∀ old, db.getInvoice tx.invoice.id = some old → old.idempotencyKey ≠ some key) :
    (tx.apply db).findByIdempotencyKey key = db.findByIdempotencyKey key := by
  have members := KeyedTable.mem_upsert_iff Invoice.keepsKey unique.distinct tx.invoice
  ext inv
  rw [(keysUnique_apply unique free).findByIdempotencyKey_iff, unique.findByIdempotencyKey_iff]
  constructor
  · rintro ⟨member, keyed⟩
    rcases (members inv).mp member with rfl | ⟨inTable, _⟩
    · refine absurd ?_ newKey
      cases found : KeyedTable.find Invoice.id db.invoices tx.invoice.id with
      | none =>
        rw [found] at keyed
        exact keyed
      | some old =>
        rw [found] at keyed
        exact keyed
    · exact ⟨inTable, keyed⟩
  · rintro ⟨member, keyed⟩
    refine ⟨(members inv).mpr (Or.inr ⟨member, ?_⟩), keyed⟩
    intro same
    have found : db.getInvoice tx.invoice.id = some inv := by
      rw [← same]
      exact KeyedTable.find_of_mem unique.distinct member
    exact oldKey inv found keyed

/-- The lines of other invoices stay. -/
theorem linesOf_apply {tx : InvoiceTx} {db : Db} {id : InvoiceId}
    (owners : ∀ new, tx.lines = some new → ∀ line ∈ new, line.invoiceId = tx.invoice.id)
    (other : id ≠ tx.invoice.id) : (tx.apply db).linesOf id = db.linesOf id := by
  unfold Db.linesOf apply Db.linesAfter
  congr 1
  cases written : tx.lines with
  | none => rfl
  | some new =>
    have noneNew : new.filter (fun line => decide (line.invoiceId = id)) = [] := by
      refine List.filter_eq_nil_iff.mpr ?_
      intro line member
      rw [owners new written line member]
      simpa using Ne.symm other
    show List.filter _ (db.lines.filter _ ++ new) = _
    rw [List.filter_append, noneNew, List.append_nil, List.filter_filter]
    refine List.filter_congr ?_
    intro line _
    by_cases mine : line.invoiceId = id
    · simp [mine, other]
    · simp [mine]

/-- The lines a transaction writes are those the invoice has after it, in their order. -/
theorem linesOf_written {tx : InvoiceTx} {db : Db} {new : List InvoiceLine} (written : tx.lines = some new)
    (owners : ∀ line ∈ new, line.invoiceId = tx.invoice.id)
    (sorted : new.Pairwise fun first second => first.position ≤ second.position) :
    (tx.apply db).linesOf tx.invoice.id = new := by
  have old : ((db.lines.filter fun line => decide (line.invoiceId ≠ tx.invoice.id)).filter
      fun line => decide (line.invoiceId = tx.invoice.id)) = [] := by
    refine List.filter_eq_nil_iff.mpr fun line member => ?_
    simpa using (List.mem_filter.mp member).2
  have kept : (new.filter fun line => decide (line.invoiceId = tx.invoice.id)) = new :=
    List.filter_eq_self.mpr fun line member => decide_eq_true (owners line member)
  unfold Db.linesOf apply Db.linesAfter
  rw [written]
  show (List.filter _ (db.lines.filter _ ++ new)).insertionSort _ = new
  rw [List.filter_append, old, kept, List.nil_append, sorted.insertionSort_eq]

/-- What a transaction needs of the tables to go through. -/
structure Admissible (tx : InvoiceTx) (db : Db) : Prop where
  number : ¬ Db.Clashes Invoice.id Invoice.number db.invoices tx.invoice
  key : ¬ Db.Clashes Invoice.id Invoice.idempotencyKey db.invoices tx.invoice
  customer : db.getCustomer tx.invoice.customerId ≠ none
  lines : ∀ new, tx.lines = some new →
    Db.LinesFit (db.lines.filter fun line => decide (line.invoiceId ≠ tx.invoice.id)) new ∧
      ∀ line ∈ new, line.invoiceId = tx.invoice.id
  history : (∀ row ∈ db.history, row.id ≠ tx.history.id) ∧ tx.history.invoiceId = tx.invoice.id
  send : ∀ record, tx.sendKey = some record → record.invoiceId = tx.invoice.id ∧
    ∀ row ∈ db.sendKeys,
      ¬ (row.invoiceId = record.invoiceId ∧ row.idempotencyKey = record.idempotencyKey)

/-- **An admissible transaction goes through.** -/
theorem commit_of_admissible {tx : InvoiceTx} {db : Db} (admissible : tx.Admissible db) :
    tx.commit db = .ok (tx.apply db) := by
  have saved : db.saveInvoice tx.invoice = .ok { db with
      invoices := KeyedTable.upsert Invoice.id Invoice.mergeRow db.invoices tx.invoice } := by
    unfold Db.saveInvoice
    rw [if_neg admissible.number, if_neg admissible.key, if_neg admissible.customer]
  have stored : KeyedTable.find Invoice.id
      (KeyedTable.upsert Invoice.id Invoice.mergeRow db.invoices tx.invoice) tx.invoice.id ≠
        none := by
    rw [KeyedTable.find_upsert_self Invoice.keepsKey]
    simp
  have written : Db.writeLines { db with
        invoices := KeyedTable.upsert Invoice.id Invoice.mergeRow db.invoices tx.invoice }
      tx.invoice.id tx.lines = .ok { db with
        invoices := KeyedTable.upsert Invoice.id Invoice.mergeRow db.invoices tx.invoice
        lines := Db.linesAfter db.lines tx.invoice.id tx.lines } := by
    unfold Db.writeLines Db.linesAfter
    cases replaced : tx.lines with
    | none => rfl
    | some new =>
      obtain ⟨fit, owners⟩ := admissible.lines new replaced
      refine Db.insertLines_of_fit fit ?_
      intro line member
      rw [owners line member]
      exact stored
  have inserted : Db.insertHistory { db with
        invoices := KeyedTable.upsert Invoice.id Invoice.mergeRow db.invoices tx.invoice
        lines := Db.linesAfter db.lines tx.invoice.id tx.lines } tx.history =
      .ok { db with
        invoices := KeyedTable.upsert Invoice.id Invoice.mergeRow db.invoices tx.invoice
        lines := Db.linesAfter db.lines tx.invoice.id tx.lines
        history := db.history ++ [tx.history] } := by
    unfold Db.insertHistory
    rw [if_neg, if_neg]
    · rw [admissible.history.2]
      exact stored
    · rintro ⟨row, member, same⟩
      exact admissible.history.1 row member same
  have recorded : Db.writeSendKey { db with
        invoices := KeyedTable.upsert Invoice.id Invoice.mergeRow db.invoices tx.invoice
        lines := Db.linesAfter db.lines tx.invoice.id tx.lines
        history := db.history ++ [tx.history] } tx.sendKey = .ok (tx.apply db) := by
    unfold Db.writeSendKey apply
    cases keyed : tx.sendKey with
    | none => simp
    | some record =>
      obtain ⟨owner, freshSend⟩ := admissible.send record keyed
      show Db.insertSendKey _ record = _
      unfold Db.insertSendKey
      rw [if_neg, if_neg]
      · rfl
      · rw [owner]
        exact stored
      · rintro ⟨row, member, same⟩
        exact freshSend row member same
  unfold commit
  rw [saved]
  show (Db.writeLines _ tx.invoice.id tx.lines >>= _) = _
  rw [written]
  show (Db.insertHistory _ tx.history >>= _) = _
  rw [inserted]
  exact recorded

end InvoiceTx

end Invoicing
