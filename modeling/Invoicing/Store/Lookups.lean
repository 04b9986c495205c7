/-
**The lookups of the commands, over the stored tables.**

* `RowTexts` — the texts of all columns, those of a customer's address too.
* `CustomerColumns`, `SendColumns` — customers and send records as columns; **`customerFormat`**,
  **`sendFormat`** — a row is read back as it was exactly when its years fit.
* `Db.fetchInvoice`, `Db.fetchByKey`, `Db.fetchCustomer`, `Db.fetchSend` — find a row by its texts and read
  it. **`fetchInvoice_eq_ok_iff`**, … — a lookup gives the row the typed table holds exactly when its years
  fit, and fails otherwise.
* `Db.Loads` — an invoice and its customer are read; `Db.LoadsSend` — and the record of a send.
  **`loads_iff`**, **`loadsSend_iff`** — when their years fit.
-/

import Invoicing.Store.Queries

namespace Invoicing

open Chrono (DateTime)

/-! ### Customers and send records -/

/-- The texts of all columns: an address is stored as JSON. -/
structure RowTexts extends ColumnTexts where
  address : JsonText Address

structure RowTexts.Documented (texts : RowTexts) : Prop extends
    ColumnTexts.Documented texts.toColumnTexts where
  address : texts.address.Lawful

structure CustomerColumns where
  id : String
  displayName : String
  email : Option String
  addressJson : String
  jurisdiction : Option String
  metadata : Option String
  createdAt : String
  updatedAt : String
  deriving DecidableEq

/-- The parameters of `CustomerRepo::save_in_tx`. -/
def Customer.columns (texts : RowTexts) (customer : Customer) : CustomerColumns where
  id := customer.id.text
  displayName := customer.displayName
  email := customer.email
  addressJson := texts.address.toText customer.address
  -- inferred from the address; the column is reserved
  jurisdiction := none
  metadata := metadataToJson texts.toColumnTexts customer.metadata
  createdAt := tsToString customer.createdAt
  updatedAt := tsToString customer.updatedAt

def addressFromJson (texts : RowTexts) (text : String) : ReadResult Address :=
  match texts.address.ofText text with
  | none => .error .json
  | some address => .ok address

def rowToCustomer (texts : RowTexts) (row : CustomerColumns) : ReadResult Customer := do
  let id ← parseTypeid texts.toColumnTexts .customer row.id
  let address ← addressFromJson texts row.addressJson
  let metadata ← metadataFromJson texts.toColumnTexts row.metadata
  let createdAt ← parseTs texts.toColumnTexts row.createdAt
  let updatedAt ← parseTs texts.toColumnTexts row.updatedAt
  return { id, displayName := row.displayName, email := row.email, address, metadata, createdAt, updatedAt }

/-- The times of a customer. -/
def Customer.times (customer : Customer) : List DateTime := [customer.createdAt, customer.updatedAt]

structure SendColumns where
  invoiceId : String
  idempotencyKey : String
  historyId : String
  deliveredTo : String
  createdAt : String
  deriving DecidableEq

/-- The parameters of `SendIdempotencyRepo::insert_in_tx`. -/
def SendIdempotencyRecord.columns (record : SendIdempotencyRecord) : SendColumns where
  invoiceId := record.invoiceId.text
  idempotencyKey := record.idempotencyKey
  historyId := record.historyId.text
  deliveredTo := record.deliveredTo
  createdAt := tsToString record.createdAt

def rowToRecord (texts : ColumnTexts) (row : SendColumns) : ReadResult SendIdempotencyRecord := do
  let invoiceId ← parseTypeid texts .invoice row.invoiceId
  let historyId ← parseTypeid texts .history row.historyId
  let createdAt ← parseTs texts row.createdAt
  return { invoiceId, idempotencyKey := row.idempotencyKey, historyId, deliveredTo := row.deliveredTo,
           createdAt }

/-- The times of a send record. -/
def SendIdempotencyRecord.times (record : SendIdempotencyRecord) : List DateTime := [record.createdAt]

section Formats

variable {texts : RowTexts} (documented : texts.Documented)

include documented

theorem addressFromJson_toText (address : Address) :
    addressFromJson texts (texts.address.toText address) = .ok address := by
  unfold addressFromJson
  rw [documented.address.reads]

/-- **A customer is read back exactly when its years fit.** -/
theorem rowToCustomer_inverts :
    Inverts (rowToCustomer texts) (Customer.columns texts) fun customer => YearsFit customer.times := by
  intro customer found
  have columns := documented.toDocumented
  have time := parseTs_inverts columns
  unfold Inverts at time
  simp only [rowToCustomer, Customer.columns, bind_eq_ok, parseTypeid_text columns,
    addressFromJson_toText documented, metadataFromJson_toJson columns, time, Except.ok.injEq,
    exists_eq_left', and_assoc, exists_and_left, exists_eq_left, pure, Except.pure, Customer.times,
    yearsFit_cons, yearsFit_nil, and_true, eq_comm (b := found)]

/-- **So is a send record.** -/
theorem rowToRecord_inverts :
    Inverts (rowToRecord texts.toColumnTexts) SendIdempotencyRecord.columns
      fun record => YearsFit record.times := by
  intro record found
  have columns := documented.toDocumented
  have time := parseTs_inverts columns
  unfold Inverts at time
  simp only [rowToRecord, SendIdempotencyRecord.columns, bind_eq_ok, parseTypeid_text columns, time,
    Except.ok.injEq, exists_eq_left', and_assoc, exists_and_left, exists_eq_left, pure, Except.pure,
    SendIdempotencyRecord.times, yearsFit_cons, yearsFit_nil, and_true, eq_comm (b := found)]

end Formats

def customerFormat {texts : RowTexts} (documented : texts.Documented) :
    RowFormat Customer CustomerColumns ReadError where
  write := Customer.columns texts
  read := rowToCustomer texts
  Fits customer := YearsFit customer.times
  inverts := rowToCustomer_inverts documented

def sendFormat {texts : RowTexts} (documented : texts.Documented) :
    RowFormat SendIdempotencyRecord SendColumns ReadError where
  write := SendIdempotencyRecord.columns
  read := rowToRecord texts.toColumnTexts
  Fits record := YearsFit record.times
  inverts := rowToRecord_inverts documented

/-! ### Lookups -/

namespace Db

variable (texts : RowTexts) (db : Db)

/-- The tables as they are stored. -/
def stored (texts : ColumnTexts) (db : Db) : StoredDb := ReminderDb.stored texts ⟨db, []⟩

def fetchInvoice (id : InvoiceId) : ReadResult (Option Invoice) :=
  (db.stored texts.toColumnTexts).getInvoice texts.toColumnTexts id

def fetchByKey (key : String) : ReadResult (Option Invoice) :=
  (db.stored texts.toColumnTexts).findByIdempotencyKey texts.toColumnTexts key

/-- `CustomerRepo::get`. -/
def fetchCustomer (id : CustomerId) : ReadResult (Option Customer) :=
  fetchOptional (rowToCustomer texts) (fun row => decide (row.id = id.text))
    (db.customers.map (Customer.columns texts))

/-- `SendIdempotencyRepo::find`. -/
def fetchSend (id : InvoiceId) (key : String) : ReadResult (Option SendIdempotencyRecord) :=
  fetchOptional (rowToRecord texts.toColumnTexts)
    (fun row => decide (row.invoiceId = id.text ∧ row.idempotencyKey = key))
    (db.sendKeys.map SendIdempotencyRecord.columns)

/-- The invoice, if it is stored, is read, and so is its customer. -/
structure Loads (id : InvoiceId) : Prop where
  invoice : (db.fetchInvoice texts id).isOk
  customer : ∀ inv, db.fetchInvoice texts id = .ok (some inv) →
    (db.fetchCustomer texts inv.customerId).isOk

/-- The record of a send under the key is read, and what the send loads. -/
structure LoadsSend (id : InvoiceId) (key : String) : Prop extends db.Loads texts id where
  record : (db.fetchSend texts id key).isOk

/-- What a send loads has years of four digits. -/
structure LoadsFit (id : InvoiceId) : Prop where
  invoice : ∀ inv, db.getInvoice id = some inv → YearsFit inv.times
  customer : ∀ inv customer, db.getInvoice id = some inv →
    db.getCustomer inv.customerId = some customer → YearsFit customer.times

/-- So has the record of the key. -/
structure SendFits (id : InvoiceId) (key : String) : Prop extends db.LoadsFit id where
  record : ∀ record, db.findSend id key = some record → YearsFit record.times

/-- Where all three rows are there, their years decide. -/
theorem SendFits.of_found {db : Db} {id : InvoiceId} {key : String} {inv : Invoice} {customer : Customer}
    {record : SendIdempotencyRecord} (stored : db.getInvoice id = some inv)
    (buyer : db.getCustomer inv.customerId = some customer) (recorded : db.findSend id key = some record)
    (fits : YearsFit inv.times ∧ YearsFit customer.times ∧ YearsFit record.times) :
    db.SendFits id key := by
  obtain ⟨invoiceFits, customerFits, recordFits⟩ := fits
  have same : ∀ inv', db.getInvoice id = some inv' → inv = inv' :=
    fun inv' there => Option.some.inj (stored.symm.trans there)
  refine ⟨⟨?_, ?_⟩, ?_⟩
  · intro inv' there
    exact same inv' there ▸ invoiceFits
  · intro inv' customer' there there'
    rw [← same inv' there, buyer] at there'
    exact Option.some.inj there' ▸ customerFits
  · intro record' there
    exact Option.some.inj (recorded.symm.trans there) ▸ recordFits

end Db

section Fetched

variable {texts : RowTexts} (documented : texts.Documented) {db : Db}

include documented

/-- **An invoice is found exactly when its years fit.** -/
theorem fetchInvoice_eq_ok_iff {id : InvoiceId} {found : Option Invoice} :
    db.fetchInvoice texts id = .ok found ↔
      db.getInvoice id = found ∧ ∀ inv ∈ found, YearsFit inv.times := by
  have fetched := @RowFormat.fetchOptional_eq_ok_iff _ _ _ (invoiceFormat documented.toDocumented)
    db.invoices (fun row => decide (row.id = id.text)) found
  simp only [invoiceFormat, Invoice.columns, text_eq_iff] at fetched
  exact fetched

theorem fetchByKey_eq_ok_iff {key : String} {found : Option Invoice} :
    db.fetchByKey texts key = .ok found ↔
      db.findByIdempotencyKey key = found ∧ ∀ inv ∈ found, YearsFit inv.times :=
  @RowFormat.fetchOptional_eq_ok_iff _ _ _ (invoiceFormat documented.toDocumented)
    db.invoices (fun row => decide (row.idempotencyKey = some key)) found

theorem fetchCustomer_eq_ok_iff {id : CustomerId} {found : Option Customer} :
    db.fetchCustomer texts id = .ok found ↔
      db.getCustomer id = found ∧ ∀ customer ∈ found, YearsFit customer.times := by
  have fetched := @RowFormat.fetchOptional_eq_ok_iff _ _ _ (customerFormat documented)
    db.customers (fun row => decide (row.id = id.text)) found
  simp only [customerFormat, Customer.columns, text_eq_iff] at fetched
  exact fetched

theorem fetchSend_eq_ok_iff {id : InvoiceId} {key : String} {found : Option SendIdempotencyRecord} :
    db.fetchSend texts id key = .ok found ↔
      db.findSend id key = found ∧ ∀ record ∈ found, YearsFit record.times := by
  have fetched := @RowFormat.fetchOptional_eq_ok_iff _ _ _ (sendFormat documented)
    db.sendKeys (fun row => decide (row.invoiceId = id.text ∧ row.idempotencyKey = key)) found
  simp only [sendFormat, SendIdempotencyRecord.columns, text_eq_iff] at fetched
  exact fetched

/-- **What a command loads is read exactly when its years fit.** -/
theorem loads_iff {id : InvoiceId} : db.Loads texts id ↔ db.LoadsFit id := by
  constructor
  · rintro ⟨invoice, customer⟩
    obtain ⟨found, read⟩ := ok_of_isOk invoice
    obtain ⟨there, fits⟩ := (fetchInvoice_eq_ok_iff documented).mp read
    refine ⟨fun inv stored => fits inv (there.symm.trans stored), fun inv buyer stored buyerStored => ?_⟩
    rw [there.symm.trans stored] at read
    obtain ⟨found', read'⟩ := ok_of_isOk (customer inv read)
    obtain ⟨there', fits'⟩ := (fetchCustomer_eq_ok_iff documented).mp read'
    exact fits' buyer (there'.symm.trans buyerStored)
  · rintro ⟨invoice, customer⟩
    refine ⟨isOk_iff.mpr ⟨_, (fetchInvoice_eq_ok_iff documented).mpr ⟨rfl, invoice⟩⟩, ?_⟩
    intro inv read
    obtain ⟨stored, _⟩ := (fetchInvoice_eq_ok_iff documented).mp read
    exact isOk_iff.mpr ⟨_, (fetchCustomer_eq_ok_iff documented).mpr
      ⟨rfl, fun buyer buyerStored => customer inv buyer stored buyerStored⟩⟩

theorem loadsSend_iff {id : InvoiceId} {key : String} :
    db.LoadsSend texts id key ↔ db.SendFits id key := by
  constructor
  · rintro ⟨loads, record⟩
    obtain ⟨found, read⟩ := ok_of_isOk record
    obtain ⟨there, fits⟩ := (fetchSend_eq_ok_iff documented).mp read
    exact ⟨(loads_iff documented).mp loads, fun record stored => fits record (there.symm.trans stored)⟩
  · rintro ⟨loads, record⟩
    exact ⟨(loads_iff documented).mpr loads,
      isOk_iff.mpr ⟨_, (fetchSend_eq_ok_iff documented).mpr ⟨rfl, record⟩⟩⟩

end Fetched

end Invoicing
