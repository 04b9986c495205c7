/-
**Customers, invoices and credit notes.**

* `Jurisdiction`, `Address`, `Customer` — who sells and who buys.
* `InvoiceState`, `InvoiceLine`, `Invoice` — an invoice and its lines; an overdue invoice is not a
  state of its own.
* `InvoiceStateHistory` — one row for each transition. The rows double as the outbox: a row without
  `published_at` still has to be published.
* `CreditNote`, `CreditNoteStateHistory` — the same for credit notes.
-/

import Invoicing.Domain.Ids
import Invoicing.Domain.Money
import Invoicing.Lib.Chrono

namespace Invoicing

open Chrono (DateTime NaiveDate)

/-- Free-form metadata, sorted by key. -/
abbrev Metadata := List (String × String)

/-! ### Parties -/

/-- Seller jurisdiction. -/
inductive Jurisdiction
  | quebecCa
  | delawareUs
  | algiersDz
  deriving DecidableEq

/-- ISO 3166-2 code. -/
def Jurisdiction.asStr : Jurisdiction → String
  | .quebecCa => "CA-QC"
  | .delawareUs => "US-DE"
  | .algiersDz => "DZ-16"

/-- ISO 3166-1 country code. -/
def Jurisdiction.country : Jurisdiction → String
  | .quebecCa => "CA"
  | .delawareUs => "US"
  | .algiersDz => "DZ"

/-- A postal address; `region` is the subdivision code without the country. -/
structure Address where
  country : String
  region : Option String
  city : Option String
  postal : Option String
  line1 : Option String
  line2 : Option String
  deriving DecidableEq

/-- A customer. -/
structure Customer where
  id : CustomerId
  displayName : String
  email : Option String
  address : Address
  metadata : Metadata
  createdAt : DateTime
  updatedAt : DateTime
  deriving DecidableEq

/-! ### Invoices -/

/-- Lifecycle state of an invoice. -/
inductive InvoiceState
  | draft
  | issued
  | sent
  | viewed
  | partiallyPaid
  | paid
  | voided
  deriving DecidableEq

/-- Tax category of a line. -/
inductive TaxCategory
  | standard
  | reduced
  | zeroRated
  | exempt
  deriving DecidableEq

/-- A line of an invoice; `position` counts from 0. -/
structure InvoiceLine where
  id : LineId
  invoiceId : InvoiceId
  position : ℕ
  description : String
  quantity : Decimal
  unitPrice : Decimal
  taxRateIds : List String
  taxCategory : TaxCategory
  taxAmount : Decimal
  lineTotal : Decimal
  metadata : Metadata
  deriving DecidableEq

/-- An invoice. -/
structure Invoice where
  id : InvoiceId
  number : Option String
  customerId : CustomerId
  sellerJurisdiction : Jurisdiction
  currency : Currency
  state : InvoiceState
  issuedAt : Option DateTime
  dueAt : Option DateTime
  sentAt : Option DateTime
  viewedAt : Option DateTime
  paidAt : Option DateTime
  voidedAt : Option DateTime
  subtotal : Decimal
  taxTotal : Decimal
  total : Decimal
  amountPaid : Decimal
  scheduleId : Option ScheduleId
  templatePath : Option String
  pdfBlobRef : Option String
  idempotencyKey : Option String
  nexusReview : Bool
  metadata : Metadata
  createdAt : DateTime
  updatedAt : DateTime
  deriving DecidableEq

/-- Channel a transition arrived through. -/
inductive HistoryChannel
  | cli
  | api
  | ws
  | mcp
  | bus
  deriving DecidableEq

/-- A row of the invoice state history. -/
structure InvoiceStateHistory where
  id : HistoryId
  invoiceId : InvoiceId
  fromState : Option InvoiceState
  toState : InvoiceState
  event : String
  actor : Option String
  channel : HistoryChannel
  busEventId : Option String
  reason : Option String
  occurredAt : DateTime
  publishedAt : Option DateTime
  metadata : Metadata
  deriving DecidableEq

/-! ### Credit notes -/

/-- Lifecycle state of a credit note. -/
inductive CreditNoteState
  | draft
  | issued
  deriving DecidableEq

/-- A credit note against an invoice. -/
structure CreditNote where
  id : CreditNoteId
  number : Option String
  invoiceId : InvoiceId
  state : CreditNoteState
  amount : Decimal
  currency : Currency
  reason : Option String
  refundRef : Option String
  issuedAt : Option DateTime
  metadata : Metadata
  createdAt : DateTime
  deriving DecidableEq

/-- A row of the credit-note state history. -/
structure CreditNoteStateHistory where
  id : HistoryId
  creditNoteId : CreditNoteId
  fromState : Option CreditNoteState
  toState : CreditNoteState
  event : String
  actor : Option String
  channel : HistoryChannel
  busEventId : Option String
  occurredAt : DateTime
  publishedAt : Option DateTime
  metadata : Metadata
  deriving DecidableEq

end Invoicing
