/-
**What is issued, and what is charged.**

* **`issue_totals`** — every issue that succeeds, with exact operators, leaves the lines of the draft with
  their taxes, and the sums over them on the invoice.
* `OptedIn` — a draft of the United States seller to a state that is enabled and has a standard rate.
  **`charged_iff`** — its issue charges every taxable line, and asks for no review, exactly when zero
  sales reach a threshold, there is none, or no line is taxable.
-/

import Invoicing.Commands.Totals
import Invoicing.Runs.Commands
import Invoicing.Tax.Laws

namespace Invoicing

open Chrono

/-! ### Totals -/

/-- **Issue totals**: an issue that succeeds leaves the draft's lines with the tax each one's resolution
says, and amounts that are the sums over them, to the minor unit. -/
theorem issue_totals {ctx : CoreCtx} {input : IssueInvoiceInput} {db : Db}
    {output : IssueInvoiceOutput} (exact : ctx.arith.Exact)
    (done : (issueInvoice ctx input db).1 = .ok output) :
    ∃ inv customer, db.getInvoice input.invoiceId = some inv ∧
      db.getCustomer inv.customerId = some customer ∧
      (issueInvoice ctx input db).2.getInvoice input.invoiceId = some output.invoice ∧
      IssuedTotals ctx inv customer (db.linesOf input.invoiceId)
        ((issueInvoice ctx input db).2.linesOf input.invoiceId) output.invoice := by
  obtain ⟨ready, prepared, found, buyer, ⟨subtotal, taxTotal, total, review⟩, stored, lines⟩ :=
    issueInvoice_stored done
  obtain ⟨sums, sum, summed, lines', review', subtotal', taxTotal', added, total'⟩ :=
    prepareIssue_sums prepared
  obtain ⟨taxed, draft, computed, rows, flags, amounts⟩ := issueLines_ok summed
  obtain ⟨subtotals, taxTotals⟩ := amounts exact.add
  rw [Decimal.value_zero, zero_add] at subtotals taxTotals
  refine ⟨ready.loaded, ready.customer, found, buyer, stored, ?_⟩
  rw [lines, lines', rows, ← draft, List.nil_append]
  have product : ∀ one ∈ taxed, (ready.loaded.currency.round one.product).value =
      Decimal.halfEven ready.loaded.currency.scale (one.line.quantity.value * one.line.unitPrice.value) :=
    fun one member => ((computed one member).taxedFrom exact).2
  have subtotalValue : output.invoice.subtotal.value =
      (taxed.map fun one => (ready.loaded.currency.round one.product).value).sum := by
    rw [subtotal, subtotal']
    refine Currency.value_round_sum ?_ subtotals
    simp only [List.mem_map]
    rintro _ ⟨one, _, rfl⟩
    exact Currency.round_ofPlaces _ _
  have taxValue : output.invoice.taxTotal.value =
      (taxed.map fun one => one.resolved.amount.value).sum := by
    rw [taxTotal, taxTotal']
    refine Currency.value_round_sum ?_ taxTotals
    simp only [List.mem_map]
    rintro _ ⟨one, member, rfl⟩
    exact resolveTax_ofPlaces (computed one member).resolved
  have totalValue : output.invoice.total.value =
      output.invoice.subtotal.value + output.invoice.taxTotal.value := by
    have left : Decimal.OfPlaces ready.loaded.currency.scale ready.subtotal.value := by
      rw [subtotal']
      exact Currency.round_ofPlaces _ _
    have right : Decimal.OfPlaces ready.loaded.currency.scale ready.taxTotal.value := by
      rw [taxTotal']
      exact Currency.round_ofPlaces _ _
    rw [total, total', Currency.value_round_add exact.add left right added, subtotal, taxTotal]
  have lineTotal : ∀ one ∈ taxed, (one.row ready.loaded.currency).lineTotal.value =
      (ready.loaded.currency.round one.product).value + one.resolved.amount.value :=
    fun one member => Currency.value_round_add exact.add (Currency.round_ofPlaces _ _)
      (resolveTax_ofPlaces (computed one member).resolved) (computed one member).total
  refine ⟨?_, ?_, ?_, totalValue, ?_, ?_⟩
  · rw [List.forall₂_map_left_iff, List.forall₂_map_right_iff, List.forall₂_same]
    exact fun one member => ((computed one member).taxedFrom exact).1
  · rw [subtotalValue, List.map_map]
    exact congrArg List.sum (List.map_congr_left product)
  · rw [taxValue, List.map_map]
    rfl
  · rw [totalValue, subtotalValue, taxValue, ← List.sum_map_add, List.map_map]
    exact congrArg List.sum (List.map_congr_left fun one member => (lineTotal one member).symm)
  · rw [review, review', flags, Bool.false_or, List.any_eq_true]
    constructor
    · rintro ⟨one, member, flagged⟩
      exact ⟨one.line, List.mem_map_of_mem member, one.resolved, (computed one member).resolved, flagged⟩
    · rintro ⟨line, member, resolved, same, flagged⟩
      obtain ⟨one, there, rfl⟩ := List.mem_map.mp member
      refine ⟨one, there, ?_⟩
      have equal := Except.ok.inj ((computed one there).resolved.symm.trans same)
      rw [equal]
      exact flagged

/-- A draft of one line of 100.00 CAD. -/
def keptDraftDb : Db := (draftInvoice (sampleCtx (oneOClock firstOfMarch) 1) sampleDraft sampleDb).2

theorem issue_totals_sample :
    ((issueInvoice (sampleCtx (oneOClock firstOfMarch) 2) sampleIssue keptDraftDb).1.map
        fun output => output.invoice.state) = .ok .issued ∧
      ∃ output inv customer, keptDraftDb.getInvoice sampleIssue.invoiceId = some inv ∧
        keptDraftDb.getCustomer inv.customerId = some customer ∧
        (issueInvoice (sampleCtx (oneOClock firstOfMarch) 2) sampleIssue keptDraftDb).2.getInvoice
          sampleIssue.invoiceId = some output ∧
        IssuedTotals (sampleCtx (oneOClock firstOfMarch) 2) inv customer
          (keptDraftDb.linesOf sampleIssue.invoiceId)
          ((issueInvoice (sampleCtx (oneOClock firstOfMarch) 2) sampleIssue keptDraftDb).2.linesOf
            sampleIssue.invoiceId) output := by
  have state : ((issueInvoice (sampleCtx (oneOClock firstOfMarch) 2) sampleIssue keptDraftDb).1.map
      fun output => output.invoice.state) = .ok .issued := by decide +kernel
  obtain ⟨output, done, _⟩ := map_ok state
  exact ⟨state, output.invoice, issue_totals Arith.exact_isExact done⟩

/-! ### States the seller collects in -/

/-- A draft of the United States seller, for a buyer in another state that is enabled and has a standard
rate. -/
structure OptedIn (ctx : CoreCtx) (db : Db) (id : InvoiceId) (inv : Invoice) (customer : Customer)
    (threshold : NexusThreshold) : Prop where
  invoice : db.getInvoice id = some inv
  buyer : db.getCustomer inv.customerId = some customer
  seller : inv.sellerJurisdiction = .delawareUs
  home : AtHome .delawareUs customer.address
  outside : ¬ InRegion .delawareUs customer.address
  row : ∃ region ∈ customer.address.region, ctx.nexus.get region = some threshold
  enabled : threshold.enabled = true
  rates : ctx.taxTable.matching .delawareUs customer.address .standard ctx.now.dateNaive ≠ []

/-- The line is charged at the rates there are. -/
def ChargedAtRates (ctx : CoreCtx) (inv : Invoice) (customer : Customer) (line : InvoiceLine) : Prop :=
  let rows := ctx.taxTable.applied inv.sellerJurisdiction customer.address line.taxCategory
    ctx.now.dateNaive
  rows ≠ [] ∧ line.taxRateIds = rows.map (·.id) ∧
    ∃ base amount, ctx.arith.mul line.quantity line.unitPrice = some base ∧
      taxOf ctx.arith base rows = some amount ∧ line.taxAmount = inv.currency.round amount

/-- No threshold is set, or zero sales reach one. -/
def NexusThreshold.OpenAtZero (threshold : NexusThreshold) : Prop :=
  (threshold.revenue = none ∧ threshold.txnCount = none) ∨
    (∃ bound ∈ threshold.revenue, bound ≤ Decimal.zero) ∨ threshold.txnCount = some 0

section OptIn

variable {ctx : CoreCtx} {input : IssueInvoiceInput} {db : Db} {inv : Invoice} {customer : Customer}
  {threshold : NexusThreshold}

/-- The figures an issue gives are zero. -/
theorem OptedIn.confirmed_iff (opted : OptedIn ctx db input.invoiceId inv customer threshold) :
    NexusConfirmed ctx.nexus NexusFigures.default customer.address ↔ threshold.OpenAtZero := by
  obtain ⟨region, there, row⟩ := opted.row
  have met : NexusConfirmed ctx.nexus NexusFigures.default customer.address ↔
      threshold.Met NexusFigures.default := by
    unfold NexusConfirmed
    rw [show customer.address.region = some region from there]
    simp [row]
  rw [met]
  unfold NexusThreshold.Met NexusThreshold.OpenAtZero
  simp [opted.enabled, NexusFigures.default]

theorem OptedIn.applied_ne (opted : OptedIn ctx db input.invoiceId inv customer threshold)
    (category : TaxCategory) :
    ctx.taxTable.applied .delawareUs customer.address category ctx.now.dateNaive ≠ [] := by
  unfold TaxTable.applied
  split
  · rename_i reduced
    exact reduced.2
  · exact opted.rates

/-- What the issue computed for a taxable line. -/
theorem OptedIn.computed (opted : OptedIn ctx db input.invoiceId inv customer threshold)
    {one : TaxedLine} (computed : one.Computed ctx inv customer) (taxed : ¬ one.line.taxCategory.Untaxed) :
    (threshold.OpenAtZero →
        one.resolved.nexusReview = false ∧ ChargedAtRates ctx inv customer (one.row inv.currency)) ∧
      (¬ threshold.OpenAtZero → one.resolved.nexusReview = true) := by
  have resolved := computed.resolved
  unfold resolution at resolved
  rw [opted.seller] at resolved
  obtain ⟨charged, review⟩ := resolveTax_gate opted.home opted.outside taxed resolved
  constructor
  · intro reached
    obtain ⟨unflagged, ids, amounts⟩ := charged (opted.confirmed_iff.mpr reached)
    refine ⟨unflagged, ?_⟩
    unfold ChargedAtRates
    rw [opted.seller]
    exact ⟨opted.applied_ne _, ids, amounts⟩
  · intro unreached
    exact review (mt opted.confirmed_iff.mp unreached)

/-- **Opting in takes effect exactly when** zero sales reach a threshold, there is none, or no line is
taxable: every taxable line is charged at the rates there are, and no review is asked for. -/
theorem charged_iff {output : IssueInvoiceOutput}
    (opted : OptedIn ctx db input.invoiceId inv customer threshold)
    (done : (issueInvoice ctx input db).1 = .ok output) :
    ((∀ line ∈ (issueInvoice ctx input db).2.linesOf input.invoiceId, ¬ line.taxCategory.Untaxed →
          ChargedAtRates ctx inv customer line) ∧ output.invoice.nexusReview = false) ↔
      threshold.OpenAtZero ∨ ∀ line ∈ db.linesOf input.invoiceId, line.taxCategory.Untaxed := by
  obtain ⟨ready, prepared, found, buyer, ⟨_, _, _, review⟩, _, lines⟩ := issueInvoice_stored done
  obtain ⟨sums, _, summed, lines', review', _⟩ := prepareIssue_sums prepared
  obtain ⟨taxed, draft, computed, rows, flags, _⟩ := issueLines_ok summed
  have loaded : ready.loaded = inv := Option.some.inj (found.symm.trans opted.invoice)
  have who : ready.customer = customer := by
    rw [loaded] at buyer
    exact Option.some.inj (buyer.symm.trans opted.buyer)
  rw [loaded, who] at computed
  rw [loaded] at rows
  rw [lines, lines', rows, review, review', flags, ← draft, List.nil_append, Bool.false_or]
  constructor
  · rintro ⟨_, unflagged⟩
    by_cases reached : threshold.OpenAtZero
    · exact Or.inl reached
    · refine Or.inr fun line member => ?_
      obtain ⟨one, there, rfl⟩ := List.mem_map.mp member
      by_contra taxable
      have flagged := (opted.computed (computed one there) taxable).2 reached
      have clear := List.any_eq_false.mp unflagged one there
      exact clear flagged
  · intro takes
    have clear : ∀ one ∈ taxed, one.resolved.nexusReview = false := by
      intro one there
      by_cases untaxed : one.line.taxCategory.Untaxed
      · exact resolveTax_untaxed untaxed (computed one there).resolved
      · rcases takes with reached | none
        · exact ((opted.computed (computed one there) untaxed).1 reached).1
        · exact absurd (none one.line (List.mem_map_of_mem there)) untaxed
    refine ⟨fun line member taxable => ?_, List.any_eq_false.mpr fun one there => ?_⟩
    · obtain ⟨one, there, rfl⟩ := List.mem_map.mp member
      rcases takes with reached | none
      · exact ((opted.computed (computed one there) taxable).1 reached).2
      · exact absurd (none one.line (List.mem_map_of_mem there)) taxable
    · rw [clear one there]
      decide

end OptIn

theorem fits_californiaRate : Decimal.Fits 725 4 := by decide

theorem fits_californiaBound : Decimal.Fits 500000 0 := by decide

/-- A customer in California. -/
def californiaCustomer : Customer := { sampleCustomer with address := buyerIn "US" (some "CA") }

/-- 7.25 % in California, where the seller has opted in at 500000. -/
def californiaCtx (draw : ℕ) : CoreCtx :=
  { sampleCtx (oneOClock firstOfMarch) draw with
    taxTable := ⟨[⟨"us-ca-sales", .delawareUs, ⟨some "US", some "CA"⟩, .standard,
      ⟨725, 4, fits_californiaRate⟩, firstOfMarch, none⟩]⟩
    nexus := ⟨[("CA", ⟨true, some ⟨500000, 0, fits_californiaBound⟩, none⟩)]⟩ }

def californiaDraft : DraftInvoiceInput :=
  { sampleDraft with sellerJurisdiction := .delawareUs, currency := Currency.usd }

/-- A draft of one line of 100.00 USD for the customer in California. -/
def californiaDb : Db :=
  (draftInvoice (californiaCtx 1) californiaDraft { sampleDb with customers := [californiaCustomer] }).2

theorem california_optedIn :
    OptedIn (californiaCtx 2) californiaDb sampleIssue.invoiceId
      (draftRow (californiaCtx 1) californiaDraft ⟨10000, 2, fits_hundred⟩) californiaCustomer
      ⟨true, some ⟨500000, 0, fits_californiaBound⟩, none⟩ where
  invoice := by decide +kernel
  buyer := by decide +kernel
  seller := rfl
  home := by decide
  outside := by decide
  row := ⟨"CA", rfl, by rfl⟩
  enabled := rfl
  rates := by decide

/-- The seller has opted into California, and the sale is not taxed. -/
theorem california_uncharged :
    OptedIn (californiaCtx 2) californiaDb sampleIssue.invoiceId
        (draftRow (californiaCtx 1) californiaDraft ⟨10000, 2, fits_hundred⟩) californiaCustomer
        ⟨true, some ⟨500000, 0, fits_californiaBound⟩, none⟩ ∧
      ¬ ∀ output, (issueInvoice (californiaCtx 2) sampleIssue californiaDb).1 = .ok output →
        (∀ line ∈ (issueInvoice (californiaCtx 2) sampleIssue californiaDb).2.linesOf
            sampleIssue.invoiceId, ¬ line.taxCategory.Untaxed →
          ChargedAtRates (californiaCtx 2)
            (draftRow (californiaCtx 1) californiaDraft ⟨10000, 2, fits_hundred⟩) californiaCustomer
            line) ∧ output.invoice.nexusReview = false := by
  refine ⟨california_optedIn, fun charged => ?_⟩
  have flagged : ((issueInvoice (californiaCtx 2) sampleIssue californiaDb).1.map
      fun output => output.invoice.nexusReview) = .ok true := by decide +kernel
  obtain ⟨output, done, review⟩ := map_ok flagged
  rw [(charged output done).2] at review
  cases review

theorem charged_iff_california :
    ∃ output, (issueInvoice (californiaCtx 2) sampleIssue californiaDb).1 = .ok output ∧
      (((∀ line ∈ (issueInvoice (californiaCtx 2) sampleIssue californiaDb).2.linesOf
            sampleIssue.invoiceId, ¬ line.taxCategory.Untaxed →
          ChargedAtRates (californiaCtx 2)
            (draftRow (californiaCtx 1) californiaDraft ⟨10000, 2, fits_hundred⟩) californiaCustomer
            line) ∧ output.invoice.nexusReview = false) ↔
        NexusThreshold.OpenAtZero ⟨true, some ⟨500000, 0, fits_californiaBound⟩, none⟩ ∨
          ∀ line ∈ californiaDb.linesOf sampleIssue.invoiceId, line.taxCategory.Untaxed) := by
  have flagged : ((issueInvoice (californiaCtx 2) sampleIssue californiaDb).1.map
      fun output => output.invoice.nexusReview) = .ok true := by decide +kernel
  obtain ⟨output, done, _⟩ := map_ok flagged
  exact ⟨output, done, charged_iff california_optedIn done⟩

end Invoicing
