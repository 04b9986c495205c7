/-
**What an issue puts on the lines and the invoice.**

* `resolution` — the tax of a line as an issue asks for it. `TaxedLine` — a line with what the loop
  computed for it; **`issueLines_ok`**: the loop is such a list, line by line.
* `IssuedTotals` — amounts, flag and lines of an issued invoice, in terms of the draft's.
* **`issueInvoice_stored`** — what an issue that succeeded stored: the sums of the loop, and its lines.
-/

import Invoicing.Commands.Issue
import Invoicing.Tax.Specification

namespace Invoicing

open Chrono

/-! ### The loop -/

/-- The tax of a line of an invoice, when it is issued. -/
def resolution (ctx : CoreCtx) (inv : Invoice) (customer : Customer) (line : InvoiceLine) :
    Except (Stop TaxError) ResolvedTax :=
  resolveTax ctx.arith inv.sellerJurisdiction customer.address line inv.currency ctx.taxTable ctx.nexus
    NexusFigures.default ctx.now

/-- A line of the draft, its tax, its product and its total. -/
structure TaxedLine where
  line : InvoiceLine
  resolved : ResolvedTax
  product : Decimal
  total : Decimal

/-- The line was computed so. -/
structure TaxedLine.Computed (ctx : CoreCtx) (inv : Invoice) (customer : Customer)
    (taxed : TaxedLine) : Prop where
  resolved : resolution ctx inv customer taxed.line = .ok taxed.resolved
  product : ctx.arith.mul taxed.line.quantity taxed.line.unitPrice = some taxed.product
  total : ctx.arith.add (inv.currency.round taxed.product) taxed.resolved.amount = some taxed.total

/-- The row of a computed line. -/
def TaxedLine.row (currency : Currency) (taxed : TaxedLine) : InvoiceLine :=
  { taxed.line with
    taxRateIds := taxed.resolved.appliedRateIds
    taxAmount := taxed.resolved.amount
    lineTotal := currency.round taxed.total }

/-- **One turn of the loop.** -/
theorem issueLine_computed {ctx : CoreCtx} {inv : Invoice} {customer : Customer}
    {sums after : IssueSums} {line : InvoiceLine}
    (done : issueLine ctx inv customer sums line = .ok after) :
    ∃ taxed : TaxedLine, taxed.line = line ∧ taxed.Computed ctx inv customer ∧
      after.lines = sums.lines ++ [taxed.row inv.currency] ∧
      ctx.arith.add sums.subtotal (inv.currency.round taxed.product) = some after.subtotal ∧
      ctx.arith.add sums.taxTotal taxed.resolved.amount = some after.taxTotal ∧
      after.nexusReview = (sums.nexusReview || taxed.resolved.nexusReview) := by
  obtain ⟨resolved, taxes, rest⟩ := bind_ok done
  obtain ⟨product, multiplied, rest⟩ := bind_ok rest
  obtain ⟨total, added, rest⟩ := bind_ok rest
  obtain ⟨subtotal, subtotals, rest⟩ := bind_ok rest
  obtain ⟨taxTotal, taxTotals, rest⟩ := bind_ok rest
  cases rest
  refine ⟨⟨line, resolved, product, total⟩, rfl, ⟨?_, orPanic_ok multiplied, orPanic_ok added⟩, rfl,
    orPanic_ok subtotals, orPanic_ok taxTotals, rfl⟩
  show resolution ctx inv customer line = .ok resolved
  unfold resolution
  cases result : resolveTax ctx.arith inv.sellerJurisdiction customer.address line inv.currency
      ctx.taxTable ctx.nexus NexusFigures.default ctx.now with
  | error stop =>
    rw [result] at taxes
    cases taxes
  | ok resolved' =>
    rw [result] at taxes
    cases taxes
    rfl

/-- **The loop over the lines**: what it computed for each, and the flag. -/
theorem issueLines_ok {ctx : CoreCtx} {inv : Invoice} {customer : Customer} {lines : List InvoiceLine}
    {sums after : IssueSums} (done : lines.foldlM (issueLine ctx inv customer) sums = .ok after) :
    ∃ taxed : List TaxedLine, taxed.map TaxedLine.line = lines ∧
      (∀ one ∈ taxed, one.Computed ctx inv customer) ∧
      after.lines = sums.lines ++ taxed.map (TaxedLine.row inv.currency) ∧
      after.nexusReview = (sums.nexusReview || taxed.any (·.resolved.nexusReview)) ∧
      (ctx.arith.ExactAdd →
        after.subtotal.value = sums.subtotal.value +
            (taxed.map fun one => (inv.currency.round one.product).value).sum ∧
          after.taxTotal.value = sums.taxTotal.value +
            (taxed.map fun one => one.resolved.amount.value).sum) := by
  induction lines generalizing sums with
  | nil =>
    cases done
    refine ⟨[], rfl, ?_, ?_, ?_, fun _ => ⟨?_, ?_⟩⟩ <;> simp
  | cons line rest ih =>
    rw [List.foldlM_cons] at done
    obtain ⟨next, first, later⟩ := bind_ok done
    obtain ⟨one, rfl, computed, lines, subtotal, taxTotal, review⟩ := issueLine_computed first
    obtain ⟨taxed, rfl, others, lines', review', sums'⟩ := ih later
    refine ⟨one :: taxed, rfl, ?_, ?_, ?_, fun exact => ?_⟩
    · exact List.forall_mem_cons.mpr ⟨computed, others⟩
    · rw [lines', lines, List.append_assoc, List.map_cons]
      rfl
    · rw [review', review, List.any_cons, Bool.or_assoc]
    · obtain ⟨subtotal', taxTotal'⟩ := sums' exact
      rw [subtotal', taxTotal', exact _ _ _ subtotal, exact _ _ _ taxTotal, List.map_cons,
        List.sum_cons, List.map_cons, List.sum_cons]
      exact ⟨add_assoc .., add_assoc ..⟩

/-! ### Amounts and lines -/

/-- A line as an issue leaves it: its tax is what the resolution says, its total the rounded amount and
the tax, and nothing else changed. -/
def TaxedFrom (ctx : CoreCtx) (inv : Invoice) (customer : Customer) (line new : InvoiceLine) : Prop :=
  ∃ resolved lineTotal, resolution ctx inv customer line = .ok resolved ∧
    lineTotal.value = Decimal.halfEven inv.currency.scale (line.quantity.value * line.unitPrice.value) +
      resolved.amount.value ∧
    new = { line with
      taxRateIds := resolved.appliedRateIds
      taxAmount := resolved.amount
      lineTotal := lineTotal }

/-- Amounts, flag and lines of an issued invoice, from those of its draft. -/
structure IssuedTotals (ctx : CoreCtx) (inv : Invoice) (customer : Customer)
    (draft stored : List InvoiceLine) (issued : Invoice) : Prop where
  lines : List.Forall₂ (TaxedFrom ctx inv customer) draft stored
  subtotal : issued.subtotal.value = (draft.map fun line =>
    Decimal.halfEven inv.currency.scale (line.quantity.value * line.unitPrice.value)).sum
  taxTotal : issued.taxTotal.value = (stored.map fun line => line.taxAmount.value).sum
  total : issued.total.value = issued.subtotal.value + issued.taxTotal.value
  lineTotals : issued.total.value = (stored.map fun line => line.lineTotal.value).sum
  nexusReview : issued.nexusReview = true ↔ ∃ line ∈ draft, ∃ resolved,
    resolution ctx inv customer line = .ok resolved ∧ resolved.nexusReview = true

/-- The tax of a line is in minor units. -/
theorem resolveTax_ofPlaces {arith : Arith} {seller : Jurisdiction} {buyer : Address}
    {line : InvoiceLine} {currency : Currency} {table : TaxTable} {nexus : NexusConfig}
    {figures : NexusFigures} {time : DateTime} {resolved : ResolvedTax}
    (done : resolveTax arith seller buyer line currency table nexus figures time = .ok resolved) :
    Decimal.OfPlaces currency.scale resolved.amount.value := by
  have parts := resolveTax_figures arith seller buyer line currency table nexus figures time
  rw [done] at parts
  obtain ⟨scope, _, rest⟩ := bind_ok parts.symm
  obtain ⟨base, _, rest⟩ := bind_ok rest
  have rounded : ∀ {way : TaxTreatment} {recorded applied : List TaxRate} {result : TaxFigures},
      way.figures arith currency scope base recorded applied = .ok result →
        Decimal.OfPlaces currency.scale result.amount.value := by
    intro way recorded applied result given
    cases way with
    | charged =>
      obtain ⟨amount, _, given⟩ := bind_ok given
      cases given
      exact Currency.round_ofPlaces _ _
    | _ =>
      cases given
      exact Currency.round_ofPlaces _ _
  exact rounded rest

/-- Adding amounts in minor units needs no rounding. -/
theorem Currency.value_round_add {currency : Currency} {arith : Arith} (exact : arith.ExactAdd)
    {a b sum : Decimal} (left : Decimal.OfPlaces currency.scale a.value)
    (right : Decimal.OfPlaces currency.scale b.value) (added : arith.add a b = some sum) :
    (currency.round sum).value = a.value + b.value := by
  have value : sum.value = a.value + b.value := exact a b sum added
  rw [Currency.round, Decimal.value_roundDp_of_ofPlaces, value]
  rw [value]
  exact left.add right

/-- A computed line is as an issue leaves it. -/
theorem TaxedLine.Computed.taxedFrom {ctx : CoreCtx} {inv : Invoice} {customer : Customer}
    {taxed : TaxedLine} (computed : taxed.Computed ctx inv customer) (exact : ctx.arith.Exact) :
    TaxedFrom ctx inv customer taxed.line (taxed.row inv.currency) ∧
      (inv.currency.round taxed.product).value = Decimal.halfEven inv.currency.scale
        (taxed.line.quantity.value * taxed.line.unitPrice.value) := by
  have product : (inv.currency.round taxed.product).value = Decimal.halfEven inv.currency.scale
      (taxed.line.quantity.value * taxed.line.unitPrice.value) := by
    rw [Currency.round, Decimal.value_roundDp, exact.mul _ _ _ computed.product]
  refine ⟨⟨taxed.resolved, _, computed.resolved, ?_, rfl⟩, product⟩
  rw [Currency.value_round_add exact.add (Currency.round_ofPlaces _ _)
    (resolveTax_ofPlaces computed.resolved) computed.total, product]

/-- What the first step of an issue summed up. -/
theorem prepareIssue_sums {ctx : CoreCtx} {input : IssueInvoiceInput} {db : Db} {ready : IssueReady}
    (prepared : prepareIssue ctx input db = .ok ready) :
    ∃ sums total, (db.linesOf input.invoiceId).foldlM (issueLine ctx ready.loaded ready.customer)
        ⟨[], Decimal.zero, Decimal.zero, false⟩ = .ok sums ∧
      ready.lines = sums.lines ∧ ready.nexusReview = sums.nexusReview ∧
      ready.subtotal = ready.loaded.currency.round sums.subtotal ∧
      ready.taxTotal = ready.loaded.currency.round sums.taxTotal ∧
      ctx.arith.add ready.subtotal ready.taxTotal = some total ∧
      ready.total = ready.loaded.currency.round total := by
  obtain ⟨inv, _, rest⟩ := bind_ok prepared
  obtain ⟨toState, _, rest⟩ := bind_ok rest
  obtain ⟨customer, _, rest⟩ := bind_ok rest
  obtain ⟨sums, summed, rest⟩ := bind_ok rest
  obtain ⟨total, added, rest⟩ := bind_ok rest
  cases rest
  exact ⟨sums, total, summed, rfl, rfl, rfl, rfl, orPanic_ok added, rfl⟩

/-- **What an issue that succeeded stored**: the row it returns, and the lines it computed. -/
theorem issueInvoice_stored {ctx : CoreCtx} {input : IssueInvoiceInput} {db : Db}
    {output : IssueInvoiceOutput} (done : (issueInvoice ctx input db).1 = .ok output) :
    ∃ ready, prepareIssue ctx input db = .ok ready ∧
      db.getInvoice input.invoiceId = some ready.loaded ∧
      db.getCustomer ready.loaded.customerId = some ready.customer ∧
      (output.invoice.subtotal = ready.subtotal ∧ output.invoice.taxTotal = ready.taxTotal ∧
        output.invoice.total = ready.total ∧ output.invoice.nexusReview = ready.nexusReview) ∧
      (issueInvoice ctx input db).2.getInvoice input.invoiceId = some output.invoice ∧
      (issueInvoice ctx input db).2.linesOf input.invoiceId = ready.lines := by
  obtain ⟨_, _, _, _, _, stored⟩ := issueInvoice_ok done
  unfold issueInvoice at done stored ⊢
  rcases perform_ok done with ⟨answered, _⟩ | ⟨loaded, tx, written, committed⟩
  · obtain ⟨ready, _, finished⟩ := bind_ok answered
    obtain ⟨blobRef, html, pdf, shape⟩ := finishIssue_write finished
    cases shape
  · obtain ⟨ready, prepared, finished⟩ := bind_ok written
    obtain ⟨blobRef, html, pdf, shape⟩ := finishIssue_write finished
    cases shape
    obtain ⟨found, _, _, buyer, places⟩ := prepareIssue_ok prepared
    have target : ready.loaded.id = input.invoiceId := KeyedTable.key_of_find found
    refine ⟨ready, prepared, found, buyer, ⟨rfl, rfl, rfl, rfl⟩, stored, ?_⟩
    have owners : ready.lines.map InvoiceLine.invoiceId =
        (db.linesOf input.invoiceId).map InvoiceLine.invoiceId := by
      have seconds := congrArg (List.map fun place => place.2.1) places
      rwa [List.map_map, List.map_map] at seconds
    have positions : ready.lines.map InvoiceLine.position =
        (db.linesOf input.invoiceId).map InvoiceLine.position := by
      have thirds := congrArg (List.map fun place => place.2.2) places
      rwa [List.map_map, List.map_map] at thirds
    rw [(InvoiceTx.commit_ok committed).1, ← target]
    refine InvoiceTx.linesOf_written rfl ?_ ?_
    · intro line member
      have owner : line.invoiceId ∈ ready.lines.map InvoiceLine.invoiceId := List.mem_map_of_mem member
      rw [owners] at owner
      obtain ⟨old, there, same⟩ := List.mem_map.mp owner
      rw [← same]
      exact (Db.linesOf_owner old there).trans target.symm
    · have sorted : ((db.linesOf input.invoiceId).map InvoiceLine.position).Pairwise (· ≤ ·) :=
        List.pairwise_map.mpr (db.linesOf_sorted input.invoiceId)
      rw [← positions] at sorted
      exact List.pairwise_map.mp sorted

/-- Rounding a sum of numbers in minor units changes nothing. -/
theorem Currency.value_round_sum {currency : Currency} {amount : Decimal} {terms : List ℚ}
    (each : ∀ q ∈ terms, Decimal.OfPlaces currency.scale q) (sum : amount.value = terms.sum) :
    (currency.round amount).value = terms.sum := by
  rw [Currency.round, Decimal.value_roundDp_of_ofPlaces, sum]
  rw [sum]
  exact .sum each

end Invoicing
