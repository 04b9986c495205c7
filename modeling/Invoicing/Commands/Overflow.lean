/-
**Where the operators overflow.**

* `DraftInRange`, `IssueInRange` — the products and sums of a draft and of an issue are in range, as
  conditions on the lines, the rates and the buyer, in rational numbers. `chargedRows` — the rows a line
  is charged at.
* With operators that round as decimals do, the lines of a draft (`draftLines_someWhen`), the tax of a line
  (`resolution_okWhen`), a turn of the loop (`issueLine_okWhen`) and **the first step of an issue**
  (`prepareIssue_okWhen`) go through exactly on these conditions, and abort otherwise.
-/

import Invoicing.Commands.Draft
import Invoicing.Commands.Totals
import Invoicing.Lib.Fitting

namespace Invoicing

open Decimal

/-! ### Conditions -/

/-- The exact amount of a line, before tax. -/
def DraftLineInput.product (line : DraftLineInput) : ℚ := line.quantity.value * line.unitPrice.value

def InvoiceLine.product (line : InvoiceLine) : ℚ := line.quantity.value * line.unitPrice.value

/-- Every amount of the draft and every sum of them, each rounded to minor units, is in range. -/
structure DraftInRange (input : DraftInvoiceInput) : Prop where
  products : ∀ line ∈ input.lines, InRange line.product
  subtotals : SumsInRange 0
    (input.lines.map fun line => halfEven input.currency.scale (fitted line.product))

/-- The taxes of a base at some rates. -/
def taxTerms (base : ℚ) (rows : List TaxRate) : List ℚ := rows.map fun row => fitted (base * row.rate.value)

/-- The tax of a base at every rate, and every sum of them, is in range. -/
structure TaxesInRange (base : ℚ) (rows : List TaxRate) : Prop where
  products : ∀ row ∈ rows, InRange (base * row.rate.value)
  sums : SumsInRange 0 (taxTerms base rows)

section Issue

variable (ctx : CoreCtx) (inv : Invoice) (customer : Customer)

/-- The rows a line is charged at when it is issued. -/
def chargedRows (line : InvoiceLine) : List TaxRate :=
  if treatment inv.sellerJurisdiction line.taxCategory
      (decide (NexusConfirmed ctx.nexus NexusFigures.default customer.address))
      (scopeOf inv.sellerJurisdiction customer.address) = .charged then
    ctx.taxTable.applied inv.sellerJurisdiction customer.address line.taxCategory ctx.now.dateNaive
  else []

/-- The rounded amount of a line, before tax. -/
def lineSubtotal (line : InvoiceLine) : ℚ := halfEven inv.currency.scale (fitted line.product)

/-- The rounded tax of a line. -/
def lineTax (line : InvoiceLine) : ℚ :=
  halfEven inv.currency.scale
    (runningSum 0 (taxTerms (fitted line.product) (chargedRows ctx inv customer line)))

/-- The amount of a line, its taxes and its total are in range. -/
structure LineInRange (line : InvoiceLine) : Prop where
  product : InRange line.product
  taxes : TaxesInRange (fitted line.product) (chargedRows ctx inv customer line)
  total : InRange (lineSubtotal inv line + lineTax ctx inv customer line)

/-- Every line of an issue, the sums over the lines and the total are in range. -/
structure IssueInRange (lines : List InvoiceLine) : Prop where
  each : ∀ line ∈ lines, LineInRange ctx inv customer line
  subtotals : SumsInRange 0 (lines.map (lineSubtotal inv))
  taxes : SumsInRange 0 (lines.map (lineTax ctx inv customer))
  total : InRange (halfEven inv.currency.scale (runningSum 0 (lines.map (lineSubtotal inv))) +
    halfEven inv.currency.scale (runningSum 0 (lines.map (lineTax ctx inv customer))))

end Issue

/-! ### Products, sums and taxes -/

theorem Currency.value_round (currency : Currency) (amount : Decimal) :
    (currency.round amount).value = halfEven currency.scale amount.value := value_roundDp _ _

theorem okWhen_orPanic {ε α : Type} {condition : Prop} {good : α → Prop} {result : Option α}
    (one : SomeWhen condition good result) :
    OkWhen (Stop.panic : Stop ε) condition good (orPanic result) := by
  rcases one with ⟨holds, a, rfl, fine⟩ | ⟨fails, rfl⟩
  · exact Or.inl ⟨holds, a, rfl, fine⟩
  · exact Or.inr ⟨fails, rfl⟩

section Rounds

variable {ctx : CoreCtx} (rounds : ctx.arith.Rounds)

include rounds

/-- The lines of a draft. -/
theorem draftLines_someWhen (input : DraftInvoiceInput) :
    SomeWhen (DraftInRange input) (fun _ => True) (draftLines ctx input.currency input.lines) := by
  have each : ∀ (done : List InvoiceLine × Decimal) (line : DraftLineInput),
      SomeWhen (InRange line.product ∧
          InRange (done.2.value + halfEven input.currency.scale (fitted line.product)))
        (fun next => next.2.value =
          fitted (done.2.value + halfEven input.currency.scale (fitted line.product)))
        (draftLine ctx input.currency done line) := by
    intro done line
    refine (rounds.someWhen_mul line.quantity line.unitPrice).bind fun product same => ?_
    have added := rounds.someWhen_add done.2 (input.currency.round product)
    rw [Currency.value_round, same] at added
    exact (added.bind fun subtotal valued => .some valued).imp (iff_of_eq (and_true _)) fun _ same => same
  refine (Arith.someWhen_foldlM each input.lines ([], Decimal.zero)).imp ?_ fun _ _ => trivial
  rw [Decimal.value_zero]
  exact ⟨fun ⟨products, subtotals⟩ => ⟨products, subtotals⟩,
    fun range => ⟨range.products, range.subtotals⟩⟩

/-- The tax of a base at some rows. -/
theorem taxOf_someWhen (base : Decimal) (rows : List TaxRate) :
    SomeWhen (TaxesInRange base.value rows)
      (fun amount => amount.value = runningSum 0 (taxTerms base.value rows))
      (taxOf ctx.arith base rows) := by
  have each : ∀ (amount : Decimal) (row : TaxRate),
      SomeWhen (InRange (base.value * row.rate.value) ∧
          InRange (amount.value + fitted (base.value * row.rate.value)))
        (fun next => next.value = fitted (amount.value + fitted (base.value * row.rate.value)))
        (do ctx.arith.add amount (← ctx.arith.mul base row.rate)) := by
    intro amount row
    refine (rounds.someWhen_mul base row.rate).bind fun tax same => ?_
    rw [← same]
    exact rounds.someWhen_add amount tax
  have all := Arith.someWhen_foldlM each rows Decimal.zero
  rw [Decimal.value_zero] at all
  exact all.imp ⟨fun ⟨products, sums⟩ => ⟨products, sums⟩, fun range => ⟨range.products, range.sums⟩⟩
    fun _ same => same

/-- What a way of treating a line gives. -/
theorem TaxTreatment.figures_okWhen (way : TaxTreatment) (currency : Currency) (scope : BuyerScope)
    (base : Decimal) (recorded applied : List TaxRate) :
    OkWhen Stop.panic (TaxesInRange base.value (if way = .charged then applied else []))
      (fun figures => figures.amount.value = halfEven currency.scale
        (runningSum 0 (taxTerms base.value (if way = .charged then applied else []))))
      (way.figures ctx.arith currency scope base recorded applied) := by
  have zero : ∀ figures : TaxFigures, figures.amount = currency.round Decimal.zero →
      OkWhen (Stop.panic : Stop TaxError) (TaxesInRange base.value [])
        (fun figures => figures.amount.value = halfEven currency.scale
          (runningSum 0 (taxTerms base.value []))) (.ok figures) := by
    intro figures none
    refine Or.inl ⟨⟨fun _ absent => absurd absent List.not_mem_nil, trivial⟩, figures, rfl, ?_⟩
    show figures.amount.value = _
    rw [none, Currency.value_round, Decimal.value_zero]
    rfl
  cases way with
  | charged =>
    refine ((okWhen_orPanic (taxOf_someWhen rounds base applied)).bind fun amount same =>
      OkWhen.ok ?_).imp (iff_of_eq (and_true _)) fun _ same => same
    rw [Currency.value_round, same]
    rfl
  | _ => exact zero _ rfl

/-- **The tax of a line**, for a buyer with a country. -/
theorem resolution_okWhen (inv : Invoice) {customer : Customer} (country : customer.address.country ≠ "")
    (line : InvoiceLine) :
    OkWhen Stop.panic
      (InRange line.product ∧ TaxesInRange (fitted line.product) (chargedRows ctx inv customer line))
      (fun resolved => resolved.amount.value = lineTax ctx inv customer line)
      (resolution ctx inv customer line) := by
  have parts := resolveTax_of_country country ctx.arith inv.sellerJurisdiction line inv.currency
    ctx.taxTable ctx.nexus NexusFigures.default ctx.now
  have product : OkWhen (Stop.panic : Stop TaxError) _ _ _ :=
    okWhen_orPanic (rounds.someWhen_mul line.quantity line.unitPrice)
  have figures := product.bind fun base same => by
    have way := TaxTreatment.figures_okWhen rounds (treatment inv.sellerJurisdiction line.taxCategory
      (decide (NexusConfirmed ctx.nexus NexusFigures.default customer.address))
      (scopeOf inv.sellerJurisdiction customer.address)) inv.currency
      (scopeOf inv.sellerJurisdiction customer.address) base
      (ctx.taxTable.matching inv.sellerJurisdiction customer.address line.taxCategory ctx.now.dateNaive)
      (ctx.taxTable.applied inv.sellerJurisdiction customer.address line.taxCategory ctx.now.dateNaive)
    rw [same] at way
    exact way
  rw [← parts] at figures
  exact figures.of_map

/-- **One turn of the loop of an issue.** -/
theorem issueLine_okWhen {inv : Invoice} {customer : Customer} (country : customer.address.country ≠ "")
    (sums : IssueSums) (line : InvoiceLine) :
    OkWhen Stop.panic
      (LineInRange ctx inv customer line ∧ InRange (sums.subtotal.value + lineSubtotal inv line) ∧
        InRange (sums.taxTotal.value + lineTax ctx inv customer line))
      (fun after => after.subtotal.value = fitted (sums.subtotal.value + lineSubtotal inv line) ∧
        after.taxTotal.value = fitted (sums.taxTotal.value + lineTax ctx inv customer line))
      (issueLine ctx inv customer sums line) := by
  have steps : OkWhen Stop.panic
      ((InRange line.product ∧ TaxesInRange (fitted line.product) (chargedRows ctx inv customer line)) ∧
        InRange line.product ∧ InRange (lineSubtotal inv line + lineTax ctx inv customer line) ∧
        InRange (sums.subtotal.value + lineSubtotal inv line) ∧
        InRange (sums.taxTotal.value + lineTax ctx inv customer line) ∧ True)
      (fun after => after.subtotal.value = fitted (sums.subtotal.value + lineSubtotal inv line) ∧
        after.taxTotal.value = fitted (sums.taxTotal.value + lineTax ctx inv customer line))
      (issueLine ctx inv customer sums line) := by
    have resolves := (resolution_okWhen rounds inv country line).mapError
      (Stop.map CoreError.tax)
    refine resolves.bind fun resolved tax => ?_
    refine (okWhen_orPanic (rounds.someWhen_mul line.quantity line.unitPrice)).bind fun product same => ?_
    have total := rounds.someWhen_add (inv.currency.round product) resolved.amount
    have subtotals := rounds.someWhen_add sums.subtotal (inv.currency.round product)
    have taxes := rounds.someWhen_add sums.taxTotal resolved.amount
    rw [Currency.value_round, same, tax] at total
    rw [Currency.value_round, same] at subtotals
    rw [tax] at taxes
    refine (okWhen_orPanic total).bind fun lineTotal _ => ?_
    refine (okWhen_orPanic subtotals).bind fun subtotal valued => ?_
    refine (okWhen_orPanic taxes).bind fun taxTotal valued' => ?_
    exact .ok ⟨valued, valued'⟩
  refine steps.imp ?_ fun _ same => same
  constructor
  · rintro ⟨⟨product, taxes⟩, _, total, subtotal, taxTotal, _⟩
    exact ⟨⟨product, taxes, total⟩, subtotal, taxTotal⟩
  · rintro ⟨range, subtotal, taxTotal⟩
    exact ⟨⟨range.product, range.taxes⟩, range.product, range.total, subtotal, taxTotal, trivial⟩

/-- **The loop of an issue.** -/
theorem issueLines_okWhen (inv : Invoice) {customer : Customer} (country : customer.address.country ≠ "")
    (lines : List InvoiceLine) (sums : IssueSums) :
    OkWhen Stop.panic
      ((∀ line ∈ lines, LineInRange ctx inv customer line) ∧
        SumsInRange sums.subtotal.value (lines.map (lineSubtotal inv)) ∧
        SumsInRange sums.taxTotal.value (lines.map (lineTax ctx inv customer)))
      (fun after => after.subtotal.value =
          runningSum sums.subtotal.value (lines.map (lineSubtotal inv)) ∧
        after.taxTotal.value = runningSum sums.taxTotal.value (lines.map (lineTax ctx inv customer)))
      (lines.foldlM (issueLine ctx inv customer) sums) := by
  induction lines generalizing sums with
  | nil =>
    exact Or.inl ⟨⟨fun _ absent => absurd absent List.not_mem_nil, trivial, trivial⟩, sums, rfl, rfl, rfl⟩
  | cons line rest ih =>
    rw [List.foldlM_cons, List.map_cons, List.map_cons]
    have later := fun (next : IssueSums)
        (same : next.subtotal.value = fitted (sums.subtotal.value + lineSubtotal inv line) ∧
          next.taxTotal.value = fitted (sums.taxTotal.value + lineTax ctx inv customer line)) => by
      have ends := ih next
      rw [same.1, same.2] at ends
      exact ends
    refine ((issueLine_okWhen rounds country sums line).bind later).imp ?_ fun _ same => same
    rw [List.forall_mem_cons, SumsInRange, SumsInRange]
    constructor
    · rintro ⟨⟨here, subtotal, tax⟩, others, subtotals, taxes⟩
      exact ⟨⟨here, others⟩, ⟨subtotal, subtotals⟩, tax, taxes⟩
    · rintro ⟨⟨here, others⟩, ⟨subtotal, subtotals⟩, tax, taxes⟩
      exact ⟨⟨here, subtotal, tax⟩, others, subtotals, taxes⟩

/-- **The first step of an issue** of a draft, for a buyer with a country. -/
theorem prepareIssue_okWhen {input : IssueInvoiceInput} {db : Db} {inv : Invoice} {customer : Customer}
    (found : db.getInvoice input.invoiceId = some inv) (draft : inv.state = .draft)
    (buyer : db.getCustomer inv.customerId = some customer) (country : customer.address.country ≠ "") :
    OkWhen Stop.panic (IssueInRange ctx inv customer (db.linesOf input.invoiceId)) (fun _ => True)
      (prepareIssue ctx input db) := by
  have loop := issueLines_okWhen rounds inv country (db.linesOf input.invoiceId)
    ⟨[], Decimal.zero, Decimal.zero, false⟩
  rw [Decimal.value_zero] at loop
  have total := fun (sums : IssueSums)
      (same : sums.subtotal.value =
          runningSum 0 ((db.linesOf input.invoiceId).map (lineSubtotal inv)) ∧
        sums.taxTotal.value =
          runningSum 0 ((db.linesOf input.invoiceId).map (lineTax ctx inv customer))) => by
    have added := rounds.someWhen_add (inv.currency.round sums.subtotal) (inv.currency.round sums.taxTotal)
    rw [Currency.value_round, Currency.value_round, same.1, same.2] at added
    exact added
  have loaded : invoiceOf db input.invoiceId = .ok inv := by
    unfold invoiceOf
    rw [found]
    rfl
  have accepted : orRejected (nextState inv.state .issue) = .ok .issued := by
    rw [draft]
    rfl
  have buyer' : customerOf db inv = .ok customer := by
    unfold customerOf
    rw [buyer]
    rfl
  refine .after loaded (.after accepted (.after buyer' ?_))
  refine (loop.bind fun sums same => (okWhen_orPanic (total sums same)).bind fun _ _ =>
    .ok trivial).imp ?_ fun _ same => same
  constructor
  · rintro ⟨⟨each, subtotals, taxes⟩, total, _⟩
    exact ⟨each, subtotals, taxes, total⟩
  · rintro ⟨each, subtotals, taxes, total⟩
    exact ⟨⟨each, subtotals, taxes⟩, total, trivial⟩

end Rounds

end Invoicing
