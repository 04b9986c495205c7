/-
**Stored money and the minor unit.**

* `MoneyInUnits` — every amount of the invoices, lines and credit notes is in the minor unit of its
  currency. `InvoiceTx.InUnits` — so is what a transaction writes; **`MoneyInUnits.apply`**: such a
  transaction keeps it.
* `Edit.inUnits`, `issue_inUnits` — every command but a payment writes such amounts.
* **`money_in_units`** — in every run in which the payments that can be recorded are in minor units, all
  stored money is. **`half_cent_stored`** — a payment of half a cent is stored as it is.
-/

import Invoicing.Commands.Totals
import Invoicing.Runs.Lifecycle

namespace Invoicing

open KeyedTable

/-! ### Amounts -/

/-- The amounts of an invoice are in minor units. -/
structure Invoice.InUnits (inv : Invoice) : Prop where
  subtotal : Decimal.OfPlaces inv.currency.scale inv.subtotal.value
  taxTotal : Decimal.OfPlaces inv.currency.scale inv.taxTotal.value
  total : Decimal.OfPlaces inv.currency.scale inv.total.value
  amountPaid : Decimal.OfPlaces inv.currency.scale inv.amountPaid.value

/-- The amounts of a line are in the minor unit of a currency. -/
structure InvoiceLine.InUnits (currency : Currency) (line : InvoiceLine) : Prop where
  taxAmount : Decimal.OfPlaces currency.scale line.taxAmount.value
  lineTotal : Decimal.OfPlaces currency.scale line.lineTotal.value

/-- **Stored money is in minor units**: of the invoices, of their lines, and of the credit notes. -/
structure MoneyInUnits (db : Db) : Prop where
  invoices : EveryInvoice Invoice.InUnits db
  lines : ∀ line ∈ db.lines, ∃ inv, db.getInvoice line.invoiceId = some inv ∧
    line.InUnits inv.currency
  creditNotes : ∀ note ∈ db.creditNotes, Decimal.OfPlaces note.currency.scale note.amount.value

theorem moneyInUnits_emptyDb : MoneyInUnits emptyDb where
  invoices _ absent := by cases absent
  lines _ absent := by cases absent
  creditNotes _ absent := by cases absent

theorem Currency.zero_ofPlaces (currency : Currency) :
    Decimal.OfPlaces currency.scale Decimal.zero.value := by
  rw [Decimal.value_zero]
  exact .zero _

/-! ### Transactions -/

/-- What a transaction writes is in minor units; one that leaves the lines leaves the currency. -/
structure InvoiceTx.InUnits (tx : InvoiceTx) (db : Db) : Prop where
  invoice : tx.invoice.InUnits
  lines : ∀ new, tx.lines = some new → ∀ line ∈ new, line.InUnits tx.invoice.currency
  currency : tx.lines = none → ∀ inv, db.getInvoice tx.invoice.id = some inv →
    inv.currency = tx.invoice.currency

/-- **A transaction in minor units keeps the money in minor units.** -/
theorem MoneyInUnits.apply {tx : InvoiceTx} {db : Db} (holds : MoneyInUnits db) (units : tx.InUnits db)
    (owners : ∀ new, tx.lines = some new → ∀ line ∈ new, line.invoiceId = tx.invoice.id) :
    MoneyInUnits (tx.apply db) where
  invoices := by
    intro inv member
    rcases mem_upsert member with before | rfl | ⟨old, rfl⟩
    · exact holds.invoices inv before
    · exact units.invoice
    · exact ⟨units.invoice.subtotal, units.invoice.taxTotal, units.invoice.total, units.invoice.amountPaid⟩
  lines := by
    obtain ⟨createdAt, written⟩ := InvoiceTx.getInvoice_apply_self tx db
    -- a line that was stored before keeps its invoice, or has a row of the same currency
    have kept : ∀ line ∈ db.lines, (line.invoiceId = tx.invoice.id → tx.lines = none) →
        ∃ inv, (tx.apply db).getInvoice line.invoiceId = some inv ∧ line.InUnits inv.currency := by
      intro line member left
      obtain ⟨inv, found, amounts⟩ := holds.lines line member
      by_cases mine : line.invoiceId = tx.invoice.id
      · rw [mine] at found ⊢
        refine ⟨_, written, ?_⟩
        rw [units.currency (left mine) inv found] at amounts
        exact amounts
      · exact ⟨inv, (InvoiceTx.getInvoice_apply_other db mine).trans found, amounts⟩
    intro line member
    have member : line ∈ Db.linesAfter db.lines tx.invoice.id tx.lines := member
    cases replaced : tx.lines with
    | none =>
      rw [replaced] at member
      exact kept line member fun _ => replaced
    | some new =>
      rw [replaced] at member
      rcases List.mem_append.mp member with old | fresh
      · obtain ⟨old, other⟩ := List.mem_filter.mp old
        exact kept line old fun mine => absurd mine (of_decide_eq_true other)
      · rw [owners new replaced line fresh]
        exact ⟨_, written, units.lines new replaced line fresh⟩
  creditNotes := holds.creditNotes

/-! ### What the commands write -/

theorem draftLines_inUnits_aux {ctx : CoreCtx} {currency : Currency} {inputs : List DraftLineInput}
    {start result : List InvoiceLine × Decimal}
    (summed : inputs.foldlM (draftLine ctx currency) start = some result)
    (units : ∀ line ∈ start.1, line.InUnits currency) : ∀ line ∈ result.1, line.InUnits currency := by
  induction inputs generalizing start with
  | nil =>
    cases summed
    exact units
  | cons input rest ih =>
    rw [List.foldlM_cons] at summed
    obtain ⟨next, stepped, summed⟩ := Option.bind_eq_some_iff.mp summed
    obtain ⟨_, _, stepped⟩ := Option.bind_eq_some_iff.mp stepped
    obtain ⟨_, _, stepped⟩ := Option.bind_eq_some_iff.mp stepped
    cases stepped
    refine ih summed fun line member => ?_
    rcases List.mem_append.mp member with before | new
    · exact units line before
    · obtain rfl := List.mem_singleton.mp new
      exact ⟨currency.zero_ofPlaces, Currency.round_ofPlaces _ _⟩

/-- The lines of a draft are in minor units. -/
theorem draftLines_inUnits {ctx : CoreCtx} {currency : Currency} {inputs : List DraftLineInput}
    {lines : List InvoiceLine} {subtotal : Decimal}
    (summed : draftLines ctx currency inputs = some (lines, subtotal)) :
    ∀ line ∈ lines, line.InUnits currency :=
  draftLines_inUnits_aux summed fun _ absent => by cases absent

/-- A computed line is in minor units. -/
theorem TaxedLine.Computed.inUnits {ctx : CoreCtx} {inv : Invoice} {customer : Customer}
    {taxed : TaxedLine} (computed : taxed.Computed ctx inv customer) :
    (taxed.row inv.currency).InUnits inv.currency :=
  ⟨resolveTax_ofPlaces computed.resolved, Currency.round_ofPlaces _ _⟩

/-- An issue writes amounts in minor units. -/
theorem issueTx_inUnits {ctx : CoreCtx} {input : IssueInvoiceInput} {db db' : Db} {ready : IssueReady}
    {count : ℕ} {blobRef : Option String} (prepared : prepareIssue ctx input db = .ok ready)
    (loaded : ready.loaded.InUnits) : (issueTx ctx input ready count blobRef).InUnits db' := by
  obtain ⟨sums, total, summed, lines, _, subtotal, taxTotal, _, total'⟩ := prepareIssue_sums prepared
  obtain ⟨taxed, _, computed, rows, _⟩ := issueLines_ok summed
  refine ⟨⟨?_, ?_, ?_, loaded.amountPaid⟩, ?_, fun kept => by cases kept⟩
  · show Decimal.OfPlaces ready.loaded.currency.scale ready.subtotal.value
    rw [subtotal]
    exact Currency.round_ofPlaces _ _
  · show Decimal.OfPlaces ready.loaded.currency.scale ready.taxTotal.value
    rw [taxTotal]
    exact Currency.round_ofPlaces _ _
  · show Decimal.OfPlaces ready.loaded.currency.scale ready.total.value
    rw [total']
    exact Currency.round_ofPlaces _ _
  · intro new same line member
    cases same
    rw [lines, rows, List.nil_append] at member
    obtain ⟨one, there, rfl⟩ := List.mem_map.mp member
    exact (computed one there).inUnits

/-- States a payment is accepted in. -/
def InvoiceState.OpenToPayment (state : InvoiceState) : Prop := state ≠ .draft ∧ ¬ state.Terminal

instance (state : InvoiceState) : Decidable state.OpenToPayment :=
  inferInstanceAs (Decidable (_ ∧ _))

/-- A payment that can be recorded is in minor units. -/
def PaysUnits (db : Db) : Command → Prop
  | .invoice (.markPaid _ input) => ∀ inv, db.getInvoice input.invoiceId = some inv →
      inv.state.OpenToPayment → ¬ input.amount ≤ Decimal.zero →
        Decimal.OfPlaces inv.currency.scale input.amount.value
  | _ => True

/-- The sums an invoice command computes have no more places than their terms. -/
def Command.SumsOfPlaces : Command → Prop
  | .invoice request => request.ctx.arith.SumsOfPlaces
  | _ => True

/-- **Every edit but an issue writes amounts in minor units**, if its payment is in minor units. -/
theorem Edit.inUnits {request : Request} {loaded : Option Invoice} {tx : InvoiceTx} {db : Db}
    (edit : Edit request loaded tx) (notIssue : ∀ ctx input, request ≠ .issue ctx input)
    (stored : ∀ inv, loaded = some inv → db.getInvoice inv.id = some inv)
    (holds : ∀ inv, loaded = some inv → inv.InUnits) (sums : request.ctx.arith.SumsOfPlaces)
    (pays : PaysUnits db (.invoice request)) : tx.InUnits db := by
  -- a command that leaves the lines writes the row it loaded, with its currency
  have leaves : ∀ {inv : Invoice}, loaded = some inv → tx.invoice.id = inv.id →
      tx.invoice.currency = inv.currency →
      ∀ old, db.getInvoice tx.invoice.id = some old → old.currency = tx.invoice.currency := by
    intro inv here target currency old found
    rw [target, stored inv here] at found
    rw [currency, Option.some.inj found]
  cases edit with
  | draft summed =>
    refine ⟨⟨Currency.round_ofPlaces _ _, Currency.zero_ofPlaces _, Currency.round_ofPlaces _ _,
      Currency.zero_ofPlaces _⟩, ?_, fun kept => by cases kept⟩
    intro new written
    cases written
    exact draftLines_inUnits summed
  | issue => exact absurd rfl (notIssue _ _)
  | @markPaid ctx input inv amountPaid toState target positive summed accepted =>
    have open' : inv.state.OpenToPayment := by
      refine ⟨(nextState_pay accepted).1, fun terminal => ?_⟩
      rw [nextState_terminal terminal] at accepted
      cases accepted
    have found := stored inv rfl
    rw [target] at found
    have row := holds inv rfl
    have amount := pays inv found open' positive
    exact ⟨⟨row.subtotal, row.taxTotal, row.total, sums row.amountPaid amount summed⟩,
      fun _ written => (by cases written), fun _ => leaves rfl rfl rfl⟩
  | _ =>
    have row := holds _ rfl
    exact ⟨⟨row.subtotal, row.taxTotal, row.total, row.amountPaid⟩,
      fun _ written => (by cases written), fun _ => leaves rfl rfl rfl⟩

/-! ### Runs -/

/-- What an issue does to the tables: nothing, or its transaction. -/
theorem issueInvoice_cases (ctx : CoreCtx) (input : IssueInvoiceInput) (db : Db) :
    (issueInvoice ctx input db).2 = db ∨ ∃ ready count blobRef,
      prepareIssue ctx input db = .ok ready ∧
        (issueTx ctx input ready count blobRef).commit db = .ok (issueInvoice ctx input db).2 := by
  cases result : (issueInvoice ctx input db).1 with
  | error stop =>
    unfold issueInvoice at result ⊢
    exact Or.inl (perform_error result)
  | ok output =>
    unfold issueInvoice at result ⊢
    rcases perform_ok result with ⟨_, same⟩ | ⟨loaded, tx, written, committed⟩
    · exact Or.inl same
    · obtain ⟨ready, prepared, finished⟩ := bind_ok written
      obtain ⟨blobRef, html, pdf, shape⟩ := finishIssue_write finished
      cases shape
      exact Or.inr ⟨ready, _, blobRef, prepared, committed⟩

/-- A credit-note command writes an amount in minor units. -/
theorem MoneyInUnits.credit {α : Type} {output : CreditNote → α} {prepared : CoreResult CreditTx}
    {db : Db} (holds : MoneyInUnits db)
    (units : ∀ tx, prepared = .ok tx → Decimal.OfPlaces tx.note.currency.scale tx.note.amount.value) :
    MoneyInUnits (performCredit output prepared db).2 := by
  rcases performCredit_cases output prepared db with ⟨same, _⟩ | ⟨tx, done, same⟩
  · rw [same]
    exact holds
  · rw [same]
    refine ⟨holds.invoices, holds.lines, fun note member => ?_⟩
    rcases mem_upsert member with before | rfl | ⟨old, rfl⟩
    · exact holds.creditNotes note before
    · exact units tx done
    · exact units tx done

/-- **One command keeps the money in minor units.** -/
theorem Command.moneyInUnits {command : Command} {db : Db} (holds : MoneyInUnits db)
    (sums : command.SumsOfPlaces) (pays : PaysUnits db command) : MoneyInUnits (command.execute db).2 := by
  cases command with
  | createCreditNote ctx input =>
    refine holds.credit fun tx done => ?_
    obtain ⟨inv, _, rfl⟩ := prepareCreateCreditNote_ok done
    exact Currency.round_ofPlaces _ _
  | issueCreditNote ctx input =>
    refine holds.credit fun tx done => ?_
    obtain ⟨note, found, _, rfl⟩ := prepareIssueCreditNote_ok done
    exact holds.creditNotes note (mem_of_find found)
  | elsewhere write => exact ⟨holds.invoices, holds.lines, holds.creditNotes⟩
  | invoice request =>
    by_cases issues : ∃ ctx input, request = .issue ctx input
    · obtain ⟨ctx, input, rfl⟩ := issues
      show MoneyInUnits (issueInvoice ctx input db).2
      rcases issueInvoice_cases ctx input db with same | ⟨ready, count, blobRef, prepared, committed⟩
      · rw [same]
        exact holds
      · obtain ⟨checked, found⟩ := prepareIssue_checked prepared
        have loaded := holds.invoices ready.loaded (mem_of_find found)
        rw [(InvoiceTx.commit_ok committed).1]
        refine holds.apply (issueTx_inUnits prepared loaded) ?_
        intro new same
        cases same
        exact checked.owners
    · show MoneyInUnits (request.execute db).2
      cases request.executed db with
      | failed stop same noKey =>
        rw [same]
        exact holds
      | answered reply notIssue same =>
        rw [same]
        exact holds
      | committed loaded tx reply edit stored counted same =>
        rw [same]
        unfold commitOutcome
        cases committed : tx.commit db with
        | error e => exact holds
        | ok db' =>
          rw [(InvoiceTx.commit_ok committed).1]
          have row : ∀ inv, loaded = some inv → inv.InUnits := fun inv same =>
            holds.invoices inv (mem_of_find (stored inv same))
          have notIssue : ∀ ctx input, request ≠ .issue ctx input := fun ctx input same =>
            issues ⟨ctx, input, same⟩
          exact holds.apply (edit.inUnits notIssue stored row sums pays) edit.lines_owner

theorem runCommands_moneyInUnits {commands : List Command} {db : Db} (holds : MoneyInUnits db)
    (sums : ∀ command ∈ commands, command.SumsOfPlaces) (pays : AllCommands PaysUnits db commands) :
    MoneyInUnits (runCommands db commands) := by
  induction commands generalizing db with
  | nil => exact holds
  | cons command rest ih =>
    obtain ⟨sumsHere, sumsLater⟩ := List.forall_mem_cons.mp sums
    exact ih (Command.moneyInUnits holds sumsHere pays.1) sumsLater pays.2

/-- **Stored money is in minor units where payments are**: in every run from empty tables in which every
payment that can be recorded is in the minor unit of its invoice. -/
theorem money_in_units {commands : List Command} (sums : ∀ command ∈ commands, command.SumsOfPlaces)
    (pays : AllCommands PaysUnits emptyDb commands) : MoneyInUnits (runCommands emptyDb commands) :=
  runCommands_moneyInUnits moneyInUnits_emptyDb sums pays

theorem fits_halfCent : Decimal.Fits 5 3 := by decide

/-- A customer, an issued invoice of 100.00 CAD, and a payment. -/
def paidInCad (cents : ℤ) (places : ℕ) (fits : Decimal.Fits cents places) : List Command :=
  [.elsewhere fun _ => sampleDb,
    .invoice (.draft (sampleCtx (oneOClock firstOfMarch) 1) sampleDraft),
    .invoice (.issue (sampleCtx (oneOClock firstOfMarch) 2) sampleIssue),
    .invoice (.markPaid (sampleCtx (oneOClock firstOfMarch) 3)
      ⟨⟨1⟩, ⟨cents, places, fits⟩, none, none, none, .cli "operator", .cli⟩)]

/-- A payment of half a cent is stored as it is. -/
theorem half_cent_stored :
    ¬ ∀ commands : List Command, MoneyInUnits (runCommands emptyDb commands) := by
  intro units
  obtain ⟨inv, member, currency, paid⟩ : ∃ inv ∈ (runCommands emptyDb (paidInCad 5 3 fits_halfCent)).invoices,
      inv.currency = Currency.cad ∧ inv.amountPaid = ⟨5, 3, fits_halfCent⟩ := by decide +kernel
  obtain ⟨n, same⟩ := ((units (paidInCad 5 3 fits_halfCent)).invoices inv member).amountPaid
  rw [currency, paid] at same
  have scale : Currency.cad.scale = 2 := by decide
  rw [scale] at same
  have half : (1 : ℚ) = 2 * n := by
    have value : (5 : ℚ) / 10 ^ 3 = n / 10 ^ 2 := same
    linarith
  have odd : (1 : ℤ) = 2 * n := by exact_mod_cast half
  omega

theorem money_in_units_of_forty :
    (∃ inv ∈ (runCommands emptyDb (paidInCad 4000 2 fits_forty)).invoices,
        inv.amountPaid = ⟨4000, 2, fits_forty⟩) ∧
      MoneyInUnits (runCommands emptyDb (paidInCad 4000 2 fits_forty)) := by
  have sums : Arith.exact.SumsOfPlaces := Arith.exact_exactAdd.sumsOfPlaces
  refine ⟨by decide +kernel, money_in_units ?_ ⟨trivial, trivial, trivial, fun inv _ _ _ => ?_, trivial⟩⟩
  · simp only [paidInCad, List.forall_mem_cons]
    exact ⟨trivial, sums, sums, sums, fun _ absent => by cases absent⟩
  · have whole : (⟨4000, 2, fits_forty⟩ : Decimal).value = ((40 : ℤ) : ℚ) := by
      norm_num [Decimal.value]
    rw [whole]
    exact .intCast _ 40

end Invoicing
