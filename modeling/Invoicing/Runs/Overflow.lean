/-
**Commands that abort.**

* `draftInvoice_no_panic`, `issueInvoice_no_panic`, `markPaid_no_panic` — with operators that round as
  decimals do, a command goes through without aborting exactly where the numbers it computes are in range;
  **`no_overflow_iff`** is the three of them, over the stored tables: a row that is not read fails a command
  before it computes.
* **`huge_line_aborts`** — a valid draft that aborts.
-/

import Invoicing.Commands.Overflow
import Invoicing.Runs.Commands
import Invoicing.Store.PlainTexts

namespace Invoicing

open Decimal

/-! ### Steps that do not abort -/

theorem perform_panic {α : Type} {prepared : CoreResult (Prepared α)} {db : Db} :
    (perform prepared db).1 = .error .panic ↔ prepared = .error .panic := by
  cases prepared with
  | error stop =>
    show Except.error stop = _ ↔ _
    constructor
    · rintro ⟨⟩
      rfl
    · rintro ⟨⟩
      rfl
  | ok done =>
    refine iff_of_false ?_ (by simp)
    cases done with
    | answer output => exact fun same => by cases same
    | write loaded tx output =>
      simp only [perform, Prepared.finish]
      cases tx.commit db with
      | error e => exact fun same => by cases same
      | ok db' => exact fun same => by cases same

theorem orNotFound_ne_panic {α : Type} {found : Option α} {what : String} :
    (orNotFound found what : CoreResult α) ≠ .error .panic := by
  cases found with
  | none => exact fun same => by cases same
  | some a => exact fun same => by cases same

theorem orRejected_ne_panic {α : Type} {verdict : Except TransitionError α} :
    (orRejected verdict : CoreResult α) ≠ .error .panic := by
  cases verdict with
  | error e => exact fun same => by cases same
  | ok a => exact fun same => by cases same

/-- Numbering, rendering and storing do not abort. -/
theorem finishIssue_no_panic (ctx : CoreCtx) (input : IssueInvoiceInput) (ready : IssueReady) (count : ℕ) :
    finishIssue ctx input ready count ≠ .error .panic := by
  intro aborted
  rcases bind_error aborted with rendering | ⟨⟨html, pdf⟩, _, rest⟩
  · rcases bind_error rendering with html | ⟨html, _, rest⟩
    · cases result : ctx.renderHtml (issuedRow ctx ready count).templatePath (issuedRow ctx ready count)
          ready.customer ready.lines with
      | error e =>
        rw [result] at html
        cases html
      | ok text =>
        rw [result] at html
        cases html
    · rcases bind_error rest with pdf | ⟨pdf, _, rest⟩
      · cases result : ctx.renderPdf html with
        | error e =>
          rw [result] at pdf
          cases pdf
        | ok bytes =>
          rw [result] at pdf
          cases pdf
      · cases rest
  · rcases bind_error rest with storing | ⟨blobRef, _, rest⟩
    · unfold storePdf at storing
      split at storing
      · cases storing
      · split at storing
        · cases storing
        · cases storing
    · cases rest

/-! ### The commands -/

/-- **A draft aborts** exactly where it is made, and a number is out of range. -/
theorem draftInvoice_no_panic {ctx : CoreCtx} (rounds : ctx.arith.Rounds) {input : DraftInvoiceInput}
    (valid : input.validate = .ok ()) (db : Db) :
    (draftInvoice ctx input db).1 ≠ .error .panic ↔
      (input.idempotencyKey.bind db.findByIdempotencyKey = none → DraftInRange input) := by
  unfold draftInvoice
  rw [ne_eq, perform_panic]
  cases found : input.idempotencyKey.bind db.findByIdempotencyKey with
  | some existing =>
    rw [prepareDraft_of_found valid found]
    exact iff_of_true (fun same => by cases same) (fun absent => by cases absent)
  | none =>
    have made : OkWhen Stop.panic (DraftInRange input ∧ True) (fun _ => True)
        (prepareDraft ctx input db) := by
      refine .after valid ?_
      rw [found]
      exact (okWhen_orPanic (draftLines_someWhen rounds input)).bind fun _ _ => .ok trivial
    rw [← ne_eq, made.ne_error, and_true]
    exact ⟨fun range _ => range, fun range => range rfl⟩

/-- An issue that fails before its taxes, or on an empty country, does not abort. -/
theorem prepareIssue_no_panic {ctx : CoreCtx} (rounds : ctx.arith.Rounds) {input : IssueInvoiceInput}
    {db : Db} (early : ¬ ∃ inv customer, db.getInvoice input.invoiceId = some inv ∧ inv.state = .draft ∧
      db.getCustomer inv.customerId = some customer ∧ customer.address.country ≠ "") :
    prepareIssue ctx input db ≠ .error .panic := by
  intro aborted
  rcases bind_error aborted with loading | ⟨inv, loaded, rest⟩
  · exact orNotFound_ne_panic loading
  rcases bind_error rest with rejecting | ⟨toState, accepted, rest⟩
  · exact orRejected_ne_panic rejecting
  rcases bind_error rest with missing | ⟨customer, buyer, rest⟩
  · exact orNotFound_ne_panic missing
  have country : customer.address.country = "" := by
    by_contra country
    exact early ⟨inv, customer, orNotFound_ok loaded, (nextState_issue (orRejected_ok accepted)).1,
      orNotFound_ok buyer, country⟩
  cases lines : db.linesOf input.invoiceId with
  | nil =>
    rw [lines] at rest
    have added := rounds.someWhen_add (inv.currency.round Decimal.zero) (inv.currency.round Decimal.zero)
    rw [Currency.value_round_zero, add_zero] at added
    have total : OkWhen (Stop.panic : Stop CoreError) _ _ _ := okWhen_orPanic added
    rcases bind_error rest with looping | ⟨sums, same, rest⟩
    · cases looping
    · cases same
      rcases bind_error rest with adding | ⟨_, _, rest⟩
      · exact total.ne_error.mpr (by decide +kernel) adding
      · cases rest
  | cons line others =>
    rw [lines] at rest
    have failed : issueLine ctx inv customer ⟨[], Decimal.zero, Decimal.zero, false⟩ line =
        .error (.error (.tax (.invalidBuyerCountry ""))) := by
      unfold issueLine
      rw [resolveTax_of_no_country country]
      rfl
    rw [List.foldlM_cons, failed] at rest
    cases rest

/-- **An issue aborts** exactly where it resolves taxes, and a number is out of range. -/
theorem issueInvoice_no_panic {ctx : CoreCtx} (rounds : ctx.arith.Rounds) (input : IssueInvoiceInput)
    (db : Db) :
    (issueInvoice ctx input db).1 ≠ .error .panic ↔
      ∀ inv customer, db.getInvoice input.invoiceId = some inv → inv.state = .draft →
        db.getCustomer inv.customerId = some customer → customer.address.country ≠ "" →
          IssueInRange ctx inv customer (db.linesOf input.invoiceId) := by
  have first : (issueInvoice ctx input db).1 = .error .panic ↔
      prepareIssue ctx input db = .error .panic := by
    unfold issueInvoice
    rw [perform_panic]
    constructor
    · intro aborted
      rcases bind_error aborted with early | ⟨ready, _, late⟩
      · exact early
      · exact absurd late (finishIssue_no_panic ctx input ready _)
    · intro aborted
      rw [aborted]
      rfl
  rw [ne_eq, first]
  by_cases reached : ∃ inv customer, db.getInvoice input.invoiceId = some inv ∧ inv.state = .draft ∧
      db.getCustomer inv.customerId = some customer ∧ customer.address.country ≠ ""
  · obtain ⟨inv, customer, found, draft, buyer, country⟩ := reached
    rw [← ne_eq, (prepareIssue_okWhen rounds found draft buyer country).ne_error]
    constructor
    · intro range inv' customer' found' _ buyer' _
      obtain rfl : inv = inv' := Option.some.inj (found.symm.trans found')
      obtain rfl : customer = customer' := Option.some.inj (buyer.symm.trans buyer')
      exact range
    · exact fun range => range inv customer found draft buyer country
  · refine iff_of_true (prepareIssue_no_panic rounds reached) ?_
    intro inv customer found draft buyer country
    exact absurd ⟨inv, customer, found, draft, buyer, country⟩ reached

/-- **A payment aborts** exactly where its invoice exists, and the sum paid is out of range. -/
theorem markPaid_no_panic {ctx : CoreCtx} (rounds : ctx.arith.Rounds) {input : MarkPaidInput}
    (valid : input.validate = .ok ()) (db : Db) :
    (markPaid ctx input db).1 ≠ .error .panic ↔
      ∀ inv, db.getInvoice input.invoiceId = some inv →
        InRange (inv.amountPaid.value + input.amount.value) := by
  unfold markPaid
  rw [ne_eq, perform_panic]
  cases found : db.getInvoice input.invoiceId with
  | none =>
    refine iff_of_true (fun aborted => ?_) (fun inv absent => by cases absent)
    rcases bind_error aborted with validating | ⟨_, _, rest⟩
    · rw [valid] at validating
      cases validating
    · unfold invoiceOf at rest
      rw [found] at rest
      cases rest
  | some inv =>
    have loaded : invoiceOf db input.invoiceId = .ok inv := by
      unfold invoiceOf
      rw [found]
      rfl
    rcases rounds.someWhen_add inv.amountPaid input.amount with ⟨range, sum, added, _⟩ | ⟨out, overflow⟩
    · refine iff_of_true (fun aborted => ?_) (fun inv' same => by cases same; exact range)
      rcases bind_error aborted with validating | ⟨_, _, rest⟩
      · rw [valid] at validating
        cases validating
      · rw [loaded] at rest
        have rest : (orPanic (ctx.arith.add inv.amountPaid input.amount) >>= _) = _ := rest
        rw [added] at rest
        rcases bind_error rest with adding | ⟨_, same, rest⟩
        · cases adding
        · cases same
          rcases bind_error rest with rejecting | ⟨_, _, rest⟩
          · exact orRejected_ne_panic rejecting
          · cases rest
    · refine iff_of_false (fun other => other ?_) (fun all => out (all inv rfl))
      unfold prepareMarkPaid
      rw [valid, loaded]
      show (orPanic (ctx.arith.add inv.amountPaid input.amount) >>= _) = _
      rw [overflow]
      rfl

/-- **Where the operators overflow**: a draft, an issue and a payment go through without aborting exactly
where every product and every sum they need is in range. An issue and a payment compute once the rows they
load are read. -/
theorem no_overflow_iff {ctx : CoreCtx} (rounds : ctx.arith.Rounds) :
    (∀ input db, DraftInvoiceInput.validate input = .ok () →
      ((draftInvoice ctx input db).1 ≠ .error .panic ↔
        (input.idempotencyKey.bind db.findByIdempotencyKey = none → DraftInRange input))) ∧
    ∀ texts : RowTexts, texts.Documented →
      (∀ input db, (db.Loads texts input.invoiceId → (issueInvoice ctx input db).1 ≠ .error .panic) ↔
        ∀ inv customer, db.getInvoice input.invoiceId = some inv → YearsFit inv.times →
          inv.state = .draft → db.getCustomer inv.customerId = some customer → YearsFit customer.times →
            customer.address.country ≠ "" →
              IssueInRange ctx inv customer (db.linesOf input.invoiceId)) ∧
      ∀ input db, MarkPaidInput.validate input = .ok () →
        (((db.fetchInvoice texts input.invoiceId).isOk → (markPaid ctx input db).1 ≠ .error .panic) ↔
          ∀ inv, db.getInvoice input.invoiceId = some inv → YearsFit inv.times →
            InRange (inv.amountPaid.value + input.amount.value)) := by
  refine ⟨fun _ db valid => draftInvoice_no_panic rounds valid db, fun texts documented => ⟨?_, ?_⟩⟩
  · intro input db
    rw [loads_iff documented, issueInvoice_no_panic rounds]
    constructor
    · intro goes inv customer found fits draft buyer buyerFits country
      refine goes ⟨?_, ?_⟩ inv customer found draft buyer country
      · intro inv' found'
        obtain rfl : inv = inv' := Option.some.inj (found.symm.trans found')
        exact fits
      · intro inv' customer' found' buyer'
        obtain rfl : inv = inv' := Option.some.inj (found.symm.trans found')
        obtain rfl : customer = customer' := Option.some.inj (buyer.symm.trans buyer')
        exact buyerFits
    · intro range fits inv customer found draft buyer country
      exact range inv customer found (fits.invoice inv found) draft buyer
        (fits.customer inv customer found buyer) country
  · intro input db valid
    rw [markPaid_no_panic rounds valid, isOk_iff]
    constructor
    · intro goes inv found fits
      refine goes ⟨_, (fetchInvoice_eq_ok_iff documented).mpr ⟨found, ?_⟩⟩ inv found
      rintro _ ⟨⟩
      exact fits
    · rintro range ⟨found, read⟩ inv stored
      obtain ⟨rfl, fits⟩ := (fetchInvoice_eq_ok_iff documented).mp read
      exact range inv stored (fits inv stored)

theorem fits_hugeFactor : Decimal.Fits (2 ^ 95) 0 := by decide

/-- One line of 2^95 pieces at 2^95 each. -/
def hugeDraft : DraftInvoiceInput :=
  { sampleDraft with
    lines := [⟨"Work", ⟨2 ^ 95, 0, fits_hugeFactor⟩, ⟨2 ^ 95, 0, fits_hugeFactor⟩, .standard⟩] }

theorem valid_hugeDraft : hugeDraft.validate = .ok () := by decide +kernel

theorem hugeDraft_outOfRange : ¬ DraftInRange hugeDraft := by
  intro range
  have product := range.products _ (List.mem_singleton_self _)
  exact absurd product (by decide +kernel)

/-- The operators round as decimals do. -/
def roundingCtx : CoreCtx := { sampleCtx (oneOClock firstOfMarch) 1 with arith := Arith.rounded }

/-- A valid draft aborts: its one line is worth 2^190. -/
theorem huge_line_aborts :
    ¬ ∀ ctx : CoreCtx, ctx.arith.Rounds → ∀ input db, DraftInvoiceInput.validate input = .ok () →
      (draftInvoice ctx input db).1 ≠ .error .panic := by
  intro never
  have goes := never roundingCtx Arith.rounded_rounds hugeDraft sampleDb valid_hugeDraft
  exact hugeDraft_outOfRange
    ((draftInvoice_no_panic Arith.rounded_rounds valid_hugeDraft sampleDb).mp goes rfl)

theorem no_overflow_iff_samples :
    (draftInvoice roundingCtx sampleDraft sampleDb).1 ≠ .error .panic ∧
      (draftInvoice roundingCtx hugeDraft sampleDb).1 = .error .panic ∧
      (markPaid roundingCtx (samplePayment 4000 fits_forty) issuedDb).1 ≠ .error .panic := by
  have rounding : roundingCtx.arith.Rounds := Arith.rounded_rounds
  have drafts := (no_overflow_iff rounding).1
  have payments := ((no_overflow_iff rounding).2 plainRowTexts plainRowTexts_documented).2
  refine ⟨?_, ?_, ?_⟩
  · refine (drafts sampleDraft sampleDb (by decide +kernel)).mpr fun _ => ⟨?_, ?_⟩
    · decide +kernel
    · decide +kernel
  · by_contra goes
    exact hugeDraft_outOfRange ((drafts hugeDraft sampleDb valid_hugeDraft).mp goes rfl)
  · have read : (issuedDb.fetchInvoice plainRowTexts ⟨1⟩).isOk = true := by decide +kernel
    refine (payments (samplePayment 4000 fits_forty) issuedDb (by decide +kernel)).mpr ?_ read
    intro inv found _
    have stored : issuedDb.getInvoice ⟨1⟩ = some inv := found
    cases stored
    decide +kernel

end Invoicing
