/-
**The columns of an invoice and its state.**

* `Invoice.Lifecycle` — what every stored invoice satisfies: number and issue date, sum paid, and the
  dates of sending, viewing, payment and void, each as its state asks.
* `Edit.lifecycle` — the write set of every command keeps it. **`lifecycle_reachable`** — it holds of
  every invoice after every run from empty tables.
* **`money_never_voided`** — where no void is called on a partly paid invoice, no invoice with money on
  it is voided. **`paid_then_voided`** — a partly paid one can be.
-/

import Invoicing.Runs.Actions

namespace Invoicing

open Chrono KeyedTable

/-! ### The invariant -/

/-- What a stored invoice satisfies. -/
structure Invoice.Lifecycle (inv : Invoice) : Prop where
  draft : inv.state = .draft → inv.number = none ∧ inv.issuedAt = none
  issued : inv.state ≠ .draft → inv.number ≠ none ∧ inv.issuedAt ≠ none
  unpaid : inv.state = .draft ∨ inv.state = .issued ∨ inv.state = .sent ∨ inv.state = .viewed →
    inv.amountPaid = Decimal.zero
  partPaid : inv.state = .partiallyPaid →
    Decimal.zero < inv.amountPaid ∧ inv.amountPaid < inv.total
  paid : inv.state = .paid →
    Decimal.zero < inv.amountPaid ∧ inv.total ≤ inv.amountPaid ∧ inv.paidAt ≠ none
  sent : inv.state = .sent ∨ inv.state = .viewed → inv.sentAt ≠ none
  viewed : inv.state = .viewed → inv.viewedAt ≠ none
  voided : inv.voidedAt ≠ none ↔ inv.state = .voided

theorem Invoice.Lifecycle.merged {row : Invoice} (holds : row.Lifecycle) (old : Invoice) :
    (Invoice.mergeRow old row).Lifecycle :=
  ⟨holds.draft, holds.issued, holds.unpaid, holds.partPaid, holds.paid, holds.sent, holds.viewed,
    holds.voided⟩

/-- Void dates are set where an invoice is voided, and nowhere else. -/
theorem Invoice.Lifecycle.notVoided {inv : Invoice} (holds : inv.Lifecycle)
    (state : inv.state ≠ .voided) : inv.voidedAt = none := by
  by_contra present
  exact state (holds.voided.mp present)

theorem draftTx_lifecycle (ctx : CoreCtx) (input : DraftInvoiceInput) (lines : List InvoiceLine)
    (subtotal : Decimal) : (draftTx ctx input lines subtotal).invoice.Lifecycle where
  draft := fun _ => ⟨rfl, rfl⟩
  issued := fun other => absurd rfl other
  unpaid := fun _ => rfl
  partPaid := InvoiceState.noConfusion
  paid := InvoiceState.noConfusion
  sent := fun other => other.elim InvoiceState.noConfusion InvoiceState.noConfusion
  viewed := InvoiceState.noConfusion
  voided := ⟨fun other => absurd rfl other, InvoiceState.noConfusion⟩

theorem issueTx_lifecycle {ctx : CoreCtx} {input : IssueInvoiceInput} {ready : IssueReady}
    {count : ℕ} {blobRef : Option String} (holds : ready.loaded.Lifecycle)
    (draft : ready.loaded.state = .draft) :
    (issueTx ctx input ready count blobRef).invoice.Lifecycle where
  draft := InvoiceState.noConfusion
  issued := fun _ => ⟨Option.some_ne_none _, Option.some_ne_none _⟩
  unpaid := fun _ => holds.unpaid (Or.inl draft)
  partPaid := InvoiceState.noConfusion
  paid := InvoiceState.noConfusion
  sent := fun other => other.elim InvoiceState.noConfusion InvoiceState.noConfusion
  viewed := InvoiceState.noConfusion
  voided := by
    have notVoided := holds.notVoided (by rw [draft]; decide)
    exact ⟨fun other => absurd notVoided other, InvoiceState.noConfusion⟩

/-- A send of an issued or sent invoice. -/
theorem sendTx_lifecycle {ctx : CoreCtx} {inv : Invoice} {actor : Actor} {channel : Channel}
    {deliveredTo : String} {key : Option String} (holds : inv.Lifecycle)
    (open' : inv.state = .issued ∨ inv.state = .sent) :
    (sendTx ctx inv .sent actor channel deliveredTo key).invoice.Lifecycle where
  draft := InvoiceState.noConfusion
  issued := fun _ => holds.issued (by rcases open' with state | state <;> rw [state] <;> decide)
  unpaid := fun _ => holds.unpaid (by rcases open' with state | state <;> simp [state])
  partPaid := InvoiceState.noConfusion
  paid := InvoiceState.noConfusion
  sent := fun _ => Option.some_ne_none _
  viewed := InvoiceState.noConfusion
  voided := by
    have notVoided := holds.notVoided (by rcases open' with state | state <;> rw [state] <;> decide)
    exact ⟨fun other => absurd notVoided other, InvoiceState.noConfusion⟩

theorem viewTx_lifecycle {ctx : CoreCtx} {inv : Invoice} (holds : inv.Lifecycle)
    (sent : inv.state = .sent) : (viewTx ctx inv).invoice.Lifecycle where
  draft := InvoiceState.noConfusion
  issued := fun _ => holds.issued (by rw [sent]; decide)
  unpaid := fun _ => holds.unpaid (by simp [sent])
  partPaid := InvoiceState.noConfusion
  paid := InvoiceState.noConfusion
  sent := fun _ => holds.sent (Or.inl sent)
  viewed := fun _ => Option.some_ne_none _
  voided := by
    have notVoided := holds.notVoided (by rw [sent]; decide)
    exact ⟨fun other => absurd notVoided other, InvoiceState.noConfusion⟩

/-- A payment compares the sum paid with the total, and dates a full one. -/
theorem payTx_lifecycle {ctx : CoreCtx} {input : MarkPaidInput} {inv : Invoice}
    {amountPaid : Decimal} {toState : InvoiceState} (holds : inv.Lifecycle)
    (accepted : nextState inv.state (.pay amountPaid inv.total) = .ok toState) :
    (payTx ctx input inv amountPaid toState).invoice.Lifecycle := by
  obtain ⟨notDraft, result⟩ := nextState_pay accepted
  have positive : Decimal.zero < amountPaid := by
    have positive := nextState_pay_positive accepted
    rw [Decimal.le_iff, not_le] at positive
    exact Decimal.lt_iff.mpr positive
  have notVoided : inv.voidedAt = none := by
    refine holds.notVoided fun voided => ?_
    rw [voided] at accepted
    cases accepted
  have paidState : toState = .paid ∨ toState = .partiallyPaid :=
    result.imp And.right And.right
  have never : ∀ {state : InvoiceState}, state ≠ .paid → state ≠ .partiallyPaid → toState ≠ state := by
    rintro state notPaid notPart rfl
    exact paidState.elim notPaid notPart
  refine ⟨fun state => ?_, fun _ => holds.issued notDraft, fun state => ?_, fun state => ?_,
    fun state => ?_, fun state => ?_, fun state => ?_, ?_⟩
  · exact absurd state (never (by decide) (by decide))
  · rcases state with state | state | state | state <;>
      exact absurd state (never (by decide) (by decide))
  · refine ⟨positive, ?_⟩
    have partPaid : toState = .partiallyPaid := state
    rcases result with ⟨_, paid⟩ | ⟨notFull, _⟩
    · rw [paid] at partPaid
      cases partPaid
    · have below : ¬ inv.total ≤ amountPaid := fun reached =>
        notFull ⟨nextState_pay_positive accepted, reached⟩
      rw [Decimal.le_iff, not_le] at below
      exact Decimal.lt_iff.mpr below
  · have paid : toState = .paid := state
    rcases result with ⟨full, _⟩ | ⟨_, partPaid⟩
    · refine ⟨positive, full.2, ?_⟩
      show (if toState = .paid then _ else _) ≠ none
      rw [if_pos paid]
      exact Option.some_ne_none _
    · rw [paid] at partPaid
      cases partPaid
  · rcases state with state | state <;> exact absurd state (never (by decide) (by decide))
  · exact absurd state (never (by decide) (by decide))
  · exact ⟨fun other => absurd notVoided other,
      fun state => absurd state (never (by decide) (by decide))⟩

theorem voidTx_lifecycle {ctx : CoreCtx} {input : VoidInvoiceInput} {inv : Invoice}
    {toState : InvoiceState} (holds : inv.Lifecycle)
    (accepted : nextState inv.state .void = .ok toState) :
    (voidTx ctx input inv toState).invoice.Lifecycle := by
  obtain ⟨notDraft, voided⟩ := nextState_void accepted
  subst voided
  refine ⟨InvoiceState.noConfusion, fun _ => holds.issued notDraft, ?_, InvoiceState.noConfusion,
    InvoiceState.noConfusion, ?_, InvoiceState.noConfusion, fun _ => rfl,
    fun _ => Option.some_ne_none _⟩
  · rintro (other | other | other | other) <;> cases other
  · rintro (other | other) <;> cases other

/-- **Every write set keeps the invariant.** -/
theorem Edit.lifecycle {request : Request} {loaded : Option Invoice} {tx : InvoiceTx}
    (edit : Edit request loaded tx) (holds : ∀ inv, loaded = some inv → inv.Lifecycle) :
    tx.invoice.Lifecycle := by
  cases edit with
  | draft summed => exact draftTx_lifecycle _ _ _ _
  | issue draft toState target owners => exact issueTx_lifecycle (holds _ rfl) draft
  | send target open' => exact sendTx_lifecycle (holds _ rfl) open'
  | sendRender target open' => exact sendTx_lifecycle (holds _ rfl) open'
  | view verified sent => exact viewTx_lifecycle (holds _ rfl) sent
  | markPaid target positive summed accepted => exact payTx_lifecycle (holds _ rfl) accepted
  | void target accepted => exact voidTx_lifecycle (holds _ rfl) accepted

/-! ### Runs -/

/-- Tables without rows. -/
def emptyDb : Db := ⟨[], [], [], [], [], [], [], []⟩

/-- Every stored invoice has the property. -/
def EveryInvoice (P : Invoice → Prop) (db : Db) : Prop := ∀ inv ∈ db.invoices, P inv

theorem EveryInvoice.of_same {P : Invoice → Prop} {before after : Db}
    (same : SameInvoices before after) (holds : EveryInvoice P before) : EveryInvoice P after := by
  unfold EveryInvoice
  rw [same.invoices]
  exact holds

/-- **A property of rows that edits keep is kept by every invoice command.** -/
theorem EveryInvoice.request {P : Invoice → Prop} {G : Db → Request → Prop}
    (merges : ∀ old row, P row → P (Invoice.mergeRow old row))
    (edits : ∀ {db : Db} {request : Request} {loaded : Option Invoice} {tx : InvoiceTx},
      Edit request loaded tx → G db request → (∀ inv, loaded = some inv → db.getInvoice inv.id = some inv) →
      (∀ inv, loaded = some inv → P inv) → P tx.invoice)
    {db : Db} {request : Request} (holds : EveryInvoice P db) (guard : G db request) :
    EveryInvoice P (request.execute db).2 := by
  rcases Command.invoice_cases (.invoice request) db with
    same | ⟨request', loaded, tx, same, edit, stored, committed⟩
  · exact holds.of_same same
  · cases same
    have row : P tx.invoice := by
      refine edits edit guard stored ?_
      intro inv same
      exact holds inv (mem_of_find (stored inv same))
    show EveryInvoice P ((Command.invoice request).execute db).2
    rw [(InvoiceTx.commit_ok committed).1]
    intro inv member
    rcases mem_upsert member with before | rfl | ⟨old, rfl⟩
    · exact holds inv before
    · exact row
    · exact merges old _ row

theorem runActions_lifecycle (actions : List Action) :
    EveryInvoice Invoice.Lifecycle (runActions emptyDb actions) := by
  refine runActions_keeps_of (I := EveryInvoice Invoice.Lifecycle) (P := fun _ _ => True) .of_same ?_
    (fun _ absent => by cases absent)
    (allActions_of_forall (fun db action => Action.each_of_forall (fun _ _ => trivial) db action) _ _)
  intro db request holds _
  exact holds.request (G := fun _ _ => True) (fun old row holds => holds.merged old)
    (fun edit _ _ loaded => edit.lifecycle loaded) trivial

/-- **Every reachable invoice satisfies the lifecycle invariant**: after any run of schedules, ticks and
commands from empty tables, with any inputs. -/
theorem lifecycle_reachable (actions : List Action) :
    ∀ inv ∈ (runActions emptyDb actions).invoices, inv.Lifecycle :=
  fun inv member => runActions_lifecycle actions inv member

/-- A customer, an invoice of 100.00, a payment of 40.00 and a void. -/
def paidAndVoided : List Action :=
  [.command (.elsewhere fun _ => sampleDb),
    .command (.invoice (.draft (sampleCtx (oneOClock firstOfMarch) 1) sampleDraft)),
    .command (.invoice (.issue (sampleCtx (oneOClock firstOfMarch) 2) sampleIssue)),
    .command (.invoice (.markPaid (sampleCtx (oneOClock firstOfMarch) 3)
      (samplePayment 4000 fits_forty))),
    .command (.invoice (.void (sampleCtx (oneOClock firstOfMarch) 4) sampleVoid))]

/-- The voided invoice satisfies the invariant. -/
theorem lifecycle_of_voided :
    ∃ inv ∈ (runActions emptyDb paidAndVoided).invoices, inv.state = .voided ∧ inv.Lifecycle := by
  obtain ⟨inv, member, voided⟩ : ∃ inv ∈ (runActions emptyDb paidAndVoided).invoices,
      inv.state = .voided := by decide +kernel
  exact ⟨inv, member, voided, lifecycle_reachable paidAndVoided inv member⟩

/-! ### Voids -/

/-- The call is no void of a partly paid invoice. -/
def VoidsNoPartPaid (db : Db) (request : Request) : Prop :=
  ∀ ctx input, request = .void ctx input →
    ∀ inv, db.getInvoice input.invoiceId = some inv → inv.state ≠ .partiallyPaid

/-- No money is on a voided invoice. -/
def Invoice.VoidedUnpaid (inv : Invoice) : Prop := inv.state = .voided → inv.amountPaid = Decimal.zero

/-- An invoice that can be voided and is not partly paid has no money on it. -/
theorem Invoice.Lifecycle.unpaid_of_void {inv : Invoice} {toState : InvoiceState}
    (holds : inv.Lifecycle) (accepted : nextState inv.state .void = .ok toState)
    (notPartPaid : inv.state ≠ .partiallyPaid) : inv.amountPaid = Decimal.zero := by
  refine holds.unpaid ?_
  cases state : inv.state with
  | partiallyPaid => exact absurd state notPartPaid
  | paid =>
    rw [state] at accepted
    cases accepted
  | voided =>
    rw [state] at accepted
    cases accepted
  | _ => simp

theorem Edit.voidedUnpaid {db : Db} {request : Request} {loaded : Option Invoice} {tx : InvoiceTx}
    (edit : Edit request loaded tx) (clear : VoidsNoPartPaid db request)
    (stored : ∀ inv, loaded = some inv → db.getInvoice inv.id = some inv)
    (holds : ∀ inv, loaded = some inv → inv.Lifecycle) : tx.invoice.VoidedUnpaid := by
  cases edit with
  | markPaid target positive summed accepted =>
    intro voided
    obtain ⟨_, ⟨_, paid⟩ | ⟨_, partPaid⟩⟩ := nextState_pay accepted
    · exact InvoiceState.noConfusion (paid.symm.trans voided)
    · exact InvoiceState.noConfusion (partPaid.symm.trans voided)
  | @void ctx input inv toState target accepted =>
    have found := stored inv rfl
    rw [target] at found
    exact fun _ => (holds inv rfl).unpaid_of_void accepted (clear ctx input rfl inv found)
  | _ => exact fun voided => InvoiceState.noConfusion voided

/-- **No money is voided where no partly paid invoice is voided**: in every run from empty tables in
which no void is called on a partly paid invoice, no void goes through on an invoice with money on it,
and no voided invoice has any. -/
theorem money_never_voided {actions : List Action}
    (clear : AllActions (fun db action => action.Each VoidsNoPartPaid db) emptyDb actions) :
    (∀ inv ∈ (runActions emptyDb actions).invoices,
        inv.state = .voided → inv.amountPaid = Decimal.zero) ∧
      ∀ before after ctx input output,
        actions = before ++ .command (.invoice (.void ctx input)) :: after →
        (voidInvoice ctx input (runActions emptyDb before)).1 = .ok output →
        ∀ inv, (runActions emptyDb before).getInvoice input.invoiceId = some inv →
          inv.amountPaid = Decimal.zero := by
  constructor
  · have both : EveryInvoice (fun inv => inv.Lifecycle ∧ inv.VoidedUnpaid)
        (runActions emptyDb actions) := by
      refine runActions_keeps_of (P := VoidsNoPartPaid)
        (I := EveryInvoice fun inv => inv.Lifecycle ∧ inv.VoidedUnpaid) .of_same ?_
        (fun _ absent => by cases absent) clear
      intro db request holds clear
      refine holds.request (G := VoidsNoPartPaid) ?_ ?_ clear
      · exact fun old row holds => ⟨holds.1.merged old, holds.2⟩
      · intro db request loaded tx edit clear stored loadedHolds
        exact ⟨edit.lifecycle fun inv same => (loadedHolds inv same).1,
          edit.voidedUnpaid clear stored fun inv same => (loadedHolds inv same).1⟩
    exact fun inv member => (both inv member).2
  · rintro before after ctx input output rfl done inv found
    have here := (AllActions.at clear).2 ctx input rfl inv found
    have holds := runActions_lifecycle before inv (mem_of_find found)
    unfold voidInvoice perform at done
    cases prepared : prepareVoid ctx input (runActions emptyDb before) with
    | error stop =>
      rw [prepared] at done
      cases done
    | ok write =>
      obtain ⟨other, toState, found', accepted, _⟩ := prepareVoid_ok prepared
      obtain rfl : inv = other := Option.some.inj (found.symm.trans found')
      exact holds.unpaid_of_void accepted here

/-- The void of the partly paid invoice goes through: 40.00 are on a voided invoice. -/
theorem paid_then_voided :
    ∃ inv ∈ (runActions emptyDb paidAndVoided).invoices,
      inv.state = .voided ∧ Decimal.zero < inv.amountPaid := by
  decide +kernel

/-- One invoice is drafted, issued and partly paid; another is drafted and issued. -/
def paidAndUnpaid : List Action :=
  [.command (.elsewhere fun _ => sampleDb),
    .command (.invoice (.draft (sampleCtx (oneOClock firstOfMarch) 1) sampleDraft)),
    .command (.invoice (.issue (sampleCtx (oneOClock firstOfMarch) 2) sampleIssue)),
    .command (.invoice (.markPaid (sampleCtx (oneOClock firstOfMarch) 3)
      (samplePayment 4000 fits_forty))),
    .command (.invoice (.draft (sampleCtx (oneOClock firstOfMarch) 5) sampleDraft)),
    .command (.invoice (.issue (sampleCtx (oneOClock firstOfMarch) 6) { sampleIssue with invoiceId := ⟨5⟩ }))]

/-- The other invoice is voided. -/
def unpaidVoid : VoidInvoiceInput := { sampleVoid with invoiceId := ⟨5⟩ }

def unpaidVoided : List Action :=
  paidAndUnpaid ++ [.command (.invoice (.void (sampleCtx (oneOClock firstOfMarch) 7) unpaidVoid))]

/-- The void goes through beside a partly paid invoice, and no money was on the invoice. -/
theorem money_never_voided_of_unpaid :
    (voidInvoice (sampleCtx (oneOClock firstOfMarch) 7) unpaidVoid (runActions emptyDb paidAndUnpaid)).1.isOk =
        true ∧
      ((runActions emptyDb unpaidVoided).invoices.map fun inv => (inv.id, inv.state)) =
        [(⟨1⟩, .partiallyPaid), (⟨5⟩, .voided)] ∧
      (∀ inv ∈ (runActions emptyDb unpaidVoided).invoices,
        inv.state = .voided → inv.amountPaid = Decimal.zero) ∧
      ∀ inv, (runActions emptyDb paidAndUnpaid).getInvoice ⟨5⟩ = some inv → inv.amountPaid = Decimal.zero := by
  have accepted : (voidInvoice (sampleCtx (oneOClock firstOfMarch) 7) unpaidVoid
      (runActions emptyDb paidAndUnpaid)).1.isOk = true := by decide +kernel
  obtain ⟨output, done⟩ : ∃ output, (voidInvoice (sampleCtx (oneOClock firstOfMarch) 7) unpaidVoid
      (runActions emptyDb paidAndUnpaid)).1 = .ok output := ok_of_isOk accepted
  have never := @money_never_voided unpaidVoided (by
    refine ⟨trivial, ?_, ?_, ?_, ?_, ?_, ?_, trivial⟩
    · exact fun _ _ other => by cases other
    · exact fun _ _ other => by cases other
    · exact fun _ _ other => by cases other
    · exact fun _ _ other => by cases other
    · exact fun _ _ other => by cases other
    · rintro ctx input ⟨⟩
      have issued : ((runActions emptyDb paidAndUnpaid).getInvoice ⟨5⟩).map Invoice.state = some .issued := by
        decide +kernel
      intro inv found partPaid
      have state := congrArg (Option.map Invoice.state) found
      rw [Option.map_some, partPaid] at state
      cases issued.symm.trans state)
  refine ⟨accepted, by decide +kernel, never.1, ?_⟩
  exact never.2 paidAndUnpaid [] _ unpaidVoid output rfl done

end Invoicing
