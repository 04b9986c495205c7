/-
**Credit notes are positive where rounding leaves them so.**

* `CreditAction` — a command, or an inbound event that is dispatched; `CreditAction.runs` is the command
  it comes down to, and `CreditAction.creation` the creation of a credit note it asks for, by either path.
* `Credits` — a creation that is accepted; **`createCreditNote_stores`** says what it stores.
* `PositiveNotes` — every stored credit note has a positive amount. `MoreThanHalf` — an accepted creation
  asks for more than half a minor unit. **`CreditAction.positive_iff`** — these are exactly the actions
  that keep the notes positive, and **`credit_notes_positive`** says so of runs.
* `half_cent_credited` — a note of 0.005 CAD is stored, and issued, as 0.
-/

import Invoicing.Bus.Consumer
import Invoicing.Lib.Labelled
import Invoicing.Runs.MinorUnits

namespace Invoicing

open KeyedTable Labelled

/-! ### Actions -/

/-- A command, or an inbound event that is dispatched. -/
inductive CreditAction
  | command (call : Command)
  | inbound (consumer : Consumer) (ctx : CoreCtx) (topic eventId payload : String)

def CreditAction.execute (action : CreditAction) (db : Db) : Db :=
  match action with
  | .command call => (call.execute db).2
  | .inbound consumer ctx topic eventId payload => (consumer.dispatch ctx topic eventId payload db).2

def CreditAction.step (db : Db) (action : CreditAction) : Option Db := some (action.execute db)

/-- The command an event asks for, among the commands. -/
def InboundCommand.toCommand (ctx : CoreCtx) : InboundCommand → Command
  | .draftInvoice input => .invoice (.draft ctx input)
  | .markPaid input => .invoice (.markPaid ctx input)
  | .createCreditNote input => .createCreditNote ctx input

/-- The command an action comes down to; an event without a route has none. -/
def CreditAction.runs : CreditAction → Option Command
  | .command call => some call
  | .inbound consumer ctx topic eventId payload =>
      match consumer.route topic eventId payload with
      | .error _ => none
      | .ok asked => some (asked.toCommand ctx)

/-- The creation of a credit note an action asks for. -/
def CreditAction.creation (action : CreditAction) : Option (CoreCtx × CreateCreditNoteInput) :=
  match action.runs with
  | some (.createCreditNote ctx input) => some (ctx, input)
  | _ => none

theorem InboundCommand.execute_toCommand (asked : InboundCommand) (ctx : CoreCtx) (db : Db) :
    (asked.execute ctx db).2 = ((asked.toCommand ctx).execute db).2 := by
  cases asked with
  | draftInvoice input => rfl
  | markPaid input => rfl
  | createCreditNote input => rfl

/-- **Both paths are commands**: an action does to the tables what the command it comes down to does. -/
theorem CreditAction.execute_eq (action : CreditAction) (db : Db) :
    action.execute db = action.runs.elim db fun call => (call.execute db).2 := by
  cases action with
  | command call => rfl
  | inbound consumer ctx topic eventId payload =>
    cases routed : consumer.route topic eventId payload with
    | error e => simp only [execute, runs, Consumer.dispatch, routed, Option.elim]
    | ok asked =>
      simp only [execute, runs, Consumer.dispatch, routed, Option.elim]
      exact asked.execute_toCommand ctx db

/-! ### What a creation stores -/

/-- A creation that is accepted: its amount is positive, its invoice is stored, and the id its history row
draws is new. -/
structure Credits (db : Db) (ctx : CoreCtx) (input : CreateCreditNoteInput) (inv : Invoice) : Prop where
  positive : Decimal.zero < input.amount
  stored : db.getInvoice input.invoiceId = some inv
  new : ∀ row ∈ db.creditHistory, row.id ≠ ctx.newHistoryId

/-- **An accepted creation stores the note**, its amount rounded. -/
theorem createCreditNote_stores {ctx : CoreCtx} {input : CreateCreditNoteInput} {db : Db} {inv : Invoice}
    (credits : Credits db ctx input inv) :
    createCreditNote ctx input db =
      (.ok ⟨draftNote ctx input inv⟩, (createCreditTx ctx input inv).apply db) := by
  have prepared : prepareCreateCreditNote ctx input db = .ok (createCreditTx ctx input inv) := by
    have valid : input.validate = .ok () := if_neg (Decimal.not_le_zero.mpr credits.positive)
    rw [prepareCreateCreditNote, valid, invoiceOf, credits.stored]
    rfl
  have committed : (createCreditTx ctx input inv).commit db =
      .ok ((createCreditTx ctx input inv).apply db) := by
    refine CreditTx.commit_of_free ?_ ?_ credits.new rfl
    · rintro ⟨_, _, _, numbered, _⟩
      exact numbered rfl
    · show db.getInvoice input.invoiceId ≠ none
      rw [credits.stored]
      exact Option.some_ne_none inv
  rw [createCreditNote, prepared, performCredit, committed]
  rfl

/-- A creation changes the tables only if it is accepted. -/
theorem createCreditNote_cases (ctx : CoreCtx) (input : CreateCreditNoteInput) (db : Db) :
    (createCreditNote ctx input db).2 = db ∨ ∃ inv, Credits db ctx input inv ∧
      (createCreditNote ctx input db).2 = (createCreditTx ctx input inv).apply db := by
  unfold createCreditNote performCredit
  cases prepared : prepareCreateCreditNote ctx input db with
  | error stop => exact Or.inl rfl
  | ok tx =>
    simp only
    cases committed : tx.commit db with
    | error e => exact Or.inl rfl
    | ok after =>
      obtain ⟨inv, stored, rfl⟩ := prepareCreateCreditNote_ok prepared
      obtain ⟨_, valid, _⟩ := bind_ok prepared
      refine Or.inr ⟨inv, ⟨?_, stored, CreditTx.commit_new committed⟩, (CreditTx.commit_ok committed).1⟩
      unfold CreateCreditNoteInput.validate at valid
      split at valid
      · cases valid
      · rename_i positive
        exact Decimal.not_le_zero.mp positive

/-! ### Positive notes -/

/-- Every stored credit note, draft or issued, has a positive amount. -/
def PositiveNotes (db : Db) : Prop := ∀ note ∈ db.creditNotes, Decimal.zero < note.amount

instance (db : Db) : Decidable (PositiveNotes db) :=
  inferInstanceAs (Decidable (∀ note ∈ db.creditNotes, Decimal.zero < note.amount))

/-- A creation that is accepted asks for more than half a minor unit of its invoice's currency. -/
def MoreThanHalf (db : Db) (action : CreditAction) : Prop :=
  ∀ ctx input inv, action.creation = some (ctx, input) → Credits db ctx input inv →
    1 / 2 < input.amount.value * 10 ^ inv.currency.scale

/-- **A rounded amount is positive exactly when more than half a minor unit was asked for.** -/
theorem Currency.zero_lt_round_iff (currency : Currency) (amount : Decimal) :
    Decimal.zero < currency.round amount ↔ 1 / 2 < amount.value * 10 ^ currency.scale := by
  rw [Decimal.zero_lt_iff, round, Decimal.value_roundDp]
  exact Decimal.halfEven_pos_iff _ _

/-- A transaction keeps the notes positive exactly when its note is positive. -/
theorem PositiveNotes.apply_iff {db : Db} (holds : PositiveNotes db) (tx : CreditTx) :
    PositiveNotes (tx.apply db) ↔ Decimal.zero < tx.note.amount := by
  constructor
  · intro after
    have found := find_upsert_self CreditNote.keepsKey db.creditNotes tx.note
    have positive := after _ (mem_of_find found)
    cases before : find CreditNote.id db.creditNotes tx.note.id with
    | none =>
      rw [before] at positive
      exact positive
    | some old =>
      rw [before] at positive
      exact positive
  · intro positive note member
    rcases mem_upsert member with before | rfl | ⟨old, rfl⟩
    · exact holds note before
    · exact positive
    · exact positive

/-- Issuing writes the amount the draft has. -/
theorem PositiveNotes.issue {db : Db} (holds : PositiveNotes db) (ctx : CoreCtx)
    (input : IssueCreditNoteInput) : PositiveNotes (issueCreditNote ctx input db).2 := by
  rcases performCredit_cases IssueCreditNoteOutput.mk (prepareIssueCreditNote ctx input db) db with
    ⟨same, _⟩ | ⟨tx, prepared, same⟩
  · rw [issueCreditNote, same]
    exact holds
  · obtain ⟨note, found, _, rfl⟩ := prepareIssueCreditNote_ok prepared
    rw [issueCreditNote, same]
    exact (holds.apply_iff _).mpr (holds note (mem_of_find found))

/-- Invoice commands leave the credit notes. -/
theorem Request.leaves_creditNotes (request : Request) (db : Db) :
    (request.execute db).2.creditNotes = db.creditNotes := by
  cases request.executed db with
  | failed stop same noKey => rw [same]
  | answered reply notIssue same => rw [same]
  | committed loaded tx reply edit stored counted same =>
    rw [same]
    unfold commitOutcome
    cases committed : tx.commit db with
    | error e => rfl
    | ok after =>
      rw [(InvoiceTx.commit_ok committed).1]
      rfl

/-- **Exactly which actions keep the notes positive.** -/
theorem CreditAction.positive_iff {db : Db} (holds : PositiveNotes db) (action : CreditAction) :
    PositiveNotes (action.execute db) ↔ MoreThanHalf db action := by
  have other : (∀ ctx input, action.runs ≠ some (.createCreditNote ctx input)) →
      MoreThanHalf db action := by
    intro another ctx input inv asks
    unfold creation at asks
    split at asks
    · rename_i same
      exact absurd same (another _ _)
    · cases asks
  rw [action.execute_eq]
  cases run : action.runs with
  | none => exact ⟨fun _ => other (by simp [run]), fun _ => holds⟩
  | some call =>
    show PositiveNotes (call.execute db).2 ↔ _
    cases call with
    | invoice request =>
      refine ⟨fun _ => other (by simp [run]), fun _ => ?_⟩
      show PositiveNotes (request.execute db).2
      intro note member
      rw [request.leaves_creditNotes] at member
      exact holds note member
    | issueCreditNote ctx input => exact ⟨fun _ => other (by simp [run]), fun _ => holds.issue ctx input⟩
    | elsewhere write => exact ⟨fun _ => other (by simp [run]), fun _ => holds⟩
    | createCreditNote ctx input =>
      have asks : action.creation = some (ctx, input) := by rw [creation, run]
      show PositiveNotes (createCreditNote ctx input db).2 ↔ _
      constructor
      · intro after ctx' input' inv asks' credits
        obtain ⟨rfl, rfl⟩ : ctx = ctx' ∧ input = input' := by
          rw [asks, Option.some.injEq, Prod.mk.injEq] at asks'
          exact asks'
        rw [createCreditNote_stores credits, holds.apply_iff] at after
        exact (inv.currency.zero_lt_round_iff input.amount).mp after
      · intro enough
        rcases createCreditNote_cases ctx input db with same | ⟨inv, credits, same⟩
        · rw [same]
          exact holds
        · rw [same, holds.apply_iff]
          exact (inv.currency.zero_lt_round_iff input.amount).mpr (enough ctx input inv asks credits)

/-! ### Runs -/

/-- **Credit notes stay positive exactly along the runs whose accepted creations ask for more than half a
minor unit**: over commands and dispatched events of every kind and in every order, from tables whose
notes are positive. -/
theorem credit_notes_positive {db : Db} (start : PositiveNotes db) (actions : List CreditAction) :
    Meets CreditAction.step MoreThanHalf db actions ↔
      ∀ n after, run CreditAction.step db (actions.take n) = some after → PositiveNotes after :=
  meets_iff (fun _ action holds => ⟨_, rfl, action.positive_iff holds⟩) start actions

/-- A credit note against the invoice of 100.00 CAD. -/
def sampleCredit (amount : Decimal) : CreateCreditNoteInput :=
  ⟨⟨1⟩, amount, none, none, none, .cli "operator", .cli⟩

/-- The note the third context creates is issued. -/
def issueThird : CreditAction :=
  .command (.issueCreditNote (sampleCtx (oneOClock firstOfMarch) 4) ⟨⟨3⟩, none, .cli "operator", .cli⟩)

/-- A note is created and issued. -/
def creditedDirectly (amount : Decimal) : List CreditAction :=
  [.command (.createCreditNote (sampleCtx (oneOClock firstOfMarch) 3) (sampleCredit amount)), issueThird]

/-- A consumer of refunds of one amount on that invoice. -/
def sampleRefunds (amount : Decimal) : Consumer where
  remap := ⟨[]⟩
  parsers := {
    chargeCreated := fun _ => .error "not a charge"
    paymentReceived := fun _ => .error "not a payment"
    paymentRefunded := fun _ => .ok ⟨"inv://invoice/invoice", amount, none, none⟩
    customerId := fun _ => .error "not a customer"
    invoiceId := fun _ => .ok ⟨1⟩ }

/-- A note is asked for by a refund, and issued. -/
def creditedByRefund (amount : Decimal) : List CreditAction :=
  [.inbound (sampleRefunds amount) (sampleCtx (oneOClock firstOfMarch) 3)
      "fin.billing.payment.refunded" "event" "refund", issueThird]

/-- **Half a cent is credited as nothing**, directly or by a refund: the note is stored with the amount 0,
as a draft and once it is issued. -/
theorem half_cent_credited :
    PositiveNotes issuedDb ∧
      ∀ actions ∈ [creditedDirectly ⟨5, 3, fits_halfCent⟩, creditedByRefund ⟨5, 3, fits_halfCent⟩],
        ∀ n ∈ [1, 2], ¬ ∀ after ∈ run CreditAction.step issuedDb (actions.take n), PositiveNotes after := by
  decide +kernel

/-- A refund of 40.00 is a positive note all along. -/
theorem credit_notes_positive_forty :
    (∀ after ∈ run CreditAction.step issuedDb (creditedByRefund ⟨4000, 2, fits_forty⟩),
        ∃ note ∈ after.creditNotes, note.state = .issued ∧ note.amount = ⟨4000, 2, fits_forty⟩) ∧
      ∀ n after, run CreditAction.step issuedDb
        ((creditedByRefund ⟨4000, 2, fits_forty⟩).take n) = some after → PositiveNotes after := by
  have start : PositiveNotes issuedDb := by decide +kernel
  refine ⟨by decide +kernel, (credit_notes_positive start _).mp ⟨?_, fun _ _ => ⟨?_, fun _ _ => trivial⟩⟩⟩
  · intro ctx input inv asks _
    cases asks
    have unit : (1 : ℚ) ≤ 10 ^ inv.currency.scale := one_le_pow₀ (by norm_num)
    have forty : Decimal.value ⟨4000, 2, fits_forty⟩ = 40 := by norm_num [Decimal.value]
    show 1 / 2 < Decimal.value ⟨4000, 2, fits_forty⟩ * 10 ^ inv.currency.scale
    rw [forty]
    linarith
  · intro ctx input inv asks _
    cases asks

end Invoicing
