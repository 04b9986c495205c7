/-
**`create_credit_note` and `issue_credit_note`.**

* `CreditTx` — the write set of both: the credit note and a history row; `CreditTx.commit_ok` is what
  its transaction does.
* `prepareCreateCreditNote` — a draft against an existing invoice, in its currency. The idempotency
  key of the input is not looked at.
* `prepareIssueCreditNote` — ask the credit-note table, count, number.
* **`prepareCreateCreditNote_ok`**, **`prepareIssueCreditNote_ok`** — everything the two write.
-/

import Invoicing.Commands.Issue

namespace Invoicing

open Chrono

/-! ### The transaction -/

/-- The write set of a credit-note command. -/
structure CreditTx where
  note : CreditNote
  history : CreditNoteStateHistory

namespace CreditTx

/-- Run the statements of the write set; an error rolls both back. -/
def commit (tx : CreditTx) (db : Db) : Except StoreError Db := do
  let db ← db.saveCreditNote tx.note
  db.insertCreditHistory tx.history

/-- The tables after the transaction. -/
def apply (tx : CreditTx) (db : Db) : Db :=
  { db with
    creditNotes := KeyedTable.upsert CreditNote.id CreditNote.mergeRow db.creditNotes tx.note
    creditHistory := db.creditHistory ++ [tx.history] }

theorem commit_ok {tx : CreditTx} {db db' : Db} (committed : tx.commit db = .ok db') :
    db' = tx.apply db ∧ ¬ Db.Clashes CreditNote.id CreditNote.number db.creditNotes tx.note := by
  obtain ⟨saved, done, rest⟩ := bind_ok committed
  obtain ⟨number, rfl⟩ := Db.saveCreditNote_ok done
  exact ⟨Db.insertCreditHistory_ok rest, number⟩

/-- **The transaction goes through** for a note under a free number, of a stored invoice, and a history
row of its own under a new id. -/
theorem commit_of_free {tx : CreditTx} {db : Db}
    (free : ¬ Db.Clashes CreditNote.id CreditNote.number db.creditNotes tx.note)
    (owner : db.getInvoice tx.note.invoiceId ≠ none)
    (new : ∀ row ∈ db.creditHistory, row.id ≠ tx.history.id)
    (own : tx.history.creditNoteId = tx.note.id) : tx.commit db = .ok (tx.apply db) := by
  have there : KeyedTable.find CreditNote.id
      (KeyedTable.upsert CreditNote.id CreditNote.mergeRow db.creditNotes tx.note)
      tx.history.creditNoteId ≠ none := by
    rw [own, KeyedTable.find_upsert_self CreditNote.keepsKey]
    exact Option.some_ne_none _
  rw [commit, Db.saveCreditNote_of_free free owner]
  exact Db.insertCreditHistory_of_new new there

/-- A transaction that went through recorded a row under a new id. -/
theorem commit_new {tx : CreditTx} {db db' : Db} (committed : tx.commit db = .ok db') :
    ∀ row ∈ db.creditHistory, row.id ≠ tx.history.id := by
  obtain ⟨saved, done, rest⟩ := bind_ok committed
  have new := Db.insertCreditHistory_new rest
  rw [(Db.saveCreditNote_ok done).2] at new
  exact new

/-- A transaction refused for its number has a number another credit note holds. -/
theorem commit_unique {tx : CreditTx} {db : Db}
    (failed : tx.commit db = .error (.unique "credit_notes.number")) :
    Db.Clashes CreditNote.id CreditNote.number db.creditNotes tx.note := by
  by_contra free
  unfold commit Db.saveCreditNote at failed
  rw [if_neg free] at failed
  split at failed
  · exact absurd failed (by simp [bind, Except.bind])
  · simp only [bind, Except.bind, Db.insertCreditHistory] at failed
    split at failed
    · exact absurd failed (by simp)
    · split at failed
      · exact absurd failed (by simp)
      · cases failed

end CreditTx

/-- Run a prepared credit-note command. -/
def performCredit {α : Type} (output : CreditNote → α) (prepared : CoreResult CreditTx) (db : Db) :
    CoreResult α × Db :=
  match prepared with
  | .error e => (.error e, db)
  | .ok tx =>
      match tx.commit db with
      | .error e => (fail (.repo e), db)
      | .ok db' => (.ok (output tx.note), db')

/-! ### Creating -/

structure CreateCreditNoteInput where
  invoiceId : InvoiceId
  amount : Decimal
  reason : Option String
  refundRef : Option String
  idempotencyKey : Option String
  actor : Actor
  channel : Channel
  deriving DecidableEq

structure CreateCreditNoteOutput where
  creditNote : CreditNote
  deriving DecidableEq

def CreateCreditNoteInput.validate (input : CreateCreditNoteInput) : CoreResult Unit :=
  if input.amount ≤ Decimal.zero then
    fail (.validation ("credit-note amount must be > 0, got " ++ input.amount.toString))
  else .ok ()

/-- The row of a new credit note. -/
def draftNote (ctx : CoreCtx) (input : CreateCreditNoteInput) (inv : Invoice) : CreditNote where
  id := ctx.newCreditNoteId
  number := none
  invoiceId := input.invoiceId
  state := .draft
  amount := inv.currency.round input.amount
  currency := inv.currency
  reason := input.reason
  refundRef := input.refundRef
  issuedAt := none
  metadata := []
  createdAt := ctx.now

/-- The write set of a new credit note. -/
def createCreditTx (ctx : CoreCtx) (input : CreateCreditNoteInput) (inv : Invoice) : CreditTx where
  note := draftNote ctx input inv
  history := {
    id := ctx.newHistoryId
    creditNoteId := ctx.newCreditNoteId
    fromState := none
    toState := .draft
    event := "draft"
    actor := some input.actor.auditString
    channel := input.channel.toHistory
    busEventId := input.refundRef
    occurredAt := ctx.now
    publishedAt := none
    metadata := [] }

def prepareCreateCreditNote (ctx : CoreCtx) (input : CreateCreditNoteInput) (db : Db) :
    CoreResult CreditTx := do
  input.validate
  let inv ← invoiceOf db input.invoiceId
  return createCreditTx ctx input inv

/-- **`create_credit_note`.** -/
def createCreditNote (ctx : CoreCtx) (input : CreateCreditNoteInput) (db : Db) :
    CoreResult CreateCreditNoteOutput × Db :=
  performCredit CreateCreditNoteOutput.mk (prepareCreateCreditNote ctx input db) db

/-! ### Issuing -/

structure IssueCreditNoteInput where
  creditNoteId : CreditNoteId
  idempotencyKey : Option String
  actor : Actor
  channel : Channel
  deriving DecidableEq

structure IssueCreditNoteOutput where
  creditNote : CreditNote
  deriving DecidableEq

def CreditNoteState.debug : CreditNoteState → String
  | .draft => "Draft"
  | .issued => "Issued"

def CreditNoteTransitionError.text : CreditNoteTransitionError → String
  | .illegal state event =>
      "illegal transition: " ++ event ++ " not allowed from " ++ state.debug

def countCreditNotesIssuedInYear (db : Db) (year : ℤ) : ℕ := wrapU32 (db.countIssuedCreditNotes year)

/-- `CN-YYYY-NNNN`. -/
def creditNoteNumber (year : ℤ) (sequence : ℕ) : String := documentNumber "CN" year sequence

/-- The row of an issued credit note. -/
def issuedNote (ctx : CoreCtx) (note : CreditNote) (toState : CreditNoteState) (count : ℕ) :
    CreditNote :=
  { note with
    state := toState
    number := some (creditNoteNumber ctx.now.year (nextSequence count))
    issuedAt := some ctx.now }

/-- The write set of an issue. -/
def issueCreditTx (ctx : CoreCtx) (input : IssueCreditNoteInput) (note : CreditNote)
    (toState : CreditNoteState) (count : ℕ) : CreditTx where
  note := issuedNote ctx note toState count
  history := {
    id := ctx.newHistoryId
    creditNoteId := note.id
    fromState := some note.state
    toState := toState
    event := CreditNoteEvent.issue.tag
    actor := some input.actor.auditString
    channel := input.channel.toHistory
    busEventId := none
    occurredAt := ctx.now
    publishedAt := none
    metadata := [] }

def prepareIssueCreditNote (ctx : CoreCtx) (input : IssueCreditNoteInput) (db : Db) :
    CoreResult CreditTx := do
  let note ← orNotFound (db.getCreditNote input.creditNoteId)
    ("credit note " ++ input.creditNoteId.text)
  let toState ← (CreditNoteEvent.issue.nextState note.state).mapError fun e =>
    Stop.error (CoreError.validation ("credit-note FSM rejected: " ++ e.text))
  return issueCreditTx ctx input note toState (countCreditNotesIssuedInYear db ctx.now.year)

/-- **`issue_credit_note`.** -/
def issueCreditNote (ctx : CoreCtx) (input : IssueCreditNoteInput) (db : Db) :
    CoreResult IssueCreditNoteOutput × Db :=
  performCredit IssueCreditNoteOutput.mk (prepareIssueCreditNote ctx input db) db

/-! ### What the two do -/

/-- A credit-note command did nothing, or its transaction. -/
theorem performCredit_cases {α : Type} (output : CreditNote → α) (prepared : CoreResult CreditTx)
    (db : Db) :
    ((performCredit output prepared db).2 = db ∧
        ∃ stop, (performCredit output prepared db).1 = .error stop) ∨
      ∃ tx, prepared = .ok tx ∧ performCredit output prepared db = (.ok (output tx.note), tx.apply db) := by
  cases prepared with
  | error stop => exact Or.inl ⟨rfl, stop, rfl⟩
  | ok tx =>
    simp only [performCredit]
    cases committed : tx.commit db with
    | error e => exact Or.inl ⟨rfl, _, rfl⟩
    | ok db' =>
      obtain ⟨rfl, _⟩ := CreditTx.commit_ok committed
      exact Or.inr ⟨tx, rfl, rfl⟩

/-- **What creating writes**, and what was checked before. -/
theorem prepareCreateCreditNote_ok {ctx : CoreCtx} {input : CreateCreditNoteInput} {db : Db}
    {tx : CreditTx} (done : prepareCreateCreditNote ctx input db = .ok tx) :
    ∃ inv, db.getInvoice input.invoiceId = some inv ∧ tx = createCreditTx ctx input inv := by
  obtain ⟨_, _, rest⟩ := bind_ok done
  obtain ⟨inv, found, rest⟩ := bind_ok rest
  cases rest
  exact ⟨inv, orNotFound_ok found, rfl⟩

/-- **What issuing writes**: only a draft is issued. -/
theorem prepareIssueCreditNote_ok {ctx : CoreCtx} {input : IssueCreditNoteInput} {db : Db}
    {tx : CreditTx} (done : prepareIssueCreditNote ctx input db = .ok tx) :
    ∃ note, db.getCreditNote input.creditNoteId = some note ∧ note.state = .draft ∧
      tx = issueCreditTx ctx input note .issued (countCreditNotesIssuedInYear db ctx.now.year) := by
  obtain ⟨note, found, rest⟩ := bind_ok done
  obtain ⟨toState, accepted, rest⟩ := bind_ok rest
  cases rest
  refine ⟨note, orNotFound_ok found, ?_⟩
  cases state : note.state with
  | draft =>
    rw [state] at accepted
    cases accepted
    exact ⟨rfl, rfl⟩
  | issued =>
    rw [state] at accepted
    cases accepted

theorem schemaFree_prepareCreateCreditNote (ctx : CoreCtx) (input : CreateCreditNoteInput)
    (db : Db) : SchemaFree (prepareCreateCreditNote ctx input db) := by
  refine SchemaFree.bind ?_ fun _ => (schemaFree_invoiceOf _ _).bind fun _ => .ok _
  unfold CreateCreditNoteInput.validate
  split
  · exact .fail fun _ => by simp
  · exact .ok ()

theorem schemaFree_prepareIssueCreditNote (ctx : CoreCtx) (input : IssueCreditNoteInput)
    (db : Db) : SchemaFree (prepareIssueCreditNote ctx input db) :=
  (schemaFree_orNotFound _ _).bind fun _ =>
    (SchemaFree.mapError (fun _ _ => by simp) _).bind fun _ => .ok _

end Invoicing
