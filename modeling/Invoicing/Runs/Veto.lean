/-
**A refused proposal does not stop a transition.**

* `Transition` — a command that moves an invoice or a credit note. `Transition.run` — what it leaves: the
  command is executed, and then its events are offered to the publisher one by one.
* `Transition.proposes` — a transition that writes anything publishes its proposed event first.
* `Transition.Vetoed` — the publisher refuses the proposed event. **`veto_ignored`** — the transition is
  committed all the same. **`void_despite_veto`** — a void.
-/

import Invoicing.Runs.AuditLog
import Invoicing.Runs.Published

namespace Invoicing

open Chrono (DateTime)

/-! ### Transitions -/

/-- A draft and a view propose nothing. -/
def Request.Moves : Request → Prop
  | .draft _ _ => False
  | .view _ _ => False
  | _ => True

/-- A command that moves an invoice or a credit note. -/
inductive Transition
  | invoice (request : Request) (moves : request.Moves)
  | issueCreditNote (ctx : CoreCtx) (input : IssueCreditNoteInput)

/-- What a command with a publisher leaves: whether it succeeded, the tables, and the events the
publisher accepted. -/
structure Left where
  succeeded : Bool
  after : Db
  accepted : List BusEvent

/-- An event that is published before a move, by its topic. -/
def BusEvent.IsProposal (event : BusEvent) : Prop :=
  event.topic = topicProposed ∨ event.topic = topicCreditNoteProposed

/-- The history rows of a credit note, in insertion order. -/
def Db.creditHistoryOf (db : Db) (id : CreditNoteId) : List CreditNoteStateHistory :=
  db.creditHistory.filter fun row => decide (row.creditNoteId = id)

namespace Transition

/-- Whether the command succeeds, and the tables it leaves. -/
def execute (transition : Transition) (db : Db) : Bool × Db :=
  match transition with
  | invoice request _ => ((request.execute db).1.isOk, (request.execute db).2)
  | issueCreditNote ctx input => ((Invoicing.issueCreditNote ctx input db).1.isOk,
      (Invoicing.issueCreditNote ctx input db).2)

/-- The events it offers to its publisher. -/
def published (transition : Transition) (db : Db) : List BusEvent :=
  match transition with
  | invoice request _ => request.published db
  | issueCreditNote ctx input => issueCreditNotePublished ctx input db

/-- The command with a publisher: its events are offered once its transaction is committed, and a refusal
is swallowed. -/
def run (transition : Transition) (publisher : Option Publisher) (db : Db) : Left where
  succeeded := (transition.execute db).1
  after := (transition.execute db).2
  accepted := (transition.published db).foldl (tryPublish publisher) []

/-- The entity of the transition: its row, its lines and its history are as before. -/
def Unchanged (transition : Transition) (before after : Db) : Prop :=
  match transition with
  | invoice request _ => ∀ id, request.On id → after.getInvoice id = before.getInvoice id ∧
      after.linesOf id = before.linesOf id ∧ after.historyOf id = before.historyOf id
  | issueCreditNote _ input =>
      after.getCreditNote input.creditNoteId = before.getCreditNote input.creditNoteId ∧
        after.creditHistoryOf input.creditNoteId = before.creditHistoryOf input.creditNoteId

/-- The publisher refuses the proposed event of the transition. -/
def Vetoed (transition : Transition) (publisher : Publisher) (db : Db) : Prop :=
  ∃ proposed ∈ transition.published db, proposed.IsProposal ∧
    ∃ message, publisher proposed = .error message

end Transition

/-! ### The proposal and the commit -/

/-- The events of a move start with its proposal. -/
theorem Edit.proposes {request : Request} {loaded : Option Invoice} {tx : InvoiceTx} {reply : Reply}
    (edit : Edit request loaded tx) (moves : request.Moves) :
    ∃ proposed later, request.events loaded tx reply = proposed :: later ∧ proposed.IsProposal := by
  cases edit with
  | draft summed => exact moves.elim
  | view verified sent => exact moves.elim
  | _ => exact ⟨_, _, rfl, Or.inl rfl⟩

/-- What an issue of a credit note does: nothing, or the transaction of a draft's issue. -/
theorem issueCreditNote_cases (ctx : CoreCtx) (input : IssueCreditNoteInput) (db : Db) :
    ((issueCreditNote ctx input db).2 = db ∧ issueCreditNotePublished ctx input db = []) ∨
      ∃ (tx : CreditTx) (note : CreditNote), tx.history.creditNoteId = input.creditNoteId ∧
        issueCreditNote ctx input db = (.ok ⟨tx.note⟩, tx.apply db) ∧
        issueCreditNotePublished ctx input db = creditNoteIssuedEvents tx.note note.state tx.note.state
          .issue input.actor input.channel.toHistory ctx.now := by
  unfold issueCreditNotePublished
  rcases performCredit_cases IssueCreditNoteOutput.mk (prepareIssueCreditNote ctx input db) db with
    ⟨same, stop, failed⟩ | ⟨tx, prepared, done⟩
  · refine Or.inl ⟨same, ?_⟩
    have stopped : (issueCreditNote ctx input db).1 = .error stop := failed
    rw [stopped]
  · obtain ⟨note, found, _, rfl⟩ := prepareIssueCreditNote_ok prepared
    have executes : issueCreditNote ctx input db = _ := done
    have owner : note.id = input.creditNoteId := KeyedTable.key_of_find found
    refine Or.inr ⟨_, note, owner, executes, ?_⟩
    rw [executes, found]

namespace Transition

/-- **A transition that writes anything publishes its proposed event first.** -/
theorem proposes {transition : Transition} {db : Db} (wrote : (transition.execute db).2 ≠ db) :
    ∃ proposed later, transition.published db = proposed :: later ∧ proposed.IsProposal := by
  cases transition with
  | invoice request moves =>
    rcases request.published_cases db with ⟨same, _⟩ | ⟨loaded, tx, reply, edit, _, _, publishes⟩
    · exact absurd same wrote
    · show ∃ proposed later, request.published db = proposed :: later ∧ _
      rw [publishes]
      exact edit.proposes moves
  | issueCreditNote ctx input =>
    rcases issueCreditNote_cases ctx input db with ⟨same, _⟩ | ⟨tx, note, _, _, publishes⟩
    · exact absurd same wrote
    · show ∃ proposed later, issueCreditNotePublished ctx input db = proposed :: later ∧ _
      rw [publishes]
      exact ⟨_, _, rfl, Or.inr rfl⟩

/-- A transition that publishes anything has committed a history row of its entity. -/
theorem committed_of_published {transition : Transition} {db : Db}
    (publishes : transition.published db ≠ []) :
    (transition.execute db).1 = true ∧ ¬ transition.Unchanged db (transition.execute db).2 := by
  cases transition with
  | invoice request moves =>
    rcases request.published_cases db with ⟨_, none⟩ | ⟨loaded, tx, reply, edit, _, executes, _⟩
    · exact absurd none publishes
    · refine ⟨?_, fun unchanged => ?_⟩
      · show (request.execute db).1.isOk = true
        rw [executes]
        rfl
      · have rows := (unchanged tx.invoice.id edit.on).2.2
        have after : (execute (invoice request moves) db).2 = tx.apply db := by
          show (request.execute db).2 = _
          rw [executes]
        rw [after, historyOf_apply edit.owners.1] at rows
        exact absurd (congrArg List.length rows) (by simp)
  | issueCreditNote ctx input =>
    rcases issueCreditNote_cases ctx input db with ⟨_, none⟩ | ⟨tx, note, owner, executes, _⟩
    · exact absurd none publishes
    · refine ⟨?_, fun unchanged => ?_⟩
      · show (Invoicing.issueCreditNote ctx input db).1.isOk = true
        rw [executes]
        rfl
      · have rows := unchanged.2
        have after : (execute (issueCreditNote ctx input) db).2 = tx.apply db := by
          show (Invoicing.issueCreditNote ctx input db).2 = _
          rw [executes]
        rw [after] at rows
        have grown : (tx.apply db).creditHistoryOf input.creditNoteId =
            db.creditHistoryOf input.creditNoteId ++ [tx.history] := by
          show (db.creditHistory ++ [tx.history]).filter _ = _
          rw [List.filter_append, List.filter_cons_of_pos (by simpa using owner), List.filter_nil]
          rfl
        rw [grown] at rows
        exact absurd (congrArg List.length rows) (by simp)

end Transition

/-- **A refused proposal stops nothing**: whatever the publisher refuses, the command succeeds and its
transition is committed. -/
theorem veto_ignored {transition : Transition} {publisher : Publisher} {db : Db}
    (vetoed : transition.Vetoed publisher db) :
    (transition.run (some publisher) db).succeeded = true ∧
      ¬ transition.Unchanged db (transition.run (some publisher) db).after := by
  obtain ⟨proposed, member, _, _⟩ := vetoed
  refine Transition.committed_of_published fun none => ?_
  rw [none] at member
  cases member

/-- A publisher that refuses the proposals of invoices. -/
def refuseProposals : Publisher := fun event =>
  if event.topic = topicProposed then .error "refused by policy" else .ok ()

/-- The void of the issued invoice. -/
def voidTransition : Transition :=
  .invoice (.void (sampleCtx (oneOClock firstOfMarch) 3) sampleVoid) True.intro

/-- The payment of 40.00. -/
def paymentTransition : Transition := .invoice partPayment True.intro

/-- **A refused void is committed.** -/
theorem void_despite_veto :
    voidTransition.Vetoed refuseProposals issuedDb ∧
      ¬ voidTransition.Unchanged issuedDb (voidTransition.run (some refuseProposals) issuedDb).after := by
  refine ⟨⟨_, List.mem_cons_self, Or.inl rfl, _, rfl⟩, fun unchanged => ?_⟩
  have row := (unchanged ⟨1⟩ rfl).1
  have states := congrArg (Option.map Invoice.state) row
  revert states
  decide +kernel

/-- A refused payment is committed. -/
theorem payment_despite_veto :
    (paymentTransition.run (some refuseProposals) issuedDb).succeeded = true ∧
      ¬ paymentTransition.Unchanged issuedDb
        (paymentTransition.run (some refuseProposals) issuedDb).after :=
  veto_ignored ⟨_, List.mem_cons_self, Or.inl rfl, _, rfl⟩

end Invoicing
