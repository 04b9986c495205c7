/-
**Paid and voided invoices under concurrency.**

* `TerminalKept` — what is stored as paid or voided stays so.
* `Request.Ends` — a call that, on the row it loaded, ends in a given terminal state: a void, or a
  payment that reaches the total.
* **`terminal_kept_iff`** — in a run of any commands the stored terminal states stay exactly if every
  commit on a paid or voided invoice comes from a call that ends in that same state.
  **`void_overwritten`** — a payment that loaded before a void and commits after it revives the
  invoice.
-/

import Invoicing.Runs.Steps

namespace Invoicing

open Interleave KeyedTable

/-- What is stored as paid or voided stays so. -/
def TerminalKept (before after : Db) : Prop :=
  ∀ id inv, before.getInvoice id = some inv → inv.state.Terminal →
    (after.getInvoice id).map Invoice.state = some inv.state

/-- On the row it loaded, the call ends in this terminal state. -/
def Request.Ends (request : Request) (loaded : Option Invoice) (state : InvoiceState) : Prop :=
  match request, state with
  | .void _ _, .voided => True
  | .markPaid ctx input, .paid =>
      ∃ inv sum, loaded = some inv ∧ ctx.arith.add inv.amountPaid input.amount = some sum ∧
        FullPayment sum inv.total
  | _, _ => False

/-- A commit on a paid or voided invoice comes from a call that ends in the stored state. -/
def EndsAsStored (db : Db) (request : Request) (loaded : Option Invoice) (tx : InvoiceTx) : Prop :=
  ∀ inv, db.getInvoice tx.invoice.id = some inv → inv.state.Terminal →
    request.Ends loaded inv.state

/-- **The terminal state a write set leaves** is the one its call ends in. -/
theorem Edit.ends_iff {request : Request} {loaded : Option Invoice} {tx : InvoiceTx}
    (edit : Edit request loaded tx) {state : InvoiceState} (terminal : state.Terminal) :
    tx.invoice.state = state ↔ request.Ends loaded state := by
  cases edit with
  | markPaid target positive summed accepted =>
    rename_i ctx input inv amountPaid toState
    obtain ⟨_, result⟩ := nextState_pay accepted
    rcases terminal with rfl | rfl
    · constructor
      · intro paid
        have toPaid : toState = .paid := paid
        rcases result with ⟨full, _⟩ | ⟨_, partPaid⟩
        · exact ⟨inv, amountPaid, rfl, summed, full⟩
        · rw [partPaid] at toPaid
          cases toPaid
      · rintro ⟨inv', sum, same, summed', full⟩
        cases same
        rw [summed] at summed'
        cases summed'
        rcases result with ⟨_, paid⟩ | ⟨notFull, _⟩
        · exact paid
        · exact absurd full notFull
    · refine iff_of_false ?_ id
      intro voided
      have toVoided : toState = .voided := voided
      rcases result with ⟨_, paid⟩ | ⟨_, partPaid⟩
      · rw [paid] at toVoided
        cases toVoided
      · rw [partPaid] at toVoided
        cases toVoided
  | void target accepted =>
    obtain ⟨_, voided⟩ := nextState_void accepted
    rcases terminal with rfl | rfl
    · refine iff_of_false ?_ id
      intro paid
      have toPaid : _ = InvoiceState.paid := voided.symm.trans paid
      cases toPaid
    · exact iff_of_true voided trivial
  | _ =>
    rcases terminal with rfl | rfl
    · refine iff_of_false ?_ id
      intro same
      cases same
    · refine iff_of_false ?_ id
      intro same
      cases same

/-- **A commit keeps the terminal states exactly if it ends as stored.** -/
theorem terminalKept_apply_iff {request : Request} {loaded : Option Invoice} {tx : InvoiceTx}
    (edit : Edit request loaded tx) (db : Db) :
    TerminalKept db (tx.apply db) ↔ EndsAsStored db request loaded tx := by
  constructor
  · intro kept inv found terminal
    obtain ⟨createdAt, written⟩ := InvoiceTx.getInvoice_apply_self tx db
    have after := kept _ _ found terminal
    rw [written] at after
    exact (edit.ends_iff terminal).mp (Option.some.inj after)
  · intro ends id inv found terminal
    by_cases same : id = tx.invoice.id
    · subst same
      obtain ⟨createdAt, written⟩ := InvoiceTx.getInvoice_apply_self tx db
      have state := (edit.ends_iff terminal).mpr (ends inv found terminal)
      rw [written]
      show some tx.invoice.state = some inv.state
      rw [state]
    · rw [InvoiceTx.getInvoice_apply_other db same, found]
      rfl

theorem TerminalKept.refl (db : Db) : TerminalKept db db := by
  intro id inv found _
  rw [found]
  rfl

theorem TerminalKept.trans {first second third : Db} (one : TerminalKept first second)
    (two : TerminalKept second third) : TerminalKept first third := by
  intro id inv found terminal
  obtain ⟨middle, foundMiddle, same⟩ := Option.map_eq_some_iff.mp (one id inv found terminal)
  rw [← same] at terminal ⊢
  exact two id middle foundMiddle terminal

/-- What holds of each run at every moment, whatever commits. -/
theorem wellFormed_rules :
    Rules advance (fun _ _ => True) (fun _ => True) (fun _ run => run.WellFormed)
      (fun _ _ => True) where
  store := fun _ _ _ _ _ => trivial
  own := fun db _ _ wellFormed _ => advance_wellFormed wellFormed db
  others := fun _ _ _ _ _ wellFormed _ _ => wellFormed
  apart := fun _ _ _ _ _ _ _ _ => trivial
  symm := fun _ _ _ => trivial

/-- **Paid and voided are terminal in a run exactly if every commit on a paid or voided invoice ends
in the stored state.** The run is any interleaving of any number of calls of the invoice commands,
from any tables. -/
theorem terminal_kept_iff {pool : Pool Db Run} (starting : Starting pool.runs) (order : List ℕ) :
    (∀ m n, m ≤ n →
        TerminalKept (pool.exec advance (order.take m)).store
          (pool.exec advance (order.take n)).store) ↔
      AllTurns advance (OnCommit EndsAsStored) pool order := by
  have holds : Holds (fun _ => True) (fun _ run => run.WellFormed) (fun _ _ => True) pool :=
    ⟨trivial, fun _ run found => starting.wellFormed run (List.mem_of_getElem? found),
      fun _ _ _ _ _ _ _ => trivial⟩
  refine relates_iff_allTurns wellFormed_rules TerminalKept.refl (fun _ _ _ => TerminalKept.trans)
    ?_ holds order
  intro db run _ wellFormed
  refine advance_relates_iff (TerminalKept.refl db) ?_ ?_
  · intro db' invoices _ _ _ id inv found _
    unfold Db.getInvoice at found ⊢
    rw [invoices, found]
    rfl
  · rintro request loaded tx reply rfl db' committed
    rw [(InvoiceTx.commit_ok committed).1]
    exact terminalKept_apply_iff wellFormed db

/-- A draft, its issue, a payment in full and a void. -/
def payAndVoid : Pool Db Run where
  store := sampleDb
  runs :=
    [.start (.draft (sampleCtx (oneOClock firstOfMarch) 1) sampleDraft),
      .start (.issue (sampleCtx (oneOClock firstOfMarch) 2) sampleIssue),
      .start (.markPaid (sampleCtx (oneOClock firstOfMarch) 3) (samplePayment 10000 fits_hundred)),
      .start (.void (sampleCtx (oneOClock firstOfMarch) 4) sampleVoid)]

theorem payAndVoid_starting : Starting payAndVoid.runs := by
  intro run member
  simp only [payAndVoid, List.mem_cons, List.not_mem_nil, or_false] at member
  rcases member with rfl | rfl | rfl | rfl <;> exact Or.inl ⟨_, rfl⟩

/-- The payment loads, the void loads and commits, the payment commits: voided becomes paid. -/
theorem void_overwritten :
    Starting payAndVoid.runs ∧
      ¬ TerminalKept (payAndVoid.exec advance [0, 0, 1, 1, 1, 2, 3, 3]).store
        (payAndVoid.exec advance [0, 0, 1, 1, 1, 2, 3, 3, 2]).store := by
  refine ⟨payAndVoid_starting, ?_⟩
  intro kept
  have before : ((payAndVoid.exec advance [0, 0, 1, 1, 1, 2, 3, 3]).store.getInvoice ⟨1⟩).map
      Invoice.state = some .voided := by decide +kernel
  have after : ((payAndVoid.exec advance [0, 0, 1, 1, 1, 2, 3, 3, 2]).store.getInvoice ⟨1⟩).map
      Invoice.state = some .paid := by decide +kernel
  obtain ⟨inv, found, voided⟩ := Option.map_eq_some_iff.mp before
  have stays := kept _ _ found (by rw [voided]; exact Or.inr rfl)
  rw [after, voided] at stays
  cases stays

theorem terminal_kept_iff_pay_and_void :
    (∀ m n, m ≤ n →
        TerminalKept (payAndVoid.exec advance ([0, 0, 1, 1, 1, 2, 3, 3, 2].take m)).store
          (payAndVoid.exec advance ([0, 0, 1, 1, 1, 2, 3, 3, 2].take n)).store) ↔
      AllTurns advance (OnCommit EndsAsStored) payAndVoid [0, 0, 1, 1, 1, 2, 3, 3, 2] :=
  terminal_kept_iff payAndVoid_starting _

end Invoicing
