/-
**The sum paid and the payments on record.**

* `recordedAmount`, `paidSum` — the amount a `pay` history row records, and the sum over an invoice's
  rows.
* `Balanced` — every stored `amount_paid` is the sum of the recorded payments.
* `Edit.amount` — what a write set does to the sum: the loaded sum plus what it records.
* **`balanced_iff_loaded_current`** — in a run of any commands from an empty invoice table the books
  balance at every moment exactly if no commit goes through whose loaded `amount_paid` differs from
  the stored one. **`lost_payment`** — two payments that load before either commits break it.
-/

import Invoicing.Runs.Steps

namespace Invoicing

open Interleave KeyedTable

/-! ### Recorded payments -/

/-- The amount a history row records, when it is the row of a payment. -/
def recordedAmount (row : InvoiceStateHistory) : ℚ :=
  if row.event = "pay" then
    ((row.metadata.lookup "amount").bind Decimal.fromStr).elim 0 Decimal.value
  else 0

/-- The sum of the payments recorded for an invoice. -/
def paidSum (db : Db) (id : InvoiceId) : ℚ := ((db.historyOf id).map recordedAmount).sum

/-- Every stored `amount_paid` is the sum of the recorded payments. -/
def Balanced (db : Db) : Prop :=
  ∀ id inv, db.getInvoice id = some inv → inv.amountPaid.value = paidSum db id

/-- The sum paid on a row, nothing when there is no row. -/
def paidOn (row : Option Invoice) : ℚ := row.elim 0 fun inv => inv.amountPaid.value

/-- A commit that finds the sum paid it loaded. -/
def LoadedPaid (db : Db) (_ : Request) (loaded : Option Invoice) (tx : InvoiceTx) : Prop :=
  paidOn loaded = paidOn (db.getInvoice tx.invoice.id)

/-- **What a write set does to the sum paid.** -/
theorem Edit.amount {request : Request} {loaded : Option Invoice} {tx : InvoiceTx}
    (edit : Edit request loaded tx) (exact' : request.ctx.arith.ExactAdd) :
    tx.invoice.amountPaid.value = paidOn loaded + recordedAmount tx.history := by
  have other : ∀ {row : InvoiceStateHistory}, row.event ≠ "pay" → recordedAmount row = 0 :=
    fun different => if_neg different
  cases edit with
  | draft summed =>
    rw [other (by show "draft" ≠ "pay"; decide), add_zero]
    exact Decimal.value_zero
  | issue draft toState target owners =>
    rw [other (by show "issue" ≠ "pay"; decide), add_zero]
    rfl
  | send target open' =>
    rw [other (by show "send" ≠ "pay"; decide), add_zero]
    rfl
  | sendRender target open' =>
    rw [other (by show "send" ≠ "pay"; decide), add_zero]
    rfl
  | view verified sent =>
    rw [other (by show "view" ≠ "pay"; decide), add_zero]
    rfl
  | @markPaid ctx input inv amountPaid toState target positive summed accepted =>
    have recorded : recordedAmount (payTx ctx input inv amountPaid toState).history =
        input.amount.value := by
      show ((List.lookup "amount" [("amount", input.amount.toString)]).bind
        Decimal.fromStr).elim 0 Decimal.value = _
      simp [Decimal.fromStr_toString]
    rw [recorded]
    exact exact' _ _ _ summed
  | void target accepted =>
    rw [other (by show "void" ≠ "pay"; decide), add_zero]
    rfl

/-! ### One commit -/

theorem paidSum_apply {tx : InvoiceTx} (owner : tx.history.invoiceId = tx.invoice.id) (db : Db)
    (id : InvoiceId) :
    paidSum (tx.apply db) id =
      paidSum db id + if id = tx.invoice.id then recordedAmount tx.history else 0 := by
  unfold paidSum Db.historyOf InvoiceTx.apply
  rw [List.filter_append, List.map_append, List.sum_append]
  congr 1
  by_cases mine : id = tx.invoice.id
  · simp [owner, mine]
  · simp [owner, mine, Ne.symm mine]

/-- History rows belong to stored invoices. -/
def HistoryOwned (db : Db) : Prop :=
  ∀ row ∈ db.history, db.getInvoice row.invoiceId ≠ none

theorem paidSum_of_absent {db : Db} (owned : HistoryOwned db) {id : InvoiceId}
    (absent : db.getInvoice id = none) : paidSum db id = 0 := by
  have none' : db.historyOf id = [] := by
    refine List.filter_eq_nil_iff.mpr ?_
    intro row member
    have stored := owned row member
    rintro same
    exact stored (by rw [of_decide_eq_true same]; exact absent)
  rw [paidSum, none', List.map_nil, List.sum_nil]

theorem Balanced.paidOn_eq {db : Db} (balanced : Balanced db) (owned : HistoryOwned db)
    (id : InvoiceId) : paidOn (db.getInvoice id) = paidSum db id := by
  cases found : db.getInvoice id with
  | none => exact (paidSum_of_absent owned found).symm
  | some inv => exact balanced id inv found

/-- **A commit keeps the books balanced exactly if it finds the sum paid it loaded.** -/
theorem balanced_apply_iff {request : Request} {loaded : Option Invoice} {tx : InvoiceTx} {db : Db}
    (edit : Edit request loaded tx) (exact' : request.ctx.arith.ExactAdd) (owned : HistoryOwned db)
    (balanced : Balanced db) : Balanced (tx.apply db) ↔ LoadedPaid db request loaded tx := by
  have owner := edit.owners.1
  have amount := edit.amount exact'
  have stored := balanced.paidOn_eq owned tx.invoice.id
  unfold LoadedPaid
  constructor
  · intro after
    obtain ⟨createdAt, mine⟩ := InvoiceTx.getInvoice_apply_self tx db
    have sums := after _ _ mine
    change tx.invoice.amountPaid.value = _ at sums
    rw [amount, paidSum_apply owner, if_pos rfl, ← stored] at sums
    linarith
  · intro current id inv found
    rw [paidSum_apply owner]
    rcases InvoiceTx.getInvoice_apply_cases found with ⟨other, before⟩ | ⟨rfl, createdAt, rfl⟩
    · rw [if_neg other, add_zero]
      exact balanced id inv before
    · show tx.invoice.amountPaid.value = _
      rw [amount, if_pos rfl, ← stored, current]

/-! ### Runs -/

/-- Decimal sums of a run's call are exact. -/
def Run.Exact (run : Run) : Prop :=
  ∀ request, run.request? = some request → request.ctx.arith.ExactAdd

theorem historyOwned_apply {tx : InvoiceTx} (owner : tx.history.invoiceId = tx.invoice.id)
    {db : Db} (owned : HistoryOwned db) : HistoryOwned (tx.apply db) := by
  intro row member
  have split : row ∈ db.history ++ [tx.history] := member
  rw [InvoiceTx.getInvoice_apply]
  by_cases mine : row.invoiceId = tx.invoice.id
  · rw [if_pos mine]
    simp
  · rw [if_neg mine]
    rcases List.mem_append.mp split with before | new
    · exact owned row before
    · rw [List.mem_singleton.mp new] at mine
      exact absurd owner mine

/-- What holds of the tables and of each run at every moment, whatever commits. -/
theorem payment_rules :
    Rules advance (fun _ _ => True) HistoryOwned (fun _ run => run.WellFormed ∧ run.Exact)
      (fun _ _ => True) where
  store := by
    intro db run owned good _
    rcases advance_cases run db with same | ⟨request, loaded, tx, reply, rfl, committed, _⟩ |
      ⟨write, _, _, invoices, _, history, _⟩
    · rw [same]
      exact owned
    · rw [(InvoiceTx.commit_ok committed).1]
      exact historyOwned_apply (Edit.owners good.1).1 owned
    · intro row member
      rw [history] at member
      have stored := owned row member
      unfold Db.getInvoice at stored ⊢
      rw [invoices]
      exact stored
  own := by
    intro db run _ good _
    refine ⟨advance_wellFormed good.1 db, ?_⟩
    intro request same
    rw [advance_request] at same
    exact good.2 request same
  others := fun _ _ _ _ _ good _ _ => good
  apart := fun _ _ _ _ _ _ _ _ => trivial
  symm := fun _ _ _ => trivial

/-- **The books balance throughout exactly if every commit finds the sum paid it loaded.** The run
is any interleaving of any number of calls of the invoice commands, from an empty invoice table. -/
theorem balanced_iff_loaded_current {pool : Pool Db Run} (starting : Starting pool.runs)
    (noInvoices : pool.store.invoices = []) (noHistory : pool.store.history = [])
    (exact' : ∀ run ∈ pool.runs, run.Exact) (order : List ℕ) :
    (∀ n, Balanced (pool.exec advance (order.take n)).store) ↔
      AllTurns advance (OnCommit LoadedPaid) pool order := by
  have holds : Holds HistoryOwned (fun _ run => run.WellFormed ∧ run.Exact) (fun _ _ => True)
      pool := by
    refine ⟨?_, ?_, fun _ _ _ _ _ _ _ => trivial⟩
    · intro row member
      rw [noHistory] at member
      cases member
    · intro i run found
      have member := List.mem_of_getElem? found
      exact ⟨starting.wellFormed run member, exact' run member⟩
  have start : Balanced pool.store := by
    intro id inv found
    unfold Db.getInvoice at found
    rw [noInvoices] at found
    cases found
  have turn : ∀ db run, HistoryOwned db → (run.WellFormed ∧ run.Exact) → Balanced db →
      (Balanced (advance run db).2 ↔ OnCommit LoadedPaid db run) := by
    intro db run owned good balanced
    refine advance_relates_iff (R := fun _ after => Balanced after) balanced ?_ ?_
    · intro db' invoices _ history _ id inv found
      unfold Db.getInvoice at found
      rw [invoices] at found
      unfold paidSum Db.historyOf
      rw [history]
      exact balanced id inv found
    · rintro request loaded tx reply rfl db' committed
      rw [(InvoiceTx.commit_ok committed).1]
      exact balanced_apply_iff good.1 (good.2 request rfl) owned balanced
  rw [← always_iff_allTurns payment_rules turn holds start order, always_iff_take]

/-- A draft, its issue, and payments of 40.00 and 60.00. -/
def twoPayments : Pool Db Run where
  store := sampleDb
  runs :=
    [.start (.draft (sampleCtx (oneOClock firstOfMarch) 1) sampleDraft),
      .start (.issue (sampleCtx (oneOClock firstOfMarch) 2) sampleIssue),
      .start (.markPaid (sampleCtx (oneOClock firstOfMarch) 3) (samplePayment 4000 fits_forty)),
      .start (.markPaid (sampleCtx (oneOClock firstOfMarch) 4) (samplePayment 6000 (by decide)))]

theorem twoPayments_starting : Starting twoPayments.runs := by
  intro run member
  simp only [twoPayments, List.mem_cons, List.not_mem_nil, or_false] at member
  rcases member with rfl | rfl | rfl | rfl <;> exact Or.inl ⟨_, rfl⟩

theorem twoPayments_exact : ∀ run ∈ twoPayments.runs, run.Exact := by
  intro run member request same
  simp only [twoPayments, List.mem_cons, List.not_mem_nil, or_false] at member
  rcases member with rfl | rfl | rfl | rfl <;> cases same <;> exact Arith.exact_exactAdd

/-- Both payments load, then both commit: 100.00 is on record and 60.00 is stored. -/
theorem lost_payment :
    Starting twoPayments.runs ∧ twoPayments.store.invoices = [] ∧ twoPayments.store.history = [] ∧
      ¬ Balanced (twoPayments.exec advance [0, 0, 1, 1, 1, 2, 3, 2, 3]).store := by
  refine ⟨twoPayments_starting, rfl, rfl, ?_⟩
  intro balanced
  have stored : ((twoPayments.exec advance [0, 0, 1, 1, 1, 2, 3, 2, 3]).store.getInvoice ⟨1⟩).map
      (fun inv => inv.amountPaid.value) = some 60 := by decide +kernel
  have recorded : paidSum (twoPayments.exec advance [0, 0, 1, 1, 1, 2, 3, 2, 3]).store ⟨1⟩ = 100 := by
    decide +kernel
  obtain ⟨inv, found, sixty⟩ := Option.map_eq_some_iff.mp stored
  rw [balanced _ _ found, recorded] at sixty
  exact absurd sixty (by norm_num)

theorem balanced_iff_two_payments :
    (∀ n, Balanced (twoPayments.exec advance ([0, 0, 1, 1, 1, 2, 3, 2, 3].take n)).store) ↔
      AllTurns advance (OnCommit LoadedPaid) twoPayments [0, 0, 1, 1, 1, 2, 3, 2, 3] :=
  balanced_iff_loaded_current twoPayments_starting rfl rfl twoPayments_exact _

end Invoicing
