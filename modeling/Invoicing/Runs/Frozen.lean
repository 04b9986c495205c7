/-
**What issuing freezes.**

* `Invoice.frozen`, `FrozenKept` — number, issue time and sums of a numbered invoice, and its lines,
  stay as they are.
* `Request.Rewrites` — the calls that write these fields anew: drafts and issues. Every other write
  set repeats them from the row it loaded (`Edit.keeps`).
* `FindsUnnumbered` — a draft or issue that commits on an invoice without a number.
* **`issued_frozen`** — if every such commit does, numbered invoices stay frozen through every run of
  any commands, and no two issues of one invoice succeed. **`issued_twice`** — two issues that load
  one draft before either commits both succeed, and the second renumbers the invoice.
-/

import Invoicing.Runs.Steps

namespace Invoicing

open Interleave KeyedTable

/-! ### Frozen fields -/

/-- What issuing freezes on the row. -/
def Invoice.frozen (inv : Invoice) :
    Option String × Option Chrono.DateTime × Decimal × Decimal × Decimal :=
  (inv.number, inv.issuedAt, inv.subtotal, inv.taxTotal, inv.total)

/-- Numbered invoices keep their frozen fields and their lines. -/
def FrozenKept (before after : Db) : Prop :=
  ∀ id inv, before.getInvoice id = some inv → inv.number ≠ none →
    (after.getInvoice id).map Invoice.frozen = some inv.frozen ∧
      after.linesOf id = before.linesOf id

theorem number_of_frozen {inv other : Invoice} (same : inv.frozen = other.frozen) :
    inv.number = other.number := congrArg Prod.fst same

theorem FrozenKept.refl (db : Db) : FrozenKept db db := by
  intro id inv found _
  rw [found]
  exact ⟨rfl, rfl⟩

theorem FrozenKept.trans {first second third : Db} (one : FrozenKept first second)
    (two : FrozenKept second third) : FrozenKept first third := by
  intro id inv found numbered
  obtain ⟨fields, lines⟩ := one id inv found numbered
  obtain ⟨middle, foundMiddle, same⟩ := Option.map_eq_some_iff.mp fields
  obtain ⟨fields', lines'⟩ := two id middle foundMiddle
    (by rw [number_of_frozen same]; exact numbered)
  exact ⟨by rw [fields', same], by rw [lines', lines]⟩

/-- The call writes the frozen fields anew. -/
def Request.Rewrites : Request → Prop
  | .draft _ _ | .issue _ _ => True
  | _ => False

instance : DecidablePred Request.Rewrites
  | .draft _ _ | .issue _ _ => .isTrue trivial
  | .send _ _ | .sendRender _ _ | .view _ _ | .markPaid _ _ | .void _ _ => .isFalse id

/-- **Every other write set repeats the frozen fields of the row it loaded.** -/
theorem Edit.keeps {request : Request} {loaded : Option Invoice} {tx : InvoiceTx}
    (edit : Edit request loaded tx) (keeps : ¬ request.Rewrites) :
    ∃ inv, loaded = some inv ∧ inv.state ≠ .draft ∧ inv.id = tx.invoice.id ∧
      tx.invoice.frozen = inv.frozen ∧ tx.lines = none := by
  cases edit with
  | draft summed => exact absurd trivial keeps
  | issue draft toState target owners => exact absurd trivial keeps
  | send target open' =>
    refine ⟨_, rfl, ?_, rfl, rfl, rfl⟩
    rcases open' with issued | sent
    · rw [issued]; decide
    · rw [sent]; decide
  | sendRender target open' =>
    refine ⟨_, rfl, ?_, rfl, rfl, rfl⟩
    rcases open' with issued | sent
    · rw [issued]; decide
    · rw [sent]; decide
  | view verified sent =>
    refine ⟨_, rfl, ?_, rfl, rfl, rfl⟩
    rw [sent]
    decide
  | markPaid target positive summed accepted =>
    exact ⟨_, rfl, (nextState_pay accepted).1, rfl, rfl, rfl⟩
  | void target accepted => exact ⟨_, rfl, (nextState_void accepted).1, rfl, rfl, rfl⟩

/-! ### Numbers -/

/-- Whatever is no draft has a number. -/
def Numbered (db : Db) : Prop :=
  ∀ id inv, db.getInvoice id = some inv → inv.state ≠ .draft → inv.number ≠ none

/-- A write set leaves a number on whatever is no draft, if the row it loaded has one. -/
theorem Edit.numbered {request : Request} {loaded : Option Invoice} {tx : InvoiceTx}
    (edit : Edit request loaded tx)
    (before : ∀ inv, loaded = some inv → inv.state ≠ .draft → inv.number ≠ none) :
    tx.invoice.state ≠ .draft → tx.invoice.number ≠ none := by
  intro notDraft
  by_cases rewrites : request.Rewrites
  · cases edit with
    | draft summed => exact absurd rfl notDraft
    | issue draft toState target owners => exact Option.some_ne_none _
    | _ => exact absurd rewrites id
  · obtain ⟨inv, loaded, wasNoDraft, _, frozen, _⟩ := edit.keeps rewrites
    rw [number_of_frozen frozen]
    exact before inv loaded wasNoDraft

theorem numbered_apply {tx : InvoiceTx} {db : Db} (numbered : Numbered db)
    (written : tx.invoice.state ≠ .draft → tx.invoice.number ≠ none) :
    Numbered (tx.apply db) := by
  intro id inv found notDraft
  rcases InvoiceTx.getInvoice_apply_cases found with ⟨_, before⟩ | ⟨_, createdAt, rfl⟩
  · exact numbered id inv before notDraft
  · exact written notDraft

/-! ### One commit -/

/-- A draft or issue commits on an invoice without a number. -/
def FindsUnnumbered (db : Db) (request : Request) (_ : Option Invoice) (tx : InvoiceTx) : Prop :=
  request.Rewrites → ∀ inv, db.getInvoice tx.invoice.id = some inv → inv.number = none

instance (db : Db) (request : Request) (loaded : Option Invoice) (tx : InvoiceTx) :
    Decidable (FindsUnnumbered db request loaded tx) :=
  inferInstanceAs (Decidable (_ → ∀ inv ∈ db.getInvoice tx.invoice.id, inv.number = none))

/-- The row was loaded with its number, and the stored row still has the same frozen fields. -/
def Current (db : Db) (loaded : Option Invoice) : Prop :=
  ∀ inv, loaded = some inv → inv.state ≠ .draft →
    inv.number ≠ none ∧ (db.getInvoice inv.id).map Invoice.frozen = some inv.frozen

/-- **A commit keeps numbered invoices frozen** if it finds no number where it writes one. -/
theorem frozenKept_apply {request : Request} {loaded : Option Invoice} {tx : InvoiceTx} {db : Db}
    (edit : Edit request loaded tx) (current : Current db loaded)
    (finds : FindsUnnumbered db request loaded tx) : FrozenKept db (tx.apply db) := by
  intro id inv found numbered
  by_cases same : id = tx.invoice.id
  · subst same
    by_cases rewrites : request.Rewrites
    · exact absurd (finds rewrites inv found) numbered
    · obtain ⟨loadedRow, rfl, notDraft, sameId, frozen, noLines⟩ := edit.keeps rewrites
      obtain ⟨_, stored⟩ := current loadedRow rfl notDraft
      rw [sameId, found] at stored
      refine ⟨?_, ?_⟩
      · obtain ⟨createdAt, written⟩ := InvoiceTx.getInvoice_apply_self tx db
        rw [written]
        show some tx.invoice.frozen = some inv.frozen
        rw [frozen]
        exact stored.symm
      · unfold Db.linesOf InvoiceTx.apply
        rw [noLines]
        rfl
  · refine ⟨?_, InvoiceTx.linesOf_apply edit.lines_owner same⟩
    rw [InvoiceTx.getInvoice_apply_other db same, found]
    rfl

theorem Current.mono {before after : Db} (kept : FrozenKept before after) {loaded : Option Invoice}
    (current : Current before loaded) : Current after loaded := by
  intro inv same notDraft
  obtain ⟨numbered, stored⟩ := current inv same notDraft
  obtain ⟨row, found, frozen⟩ := Option.map_eq_some_iff.mp stored
  refine ⟨numbered, ?_⟩
  rw [(kept _ row found (by rw [number_of_frozen frozen]; exact numbered)).1, frozen]

/-! ### Runs -/

/-- The invoice a run has issued. -/
def Run.issued? : Run → Option InvoiceId
  | .finished (.issue _ input) (.ok _) => some input.invoiceId
  | _ => none

/-- An invoice is stored with a number. -/
def HasNumber (db : Db) (id : InvoiceId) : Prop :=
  ∃ inv, db.getInvoice id = some inv ∧ inv.number ≠ none

/-- Two runs have not issued the same invoice. -/
def IssuedApart (run other : Run) : Prop := ∀ id, run.issued? = some id → other.issued? ≠ some id

/-- What holds of a run while numbered invoices stay frozen. -/
structure Run.Fresh (db : Db) (run : Run) : Prop where
  wellFormed : run.WellFormed
  current : ∀ request loaded tx reply, run = .committing request loaded tx reply →
    Current db loaded
  issued : ∀ id, run.issued? = some id → HasNumber db id

theorem HasNumber.mono {before after : Db} (kept : FrozenKept before after) {id : InvoiceId}
    (has : HasNumber before id) : HasNumber after id := by
  obtain ⟨inv, found, numbered⟩ := has
  obtain ⟨row, foundAfter, frozen⟩ := Option.map_eq_some_iff.mp (kept id inv found numbered).1
  exact ⟨row, foundAfter, by rw [number_of_frozen frozen]; exact numbered⟩

theorem Run.Fresh.mono {before after : Db} (kept : FrozenKept before after) {run : Run}
    (fresh : run.Fresh before) : run.Fresh after where
  wellFormed := fresh.wellFormed
  current := fun request loaded tx reply same => (fresh.current request loaded tx reply same).mono kept
  issued := fun id same => (fresh.issued id same).mono kept

theorem prepared_issued {α : Type} {request : Request} {reply : α → Reply}
    {result : CoreResult (Prepared α)} (issue : ∀ ctx input, request ≠ .issue ctx input) :
    (prepared request reply result).issued? = none := by
  unfold prepared
  split
  · cases request <;> rfl
  · cases request with
    | issue ctx input => exact absurd rfl (issue ctx input)
    | _ => rfl
  · rfl

/-- **Only a commit of an issue issues.** -/
theorem issued_after {run : Run} {db : Db} {id : InvoiceId}
    (issued : (advance run db).1.issued? = some id) :
    run.issued? = some id ∨ ∃ ctx input loaded tx reply,
      run = .committing (.issue ctx input) loaded tx reply ∧ input.invoiceId = id ∧
        tx.commit db = .ok (advance run db).2 := by
  cases run with
  | start request =>
    refine absurd issued ?_
    cases request with
    | issue ctx input =>
      simp only [advance, Request.load]
      split <;> simp [Run.issued?]
    | view state token =>
      simp only [advance, Request.load]
      split <;> simp [Run.issued?]
    | _ =>
      simp only [advance, Request.load]
      rw [prepared_issued (by intro ctx input same; cases same)]
      exact Option.some_ne_none id ∘ Eq.symm
  | counting ctx input ready =>
    refine absurd issued ?_
    simp only [advance]
    cases done : finishIssue ctx input ready (countInvoicesIssuedInYear db ctx.now.year) with
    | error e => simp [prepared, Run.issued?]
    | ok result =>
      obtain ⟨blobRef, html, pdf, rfl⟩ := finishIssue_write done
      simp [prepared, Run.issued?]
  | committing request loaded tx reply =>
    simp only [advance] at issued ⊢
    cases committed : tx.commit db with
    | error e =>
      rw [committed] at issued
      cases request <;> cases issued
    | ok db' =>
      rw [committed] at issued
      cases request with
      | issue ctx input =>
        cases issued
        exact Or.inr ⟨ctx, input, loaded, tx, reply, rfl, rfl, committed⟩
      | _ => cases issued
  | finished request outcome => exact Or.inl issued
  | elsewhere write => cases issued

/-- The write set of an issue numbers the invoice it was asked for. -/
theorem Edit.issue_target {ctx : CoreCtx} {input : IssueInvoiceInput} {loaded : Option Invoice}
    {tx : InvoiceTx} (edit : Edit (.issue ctx input) loaded tx) :
    tx.invoice.id = input.invoiceId ∧ tx.invoice.number ≠ none := by
  cases edit with
  | issue draft toState target owners => exact ⟨target, Option.some_ne_none _⟩

theorem hasNumber_apply {tx : InvoiceTx} (db : Db) (numbered : tx.invoice.number ≠ none) :
    HasNumber (tx.apply db) tx.invoice.id := by
  obtain ⟨createdAt, stored⟩ := InvoiceTx.getInvoice_apply_self tx db
  exact ⟨_, stored, numbered⟩

/-- **A step keeps numbered invoices frozen** if its commit meets the condition. -/
theorem advance_frozen {run : Run} {db : Db} (fresh : run.Fresh db)
    (turn : OnCommit FindsUnnumbered db run) : FrozenKept db (advance run db).2 := by
  rcases advance_cases run db with same | ⟨request, loaded, tx, reply, rfl, committed, _⟩ |
    ⟨write, rfl, _, invoices, lines, _⟩
  · rw [same]
    exact FrozenKept.refl db
  · rw [(InvoiceTx.commit_ok committed).1]
    exact frozenKept_apply fresh.wellFormed (fresh.current _ _ _ _ rfl)
      (turn _ _ _ _ rfl (not_refused committed))
  · intro id inv found _
    unfold Db.getInvoice at found ⊢
    unfold Db.linesOf
    rw [invoices, lines, found]
    exact ⟨rfl, rfl⟩

/-- What holds of the tables and the runs while the condition is met. -/
theorem frozen_rules :
    Rules advance (OnCommit FindsUnnumbered) Numbered (fun db run => run.Fresh db) IssuedApart where
  store := by
    intro db run numbered fresh _
    rcases advance_cases run db with same | ⟨request, loaded, tx, reply, rfl, committed, _⟩ |
      ⟨write, rfl, _, invoices, _⟩
    · rw [same]
      exact numbered
    · rw [(InvoiceTx.commit_ok committed).1]
      exact numbered_apply numbered (Edit.numbered fresh.wellFormed fun inv same notDraft =>
        (fresh.current _ _ _ _ rfl inv same notDraft).1)
    · intro id inv found notDraft
      unfold Db.getInvoice at found
      rw [invoices] at found
      exact numbered id inv found notDraft
  own := by
    intro db run numbered fresh turn
    have kept := advance_frozen fresh turn
    refine ⟨advance_wellFormed fresh.wellFormed db, ?_, ?_⟩
    · intro request loaded tx reply there inv same notDraft
      subst same
      cases run with
      | start request' =>
        obtain ⟨rfl, _, stored⟩ := load_committing there
        have found := stored inv rfl
        refine ⟨numbered _ _ found notDraft, ?_⟩
        show (db.getInvoice inv.id).map Invoice.frozen = _
        rw [found]
        rfl
      | counting ctx input ready =>
        obtain ⟨_, loaded, _⟩ := counting_committing fresh.wellFormed there
        cases loaded
        exact absurd fresh.wellFormed.draft notDraft
      | committing request' loaded' tx' reply' =>
        simp only [advance] at there
        split at there <;> cases there
      | finished request' outcome => cases there
      | elsewhere write => cases there
    · intro id issued
      rcases issued_after issued with before | ⟨ctx, input, loaded, tx, reply, rfl, rfl, committed⟩
      · exact (fresh.issued id before).mono kept
      · obtain ⟨target, number⟩ := Edit.issue_target fresh.wellFormed
        rw [(InvoiceTx.commit_ok committed).1, ← target]
        exact hasNumber_apply db number
  others := fun db run other _ fresh otherFresh _ turn => otherFresh.mono (advance_frozen fresh turn)
  apart := by
    intro db run other _ fresh otherFresh apart turn id issued
    rcases issued_after issued with before | ⟨ctx, input, loaded, tx, reply, rfl, rfl, committed⟩
    · exact apart id before
    · intro sameIssued
      obtain ⟨inv, found, numbered⟩ := otherFresh.issued _ sameIssued
      rw [← (Edit.issue_target fresh.wellFormed).1] at found
      exact numbered (turn _ _ _ _ rfl (not_refused committed) trivial inv found)
  symm := fun run other apart id issued same => apart id same issued

/-- **Issued invoices are frozen, and issued once**, in every run whose drafts and issues commit on
invoices without a number. The run is any interleaving of any number of calls of the invoice
commands, from an empty invoice table. -/
theorem issued_frozen {pool : Pool Db Run} (starting : Starting pool.runs)
    (noInvoices : pool.store.invoices = []) {order : List ℕ}
    (turns : AllTurns advance (OnCommit FindsUnnumbered) pool order) :
    (∀ m n, m ≤ n →
        FrozenKept (pool.exec advance (order.take m)).store
          (pool.exec advance (order.take n)).store) ∧
      ∀ (n i j : ℕ) run other, i ≠ j → (pool.exec advance (order.take n)).runs[i]? = some run →
        (pool.exec advance (order.take n)).runs[j]? = some other → IssuedApart run other := by
  have notIssued : ∀ run ∈ pool.runs, run.issued? = none := by
    intro run member
    rcases starting run member with ⟨request, rfl⟩ | ⟨write, rfl⟩
    · rfl
    · rfl
  have notCommitting : ∀ run ∈ pool.runs, ∀ request loaded tx reply,
      run ≠ .committing request loaded tx reply := by
    intro run member
    rcases starting run member with ⟨request, rfl⟩ | ⟨write, rfl⟩
    · intro _ _ _ _ same
      cases same
    · intro _ _ _ _ same
      cases same
  have holds : Holds Numbered (fun db run => run.Fresh db) IssuedApart pool := by
    refine ⟨?_, ?_, ?_⟩
    · intro id inv found
      unfold Db.getInvoice at found
      rw [noInvoices] at found
      cases found
    · intro i run found
      have member := List.mem_of_getElem? found
      refine ⟨starting.wellFormed run member, ?_, ?_⟩
      · intro request loaded tx reply same
        exact absurd same (notCommitting run member _ _ _ _)
      · intro id issued
        rw [notIssued run member] at issued
        cases issued
    · intro i j run other _ found _ id issued
      rw [notIssued run (List.mem_of_getElem? found)] at issued
      cases issued
  refine ⟨?_, ?_⟩
  · intro m n later
    exact frozen_rules.relates_take FrozenKept.refl (fun _ _ _ => FrozenKept.trans)
      (fun db run _ fresh turn => advance_frozen fresh turn) holds turns later
  · intro n
    exact (frozen_rules.holds_exec holds (turns.take n)).apart

/-- A draft and two issues of it. -/
def twoIssues : Pool Db Run where
  store := sampleDb
  runs :=
    [.start (.draft (sampleCtx (oneOClock firstOfMarch) 1) sampleDraft),
      .start (.issue (sampleCtx (oneOClock firstOfMarch) 2) sampleIssue),
      .start (.issue (sampleCtx (oneOClock firstOfMarch) 3) sampleIssue)]

theorem twoIssues_starting : Starting twoIssues.runs := by
  intro run member
  simp only [twoIssues, List.mem_cons, List.not_mem_nil, or_false] at member
  rcases member with rfl | rfl | rfl <;> exact Or.inl ⟨_, rfl⟩

/-- Both issues load the draft, then each counts and commits: `INV-2025-0001` becomes
`INV-2025-0002`, and both calls succeed. -/
theorem issued_twice :
    Starting twoIssues.runs ∧ twoIssues.store.invoices = [] ∧
      ¬ FrozenKept (twoIssues.exec advance [0, 0, 1, 2, 1, 1]).store
        (twoIssues.exec advance [0, 0, 1, 2, 1, 1, 2, 2]).store ∧
      (twoIssues.exec advance [0, 0, 1, 2, 1, 1, 2, 2]).runs.map Run.issued? =
        [none, some ⟨1⟩, some ⟨1⟩] := by
  refine ⟨twoIssues_starting, rfl, ?_, by decide +kernel⟩
  intro kept
  have before : ((twoIssues.exec advance [0, 0, 1, 2, 1, 1]).store.getInvoice ⟨1⟩).map
      Invoice.number = some (some "INV-2025-0001") := by decide +kernel
  have after : ((twoIssues.exec advance [0, 0, 1, 2, 1, 1, 2, 2]).store.getInvoice ⟨1⟩).map
      Invoice.number = some (some "INV-2025-0002") := by decide +kernel
  obtain ⟨first, found, number⟩ := Option.map_eq_some_iff.mp before
  obtain ⟨second, foundAfter, numberAfter⟩ := Option.map_eq_some_iff.mp after
  have same := (kept _ _ found (by rw [number]; exact Option.some_ne_none _)).1
  rw [foundAfter] at same
  have numbers := number_of_frozen (Option.some.inj same)
  rw [number, numberAfter] at numbers
  exact absurd numbers (by decide)

/-- The second issue, once the first is through, is rejected. -/
theorem issued_frozen_in_turn :
    (∀ m n, m ≤ n →
        FrozenKept (twoIssues.exec advance ([0, 0, 1, 1, 1, 2, 2, 2].take m)).store
          (twoIssues.exec advance ([0, 0, 1, 1, 1, 2, 2, 2].take n)).store) ∧
      ∀ (n i j : ℕ) run other, i ≠ j →
        (twoIssues.exec advance ([0, 0, 1, 1, 1, 2, 2, 2].take n)).runs[i]? = some run →
        (twoIssues.exec advance ([0, 0, 1, 1, 1, 2, 2, 2].take n)).runs[j]? = some other →
        IssuedApart run other :=
  issued_frozen twoIssues_starting rfl (by decide +kernel)

end Invoicing
