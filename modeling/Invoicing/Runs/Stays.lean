/-
**What a command leaves alone.**

* `SameInvoices` — the invoice tables are the same. **`Command.invoice_cases`** — a command leaves them
  so, or commits one edit.
* `InvoiceStays` — an invoice, its lines, its history and its send records stay. **`Command.stays`** —
  commands on other invoices keep them.
* `KeyStays` — so does whatever is stored under an idempotency key. **`Command.keyStays`** — commands
  that neither draft under the key nor are on its invoice keep it.
-/

import Invoicing.Runs.Commands

namespace Invoicing

open KeyedTable

/-! ### The invoice tables -/

/-- The invoice tables are the same. -/
structure SameInvoices (before after : Db) : Prop where
  invoices : after.invoices = before.invoices
  lines : after.lines = before.lines
  history : after.history = before.history
  sendKeys : after.sendKeys = before.sendKeys

theorem SameInvoices.refl (db : Db) : SameInvoices db db := ⟨rfl, rfl, rfl, rfl⟩

/-- Credit-note commands leave the invoice tables. -/
theorem performCredit_sameInvoices {α : Type} (output : CreditNote → α)
    (prepared : CoreResult CreditTx) (db : Db) :
    SameInvoices db (performCredit output prepared db).2 := by
  rcases performCredit_cases output prepared db with ⟨same, _⟩ | ⟨tx, _, same⟩
  · rw [same]
    exact .refl db
  · rw [same]
    exact ⟨rfl, rfl, rfl, rfl⟩

/-- **What a command does to the invoice tables**: nothing, or the transaction of an edit of a stored
row. -/
theorem Command.invoice_cases (command : Command) (db : Db) :
    SameInvoices db (command.execute db).2 ∨
      ∃ request loaded tx, command = .invoice request ∧ Edit request loaded tx ∧
        (∀ inv, loaded = some inv → db.getInvoice inv.id = some inv) ∧
        tx.commit db = .ok (command.execute db).2 := by
  cases command with
  | invoice request =>
    show SameInvoices db (request.execute db).2 ∨
      ∃ request' loaded tx, Command.invoice request = .invoice request' ∧ Edit request' loaded tx ∧
        (∀ inv, loaded = some inv → db.getInvoice inv.id = some inv) ∧
        tx.commit db = .ok (request.execute db).2
    cases request.executed db with
    | failed stop same noKey =>
      rw [same]
      exact Or.inl (.refl db)
    | answered reply notIssue same =>
      rw [same]
      exact Or.inl (.refl db)
    | committed loaded tx reply edit stored counted same =>
      rw [same]
      unfold commitOutcome
      cases committed : tx.commit db with
      | error e => exact Or.inl (.refl db)
      | ok db' => exact Or.inr ⟨request, loaded, tx, rfl, edit, stored, committed⟩
  | createCreditNote ctx input => exact Or.inl (performCredit_sameInvoices _ _ db)
  | issueCreditNote ctx input => exact Or.inl (performCredit_sameInvoices _ _ db)
  | elsewhere write => exact Or.inl ⟨rfl, rfl, rfl, rfl⟩

/-- Invoice commands leave the customers and the schedules. -/
theorem Request.leaves_others (request : Request) (db : Db) :
    (request.execute db).2.customers = db.customers ∧
      (request.execute db).2.schedules = db.schedules := by
  cases request.executed db with
  | failed stop same noKey => exact ⟨by rw [same], by rw [same]⟩
  | answered reply notIssue same => exact ⟨by rw [same], by rw [same]⟩
  | committed loaded tx reply edit stored counted same =>
    rw [same]
    unfold commitOutcome
    cases committed : tx.commit db with
    | error e => exact ⟨rfl, rfl⟩
    | ok db' =>
      rw [(InvoiceTx.commit_ok committed).1]
      exact ⟨rfl, rfl⟩

/-- **Commands keep the keys unique.** -/
theorem Command.keysUnique {db : Db} (unique : db.KeysUnique) (command : Command) :
    (command.execute db).2.KeysUnique := by
  rcases command.invoice_cases db with same | ⟨request, loaded, tx, rfl, edit, stored, committed⟩
  · refine ⟨?_, ?_⟩
    · rw [same.invoices]
      exact unique.distinct
    · rw [same.invoices]
      exact unique.keys
  · obtain ⟨after, _, free, _⟩ := InvoiceTx.commit_ok committed
    rw [after]
    exact InvoiceTx.keysUnique_apply unique free

/-! ### One invoice -/

/-- An invoice, its lines, its history and its send records stay. -/
structure InvoiceStays (id : InvoiceId) (before after : Db) : Prop where
  invoice : after.getInvoice id = before.getInvoice id
  lines : after.linesOf id = before.linesOf id
  history : after.historyOf id = before.historyOf id
  sends : ∀ key record, before.findSend id key = some record → after.findSend id key = some record

theorem InvoiceStays.refl (id : InvoiceId) (db : Db) : InvoiceStays id db db :=
  ⟨rfl, rfl, rfl, fun _ _ found => found⟩

theorem InvoiceStays.trans {id : InvoiceId} {first second third : Db}
    (one : InvoiceStays id first second) (two : InvoiceStays id second third) :
    InvoiceStays id first third where
  invoice := two.invoice.trans one.invoice
  lines := two.lines.trans one.lines
  history := two.history.trans one.history
  sends := fun key record found => two.sends key record (one.sends key record found)

theorem SameInvoices.stays {before after : Db} (same : SameInvoices before after) (id : InvoiceId) :
    InvoiceStays id before after := by
  refine ⟨?_, ?_, ?_, ?_⟩
  · unfold Db.getInvoice
    rw [same.invoices]
  · unfold Db.linesOf
    rw [same.lines]
  · unfold Db.historyOf
    rw [same.history]
  · intro key record found
    unfold Db.findSend at found ⊢
    rw [same.sendKeys]
    exact found

/-- An edit of another invoice. -/
theorem Edit.stays {request : Request} {loaded : Option Invoice} {tx : InvoiceTx} {id : InvoiceId}
    (edit : Edit request loaded tx) (other : id ≠ tx.invoice.id) (db : Db) :
    InvoiceStays id db (tx.apply db) where
  invoice := InvoiceTx.getInvoice_apply_other db other
  lines := InvoiceTx.linesOf_apply edit.lines_owner other
  history := by
    have owner : tx.history.invoiceId ≠ id := by
      rw [edit.owners.1]
      exact Ne.symm other
    show (db.history ++ [tx.history]).filter _ = _
    rw [List.filter_append, List.filter_cons_of_neg (by simpa using owner)]
    simp [Db.historyOf]
  sends := by
    intro key record found
    show (db.sendKeys ++ tx.sendKey.toList).find? _ = some record
    rw [List.find?_append]
    unfold Db.findSend at found
    rw [found]
    rfl

/-- The command is on no such invoice. -/
def Command.Leaves (id : InvoiceId) : Command → Prop
  | .invoice request => ¬ request.On id
  | _ => True

/-- **Commands on other invoices leave an invoice alone.** -/
theorem Command.stays {command : Command} {id : InvoiceId} (leaves : command.Leaves id) (db : Db) :
    InvoiceStays id db (command.execute db).2 := by
  rcases command.invoice_cases db with same | ⟨request, loaded, tx, rfl, edit, stored, committed⟩
  · exact same.stays id
  · rw [(InvoiceTx.commit_ok committed).1]
    refine edit.stays ?_ db
    rintro rfl
    exact leaves edit.on

/-! ### Idempotency keys -/

/-- The key a draft is made under. -/
def Request.draftKey : Request → Option String
  | .draft _ input => input.idempotencyKey
  | _ => none

/-- A write set has the key of its draft, or of the row it loaded. -/
theorem Edit.key {request : Request} {loaded : Option Invoice} {tx : InvoiceTx}
    (edit : Edit request loaded tx) :
    (loaded = none ∧ tx.invoice.idempotencyKey = request.draftKey) ∨
      ∃ inv, loaded = some inv ∧ inv.id = tx.invoice.id ∧
        tx.invoice.idempotencyKey = inv.idempotencyKey := by
  cases edit with
  | draft summed => exact Or.inl ⟨rfl, rfl⟩
  | _ => exact Or.inr ⟨_, rfl, rfl, rfl⟩

/-- Whatever is stored under a key stays. -/
structure KeyStays (key : String) (before after : Db) : Prop where
  find : after.findByIdempotencyKey key = before.findByIdempotencyKey key
  stays : ∀ inv, before.findByIdempotencyKey key = some inv → InvoiceStays inv.id before after

theorem KeyStays.refl (key : String) (db : Db) : KeyStays key db db :=
  ⟨rfl, fun _ _ => .refl _ _⟩

theorem KeyStays.trans {key : String} {first second third : Db} (one : KeyStays key first second)
    (two : KeyStays key second third) : KeyStays key first third where
  find := two.find.trans one.find
  stays := fun inv found => (one.stays inv found).trans (two.stays inv (one.find.trans found))

theorem SameInvoices.keyStays {before after : Db} (same : SameInvoices before after)
    (key : String) : KeyStays key before after := by
  refine ⟨?_, fun inv _ => same.stays inv.id⟩
  unfold Db.findByIdempotencyKey
  rw [same.invoices]

/-- The command neither drafts under the key nor is on its invoice. -/
def Command.LeavesKey (key : String) (db : Db) : Command → Prop
  | .invoice request => request.draftKey ≠ some key ∧
      ∀ inv, db.findByIdempotencyKey key = some inv → ¬ request.On inv.id
  | _ => True

/-- **What is stored under a key stays** through commands that leave the key alone. -/
theorem Command.keyStays {command : Command} {key : String} {db : Db} (unique : db.KeysUnique)
    (leaves : command.LeavesKey key db) : KeyStays key db (command.execute db).2 := by
  rcases command.invoice_cases db with same | ⟨request, loaded, tx, rfl, edit, stored, committed⟩
  · exact same.keyStays key
  · obtain ⟨after, _, free, _⟩ := InvoiceTx.commit_ok committed
    obtain ⟨notDrafted, notOn⟩ := leaves
    have apart : ∀ inv, db.findByIdempotencyKey key = some inv → inv.id ≠ tx.invoice.id := by
      intro inv found same
      refine notOn inv found ?_
      rw [same]
      exact edit.on
    have newKey : tx.invoice.idempotencyKey ≠ some key := by
      rcases edit.key with ⟨_, drafted⟩ | ⟨inv, same, sameId, keyed⟩
      · rw [drafted]
        exact notDrafted
      · intro holds
        have found := unique.findByIdempotencyKey (mem_of_find (stored inv same)) (keyed ▸ holds)
        exact apart inv found sameId
    refine ⟨?_, ?_⟩
    · rw [after]
      exact InvoiceTx.findByIdempotencyKey_apply unique free newKey fun old found holds =>
        apart old (unique.findByIdempotencyKey (mem_of_find found) holds) (key_of_find found)
    · intro inv found
      rw [after]
      exact edit.stays (apart inv found) db

end Invoicing
