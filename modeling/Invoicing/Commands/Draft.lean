/-
**`draft_invoice`.**

* `DraftInvoiceInput.validate` — the checks made first; `DraftInvoiceInput.validate_ok` says what an
  accepted input is.
* `prepareDraft` — a key that a stored invoice already holds is answered with that invoice; any other
  input becomes a new draft with its lines and a history row.
* **`prepareDraft_write`**, **`prepareDraft_answer`** — everything the two branches say.
-/

import Invoicing.Commands.Ctx

namespace Invoicing

open Chrono

/-- A line of a draft. -/
structure DraftLineInput where
  description : String
  quantity : Decimal
  unitPrice : Decimal
  taxCategory : TaxCategory
  deriving DecidableEq

structure DraftInvoiceInput where
  customerId : CustomerId
  sellerJurisdiction : Jurisdiction
  currency : Currency
  lines : List DraftLineInput
  idempotencyKey : Option String
  actor : Actor
  channel : Channel
  dueAt : Option DateTime
  templatePath : Option String
  scheduleId : Option ScheduleId
  deriving DecidableEq

structure DraftInvoiceOutput where
  invoice : Invoice
  lines : List InvoiceLine
  idempotencyReplay : Bool

/-! ### Validation -/

/-- The check of line `i`. -/
def DraftLineInput.validate (i : ℕ) (line : DraftLineInput) : CoreResult Unit :=
  if isBlank line.description then
    fail (.validation ("line " ++ natText i ++ ": description must not be empty"))
  else if line.quantity ≤ Decimal.zero then
    fail (.validation ("line " ++ natText i ++ ": quantity must be > 0 (got " ++
      line.quantity.toString ++ ")"))
  else if line.unitPrice < Decimal.zero then
    fail (.validation ("line " ++ natText i ++ ": unit_price must be >= 0 (got " ++
      line.unitPrice.toString ++ ")"))
  else .ok ()

def validateLines : ℕ → List DraftLineInput → CoreResult Unit
  | _, [] => .ok ()
  | i, line :: rest => do
      line.validate i
      validateLines (i + 1) rest

/-- The currencies of version 1. -/
def Currency.Supported (currency : Currency) : Prop :=
  currency.asStr = "USD" ∨ currency.asStr = "CAD" ∨ currency.asStr = "DZD"

instance (currency : Currency) : Decidable currency.Supported :=
  inferInstanceAs (Decidable (_ ∨ _ ∨ _))

def DraftInvoiceInput.validate (input : DraftInvoiceInput) : CoreResult Unit :=
  if input.lines = [] then fail (.validation "draft_invoice requires at least one line")
  else if ¬ input.currency.Supported then
    fail (.validation ("currency " ++ input.currency.asStr ++
      " not supported at v1 (use USD, CAD, or DZD)"))
  else validateLines 0 input.lines

/-- What the check of a line accepts. -/
def DraftLineInput.Valid (line : DraftLineInput) : Prop :=
  isBlank line.description = false ∧ ¬ line.quantity ≤ Decimal.zero ∧
    ¬ line.unitPrice < Decimal.zero

theorem DraftLineInput.validate_ok {i : ℕ} {line : DraftLineInput} :
    line.validate i = .ok () ↔ line.Valid := by
  unfold DraftLineInput.validate DraftLineInput.Valid
  by_cases blank : isBlank line.description = true
  · simp [blank, fail]
  · by_cases quantity : line.quantity ≤ Decimal.zero
    · simp [blank, quantity, fail]
    · by_cases price : line.unitPrice < Decimal.zero
      · simp [blank, quantity, price, fail]
      · simp [blank, quantity, price]

theorem validateLines_ok {lines : List DraftLineInput} {i : ℕ} :
    validateLines i lines = .ok () ↔ ∀ line ∈ lines, line.Valid := by
  induction lines generalizing i with
  | nil => simp [validateLines]
  | cons line rest ih =>
    rw [validateLines, List.forall_mem_cons, ← DraftLineInput.validate_ok (i := i),
      ← @ih (i + 1)]
    cases line.validate i with
    | error e => simp [bind, Except.bind]
    | ok _ => simp [bind, Except.bind]

/-- **What `validate` accepts.** -/
theorem DraftInvoiceInput.validate_ok {input : DraftInvoiceInput} :
    input.validate = .ok () ↔
      input.lines ≠ [] ∧ input.currency.Supported ∧ ∀ line ∈ input.lines, line.Valid := by
  unfold DraftInvoiceInput.validate
  by_cases empty : input.lines = []
  · simp [empty, fail]
  · by_cases supported : input.currency.Supported
    · simp [empty, supported, validateLines_ok]
    · simp [empty, supported, fail]

/-! ### The draft -/

/-- One line of the draft and the subtotal so far. -/
def draftLine (ctx : CoreCtx) (currency : Currency) (done : List InvoiceLine × Decimal)
    (line : DraftLineInput) : Option (List InvoiceLine × Decimal) := do
  let lineSubtotal ← ctx.arith.mul line.quantity line.unitPrice
  let rounded := currency.round lineSubtotal
  let subtotal ← ctx.arith.add done.2 rounded
  return (done.1 ++ [{
    id := ctx.newLineId done.1.length
    invoiceId := ctx.newInvoiceId
    position := done.1.length
    description := line.description
    quantity := line.quantity
    unitPrice := line.unitPrice
    taxRateIds := []
    taxCategory := line.taxCategory
    taxAmount := Decimal.zero
    lineTotal := rounded
    metadata := [] }], subtotal)

/-- The lines of a draft and their subtotal. -/
def draftLines (ctx : CoreCtx) (currency : Currency) (lines : List DraftLineInput) :
    Option (List InvoiceLine × Decimal) :=
  lines.foldlM (draftLine ctx currency) ([], Decimal.zero)

/-- The invoice row of a draft. -/
def draftRow (ctx : CoreCtx) (input : DraftInvoiceInput) (subtotal : Decimal) : Invoice where
  id := ctx.newInvoiceId
  number := none
  customerId := input.customerId
  sellerJurisdiction := input.sellerJurisdiction
  currency := input.currency
  state := .draft
  issuedAt := none
  dueAt := input.dueAt
  sentAt := none
  viewedAt := none
  paidAt := none
  voidedAt := none
  subtotal := subtotal
  taxTotal := Decimal.zero
  total := subtotal
  amountPaid := Decimal.zero
  scheduleId := input.scheduleId
  templatePath := input.templatePath
  pdfBlobRef := none
  idempotencyKey := input.idempotencyKey
  nexusReview := false
  metadata := []
  createdAt := ctx.now
  updatedAt := ctx.now

/-- The write set of a new draft. -/
def draftTx (ctx : CoreCtx) (input : DraftInvoiceInput) (lines : List InvoiceLine)
    (subtotal : Decimal) : InvoiceTx where
  invoice := draftRow ctx input (input.currency.round subtotal)
  lines := some lines
  history := { transitionRow ctx (draftRow ctx input (input.currency.round subtotal)) .draft
    "draft" input.actor input.channel ctx.now with fromState := none }
  sendKey := none

def prepareDraft (ctx : CoreCtx) (input : DraftInvoiceInput) (db : Db) :
    CoreResult (Prepared DraftInvoiceOutput) := do
  input.validate
  match input.idempotencyKey.bind db.findByIdempotencyKey with
  | some existing =>
      return .answer ⟨existing, db.linesOf existing.id, true⟩
  | none =>
      let (lines, subtotal) ← orPanic (draftLines ctx input.currency input.lines)
      let tx := draftTx ctx input lines subtotal
      return .write none tx ⟨tx.invoice, lines, false⟩

theorem schemaFree_validateLines (i : ℕ) (lines : List DraftLineInput) :
    SchemaFree (validateLines i lines) := by
  induction lines generalizing i with
  | nil => exact .ok ()
  | cons line rest ih =>
    refine SchemaFree.bind ?_ fun _ => ih (i + 1)
    unfold DraftLineInput.validate
    split
    · exact .fail fun _ => by simp
    · split
      · exact .fail fun _ => by simp
      · split
        · exact .fail fun _ => by simp
        · exact .ok ()

theorem schemaFree_prepareDraft (ctx : CoreCtx) (input : DraftInvoiceInput) (db : Db) :
    SchemaFree (prepareDraft ctx input db) := by
  refine SchemaFree.bind ?_ fun _ => ?_
  · unfold DraftInvoiceInput.validate
    split
    · exact .fail fun _ => by simp
    · split
      · exact .fail fun _ => by simp
      · exact schemaFree_validateLines 0 input.lines
  · split
    · exact .ok _
    · exact (schemaFree_orPanic _).bind fun _ => .ok _

/-- **`draft_invoice`.** -/
def draftInvoice (ctx : CoreCtx) (input : DraftInvoiceInput) (db : Db) :
    CoreResult DraftInvoiceOutput × Db :=
  perform (prepareDraft ctx input db) db

/-- **What a draft writes**, and what was checked before. -/
theorem prepareDraft_write {ctx : CoreCtx} {input : DraftInvoiceInput} {db : Db}
    {loaded : Option Invoice} {tx : InvoiceTx} {output : DraftInvoiceOutput}
    (prepared : prepareDraft ctx input db = .ok (.write loaded tx output)) :
    input.validate = .ok () ∧ input.idempotencyKey.bind db.findByIdempotencyKey = none ∧
      ∃ lines subtotal, draftLines ctx input.currency input.lines = some (lines, subtotal) ∧
        loaded = none ∧ tx = draftTx ctx input lines subtotal ∧
        output = ⟨tx.invoice, lines, false⟩ := by
  obtain ⟨_, valid, rest⟩ := bind_ok prepared
  cases found : input.idempotencyKey.bind db.findByIdempotencyKey with
  | some existing =>
    rw [found] at rest
    cases rest
  | none =>
    rw [found] at rest
    obtain ⟨⟨lines, subtotal⟩, summed, rest⟩ := bind_ok rest
    cases rest
    exact ⟨valid, rfl, lines, subtotal, orPanic_ok summed, rfl, rfl, rfl⟩

/-- **When a draft is answered from its key.** -/
theorem prepareDraft_answer {ctx : CoreCtx} {input : DraftInvoiceInput} {db : Db}
    {output : DraftInvoiceOutput} (prepared : prepareDraft ctx input db = .ok (.answer output)) :
    input.validate = .ok () ∧
      ∃ existing, input.idempotencyKey.bind db.findByIdempotencyKey = some existing ∧
        output = ⟨existing, db.linesOf existing.id, true⟩ := by
  obtain ⟨_, valid, rest⟩ := bind_ok prepared
  cases found : input.idempotencyKey.bind db.findByIdempotencyKey with
  | some existing =>
    rw [found] at rest
    cases rest
    exact ⟨valid, existing, rfl, rfl⟩
  | none =>
    rw [found] at rest
    obtain ⟨⟨lines, subtotal⟩, _, rest⟩ := bind_ok rest
    cases rest

theorem prepareDraft_of_found {ctx : CoreCtx} {input : DraftInvoiceInput} {db : Db}
    {existing : Invoice} (valid : input.validate = .ok ())
    (found : input.idempotencyKey.bind db.findByIdempotencyKey = some existing) :
    prepareDraft ctx input db = .ok (.answer ⟨existing, db.linesOf existing.id, true⟩) := by
  unfold prepareDraft
  rw [valid, found]
  rfl

/-! ### The lines of a draft -/

theorem draftLines_places_aux {ctx : CoreCtx} {currency : Currency} {lines : List DraftLineInput}
    {start result : List InvoiceLine × Decimal}
    (summed : lines.foldlM (draftLine ctx currency) start = some result)
    (places : start.1.map InvoiceLine.place =
      (List.range start.1.length).map fun i => (ctx.newLineId i, ctx.newInvoiceId, i)) :
    result.1.map InvoiceLine.place =
      (List.range result.1.length).map fun i => (ctx.newLineId i, ctx.newInvoiceId, i) := by
  induction lines generalizing start with
  | nil =>
    cases summed
    exact places
  | cons line rest ih =>
    rw [List.foldlM_cons] at summed
    obtain ⟨next, stepped, summed⟩ := Option.bind_eq_some_iff.mp summed
    obtain ⟨_, _, stepped⟩ := Option.bind_eq_some_iff.mp stepped
    obtain ⟨_, _, stepped⟩ := Option.bind_eq_some_iff.mp stepped
    cases stepped
    refine ih summed ?_
    simp only [List.map_append, places, List.map_cons, List.map_nil, List.length_append,
      List.length_cons, List.length_nil, List.range_succ, InvoiceLine.place]

/-- **The lines of a draft** have the fresh ids, the draft's id and the positions `0, 1, …`. -/
theorem draftLines_places {ctx : CoreCtx} {currency : Currency} {inputs : List DraftLineInput}
    {lines : List InvoiceLine} {subtotal : Decimal}
    (summed : draftLines ctx currency inputs = some (lines, subtotal)) :
    lines.map InvoiceLine.place =
      (List.range lines.length).map fun i => (ctx.newLineId i, ctx.newInvoiceId, i) :=
  draftLines_places_aux summed rfl

theorem draftLines_owner {ctx : CoreCtx} {currency : Currency} {inputs : List DraftLineInput}
    {lines : List InvoiceLine} {subtotal : Decimal}
    (summed : draftLines ctx currency inputs = some (lines, subtotal)) :
    ∀ line ∈ lines, line.invoiceId = ctx.newInvoiceId := by
  intro line member
  have place : line.place ∈ lines.map InvoiceLine.place := List.mem_map_of_mem member
  rw [draftLines_places summed, List.mem_map] at place
  obtain ⟨i, _, same⟩ := place
  exact (congrArg (fun place => place.2.1) same).symm

/-! ### Under a key -/

/-- **A keyed draft that succeeded is stored under its key.** -/
theorem draftInvoice_stored {ctx : CoreCtx} {input : DraftInvoiceInput} {db : Db} {key : String}
    {output : DraftInvoiceOutput} (unique : db.KeysUnique)
    (fresh : db.getInvoice ctx.newInvoiceId = none) (keyed : input.idempotencyKey = some key)
    (done : (draftInvoice ctx input db).1 = .ok output) :
    input.validate = .ok () ∧ output.invoice.idempotencyKey = some key ∧
      (draftInvoice ctx input db).2.getInvoice output.invoice.id = some output.invoice := by
  unfold draftInvoice at done ⊢
  rcases perform_ok done with ⟨answered, same⟩ | ⟨loaded, tx, written, committed⟩
  · obtain ⟨valid, existing, found, rfl⟩ := prepareDraft_answer answered
    rw [keyed] at found
    have found : db.findByIdempotencyKey key = some existing := found
    obtain ⟨member, holds⟩ := unique.findByIdempotencyKey_iff.mp found
    refine ⟨valid, holds, ?_⟩
    rw [same]
    exact KeyedTable.find_of_mem unique.distinct member
  · obtain ⟨valid, _, lines, subtotal, _, rfl, rfl, rfl⟩ := prepareDraft_write written
    obtain ⟨after, _⟩ := InvoiceTx.commit_ok committed
    refine ⟨valid, keyed, ?_⟩
    rw [after, InvoiceTx.getInvoice_apply, if_pos rfl]
    show some (KeyedTable.merged _ (db.getInvoice ctx.newInvoiceId) _) = _
    rw [fresh]
    rfl

/-- **A draft whose key is stored is answered with the stored invoice.** -/
theorem draftInvoice_of_stored {ctx : CoreCtx} {input : DraftInvoiceInput} {db : Db} {key : String}
    {inv : Invoice} (unique : db.KeysUnique) (keyed : input.idempotencyKey = some key)
    (valid : input.validate = .ok ()) (stored : db.getInvoice inv.id = some inv)
    (holds : inv.idempotencyKey = some key) :
    draftInvoice ctx input db = (.ok ⟨inv, db.linesOf inv.id, true⟩, db) := by
  have found : input.idempotencyKey.bind db.findByIdempotencyKey = some inv := by
    rw [keyed]
    exact unique.findByIdempotencyKey (KeyedTable.mem_of_find stored) holds
  unfold draftInvoice
  rw [prepareDraft_of_found valid found]
  rfl

end Invoicing
