/-
**Keyed calls side by side.**

* `DraftRun`, `SendRun` — a call of `draft_invoice`, of `send_invoice` or of `send_invoice_render`, its
  lookup of the key apart from what follows: look the key up, read the answer or compute the write
  set, run the transaction. **`draft_alone`**, **`send_alone`** — a run that nothing interrupts is the
  command.
* `DraftedOnce` — the tables are as they were, or hold one more invoice with its lines and its draft
  row. `SentUnderKeyOnce` — they are as they were, or one send is recorded under the key.
* **`keyed_calls_commit_once`** — both, in every interleaving of any number of calls under one key.
-/

import Invoicing.Commands.Draft
import Invoicing.Commands.Send
import Invoicing.Lib.Interleave
import Invoicing.Runs.Reused

namespace Invoicing

open Interleave KeyedTable

/-! ### Drafts -/

structure DraftCall where
  ctx : CoreCtx
  input : DraftInvoiceInput

/-- Where a draft stands. -/
inductive DraftStage
  | looking
  | listing (existing : Invoice)
  | computing
  | committing (lines : List InvoiceLine) (tx : InvoiceTx)
  | finished (outcome : CoreResult DraftInvoiceOutput)

structure DraftRun where
  call : DraftCall
  stage : DraftStage

/-- The lookup of the key. -/
def DraftCall.look (call : DraftCall) (db : Db) : DraftStage :=
  match call.input.validate with
  | .error e => .finished (.error e)
  | .ok _ =>
      match call.input.idempotencyKey.bind db.findByIdempotencyKey with
      | some existing => .listing existing
      | none => .computing

/-- The invoice and its lines. -/
def DraftCall.compute (call : DraftCall) : DraftStage :=
  match draftLines call.ctx call.input.currency call.input.lines with
  | none => .finished (.error .panic)
  | some (lines, subtotal) => .committing lines (draftTx call.ctx call.input lines subtotal)

def draftCallStep (call : DraftCall) (stage : DraftStage) (db : Db) : DraftStage × Db :=
  match stage with
  | .looking => (call.look db, db)
  | .listing existing => (.finished (.ok ⟨existing, db.linesOf existing.id, true⟩), db)
  | .computing => (call.compute, db)
  | .committing lines tx =>
      match tx.commit db with
      | .error e => (.finished (fail (.repo e)), db)
      | .ok db' => (.finished (.ok ⟨tx.invoice, lines, false⟩), db')
  | .finished outcome => (.finished outcome, db)

/-- One step of a draft. -/
def advanceDraft (run : DraftRun) (db : Db) : DraftRun × Db :=
  (⟨run.call, (draftCallStep run.call run.stage db).1⟩, (draftCallStep run.call run.stage db).2)

/-- The calls, none of them begun. -/
def draftPool (calls : List DraftCall) (db : Db) : Pool Db DraftRun :=
  ⟨db, calls.map fun call => ⟨call, .looking⟩⟩

theorem draftCallStep_alone {call : DraftCall} {stage : DraftStage} {db : Db} {after : DraftRun × Db}
    (rest : Alone advanceDraft
      (⟨call, (draftCallStep call stage db).1⟩, (draftCallStep call stage db).2) after) :
    Alone advanceDraft (⟨call, stage⟩, db) after := .step rest

/-- **A draft that nothing interrupts is `draft_invoice`.** -/
theorem draft_alone (call : DraftCall) (db : Db) :
    Alone advanceDraft (⟨call, .looking⟩, db)
      (⟨call, .finished (draftInvoice call.ctx call.input db).1⟩,
        (draftInvoice call.ctx call.input db).2) := by
  refine draftCallStep_alone ?_
  unfold draftCallStep DraftCall.look draftInvoice prepareDraft
  dsimp only
  cases call.input.validate with
  | error e => exact .refl _
  | ok _ =>
    dsimp only [bind, Except.bind]
    cases call.input.idempotencyKey.bind db.findByIdempotencyKey with
    | some existing => exact .step (.refl _)
    | none =>
      refine draftCallStep_alone ?_
      unfold draftCallStep DraftCall.compute
      dsimp only
      cases draftLines call.ctx call.input.currency call.input.lines with
      | none => exact .refl _
      | some summed =>
        refine draftCallStep_alone ?_
        simp only [draftCallStep, orPanic, pure, Except.pure, perform, Prepared.finish]
        cases (draftTx call.ctx call.input summed.1 summed.2).commit db with
        | error e => exact .refl _
        | ok db' => exact .refl _

/-! ### Sends -/

inductive SendCall
  | invoice (ctx : CoreCtx) (input : SendInvoiceInput)
  | render (ctx : CoreCtx) (input : SendInvoiceRenderInput)

namespace SendCall

def ctx : SendCall → CoreCtx
  | .invoice ctx _ | .render ctx _ => ctx

def invoiceId : SendCall → InvoiceId
  | .invoice _ input => input.invoiceId
  | .render _ input => input.invoiceId

def key : SendCall → Option String
  | .invoice _ input => input.idempotencyKey
  | .render _ input => input.idempotencyKey

def actor : SendCall → Actor
  | .invoice _ input => input.actor
  | .render _ input => input.actor

def channel : SendCall → Channel
  | .invoice _ input => input.channel
  | .render _ input => input.channel

/-- The checks made first. -/
def check : SendCall → CoreResult Unit
  | .invoice _ input => do
      validateDestination input.destinationUri
      checkScheme (schemeOf input.destinationUri)
  | .render _ input => validateDestination input.destinationUri

/-- Deliver, or leave it to the caller; the destination to record. -/
def deliverTo (call : SendCall) (pdf : List UInt8) : CoreResult String :=
  match call with
  | .invoice ctx input => deliver ctx input pdf
  | .render _ input => .ok input.destinationUri

/-- The command executed alone. -/
def execute (call : SendCall) (db : Db) : CoreResult SendInvoiceOutput × Db :=
  match call with
  | .invoice ctx input => sendInvoice ctx input db
  | .render ctx input => sendInvoiceRender ctx input db

end SendCall

/-- Where a send stands. -/
inductive SendStage
  | looking
  | replaying (record : SendIdempotencyRecord)
  | computing
  | committing (tx : InvoiceTx) (output : SendInvoiceOutput)
  | finished (outcome : CoreResult SendInvoiceOutput)

structure SendRun where
  call : SendCall
  stage : SendStage

/-- The lookup of the key. -/
def SendCall.look (call : SendCall) (db : Db) : SendStage :=
  match call.check with
  | .error e => .finished (.error e)
  | .ok _ =>
      match call.key.bind (db.findSend call.invoiceId) with
      | some record => .replaying record
      | none => .computing

/-- The answer to a recorded key. -/
def SendCall.replay (call : SendCall) (record : SendIdempotencyRecord) (db : Db) :
    CoreResult SendInvoiceOutput := do
  let inv ← invoiceOf db call.invoiceId
  let lines := db.linesOf call.invoiceId
  let customer ← customerOf db inv
  let (html, pdf) ← call.ctx.render inv customer lines
  return ⟨inv, lines, html, pdf, record.deliveredTo, true⟩

/-- Load, render, deliver, and the write set. -/
def SendCall.compute (call : SendCall) (db : Db) : CoreResult (InvoiceTx × SendInvoiceOutput) := do
  let send ← prepareSend call.ctx call.invoiceId db
  let deliveredTo ← call.deliverTo send.pdf
  let tx := sendTx call.ctx send.invoice send.toState call.actor call.channel deliveredTo call.key
  return (tx, ⟨tx.invoice, send.lines, send.html, send.pdf, deliveredTo, false⟩)

def sendStage (call : SendCall) (stage : SendStage) (db : Db) : SendStage × Db :=
  match stage with
  | .looking => (call.look db, db)
  | .replaying record => (.finished (call.replay record db), db)
  | .computing =>
      match call.compute db with
      | .error e => (.finished (.error e), db)
      | .ok (tx, output) => (.committing tx output, db)
  | .committing tx output =>
      match tx.commit db with
      | .error e => (.finished (fail (.repo e)), db)
      | .ok db' => (.finished (.ok output), db')
  | .finished outcome => (.finished outcome, db)

/-- One step of a send. -/
def advanceSend (run : SendRun) (db : Db) : SendRun × Db :=
  (⟨run.call, (sendStage run.call run.stage db).1⟩, (sendStage run.call run.stage db).2)

def sendPool (calls : List SendCall) (db : Db) : Pool Db SendRun :=
  ⟨db, calls.map fun call => ⟨call, .looking⟩⟩

/-- A send past its lookup, up to its transaction. -/
def SendCall.go (call : SendCall) (db : Db) : CoreResult (Prepared SendInvoiceOutput) := do
  let send ← prepareSend call.ctx call.invoiceId db
  let deliveredTo ← call.deliverTo send.pdf
  return finalizeSend call.ctx send call.actor call.channel deliveredTo call.key

/-- The command of a send, whichever of the two it is. -/
theorem SendCall.execute_eq (call : SendCall) (db : Db) :
    call.execute db = perform (do
      call.check
      replayOr call.ctx call.invoiceId call.key db (call.go db)) db := by
  cases call with
  | render ctx input => rfl
  | invoice ctx input =>
    unfold execute sendInvoice prepareSendInvoice check
    rw [bind_assoc]
    rfl

/-- A recorded key is answered, any other goes on. -/
theorem SendCall.replayOr_eq (call : SendCall) (db : Db)
    (go : CoreResult (Prepared SendInvoiceOutput)) :
    replayOr call.ctx call.invoiceId call.key db go =
      match call.key.bind (db.findSend call.invoiceId) with
      | some record => (call.replay record db).map Prepared.answer
      | none => go := by
  cases call.key with
  | none => rfl
  | some key =>
    rw [Option.bind_some]
    unfold replayOr
    dsimp only
    unfold tryReplay replay
    cases db.findSend call.invoiceId key with
    | none => rfl
    | some record =>
      dsimp only
      cases invoiceOf db call.invoiceId with
      | error e => rfl
      | ok inv =>
        dsimp only [bind, Except.bind]
        cases customerOf db inv with
        | error e => rfl
        | ok customer =>
          dsimp only
          cases call.ctx.render inv customer (db.linesOf call.invoiceId) with
          | error e => rfl
          | ok pages => rfl

theorem sendStage_alone {call : SendCall} {stage : SendStage} {db : Db} {after : SendRun × Db}
    (rest : Alone advanceSend
      (⟨call, (sendStage call stage db).1⟩, (sendStage call stage db).2) after) :
    Alone advanceSend (⟨call, stage⟩, db) after := .step rest

/-- A send from its computation on. -/
theorem compute_alone (call : SendCall) (db : Db) :
    Alone advanceSend (⟨call, .computing⟩, db)
      (⟨call, .finished (perform (call.go db) db).1⟩, (perform (call.go db) db).2) := by
  refine sendStage_alone ?_
  unfold sendStage SendCall.compute SendCall.go
  dsimp only
  cases prepareSend call.ctx call.invoiceId db with
  | error e => exact .refl _
  | ok send =>
    dsimp only [bind, Except.bind]
    cases call.deliverTo send.pdf with
    | error e => exact .refl _
    | ok deliveredTo =>
      refine sendStage_alone ?_
      simp only [sendStage, pure, Except.pure, perform, Prepared.finish, finalizeSend]
      cases (sendTx call.ctx send.invoice send.toState call.actor call.channel deliveredTo
          call.key).commit db with
      | error e => exact .refl _
      | ok db' => exact .refl _

/-- **A send that nothing interrupts is its command.** -/
theorem send_alone (call : SendCall) (db : Db) :
    Alone advanceSend (⟨call, .looking⟩, db)
      (⟨call, .finished (call.execute db).1⟩, (call.execute db).2) := by
  rw [call.execute_eq db]
  refine sendStage_alone ?_
  unfold sendStage SendCall.look
  dsimp only
  cases call.check with
  | error e => exact .refl _
  | ok _ =>
    dsimp only [bind, Except.bind]
    rw [call.replayOr_eq db]
    cases call.key.bind (db.findSend call.invoiceId) with
    | none => exact compute_alone call db
    | some record =>
      refine sendStage_alone ?_
      unfold sendStage
      dsimp only
      cases call.replay record db with
      | error e => exact .refl _
      | ok output => exact .refl _

/-! ### One draft under a key -/

/-- An id that no row refers to. -/
structure NewId (db : Db) (id : InvoiceId) : Prop where
  invoice : db.getInvoice id = none
  lines : ∀ line ∈ db.lines, line.invoiceId ≠ id
  history : ∀ row ∈ db.history, row.invoiceId ≠ id

/-- An invoice is stored under the key. -/
def KeyStored (key : String) (db : Db) : Prop := ∃ inv ∈ db.invoices, inv.idempotencyKey = some key

/-- A call is one of those given; until it is done its id is new; about to commit, it has its own
write set. -/
structure DraftRun.Sound (calls : List DraftCall) (db : Db) (run : DraftRun) : Prop where
  call : run.call ∈ calls
  new : (∀ outcome, run.stage ≠ .finished outcome) → NewId db run.call.ctx.newInvoiceId
  tx : ∀ lines tx, run.stage = .committing lines tx →
    ∃ subtotal, draftLines run.call.ctx run.call.input.currency run.call.input.lines =
        some (lines, subtotal) ∧
      tx = draftTx run.call.ctx run.call.input lines subtotal

/-- Two calls draw different invoice ids. -/
def DraftRun.Apart (run other : DraftRun) : Prop :=
  run.call.ctx.newInvoiceId ≠ other.call.ctx.newInvoiceId

/-- A step of a draft leaves the tables alone, or commits. -/
theorem draftCallStep_cases (call : DraftCall) (stage : DraftStage) (db : Db) :
    (draftCallStep call stage db).2 = db ∨
      ∃ lines tx, stage = .committing lines tx ∧ tx.commit db = .ok (draftCallStep call stage db).2 ∧
        (draftCallStep call stage db).1 = .finished (.ok ⟨tx.invoice, lines, false⟩) := by
  cases stage with
  | committing lines tx =>
    simp only [draftCallStep]
    cases committed : tx.commit db with
    | error e => exact Or.inl rfl
    | ok db' => exact Or.inr ⟨lines, tx, rfl, committed, rfl⟩
  | _ => exact Or.inl rfl

/-- A draft is about to commit only what it computed. -/
theorem draftCallStep_committing {call : DraftCall} {stage : DraftStage} {db : Db}
    {lines : List InvoiceLine} {tx : InvoiceTx}
    (next : (draftCallStep call stage db).1 = .committing lines tx) :
    ∃ subtotal, draftLines call.ctx call.input.currency call.input.lines = some (lines, subtotal) ∧
      tx = draftTx call.ctx call.input lines subtotal := by
  cases stage with
  | looking =>
    simp only [draftCallStep, DraftCall.look] at next
    split at next
    · cases next
    · split at next <;> cases next
  | listing existing => cases next
  | computing =>
    simp only [draftCallStep, DraftCall.compute] at next
    split at next
    · cases next
    · rename_i lines' subtotal summed
      cases next
      exact ⟨subtotal, summed, rfl⟩
  | committing lines' tx' =>
    simp only [draftCallStep] at next
    split at next <;> cases next
  | finished outcome => cases next

/-- A committed draft leaves an id that is not its own new. -/
theorem NewId.draftTx {db : Db} {id : InvoiceId} (new : NewId db id) {call : DraftCall}
    {lines : List InvoiceLine} {subtotal : Decimal}
    (summed : draftLines call.ctx call.input.currency call.input.lines = some (lines, subtotal))
    (other : id ≠ call.ctx.newInvoiceId) :
    NewId ((draftTx call.ctx call.input lines subtotal).apply db) id where
  invoice := by
    rw [InvoiceTx.getInvoice_apply_other db other]
    exact new.invoice
  lines line member := by
    rcases List.mem_append.mp member with old | written
    · exact new.lines line (List.mem_filter.mp old).1
    · rw [draftLines_owner summed line written]
      exact Ne.symm other
  history row member := by
    rcases List.mem_append.mp member with old | written
    · exact new.history row old
    · rw [List.mem_singleton.mp written]
      exact Ne.symm other

section Drafts

variable {key : String} {calls : List DraftCall} {db : Db} {run : DraftRun}

/-- **A draft commits only if its key is free, and takes it.** -/
theorem draft_takes (keyed : ∀ call ∈ calls, call.input.idempotencyKey = some key)
    (sound : run.Sound calls db) :
    (advanceDraft run db).2 = db ∨ ¬ KeyStored key db ∧ KeyStored key (advanceDraft run db).2 := by
  rcases draftCallStep_cases run.call run.stage db with same | ⟨lines, tx, stage, committed, _⟩
  · exact Or.inl same
  · obtain ⟨subtotal, summed, rfl⟩ := sound.tx lines tx stage
    have new := sound.new (by rw [stage]; exact fun _ => DraftStage.noConfusion)
    have keyed := keyed run.call sound.call
    obtain ⟨after, _, free, _⟩ := InvoiceTx.commit_ok committed
    refine Or.inr ⟨?_, ?_⟩
    · rintro ⟨inv, member, holds⟩
      refine free ⟨inv, member, find_eq_none.mp new.invoice inv member, ?_, ?_⟩
      · show run.call.input.idempotencyKey ≠ none
        rw [keyed]
        exact Option.some_ne_none _
      · exact holds.trans keyed.symm
    · show KeyStored key (draftCallStep run.call run.stage db).2
      rw [after]
      obtain ⟨createdAt, stored⟩ := InvoiceTx.getInvoice_apply_self
        (draftTx run.call.ctx run.call.input lines subtotal) db
      exact ⟨_, mem_of_find stored, keyed⟩

theorem draft_rules (calls : List DraftCall) :
    Rules advanceDraft (fun _ _ => True) Db.KeysUnique (DraftRun.Sound calls) DraftRun.Apart where
  store db run unique sound _ := by
    rcases draftCallStep_cases run.call run.stage db with same | ⟨lines, tx, _, committed, _⟩
    · show Db.KeysUnique (draftCallStep run.call run.stage db).2
      rw [same]
      exact unique
    · obtain ⟨after, _, free, _⟩ := InvoiceTx.commit_ok committed
      show Db.KeysUnique (draftCallStep run.call run.stage db).2
      rw [after]
      exact InvoiceTx.keysUnique_apply unique free
  own db run _ sound _ := by
    refine ⟨sound.call, fun unfinished => ?_, fun lines tx next => draftCallStep_committing next⟩
    rcases draftCallStep_cases run.call run.stage db with same | ⟨_, _, _, _, done⟩
    · show NewId (draftCallStep run.call run.stage db).2 _
      rw [same]
      refine sound.new fun outcome finished => unfinished outcome ?_
      show (draftCallStep run.call run.stage db).1 = _
      rw [finished]
      rfl
    · exact absurd done (unfinished _)
  others db run other _ sound theirs apart _ := by
    refine ⟨theirs.call, fun unfinished => ?_, theirs.tx⟩
    show NewId (draftCallStep run.call run.stage db).2 _
    rcases draftCallStep_cases run.call run.stage db with same | ⟨lines, tx, stage, committed, _⟩
    · rw [same]
      exact theirs.new unfinished
    · obtain ⟨subtotal, summed, rfl⟩ := sound.tx lines tx stage
      rw [(InvoiceTx.commit_ok committed).1]
      exact (theirs.new unfinished).draftTx summed (Ne.symm apart)
  apart _ _ _ _ _ _ apart _ := apart
  symm _ _ apart := Ne.symm apart

theorem draftPool_holds (unique : db.KeysUnique)
    (distinct : (calls.map fun call => call.ctx.newInvoiceId).Nodup)
    (new : ∀ call ∈ calls, NewId db call.ctx.newInvoiceId) :
    Holds Db.KeysUnique (DraftRun.Sound calls) DraftRun.Apart (draftPool calls db) where
  store := unique
  runs i run found := by
    obtain ⟨call, member, rfl⟩ := List.mem_map.mp (List.mem_of_getElem? found)
    exact ⟨member, fun _ => new call member, fun _ _ stage => DraftStage.noConfusion stage⟩
  apart i j run other different there there' := by
    have ids : ∀ (k : ℕ) (run : DraftRun), (draftPool calls db).runs[k]? = some run →
        (calls.map fun call => call.ctx.newInvoiceId)[k]? = some run.call.ctx.newInvoiceId := by
      intro k run there
      simp only [draftPool, List.getElem?_map, Option.map_eq_some_iff] at there ⊢
      obtain ⟨call, found, rfl⟩ := there
      exact ⟨call, found, rfl⟩
    intro same
    have first := ids i run there
    have second := ids j other there'
    rw [← same] at second
    exact different ((List.getElem?_inj (List.getElem?_eq_some_iff.mp first).1 distinct).mp
      (first.trans second.symm))

/-- What the call wrote: its invoice, exactly its own lines, one draft row. -/
def DraftCall.Drafted (call : DraftCall) (db after : Db) : Prop :=
  ∃ lines subtotal, draftLines call.ctx call.input.currency call.input.lines = some (lines, subtotal) ∧
    after = { db with
      invoices := db.invoices ++ [(draftTx call.ctx call.input lines subtotal).invoice]
      lines := db.lines ++ lines
      history := db.history ++ [(draftTx call.ctx call.input lines subtotal).history] } ∧
    after.linesOf call.ctx.newInvoiceId = lines ∧
    after.historyOf call.ctx.newInvoiceId = [(draftTx call.ctx call.input lines subtotal).history]

/-- At most one invoice is stored under the key, and the tables are as they were, or hold besides what
one of the calls wrote. -/
structure DraftedOnce (key : String) (calls : List DraftCall) (db after : Db) : Prop where
  single : ∀ inv ∈ after.invoices, ∀ other ∈ after.invoices,
    inv.idempotencyKey = some key → other.idempotencyKey = some key → other = inv
  written : after = db ∨ ¬ KeyStored key db ∧ ∃ call ∈ calls, call.Drafted db after

/-- The lines of a draft stand in the order of their positions. -/
theorem draftLines_ordered {ctx : CoreCtx} {currency : Currency} {inputs : List DraftLineInput}
    {lines : List InvoiceLine} {subtotal : Decimal}
    (summed : draftLines ctx currency inputs = some (lines, subtotal)) :
    lines.Pairwise fun first second => first.position ≤ second.position := by
  have positions : lines.map InvoiceLine.position = List.range lines.length := by
    have places := congrArg (List.map fun place => place.2.2) (draftLines_places summed)
    simpa [Function.comp_def, InvoiceLine.place] using places
  have sorted : (lines.map InvoiceLine.position).Pairwise (· ≤ ·) := by
    rw [positions]
    exact List.pairwise_le_range
  exact List.pairwise_map.mp sorted

/-- A draft under a new id adds its rows to the tables. -/
theorem drafted_apply {call : DraftCall} {lines : List InvoiceLine} {subtotal : Decimal}
    (new : NewId db call.ctx.newInvoiceId)
    (summed : draftLines call.ctx call.input.currency call.input.lines = some (lines, subtotal)) :
    call.Drafted db ((draftTx call.ctx call.input lines subtotal).apply db) := by
  have kept : db.lines.filter (fun line => decide (line.invoiceId ≠ call.ctx.newInvoiceId)) =
      db.lines := by
    refine List.filter_eq_self.mpr fun line member => ?_
    simpa using new.lines line member
  have own := draftLines_owner summed
  have inserted : upsert Invoice.id Invoice.mergeRow db.invoices
      (draftTx call.ctx call.input lines subtotal).invoice =
        db.invoices ++ [(draftTx call.ctx call.input lines subtotal).invoice] :=
    upsert_of_fresh new.invoice
  have tables : (draftTx call.ctx call.input lines subtotal).apply db = { db with
      invoices := db.invoices ++ [(draftTx call.ctx call.input lines subtotal).invoice]
      lines := db.lines ++ lines
      history := db.history ++ [(draftTx call.ctx call.input lines subtotal).history] } := by
    unfold InvoiceTx.apply
    rw [inserted]
    show Db.mk _ _ (db.lines.filter _ ++ lines) _ (db.sendKeys ++ []) _ _ _ = _
    rw [show (draftTx call.ctx call.input lines subtotal).invoice.id = call.ctx.newInvoiceId from rfl,
      kept, List.append_nil]
  refine ⟨lines, subtotal, summed, tables, ?_, ?_⟩
  · have none : db.lines.filter (fun line => decide (line.invoiceId = call.ctx.newInvoiceId)) = [] :=
      List.filter_eq_nil_iff.mpr fun line member => by simpa using new.lines line member
    have all : lines.filter (fun line => decide (line.invoiceId = call.ctx.newInvoiceId)) = lines :=
      List.filter_eq_self.mpr fun line member => by simpa using own line member
    rw [tables]
    unfold Db.linesOf
    rw [List.filter_append, none, all, List.nil_append]
    exact (draftLines_ordered summed).insertionSort_eq
  · have none : db.history.filter (fun row => decide (row.invoiceId = call.ctx.newInvoiceId)) = [] :=
      List.filter_eq_nil_iff.mpr fun row member => by simpa using new.history row member
    rw [tables]
    unfold Db.historyOf
    rw [List.filter_append, none, List.nil_append]
    exact List.filter_eq_self.mpr fun row member => by
      rw [List.mem_singleton.mp member]
      exact decide_eq_true rfl

/-- **Drafts under one key commit once.** -/
theorem drafts_commit_once (unique : db.KeysUnique)
    (keyed : ∀ call ∈ calls, call.input.idempotencyKey = some key)
    (distinct : (calls.map fun call => call.ctx.newInvoiceId).Nodup)
    (new : ∀ call ∈ calls, NewId db call.ctx.newInvoiceId) (order : List ℕ) :
    DraftedOnce key calls db ((draftPool calls db).exec advanceDraft order).store := by
  have holds := draftPool_holds unique distinct new
  have after := ((draft_rules calls).holds_exec holds (allTurns_true _ order)).store
  refine ⟨?_, ?_⟩
  · intro inv member other member' keyed keyed'
    refine eq_of_key_eq after.distinct member' member ?_
    exact after.keys inv member other member' (by rw [keyed]; exact Option.some_ne_none _)
      (keyed'.trans keyed.symm)
  · rcases (draft_rules calls).written_once (fun _ _ _ sound => draft_takes keyed sound) holds order
      with same | ⟨run, sound, free, taken, same⟩
    · exact Or.inl same
    · refine Or.inr ⟨free, run.call, sound.call, ?_⟩
      rw [same]
      show run.call.Drafted db (draftCallStep run.call run.stage db).2
      rcases draftCallStep_cases run.call run.stage db with unchanged | ⟨lines, tx, stage, committed, _⟩
      · exact absurd (unchanged ▸ taken) free
      · obtain ⟨subtotal, summed, rfl⟩ := sound.tx lines tx stage
        rw [(InvoiceTx.commit_ok committed).1]
        refine drafted_apply (sound.new ?_) summed
        rw [stage]
        exact fun _ => DraftStage.noConfusion

end Drafts

/-! ### One send under a key -/

/-- A call is one of those given; about to commit, it has the write set of a send, of the invoice as
it is stored while the key is not recorded. -/
structure SendRun.Sound (calls : List SendCall) (id : InvoiceId) (key : String) (db : Db)
    (run : SendRun) : Prop where
  call : run.call ∈ calls
  tx : ∀ tx output, run.stage = .committing tx output →
    ∃ inv deliveredTo, inv.id = run.call.invoiceId ∧
      tx = sendTx run.call.ctx inv .sent run.call.actor run.call.channel deliveredTo run.call.key ∧
      (db.findSend id key = none → db.getInvoice run.call.invoiceId = some inv)

/-- A step of a send leaves the tables alone, or commits. -/
theorem sendStage_cases (call : SendCall) (stage : SendStage) (db : Db) :
    (sendStage call stage db).2 = db ∨
      ∃ tx output, stage = .committing tx output ∧ tx.commit db = .ok (sendStage call stage db).2 ∧
        (sendStage call stage db).1 = .finished (.ok output) := by
  cases stage with
  | committing tx output =>
    simp only [sendStage]
    cases committed : tx.commit db with
    | error e => exact Or.inl rfl
    | ok db' => exact Or.inr ⟨tx, output, rfl, committed, rfl⟩
  | computing =>
    simp only [sendStage]
    split
    · exact Or.inl rfl
    · exact Or.inl rfl
  | _ => exact Or.inl rfl

/-- A send is about to commit only what it computed from the stored invoice. -/
theorem sendStage_committing {call : SendCall} {stage : SendStage} {db : Db} {tx : InvoiceTx}
    {output : SendInvoiceOutput} (next : (sendStage call stage db).1 = .committing tx output) :
    ∃ inv deliveredTo, inv.id = call.invoiceId ∧
      tx = sendTx call.ctx inv .sent call.actor call.channel deliveredTo call.key ∧
      db.getInvoice call.invoiceId = some inv := by
  cases stage with
  | looking =>
    simp only [sendStage, SendCall.look] at next
    split at next
    · cases next
    · split at next <;> cases next
  | replaying record => cases next
  | computing =>
    simp only [sendStage] at next
    split at next
    · cases next
    · rename_i tx' output' computed
      cases next
      obtain ⟨send, loaded, rest⟩ := bind_ok computed
      obtain ⟨deliveredTo, _, rest⟩ := bind_ok rest
      obtain ⟨found, accepted, _⟩ := prepareSend_ok loaded
      cases rest
      refine ⟨send.invoice, deliveredTo, key_of_find found, ?_, found⟩
      rw [(sendTarget_ok accepted).2]
  | committing tx' output' =>
    simp only [sendStage] at next
    split at next <;> cases next
  | finished outcome => cases next

/-- The tables are as they were, or hold besides what one of the calls wrote: the sent invoice, one
history row, and the record of the key. -/
structure SentUnderKeyOnce (id : InvoiceId) (key : String) (calls : List SendCall) (db after : Db) :
    Prop where
  rows : after.history = db.history ∨
    ∃ row, row.invoiceId = id ∧ row.event = "send" ∧ after.history = db.history ++ [row]
  written : after = db ∨ db.findSend id key = none ∧ after.findSend id key ≠ none ∧
    ∃ call ∈ calls, ∃ inv deliveredTo, db.getInvoice id = some inv ∧
      after = (sendTx call.ctx inv .sent call.actor call.channel deliveredTo (some key)).apply db

section Sends

variable {id : InvoiceId} {key : String} {calls : List SendCall} {db : Db} {run : SendRun}

/-- **A send commits only if its key is not recorded, and records it.** -/
theorem send_takes (keyed : ∀ call ∈ calls, call.invoiceId = id ∧ call.key = some key)
    (sound : run.Sound calls id key db) :
    (advanceSend run db).2 = db ∨
      ¬ db.findSend id key ≠ none ∧ (advanceSend run db).2.findSend id key ≠ none := by
  rcases sendStage_cases run.call run.stage db with same | ⟨tx, output, stage, committed, _⟩
  · exact Or.inl same
  · obtain ⟨inv, deliveredTo, target, rfl, _⟩ := sound.tx tx output stage
    obtain ⟨sameId, sameKey⟩ := keyed run.call sound.call
    rw [sameKey] at committed
    rw [sameId] at target
    obtain ⟨after, _, _, _, fresh⟩ := InvoiceTx.commit_ok committed
    have fresh := fresh ⟨inv.id, key, run.call.ctx.newHistoryId, deliveredTo, run.call.ctx.now⟩ rfl
    refine Or.inr ⟨not_not.mpr ?_, ?_⟩
    · refine List.find?_eq_none.mpr fun row member => ?_
      rw [← target]
      simpa using fresh row member
    · show (sendStage run.call run.stage db).2.findSend id key ≠ none
      rw [after]
      intro absent
      have record := List.find?_eq_none.mp absent
        ⟨inv.id, key, run.call.ctx.newHistoryId, deliveredTo, run.call.ctx.now⟩
        (List.mem_append_right _ (List.mem_singleton.mpr rfl))
      exact record (decide_eq_true ⟨target, rfl⟩)

theorem send_rules (keyed : ∀ call ∈ calls, call.invoiceId = id ∧ call.key = some key) :
    Rules advanceSend (fun _ _ => True) (fun _ => True) (SendRun.Sound calls id key)
      (fun _ _ => True) where
  store _ _ _ _ _ := trivial
  own db run _ sound _ := by
    refine ⟨sound.call, fun tx output next => ?_⟩
    obtain ⟨inv, deliveredTo, target, same, found⟩ := sendStage_committing next
    refine ⟨inv, deliveredTo, target, same, fun _ => ?_⟩
    rcases sendStage_cases run.call run.stage db with unchanged | ⟨_, _, _, _, done⟩
    · exact unchanged.symm ▸ found
    · exact SendStage.noConfusion (done.symm.trans next)
  others db run other _ sound theirs _ _ := by
    refine ⟨theirs.call, fun tx output stage => ?_⟩
    obtain ⟨inv, deliveredTo, target, same, found⟩ := theirs.tx tx output stage
    refine ⟨inv, deliveredTo, target, same, fun free => ?_⟩
    rcases send_takes keyed sound with unchanged | ⟨_, taken⟩
    · rw [unchanged] at free ⊢
      exact found free
    · exact absurd free taken
  apart _ _ _ _ _ _ _ _ := trivial
  symm _ _ _ := trivial

/-- **Sends under one key commit once.** -/
theorem sends_commit_once (keyed : ∀ call ∈ calls, call.invoiceId = id ∧ call.key = some key)
    (order : List ℕ) :
    SentUnderKeyOnce id key calls db ((sendPool calls db).exec advanceSend order).store := by
  have holds : Holds (fun _ => True) (SendRun.Sound calls id key) (fun _ _ => True)
      (sendPool calls db) := by
    refine ⟨trivial, fun i run found => ?_, fun _ _ _ _ _ _ _ => trivial⟩
    obtain ⟨call, member, rfl⟩ := List.mem_map.mp (List.mem_of_getElem? found)
    exact ⟨member, fun _ _ stage => SendStage.noConfusion stage⟩
  have takes : ∀ db run, True → run.Sound calls id key db → (advanceSend run db).2 = db ∨
      ¬ db.findSend id key ≠ none ∧ (advanceSend run db).2.findSend id key ≠ none :=
    fun _ _ _ sound => send_takes keyed sound
  have written : ((sendPool calls db).exec advanceSend order).store = db ∨
      ∃ run : SendRun, run.Sound calls id key db ∧ ¬ db.findSend id key ≠ none ∧
        (advanceSend run db).2.findSend id key ≠ none ∧
        ((sendPool calls db).exec advanceSend order).store = (advanceSend run db).2 :=
    (send_rules keyed).written_once takes holds order
  rcases written with same | ⟨run, sound, free, taken, same⟩
  · exact ⟨Or.inl (congrArg Db.history same), Or.inl same⟩
  · rw [same]
    rcases sendStage_cases run.call run.stage db with unchanged | ⟨tx, output, stage, committed, _⟩
    · exact absurd (unchanged ▸ taken) free
    · obtain ⟨inv, deliveredTo, target, rfl, found⟩ := sound.tx tx output stage
      obtain ⟨sameId, sameKey⟩ := keyed run.call sound.call
      have after : (advanceSend run db).2 = _ := (InvoiceTx.commit_ok committed).1
      rw [sameKey] at after
      rw [sameId] at target found
      rw [after] at taken ⊢
      refine ⟨Or.inr ⟨_, target, rfl, rfl⟩, Or.inr ⟨not_not.mp free, taken, run.call, sound.call,
        inv, deliveredTo, found (not_not.mp free), rfl⟩⟩

end Sends

/-! ### Both -/

/-- **Keyed calls commit once**: whatever the order of their lookups, computations and transactions,
any number of `draft_invoice` calls under one key leave at most one invoice with it, with exactly its
own lines and one draft row, and nothing else; and any number of sends of one invoice under one key
leave at most one history row. -/
theorem keyed_calls_commit_once {db db' : Db} {draftKey sendKey : String} {id : InvoiceId}
    {drafts : List DraftCall} {sends : List SendCall} (unique : db.KeysUnique)
    (keyed : ∀ call ∈ drafts, call.input.idempotencyKey = some draftKey)
    (distinct : (drafts.map fun call => call.ctx.newInvoiceId).Nodup)
    (new : ∀ call ∈ drafts, NewId db call.ctx.newInvoiceId)
    (sent : ∀ call ∈ sends, call.invoiceId = id ∧ call.key = some sendKey)
    (order order' : List ℕ) :
    DraftedOnce draftKey drafts db ((draftPool drafts db).exec advanceDraft order).store ∧
      SentUnderKeyOnce id sendKey sends db'
        ((sendPool sends db').exec advanceSend order').store :=
  ⟨drafts_commit_once unique keyed distinct new order, sends_commit_once sent order'⟩

/-- Two drafts of one order. -/
def twoDrafts : List DraftCall :=
  [⟨sampleCtx (oneOClock firstOfMarch) 1, keyedDraft⟩,
    ⟨sampleCtx (oneOClock firstOfMarch) 2, keyedDraft⟩]

/-- Two sends of one invoice. -/
def twoSends : List SendCall :=
  [.render (sampleCtx (oneOClock firstOfMarch) 3) (keyedSend "webhook://one"),
    .render (sampleCtx (oneOClock firstOfMarch) 4) (keyedSend "webhook://one")]

theorem new_in_sampleDb (id : InvoiceId) : NewId sampleDb id :=
  ⟨rfl, (fun _ absent => by cases absent), (fun _ absent => by cases absent)⟩

/-- All four look their key up before any commits; one draft and one send are stored. -/
theorem two_callers_commit_once :
    let order := [0, 1, 0, 1, 0, 1]
    let drafted := ((draftPool twoDrafts sampleDb).exec advanceDraft order).store
    let sent := ((sendPool twoSends issuedDb).exec advanceSend order).store
    DraftedOnce "order-1" twoDrafts sampleDb drafted ∧
      SentUnderKeyOnce ⟨1⟩ "send-1" twoSends issuedDb sent ∧
      drafted.invoices.length = 1 ∧ sent.history.length = issuedDb.history.length + 1 := by
  intro order drafted sent
  have keyed : ∀ call ∈ twoDrafts, call.input.idempotencyKey = some "order-1" := by
    intro call member
    simp only [twoDrafts, List.mem_cons, List.not_mem_nil, or_false] at member
    rcases member with rfl | rfl <;> rfl
  have targets : ∀ call ∈ twoSends, call.invoiceId = ⟨1⟩ ∧ call.key = some "send-1" := by
    intro call member
    simp only [twoSends, List.mem_cons, List.not_mem_nil, or_false] at member
    rcases member with rfl | rfl <;> exact ⟨rfl, rfl⟩
  have both : DraftedOnce "order-1" twoDrafts sampleDb drafted ∧
      SentUnderKeyOnce ⟨1⟩ "send-1" twoSends issuedDb sent :=
    keyed_calls_commit_once sampleDb_keysUnique keyed (by decide)
      (fun call _ => new_in_sampleDb call.ctx.newInvoiceId) targets order order
  exact ⟨both.1, both.2, by decide +kernel, by decide +kernel⟩

end Invoicing
