/-
**Executing a call again under its idempotency key.**

* `KeyedCall` — the four commands the law is about, each with its input; `KeyedCall.execute` gives the
  entity the command returns. `KeyedCall.Reads` — the rows it looks up are read from the stored tables.
* `Replayed` — executed again, a call reads its rows, returns the same entity and changes no table.
* `KeyedCall.Replays` — a draft whose years fit; a send whose invoice still renders, when the years of
  what it loads fit; a payment or a credit note never.
* **`replayed_iff`** — exactly these calls are replayed, whatever other entities were worked on in
  between. **`paid_twice`** — a payment executed again is recorded again.
-/

import Invoicing.Runs.Stays
import Invoicing.Store.PlainTexts

namespace Invoicing

open KeyedTable

/-! ### Calls with a key -/

/-- What a command returns. -/
abbrev Returned := Invoice ⊕ CreditNote

/-- A call of a command whose input carries an idempotency key. -/
inductive KeyedCall
  | draft (input : DraftInvoiceInput)
  | send (input : SendInvoiceInput)
  | sendRender (input : SendInvoiceRenderInput)
  | markPaid (input : MarkPaidInput)
  | createCreditNote (input : CreateCreditNoteInput)

def KeyedCall.key : KeyedCall → Option String
  | .draft input => input.idempotencyKey
  | .send input => input.idempotencyKey
  | .sendRender input => input.idempotencyKey
  | .markPaid input => input.idempotencyKey
  | .createCreditNote input => input.idempotencyKey

/-- The entity a command returns, and the tables after it. -/
def returning {α : Type} (read : α → Returned) (result : CoreResult α × Db) :
    CoreResult Returned × Db := (result.1.map read, result.2)

/-- Execute the call, in the world of a context. -/
def KeyedCall.execute (call : KeyedCall) (ctx : CoreCtx) (db : Db) : CoreResult Returned × Db :=
  match call with
  | .draft input => returning (fun output => .inl output.invoice) (draftInvoice ctx input db)
  | .send input => returning (fun output => .inl output.invoice) (sendInvoice ctx input db)
  | .sendRender input =>
      returning (fun output => .inl output.invoice) (sendInvoiceRender ctx input db)
  | .markPaid input => returning (fun output => .inl output.invoice) (Invoicing.markPaid ctx input db)
  | .createCreditNote input =>
      returning (fun output => .inr output.creditNote) (Invoicing.createCreditNote ctx input db)

/-- The rows the call looks up are read: the invoice under a draft's key; what a send loads, and the record
of its key; the invoice of a payment or a credit note. -/
def KeyedCall.Reads (texts : RowTexts) (db : Db) : KeyedCall → Prop
  | .draft input => ∀ key ∈ input.idempotencyKey, (db.fetchByKey texts key).isOk
  | .send input => ∀ key ∈ input.idempotencyKey, db.LoadsSend texts input.invoiceId key
  | .sendRender input => ∀ key ∈ input.idempotencyKey, db.LoadsSend texts input.invoiceId key
  | .markPaid input => (db.fetchInvoice texts input.invoiceId).isOk
  | .createCreditNote input => (db.fetchInvoice texts input.invoiceId).isOk

/-- The call returns the entity and changes no table. A row that is not read would fail it. -/
structure Replayed (texts : RowTexts) (call : KeyedCall) (ctx : CoreCtx) (db : Db) (entity : Returned) :
    Prop where
  reads : call.Reads texts db
  answered : call.execute ctx db = (.ok entity, db)

/-- The id the call draws is new. -/
def KeyedCall.DrawsFresh (call : KeyedCall) (ctx : CoreCtx) (db : Db) : Prop :=
  match call with
  | .draft _ => db.getInvoice ctx.newInvoiceId = none
  | _ => True

/-- The invoice still has its customer and still renders. -/
def StillRenders (ctx : CoreCtx) (db : Db) (entity : Returned) : Prop :=
  match entity with
  | .inl inv => ∃ customer, db.getCustomer inv.customerId = some customer ∧
      ∃ pages, ctx.render inv customer (db.linesOf inv.id) = .ok pages
  | .inr _ => False

/-- The years of the entity's times have four digits. -/
def EntityFits : Returned → Prop
  | .inl inv => YearsFit inv.times
  | .inr note => YearsFit note.times

/-- The calls that are replayed under their key. -/
def KeyedCall.Replays (call : KeyedCall) (ctx : CoreCtx) (db : Db) (entity : Returned) : Prop :=
  match call with
  | .draft _ => EntityFits entity
  | .send input => StillRenders ctx db entity ∧
      ∀ key ∈ input.idempotencyKey, db.SendFits input.invoiceId key
  | .sendRender input => StillRenders ctx db entity ∧
      ∀ key ∈ input.idempotencyKey, db.SendFits input.invoiceId key
  | .markPaid _ | .createCreditNote _ => False

/-- The command is on another entity. -/
def Command.Avoids (entity : Returned) : Command → Prop
  | .invoice request => ∀ inv, entity = .inl inv → ¬ request.On inv.id
  | .createCreditNote ctx _ => ∀ note, entity = .inr note → ctx.newCreditNoteId ≠ note.id
  | .issueCreditNote _ input => ∀ note, entity = .inr note → input.creditNoteId ≠ note.id
  | .elsewhere _ => True

/-! ### What commands on other entities leave alone -/

theorem Command.Avoids.leaves {command : Command} {inv : Invoice}
    (avoids : command.Avoids (.inl inv)) : command.Leaves inv.id := by
  cases command with
  | invoice request => exact avoids inv rfl
  | _ => trivial

theorem runCommands_keysUnique {db : Db} (unique : db.KeysUnique) (commands : List Command) :
    (runCommands db commands).KeysUnique := by
  induction commands generalizing db with
  | nil => exact unique
  | cons command rest ih => exact ih (command.keysUnique unique)

theorem runCommands_stays {inv : Invoice} {commands : List Command}
    (others : ∀ command ∈ commands, command.Avoids (.inl inv)) (db : Db) :
    InvoiceStays inv.id db (runCommands db commands) := by
  induction commands generalizing db with
  | nil => exact .refl _ _
  | cons command rest ih =>
    exact (Command.stays (others command List.mem_cons_self).leaves db).trans
      (ih (fun other member => others other (List.mem_cons_of_mem _ member)) _)

/-! ### Sends -/

/-- What follows the checks of a send writes a send of the stored invoice under the key. -/
def WritesSend (ctx : CoreCtx) (id : InvoiceId) (key : String) (db : Db)
    (go : CoreResult (Prepared SendInvoiceOutput)) : Prop :=
  ∀ prepared, go = .ok prepared → ∃ inv actor channel deliveredTo lines html pdf,
    db.getInvoice id = some inv ∧
      prepared = .write (some inv) (sendTx ctx inv .sent actor channel deliveredTo (some key))
        ⟨sentRow inv .sent ctx.now, lines, html, pdf, deliveredTo, false⟩

/-- **A keyed send that succeeded left its record and the row it returned.** -/
theorem replayOr_stored {ctx : CoreCtx} {id : InvoiceId} {key : String} {db : Db}
    {go : CoreResult (Prepared SendInvoiceOutput)} {output : SendInvoiceOutput}
    (writes : WritesSend ctx id key db go)
    (done : (perform (replayOr ctx id (some key) db go) db).1 = .ok output) :
    let after := (perform (replayOr ctx id (some key) db go) db).2
    output.invoice.id = id ∧ after.getInvoice id = some output.invoice ∧
      ∃ record, after.findSend id key = some record := by
  intro after
  rcases perform_ok done with ⟨answered, same⟩ | ⟨loaded, tx, written, committed⟩
  · rcases replayOr_ok answered with ⟨k, output', keyed, tried, shape⟩ | ⟨_, went⟩
    · cases keyed
      cases shape
      obtain ⟨recorded, found, _⟩ := tryReplay_some tried
      show _ ∧ (perform _ db).2.getInvoice id = _ ∧ ∃ record, (perform _ db).2.findSend id key = _
      rw [same]
      exact ⟨getInvoice_id found, found, Option.ne_none_iff_exists'.mp recorded⟩
    · obtain ⟨_, _, _, _, _, _, _, _, shape⟩ := writes _ went
      cases shape
  · rcases replayOr_ok written with ⟨_, _, _, _, shape⟩ | ⟨absent, went⟩
    · cases shape
    · obtain ⟨inv, actor, channel, deliveredTo, lines, html, pdf, found, shape⟩ := writes _ went
      cases shape
      have target := getInvoice_id found
      obtain ⟨applied, _⟩ := InvoiceTx.commit_ok committed
      show _ ∧ (perform _ db).2.getInvoice id = _ ∧ ∃ record, (perform _ db).2.findSend id key = _
      rw [applied]
      refine ⟨target, ?_, ⟨inv.id, key, ctx.newHistoryId, deliveredTo, ctx.now⟩, ?_⟩
      · rw [InvoiceTx.getInvoice_apply]
        show (if id = inv.id then some (merged _ (db.getInvoice inv.id) _) else _) = _
        rw [if_pos target.symm]
        rw [target, found]
        rfl
      · have noRecord : db.sendKeys.find? _ = none := absent key rfl
        show (db.sendKeys ++ [_]).find? _ = _
        rw [List.find?_append, noRecord]
        simp [target]

/-- **A recorded key is answered exactly when the stored invoice still renders.** -/
theorem replayOr_replayed {ctx : CoreCtx} {id : InvoiceId} {key : String} {db : Db} {inv : Invoice}
    {record : SendIdempotencyRecord} (go : CoreResult (Prepared SendInvoiceOutput))
    (recorded : db.findSend id key = some record) (stored : db.getInvoice id = some inv) :
    returning (fun output => .inl output.invoice) (perform (replayOr ctx id (some key) db go) db) =
        (.ok (.inl inv), db) ↔
      StillRenders ctx db (.inl inv) := by
  have target := getInvoice_id stored
  subst target
  cases tried : tryReplay ctx inv.id key db with
  | error e =>
    have failed : replayOr ctx inv.id (some key) db go = .error e := by
      show (tryReplay ctx inv.id key db >>= _) = _
      rw [tried]
      rfl
    rw [failed]
    constructor
    · intro same
      cases congrArg Prod.fst same
    · rintro ⟨customer, buyer, pages, rendered⟩
      rw [tryReplay_of_recorded recorded stored buyer rendered] at tried
      cases tried
  | ok answer =>
    cases answer with
    | none =>
      rw [tryReplay_none tried] at recorded
      cases recorded
    | some output =>
      obtain ⟨_, found, customer, buyer, rendered⟩ := tryReplay_some tried
      rw [stored] at found
      have same : output.invoice = inv := (Option.some.inj found).symm
      rw [same] at buyer rendered
      have answered : replayOr ctx inv.id (some key) db go = .ok (.answer output) := by
        show (tryReplay ctx inv.id key db >>= _) = _
        rw [tried]
        rfl
      rw [answered]
      refine ⟨fun _ => ⟨customer, buyer, _, rendered⟩, fun _ => ?_⟩
      show (Except.ok (Sum.inl output.invoice), db) = _
      rw [same]

/-- A send that looks its key up before it writes. -/
def LooksUp (id : InvoiceId) (key : String)
    (send : CoreCtx → Db → CoreResult SendInvoiceOutput × Db) : Prop :=
  ∀ ctx db, ∃ go, send ctx db = perform (replayOr ctx id (some key) db go) db ∧
    WritesSend ctx id key db go

/-- **After a send of an invoice that stays, a send under the same key is answered with its entity
exactly when the invoice still renders.** -/
theorem LooksUp.sent_again {id : InvoiceId} {key : String}
    {send send' : CoreCtx → Db → CoreResult SendInvoiceOutput × Db} (looksUp : LooksUp id key send)
    (looksUp' : LooksUp id key send') {ctx ctx' : CoreCtx} {db : Db} {output : SendInvoiceOutput}
    {between : List Command} (done : (send ctx db).1 = .ok output)
    (others : ∀ command ∈ between, command.Avoids (.inl output.invoice)) :
    let later := runCommands (send ctx db).2 between
    returning (fun output => .inl output.invoice) (send' ctx' later) =
        (.ok (.inl output.invoice), later) ↔
      StillRenders ctx' later (.inl output.invoice) := by
  intro later
  obtain ⟨go, first, writes⟩ := looksUp ctx db
  obtain ⟨go', second, _⟩ := looksUp' ctx' later
  have stays : InvoiceStays output.invoice.id (send ctx db).2 later := runCommands_stays others _
  rw [first] at done stays
  obtain ⟨target, stored, record, recorded⟩ := replayOr_stored writes done
  rw [target] at stays
  rw [second]
  exact replayOr_replayed go' (stays.sends key record recorded) (stays.invoice.trans stored)

/-- The checks a send makes before it looks at the tables. -/
def SendInvoiceInput.Checked (input : SendInvoiceInput) : Prop :=
  validateDestination input.destinationUri = .ok () ∧
    checkScheme (schemeOf input.destinationUri) = .ok ()

theorem sendInvoice_checked {ctx : CoreCtx} {input : SendInvoiceInput} {db : Db}
    {output : SendInvoiceOutput} (done : (sendInvoice ctx input db).1 = .ok output) :
    input.Checked := by
  rcases perform_ok done with ⟨answered, _⟩ | ⟨_, _, written, _⟩
  · obtain ⟨_, valid, rest⟩ := bind_ok answered
    obtain ⟨_, scheme, _⟩ := bind_ok rest
    exact ⟨valid, scheme⟩
  · obtain ⟨_, valid, rest⟩ := bind_ok written
    obtain ⟨_, scheme, _⟩ := bind_ok rest
    exact ⟨valid, scheme⟩

theorem sendInvoiceRender_checked {ctx : CoreCtx} {input : SendInvoiceRenderInput} {db : Db}
    {output : SendInvoiceOutput} (done : (sendInvoiceRender ctx input db).1 = .ok output) :
    validateDestination input.destinationUri = .ok () := by
  rcases perform_ok done with ⟨answered, _⟩ | ⟨_, _, written, _⟩
  · exact (bind_ok answered).choose_spec.1
  · exact (bind_ok written).choose_spec.1

/-- An input that passes the checks looks its key up in every execution. -/
theorem sendInvoice_looksUp {input : SendInvoiceInput} {key : String}
    (keyed : input.idempotencyKey = some key) (checked : input.Checked) :
    LooksUp input.invoiceId key fun ctx db => sendInvoice ctx input db := by
  intro ctx db
  refine ⟨do
    let send ← prepareSend ctx input.invoiceId db
    let deliveredTo ← deliver ctx input send.pdf
    return finalizeSend ctx send input.actor input.channel deliveredTo input.idempotencyKey, ?_, ?_⟩
  · show perform (prepareSendInvoice ctx input db) db = _
    unfold prepareSendInvoice
    rw [checked.1, checked.2, ← keyed]
    rfl
  · intro prepared done
    obtain ⟨send, loaded, rest⟩ := bind_ok done
    obtain ⟨deliveredTo, _, rest⟩ := bind_ok rest
    obtain ⟨found, target, _⟩ := prepareSend_ok loaded
    cases rest
    unfold finalizeSend
    rw [keyed, (sendTarget_ok target).2]
    exact ⟨send.invoice, input.actor, input.channel, deliveredTo, _, _, _, found, rfl⟩

theorem sendInvoiceRender_looksUp {input : SendInvoiceRenderInput} {key : String}
    (keyed : input.idempotencyKey = some key)
    (checked : validateDestination input.destinationUri = .ok ()) :
    LooksUp input.invoiceId key fun ctx db => sendInvoiceRender ctx input db := by
  intro ctx db
  refine ⟨do
    let send ← prepareSend ctx input.invoiceId db
    return finalizeSend ctx send input.actor input.channel input.destinationUri
      input.idempotencyKey, ?_, ?_⟩
  · show perform (prepareSendRender ctx input db) db = _
    unfold prepareSendRender
    rw [checked, ← keyed]
    rfl
  · intro prepared done
    obtain ⟨send, loaded, rest⟩ := bind_ok done
    obtain ⟨found, target, _⟩ := prepareSend_ok loaded
    cases rest
    unfold finalizeSend
    rw [keyed, (sendTarget_ok target).2]
    exact ⟨send.invoice, input.actor, input.channel, input.destinationUri, _, _, _, found, rfl⟩

/-! ### Payments and credit notes -/

/-- **A payment that goes through changes the tables**, whatever key it carries. -/
theorem markPaid_not_replayed (texts : RowTexts) (ctx : CoreCtx) (input : MarkPaidInput) (db : Db)
    (entity : Returned) : ¬ Replayed texts (.markPaid input) ctx db entity := by
  intro replayed
  have shape : returning (fun output => .inl output.invoice) (Invoicing.markPaid ctx input db) =
    (.ok entity, db) := replayed.answered
  have unchanged : (Invoicing.markPaid ctx input db).2 = db := congrArg Prod.snd shape
  cases done : (Invoicing.markPaid ctx input db).1 with
  | error e =>
    have failed : (returning (fun output => .inl output.invoice)
        (Invoicing.markPaid ctx input db)).1 = (.error e : CoreResult Returned) := by
      show (Invoicing.markPaid ctx input db).1.map _ = _
      rw [done]
      rfl
    rw [shape] at failed
    cases failed
  | ok output =>
    rcases perform_ok done with ⟨answered, _⟩ | ⟨loaded, tx, written, committed⟩
    · obtain ⟨_, _, _, _, _, _, _, same⟩ := prepareMarkPaid_ok answered
      cases same
    · obtain ⟨applied, _⟩ := InvoiceTx.commit_ok committed
      have grown : (db.history ++ [tx.history]).length = db.history.length :=
        congrArg (fun db => db.history.length) (applied.symm.trans unchanged)
      simp at grown

/-- **A credit note that is created changes the tables**, whatever key it carries. -/
theorem createCreditNote_not_replayed (texts : RowTexts) (ctx : CoreCtx) (input : CreateCreditNoteInput)
    (db : Db) (entity : Returned) : ¬ Replayed texts (.createCreditNote input) ctx db entity := by
  intro replayed
  have shape : returning (fun output => .inr output.creditNote)
    (Invoicing.createCreditNote ctx input db) = (.ok entity, db) := replayed.answered
  rcases performCredit_cases CreateCreditNoteOutput.mk (prepareCreateCreditNote ctx input db) db
    with ⟨_, stop, failed⟩ | ⟨tx, _, done⟩
  · have stopped : (returning (fun output => .inr output.creditNote)
        (Invoicing.createCreditNote ctx input db)).1 = (.error stop : CoreResult Returned) := by
      show (Invoicing.createCreditNote ctx input db).1.map _ = _
      unfold Invoicing.createCreditNote
      rw [failed]
      rfl
    rw [shape] at stopped
    cases stopped
  · have unchanged : tx.apply db = db := (congrArg Prod.snd done).symm.trans (congrArg Prod.snd shape)
    have grown : (db.creditHistory ++ [tx.history]).length = db.creditHistory.length :=
      congrArg (fun db => db.creditHistory.length) unchanged
    simp at grown

/-! ### Any call -/

theorem returning_ok {α : Type} {read : α → Returned} {result : CoreResult α × Db}
    {entity : Returned} (done : (returning read result).1 = .ok entity) :
    ∃ output, result.1 = .ok output ∧ entity = read output := by
  have mapped : result.1.map read = .ok entity := done
  cases shape : result.1 with
  | error e =>
    rw [shape] at mapped
    cases mapped
  | ok output =>
    rw [shape] at mapped
    cases mapped
    exact ⟨output, rfl, rfl⟩

/-- **A stored draft is replayed under its key exactly when its row is read back.** -/
theorem draft_replayed {texts : RowTexts} (documented : texts.Documented) {input : DraftInvoiceInput}
    {key : String} {ctx : CoreCtx} {db : Db} {inv : Invoice} (unique : db.KeysUnique)
    (keyed : input.idempotencyKey = some key) (valid : input.validate = .ok ())
    (stored : db.getInvoice inv.id = some inv) (holds : inv.idempotencyKey = some key) :
    Replayed texts (.draft input) ctx db (.inl inv) ↔ YearsFit inv.times := by
  have found : db.findByIdempotencyKey key = some inv :=
    unique.findByIdempotencyKey (mem_of_find stored) holds
  constructor
  · intro replayed
    obtain ⟨_, read⟩ := ok_of_isOk (replayed.reads key keyed)
    obtain ⟨rfl, fits⟩ := (fetchByKey_eq_ok_iff documented).mp read
    exact fits inv found
  · intro fits
    refine ⟨?_, ?_⟩
    · intro key' keyed'
      obtain rfl : key = key' := Option.some.inj (keyed.symm.trans keyed')
      refine isOk_iff.mpr ⟨_, (fetchByKey_eq_ok_iff documented).mpr ⟨found, ?_⟩⟩
      rintro _ ⟨⟩
      exact fits
    · show returning _ (draftInvoice ctx input db) = _
      rw [draftInvoice_of_stored unique keyed valid stored holds]
      rfl

/-- A send that is answered as typed is replayed exactly when what it loads is read. -/
theorem send_replayed {texts : RowTexts} (documented : texts.Documented) {call : KeyedCall}
    {id : InvoiceId} {key : Option String} {ctx : CoreCtx} {db : Db} {entity : Returned}
    (reads : call.Reads texts db ↔ ∀ k ∈ key, db.LoadsSend texts id k)
    (answers : call.execute ctx db = (.ok entity, db) ↔ StillRenders ctx db entity) :
    Replayed texts call ctx db entity ↔
      StillRenders ctx db entity ∧ ∀ k ∈ key, db.SendFits id k := by
  constructor
  · rintro ⟨read, answered⟩
    exact ⟨answers.mp answered, fun k there => (loadsSend_iff documented).mp (reads.mp read k there)⟩
  · rintro ⟨renders, fits⟩
    exact ⟨reads.mpr fun k there => (loadsSend_iff documented).mpr (fits k there), answers.mpr renders⟩

/-- **Executed again under its key, a draft is replayed exactly when its row is read back, a send when in
addition its invoice still renders, a payment or a credit note never** — on any tables with unique keys,
with any commands on other entities in between, and whatever the second execution uses of the world. -/
theorem replayed_iff {texts : RowTexts} (documented : texts.Documented) {call : KeyedCall} {key : String}
    {ctx ctx' : CoreCtx} {db : Db} {entity : Returned} {between : List Command} (unique : db.KeysUnique)
    (keyed : call.key = some key) (fresh : call.DrawsFresh ctx db)
    (first : (call.execute ctx db).1 = .ok entity)
    (others : ∀ command ∈ between, command.Avoids entity) :
    Replayed texts call ctx' (runCommands (call.execute ctx db).2 between) entity ↔
      call.Replays ctx' (runCommands (call.execute ctx db).2 between) entity := by
  cases call with
  | draft input =>
    obtain ⟨output, done, rfl⟩ := returning_ok first
    obtain ⟨valid, holds, stored⟩ := draftInvoice_stored unique fresh keyed done
    have unique' : (draftInvoice ctx input db).2.KeysUnique :=
      Command.keysUnique unique (.invoice (.draft ctx input))
    have stays := runCommands_stays others (draftInvoice ctx input db).2
    exact draft_replayed documented (runCommands_keysUnique unique' between) keyed valid
      (stays.invoice.trans stored) holds
  | send input =>
    obtain ⟨output, done, rfl⟩ := returning_ok first
    have looksUp := sendInvoice_looksUp keyed (sendInvoice_checked done)
    exact send_replayed documented Iff.rfl (looksUp.sent_again looksUp done others)
  | sendRender input =>
    obtain ⟨output, done, rfl⟩ := returning_ok first
    have looksUp := sendInvoiceRender_looksUp keyed (sendInvoiceRender_checked done)
    exact send_replayed documented Iff.rfl (looksUp.sent_again looksUp done others)
  | markPaid input => exact iff_of_false (markPaid_not_replayed _ _ _ _ _) id
  | createCreditNote input => exact iff_of_false (createCreditNote_not_replayed _ _ _ _ _) id

/-! ### The second payment -/

/-- A payment of 40.00 under a key. -/
def keyedPayment : MarkPaidInput :=
  { samplePayment 4000 fits_forty with idempotencyKey := some "transfer-1" }

/-- The tables after the payment is executed some number of times. -/
def paidDb : ℕ → Db
  | 0 => issuedDb
  | times + 1 => ((KeyedCall.markPaid keyedPayment).execute
      (sampleCtx (oneOClock firstOfMarch) (times + 3)) (paidDb times)).2

/-- The sum paid after so many executions. -/
def paidAfter (times : ℕ) : Option ℚ :=
  ((paidDb times).getInvoice ⟨1⟩).map fun inv => inv.amountPaid.value

/-- Both executions of one payment succeed under one key, and the second adds another 40.00. -/
theorem paid_twice :
    ∃ entity, ((KeyedCall.markPaid keyedPayment).execute
        (sampleCtx (oneOClock firstOfMarch) 3) issuedDb).1 = .ok entity ∧
      ¬ Replayed plainRowTexts (.markPaid keyedPayment) (sampleCtx (oneOClock firstOfMarch) 4) (paidDb 1)
        entity ∧
      paidAfter 1 = some 40 ∧ paidAfter 2 = some 80 := by
  refine ⟨_, rfl, markPaid_not_replayed _ _ _ _ _, ?_, ?_⟩
  · decide +kernel
  · decide +kernel

theorem sampleDb_keysUnique : sampleDb.KeysUnique :=
  ⟨List.nodup_nil, fun _ absent => by cases absent⟩

/-- A draft under a key. -/
def keyedDraft : DraftInvoiceInput := { sampleDraft with idempotencyKey := some "order-1" }

/-- A draft of another invoice. -/
def draftBetween : List Command :=
  [.invoice (.draft (sampleCtx (oneOClock firstOfMarch) 2) sampleDraft)]

theorem replayed_iff_keyed_draft :
    let draft := KeyedCall.draft keyedDraft
    let first := draft.execute (sampleCtx (oneOClock firstOfMarch) 1) sampleDb
    ∃ entity, first.1 = .ok entity ∧
      Replayed plainRowTexts draft (sampleCtx (oneOClock firstOfMarch) 3)
        (runCommands first.2 draftBetween) entity := by
  intro draft first
  have keyed : draft.key = some "order-1" := rfl
  have fresh : draft.DrawsFresh (sampleCtx (oneOClock firstOfMarch) 1) sampleDb := rfl
  refine ⟨_, rfl, (replayed_iff plainRowTexts_documented sampleDb_keysUnique keyed fresh rfl ?_).mpr ?_⟩
  · intro command member
    rw [List.mem_singleton.mp member]
    intro inv same
    cases same
    show (⟨2⟩ : InvoiceId) ≠ ⟨1⟩
    decide
  · show YearsFit _
    decide +kernel

end Invoicing
