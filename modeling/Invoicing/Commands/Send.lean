/-
**`send_invoice` and `send_invoice_render`.**

* `tryReplay` — a key already recorded for the invoice is answered with the stored row, rendered
  again, and the destination of the first send.
* `prepareSend`, `finalizeSend` — load, ask the transition table (a sent invoice may be sent again
  although the table has no such edge), render; then the write set, with the record of the key.
* `prepareSendInvoice` delivers to a file or a sink in between; `prepareSendRender` leaves delivery to
  its caller.
* **`prepareSend_ok`**, **`replayOr_ok`** — what a send checks, and when it is answered from its key.
-/

import Invoicing.Commands.Ctx

namespace Invoicing

open Chrono

/-- Input of a send to a file or to standard output; `sink` is what writing to the sink gives. -/
structure SendInvoiceInput where
  invoiceId : InvoiceId
  destinationUri : String
  idempotencyKey : Option String
  actor : Actor
  channel : Channel
  sink : Option (List UInt8 → Except String Unit)

/-- Input of a send whose caller delivers. -/
structure SendInvoiceRenderInput where
  invoiceId : InvoiceId
  destinationUri : String
  idempotencyKey : Option String
  actor : Actor
  channel : Channel
  deriving DecidableEq

structure SendInvoiceOutput where
  invoice : Invoice
  lines : List InvoiceLine
  html : String
  pdf : List UInt8
  deliveredTo : String
  idempotencyReplay : Bool

/-- The check of both inputs. -/
def validateDestination (uri : String) : CoreResult Unit :=
  if isBlank uri then fail (.validation "destination_uri must not be empty") else .ok ()

/-! ### Destinations -/

/-- What stands before the first `://`, or the whole text. -/
def beforeScheme : List Char → List Char
  | ':' :: '/' :: '/' :: _ => []
  | c :: rest => c :: beforeScheme rest
  | [] => []

/-- The scheme of a destination, in lower case. -/
def schemeOf (uri : String) : String :=
  if uri = "stdout" then "stdout"
  else String.ofList ((beforeScheme uri.toList).map Char.toLower)

/-- The schemes the command delivers to itself. -/
def checkScheme (scheme : String) : CoreResult Unit :=
  if scheme = "file" ∨ scheme = "stdout" then .ok ()
  else if scheme = "bus" ∨ scheme = "webhook" ∨ scheme = "link" then
    fail (.notImplemented ("send_invoice: " ++ scheme ++
      ":// dispatch must go through send_invoice_render + an adapter-owned transport"))
  else fail (.validation ("send_invoice: unknown destination scheme `" ++ scheme ++ "`"))

/-- The path of a `file://` destination. -/
def filePathFromUri (uri : String) : CoreResult String :=
  if uri.toList.take 7 ≠ "file://".toList then
    fail (.validation ("file URI: missing `file://` prefix: " ++ uri))
  else if uri.toList.drop 7 = [] then fail (.validation "file URI: empty path component")
  else .ok (String.ofList (uri.toList.drop 7))

/-- Deliver to a file or to the sink; the destination to record. -/
def deliver (ctx : CoreCtx) (input : SendInvoiceInput) (pdf : List UInt8) : CoreResult String :=
  if schemeOf input.destinationUri = "file" then do
    let path ← filePathFromUri input.destinationUri
    match ctx.writeFile path pdf with
    | .error message => fail (.validation message)
    | .ok _ => return "file://" ++ path
  else
    match input.sink with
    | none => fail (.validation
        "send_invoice: stdout destination requires a sink (none supplied)")
    | some write =>
        match write pdf with
        | .error message => fail (.validation ("writing to stdout sink: " ++ message))
        | .ok _ => .ok "stdout"

/-! ### Replay, preparation, write set -/

/-- The answer to a key already recorded for the invoice. -/
def tryReplay (ctx : CoreCtx) (id : InvoiceId) (key : String) (db : Db) :
    CoreResult (Option SendInvoiceOutput) :=
  match db.findSend id key with
  | none => .ok none
  | some record => do
      let inv ← invoiceOf db id
      let lines := db.linesOf id
      let customer ← customerOf db inv
      let (html, pdf) ← ctx.render inv customer lines
      return some ⟨inv, lines, html, pdf, record.deliveredTo, true⟩

/-- The state a send leads to. -/
def sendTarget (state : InvoiceState) : Except TransitionError InvoiceState :=
  match state with
  | .issued | .viewed => nextState state .send
  | .sent => .ok .sent
  | other => .error (.illegal other "send")

structure PreparedSend where
  invoice : Invoice
  lines : List InvoiceLine
  html : String
  pdf : List UInt8
  toState : InvoiceState

def prepareSend (ctx : CoreCtx) (id : InvoiceId) (db : Db) : CoreResult PreparedSend := do
  let inv ← invoiceOf db id
  let lines := db.linesOf id
  let toState ← orRejected (sendTarget inv.state)
  let customer ← customerOf db inv
  let (html, pdf) ← ctx.render inv customer lines
  return ⟨inv, lines, html, pdf, toState⟩

/-- The row of a sent invoice. -/
def sentRow (inv : Invoice) (toState : InvoiceState) (time : DateTime) : Invoice :=
  { inv with state := toState, sentAt := some time, updatedAt := time }

/-- The write set of a send. -/
def sendTx (ctx : CoreCtx) (inv : Invoice) (toState : InvoiceState) (actor : Actor)
    (channel : Channel) (deliveredTo : String) (key : Option String) : InvoiceTx where
  invoice := sentRow inv toState ctx.now
  lines := none
  history := { transitionRow ctx inv toState "send" actor channel ctx.now with
    metadata := [("destination", deliveredTo)] }
  sendKey := key.map fun key => ⟨inv.id, key, ctx.newHistoryId, deliveredTo, ctx.now⟩

def finalizeSend (ctx : CoreCtx) (send : PreparedSend) (actor : Actor) (channel : Channel)
    (deliveredTo : String) (key : Option String) : Prepared SendInvoiceOutput :=
  let tx := sendTx ctx send.invoice send.toState actor channel deliveredTo key
  .write (some send.invoice) tx ⟨tx.invoice, send.lines, send.html, send.pdf, deliveredTo, false⟩

/-- Answer a key that is already recorded, else go on. -/
def replayOr (ctx : CoreCtx) (id : InvoiceId) (key : Option String) (db : Db)
    (go : CoreResult (Prepared SendInvoiceOutput)) : CoreResult (Prepared SendInvoiceOutput) :=
  match key with
  | none => go
  | some key => do
      match ← tryReplay ctx id key db with
      | some output => return .answer output
      | none => go

def prepareSendInvoice (ctx : CoreCtx) (input : SendInvoiceInput) (db : Db) :
    CoreResult (Prepared SendInvoiceOutput) := do
  validateDestination input.destinationUri
  checkScheme (schemeOf input.destinationUri)
  replayOr ctx input.invoiceId input.idempotencyKey db do
    let send ← prepareSend ctx input.invoiceId db
    let deliveredTo ← deliver ctx input send.pdf
    return finalizeSend ctx send input.actor input.channel deliveredTo input.idempotencyKey

def prepareSendRender (ctx : CoreCtx) (input : SendInvoiceRenderInput) (db : Db) :
    CoreResult (Prepared SendInvoiceOutput) := do
  validateDestination input.destinationUri
  replayOr ctx input.invoiceId input.idempotencyKey db do
    let send ← prepareSend ctx input.invoiceId db
    return finalizeSend ctx send input.actor input.channel input.destinationUri
      input.idempotencyKey

theorem schemaFree_validateDestination (uri : String) : SchemaFree (validateDestination uri) := by
  unfold validateDestination
  split
  · exact .fail fun _ => by simp
  · exact .ok ()

theorem schemaFree_prepareSend (ctx : CoreCtx) (id : InvoiceId) (db : Db) :
    SchemaFree (prepareSend ctx id db) :=
  (schemaFree_invoiceOf _ _).bind fun _ => (schemaFree_orRejected _).bind fun _ =>
    (schemaFree_customerOf _ _).bind fun _ => (schemaFree_render _ _ _ _).bind fun _ => .ok _

theorem schemaFree_replayOr (ctx : CoreCtx) (id : InvoiceId) (key : Option String) (db : Db)
    {go : CoreResult (Prepared SendInvoiceOutput)} (free : SchemaFree go) :
    SchemaFree (replayOr ctx id key db go) := by
  unfold replayOr
  split
  · exact free
  · refine SchemaFree.bind ?_ fun replay => ?_
    · unfold tryReplay
      split
      · exact .ok _
      · exact (schemaFree_invoiceOf _ _).bind fun _ => (schemaFree_customerOf _ _).bind fun _ =>
          (schemaFree_render _ _ _ _).bind fun _ => .ok _
    · split
      · exact .ok _
      · exact free

theorem schemaFree_deliver (ctx : CoreCtx) (input : SendInvoiceInput) (pdf : List UInt8) :
    SchemaFree (deliver ctx input pdf) := by
  unfold deliver
  split
  · refine SchemaFree.bind ?_ fun _ => ?_
    · unfold filePathFromUri
      split
      · exact .fail fun _ => by simp
      · split
        · exact .fail fun _ => by simp
        · exact .ok _
    · split
      · exact .fail fun _ => by simp
      · exact .ok _
  · split
    · exact .fail fun _ => by simp
    · split
      · exact .fail fun _ => by simp
      · exact .ok _

theorem schemaFree_prepareSendRender (ctx : CoreCtx) (input : SendInvoiceRenderInput) (db : Db) :
    SchemaFree (prepareSendRender ctx input db) :=
  (schemaFree_validateDestination _).bind fun _ =>
    schemaFree_replayOr _ _ _ _ ((schemaFree_prepareSend _ _ _).bind fun _ => .ok _)

theorem schemaFree_prepareSendInvoice (ctx : CoreCtx) (input : SendInvoiceInput) (db : Db) :
    SchemaFree (prepareSendInvoice ctx input db) := by
  refine (schemaFree_validateDestination _).bind fun _ => SchemaFree.bind ?_ fun _ =>
    schemaFree_replayOr _ _ _ _ ((schemaFree_prepareSend _ _ _).bind fun _ =>
      (schemaFree_deliver _ _ _).bind fun _ => .ok _)
  unfold checkScheme
  split
  · exact .ok ()
  · split
    · exact .fail fun _ => by simp
    · exact .fail fun _ => by simp

/-- **`send_invoice`.** -/
def sendInvoice (ctx : CoreCtx) (input : SendInvoiceInput) (db : Db) :
    CoreResult SendInvoiceOutput × Db :=
  perform (prepareSendInvoice ctx input db) db

/-- **`send_invoice_render`.** -/
def sendInvoiceRender (ctx : CoreCtx) (input : SendInvoiceRenderInput) (db : Db) :
    CoreResult SendInvoiceOutput × Db :=
  perform (prepareSendRender ctx input db) db

/-! ### What a send does -/

/-- Only an issued or sent invoice is sent, and it ends up sent. -/
theorem sendTarget_ok {state toState : InvoiceState} (accepted : sendTarget state = .ok toState) :
    (state = .issued ∨ state = .sent) ∧ toState = .sent := by
  cases state with
  | issued =>
    cases accepted
    exact ⟨Or.inl rfl, rfl⟩
  | sent =>
    cases accepted
    exact ⟨Or.inr rfl, rfl⟩
  | _ => cases accepted

theorem prepareSend_ok {ctx : CoreCtx} {id : InvoiceId} {db : Db} {send : PreparedSend}
    (prepared : prepareSend ctx id db = .ok send) :
    db.getInvoice id = some send.invoice ∧
      sendTarget send.invoice.state = .ok send.toState ∧ send.lines = db.linesOf id := by
  obtain ⟨inv, found, rest⟩ := bind_ok prepared
  obtain ⟨toState, accepted, rest⟩ := bind_ok rest
  obtain ⟨customer, _, rest⟩ := bind_ok rest
  obtain ⟨⟨html, pdf⟩, _, rest⟩ := bind_ok rest
  cases rest
  exact ⟨orNotFound_ok found, orRejected_ok accepted, rfl⟩

/-- **What a recorded key is answered with**: the stored invoice, which still renders. -/
theorem tryReplay_some {ctx : CoreCtx} {id : InvoiceId} {key : String} {db : Db}
    {output : SendInvoiceOutput} (replayed : tryReplay ctx id key db = .ok (some output)) :
    db.findSend id key ≠ none ∧ db.getInvoice id = some output.invoice ∧
      ∃ customer, db.getCustomer output.invoice.customerId = some customer ∧
        ctx.render output.invoice customer (db.linesOf id) = .ok (output.html, output.pdf) := by
  unfold tryReplay at replayed
  split at replayed
  · cases replayed
  · rename_i record recorded
    obtain ⟨inv, found, rest⟩ := bind_ok replayed
    obtain ⟨customer, buyer, rest⟩ := bind_ok rest
    obtain ⟨⟨html, pdf⟩, rendered, rest⟩ := bind_ok rest
    cases rest
    refine ⟨?_, orNotFound_ok found, customer, orNotFound_ok buyer, rendered⟩
    rw [recorded]
    exact Option.some_ne_none _

theorem tryReplay_none {ctx : CoreCtx} {id : InvoiceId} {key : String} {db : Db}
    (tried : tryReplay ctx id key db = .ok none) : db.findSend id key = none := by
  unfold tryReplay at tried
  split at tried
  · assumption
  · obtain ⟨_, _, tried⟩ := bind_ok tried
    obtain ⟨_, _, tried⟩ := bind_ok tried
    obtain ⟨_, _, tried⟩ := bind_ok tried
    cases tried

theorem tryReplay_of_recorded {ctx : CoreCtx} {id : InvoiceId} {key : String} {db : Db}
    {record : SendIdempotencyRecord} {inv : Invoice} {customer : Customer}
    {pages : String × List UInt8} (recorded : db.findSend id key = some record)
    (stored : db.getInvoice id = some inv) (buyer : db.getCustomer inv.customerId = some customer)
    (rendered : ctx.render inv customer (db.linesOf id) = .ok pages) :
    tryReplay ctx id key db =
      .ok (some ⟨inv, db.linesOf id, pages.1, pages.2, record.deliveredTo, true⟩) := by
  unfold tryReplay invoiceOf customerOf
  rw [recorded, stored]
  show (orNotFound (db.getCustomer inv.customerId) _ >>= _) = _
  rw [buyer]
  show (ctx.render inv customer (db.linesOf id) >>= _) = _
  rw [rendered]
  rfl

/-- A send with a replay path either answers a recorded key or goes on. -/
theorem replayOr_ok {ctx : CoreCtx} {id : InvoiceId} {key : Option String} {db : Db}
    {go : CoreResult (Prepared SendInvoiceOutput)} {prepared : Prepared SendInvoiceOutput}
    (done : replayOr ctx id key db go = .ok prepared) :
    (∃ k output, key = some k ∧ tryReplay ctx id k db = .ok (some output) ∧
        prepared = .answer output) ∨
      ((∀ k, key = some k → db.findSend id k = none) ∧ go = .ok prepared) := by
  cases key with
  | none =>
    refine Or.inr ⟨?_, done⟩
    intro other absent
    cases absent
  | some k =>
    obtain ⟨replay, tried, rest⟩ := bind_ok done
    cases replay with
    | some output =>
      cases rest
      exact Or.inl ⟨k, output, rfl, tried, rfl⟩
    | none =>
      refine Or.inr ⟨?_, rest⟩
      intro other same
      cases same
      exact tryReplay_none tried

end Invoicing
