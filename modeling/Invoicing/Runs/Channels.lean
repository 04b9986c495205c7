/-
**What the HTTP send handler does to an invoice, by destination.**

* `SentOnce` — the invoice was issued or sent, one `send` history row was appended, and it is sent now.
* `Api.SendsOnce` — a request that is answered with success sent its invoice once; `LinksStored` — it is for
  a `link://` to a stored invoice. **`send_unkeyed`** — these are the unkeyed requests that do not, as they
  are answered whatever the state of the invoice, and change no table. **`link_to_draft`** — also for a
  draft.
* `WebhookSend`, `ApiCall` — keyed requests to a webhook, among other requests and commands.
* **`dispatched_again`** — after one that posted, each later one under its key posts again while the
  invoice renders and its rows are read back, and fails otherwise. **`posted_twice`** — the same request, made twice.
-/

import Invoicing.Api.Send
import Invoicing.Runs.Replay

namespace Invoicing

/-! ### One request -/

/-- The invoice was sent once: it could be, one `send` row was appended, and it is sent now. -/
structure SentOnce (inv : Invoice) (before after : Db) : Prop where
  ready : inv.state = .issued ∨ inv.state = .sent
  history : ∃ row, after.history = before.history ++ [row] ∧ row.invoiceId = inv.id ∧
    row.event = "send" ∧ row.fromState = some inv.state ∧ row.toState = .sent
  stored : ∃ now, after.getInvoice inv.id = some now ∧ now.state = .sent

/-- The transaction of a send. -/
theorem SentOnce.of_commit {ctx : CoreCtx} {inv : Invoice} {actor : Actor} {channel : Channel}
    {deliveredTo : String} {key : Option String} {db after : Db}
    (ready : inv.state = .issued ∨ inv.state = .sent)
    (committed : (sendTx ctx inv .sent actor channel deliveredTo key).commit db = .ok after) :
    SentOnce inv db after := by
  obtain ⟨rfl, _⟩ := InvoiceTx.commit_ok committed
  refine ⟨ready, ⟨_, rfl, rfl, rfl, rfl, rfl⟩, ?_⟩
  obtain ⟨createdAt, stored⟩ := InvoiceTx.getInvoice_apply_self
    (sendTx ctx inv .sent actor channel deliveredTo key) db
  exact ⟨_, stored, rfl⟩

theorem sendInvoiceRender_sentOnce {ctx : CoreCtx} {input : SendInvoiceRenderInput} {db : Db}
    {output : SendInvoiceOutput} (unkeyed : input.idempotencyKey = none)
    (done : (sendInvoiceRender ctx input db).1 = .ok output) :
    ∃ inv, db.getInvoice input.invoiceId = some inv ∧
      SentOnce inv db (sendInvoiceRender ctx input db).2 := by
  rcases perform_ok done with ⟨answered, _⟩ | ⟨loaded, tx, written, committed⟩
  · obtain ⟨_, _, rest⟩ := bind_ok answered
    rw [unkeyed] at rest
    obtain ⟨send, _, rest⟩ := bind_ok rest
    cases rest
  · obtain ⟨inv, _, found, ready, rfl⟩ := prepareSendRender_write written
    exact ⟨inv, found, .of_commit ready committed⟩

theorem sendInvoice_sentOnce {ctx : CoreCtx} {input : SendInvoiceInput} {db : Db}
    {output : SendInvoiceOutput} (unkeyed : input.idempotencyKey = none)
    (done : (sendInvoice ctx input db).1 = .ok output) :
    ∃ inv, db.getInvoice input.invoiceId = some inv ∧
      SentOnce inv db (sendInvoice ctx input db).2 := by
  rcases perform_ok done with ⟨answered, _⟩ | ⟨loaded, tx, written, committed⟩
  · obtain ⟨_, _, rest⟩ := bind_ok answered
    obtain ⟨_, _, rest⟩ := bind_ok rest
    rw [unkeyed] at rest
    obtain ⟨send, _, rest⟩ := bind_ok rest
    obtain ⟨deliveredTo, _, rest⟩ := bind_ok rest
    cases rest
  · obtain ⟨inv, deliveredTo, _, found, ready, rfl⟩ := prepareSendInvoice_write written
    exact ⟨inv, found, .of_commit ready committed⟩

/-- The request was answered with a signed link, and nothing else happened. -/
def LinkedOnly (db : Db) (response : SendResponse) : Prop :=
  response.after = db ∧ response.posts = [] ∧
    ∃ url token ttl, response.result = .ok (.link url token ttl)

theorem Api.mintLink_linked {server : ApiServer} {id : InvoiceId} {db : Db} {inv : Invoice}
    (found : db.getInvoice id = some inv) : LinkedOnly db (Api.mintLink server id db) := by
  unfold Api.mintLink
  rw [found]
  exact ⟨rfl, rfl, _, _, _, rfl⟩

/-- If the row of its invoice is read and it is answered with success, the request sent its invoice
once. -/
def Api.SendsOnce (texts : RowTexts) (server : ApiServer) (id : String) (body : SendBody) (db : Db) : Prop :=
  ∀ invoiceId reply, server.parseInvoiceId id = .ok invoiceId → (db.fetchInvoice texts invoiceId).isOk →
    (Api.send server id body db).result = .ok reply →
      ∃ inv, db.getInvoice invoiceId = some inv ∧ SentOnce inv db (Api.send server id body db).after

/-- The request is for a link, and its invoice is stored, with years of four digits. -/
def LinksStored (server : ApiServer) (id : String) (body : SendBody) (db : Db) : Prop :=
  startsWith "link://" body.destinationUri = true ∧ ∃ invoiceId inv,
    server.parseInvoiceId id = .ok invoiceId ∧ db.getInvoice invoiceId = some inv ∧ YearsFit inv.times

/-- A link to a stored invoice is handed out, whatever the state of the invoice. -/
theorem Api.send_linked {server : ApiServer} {id : String} {body : SendBody} {db : Db}
    {invoiceId : InvoiceId} {inv : Invoice} (parsed : server.parseInvoiceId id = .ok invoiceId)
    (found : db.getInvoice invoiceId = some inv)
    (link : startsWith "link://" body.destinationUri = true) :
    LinkedOnly db (Api.send server id body db) := by
  unfold Api.send
  rw [parsed]
  dsimp only
  rw [if_pos link]
  exact Api.mintLink_linked found

/-- Any other request that is answered sent its invoice. -/
theorem Api.send_not_linked {server : ApiServer} {id : String} {body : SendBody} {db : Db}
    {invoiceId : InvoiceId} {reply : SendReply} (unkeyed : body.idempotencyKey = none)
    (parsed : server.parseInvoiceId id = .ok invoiceId)
    (notLink : ¬ startsWith "link://" body.destinationUri = true)
    (answered : (Api.send server id body db).result = .ok reply) :
    ∃ inv, db.getInvoice invoiceId = some inv ∧ SentOnce inv db (Api.send server id body db).after := by
  obtain ⟨invoiceId', parsed', path⟩ := Api.send_ok answered
  obtain rfl : invoiceId = invoiceId' := Except.ok.inj (parsed.symm.trans parsed')
  generalize Api.send server id body db = response at path answered ⊢
  cases path with
  | link link => exact absurd link notLink
  | webhook _ webhook =>
    obtain ⟨out, sent, after, _⟩ := Api.sendWebhook_ok answered
    obtain ⟨inv, found, once⟩ := sendInvoiceRender_sentOnce unkeyed sent
    refine ⟨inv, found, ?_⟩
    rw [after]
    exact once
  | other _ =>
    obtain ⟨out, sent, after, _⟩ := Api.sendOther_ok answered
    obtain ⟨inv, found, once⟩ := sendInvoice_sentOnce unkeyed sent
    refine ⟨inv, found, ?_⟩
    rw [after]
    exact once

/-- **Every destination but a link sends the invoice.** An unkeyed request that is answered with success
is one for an issued or sent invoice, appends one `send` history row and leaves the invoice sent, exactly
when it is not for a link to a stored invoice: a link is handed out in every state, and nothing is
written. -/
theorem send_unkeyed {texts : RowTexts} (documented : texts.Documented) {server : ApiServer} {id : String}
    {body : SendBody} (db : Db) (unkeyed : body.idempotencyKey = none) :
    Api.SendsOnce texts server id body db ↔ ¬ LinksStored server id body db := by
  constructor
  · rintro sends ⟨link, invoiceId, inv, parsed, found, fits⟩
    obtain ⟨unchanged, _, url, token, ttl, answered⟩ := Api.send_linked parsed found link
    have read : db.fetchInvoice texts invoiceId = .ok (some inv) := by
      refine (fetchInvoice_eq_ok_iff documented).mpr ⟨found, ?_⟩
      rintro _ ⟨⟩
      exact fits
    obtain ⟨_, _, once⟩ := sends invoiceId _ parsed (isOk_iff.mpr ⟨_, read⟩) answered
    -- a send appends a row, a link does not
    obtain ⟨row, appended, _⟩ := once.history
    rw [unchanged] at appended
    simp at appended
  · intro notLinked invoiceId reply parsed read answered
    by_cases link : startsWith "link://" body.destinationUri = true
    · obtain ⟨found, read⟩ := ok_of_isOk read
      obtain ⟨rfl, fits⟩ := (fetchInvoice_eq_ok_iff documented).mp read
      obtain ⟨invoiceId', parsed', path⟩ := Api.send_ok answered
      obtain rfl : invoiceId = invoiceId' := Except.ok.inj (parsed.symm.trans parsed')
      cases found : db.getInvoice invoiceId with
      | some inv => exact absurd ⟨link, invoiceId, inv, parsed, found, fits inv found⟩ notLinked
      | none =>
        unfold Api.send Api.mintLink at answered
        rw [parsed] at answered
        dsimp only at answered
        rw [if_pos link, found] at answered
        cases answered
    · exact Api.send_not_linked unkeyed parsed link answered

/-- A server in the sample world that knows the text of one invoice id; every webhook accepts. -/
def sampleServer (now : Chrono.DateTime) (draw : ℕ) : ApiServer where
  ctx := sampleCtx now draw
  verifyLink _ := none
  parseInvoiceId id :=
    if id = (⟨1⟩ : InvoiceId).text then .ok ⟨1⟩ else .error "another invoice"
  signLink id := id.text
  linkTtlSecs := 60
  publicBaseUrl := "https://inv.example/"
  webhookSignature _ := "sha256="
  http _ := .ok ⟨200, "200 OK"⟩

/-- The tables with a draft of 100.00. -/
def draftDb : Db :=
  runCommands sampleDb [.invoice (.draft (sampleCtx (oneOClock firstOfMarch) 1) sampleDraft)]

/-- A draft is sent to a link: the request is answered with success, and the invoice stays a draft
without a `send` row. -/
theorem link_to_draft :
    let server := sampleServer (oneOClock firstOfMarch) 2
    let response := Api.send server (⟨1⟩ : InvoiceId).text ⟨"link://", none⟩ draftDb
    (∃ reply, response.result = .ok reply) ∧
      (response.after.getInvoice ⟨1⟩).map Invoice.state = some .draft ∧
      response.after.history = draftDb.history ∧
      ¬ Api.SendsOnce plainRowTexts server (⟨1⟩ : InvoiceId).text ⟨"link://", none⟩ draftDb := by
  refine ⟨⟨_, rfl⟩, rfl, rfl, ?_⟩
  intro sends
  obtain ⟨inv, found, once⟩ := sends ⟨1⟩ _ rfl (by decide +kernel) rfl
  cases found
  rcases once.ready with issued | sent
  · cases issued
  · cases sent

theorem send_unkeyed_webhook :
    let server := sampleServer (oneOClock firstOfMarch) 3
    let response := Api.send server (⟨1⟩ : InvoiceId).text ⟨"webhook://one", none⟩ issuedDb
    ∃ inv, issuedDb.getInvoice ⟨1⟩ = some inv ∧ SentOnce inv issuedDb response.after := by
  have notLinked : ¬ LinksStored (sampleServer (oneOClock firstOfMarch) 3) (⟨1⟩ : InvoiceId).text
      ⟨"webhook://one", none⟩ issuedDb := by
    rintro ⟨link, _⟩
    cases link
  exact (send_unkeyed plainRowTexts_documented issuedDb rfl).mpr notLinked ⟨1⟩ _ rfl
    (by decide +kernel) rfl

/-! ### Keyed requests to a webhook -/

/-- A request to send to a webhook. -/
structure WebhookSend where
  server : ApiServer
  id : String
  body : SendBody
  webhook : IsWebhook body.destinationUri

/-- The request is for the invoice, under the key. -/
def WebhookSend.Under (request : WebhookSend) (id : InvoiceId) (key : String) : Prop :=
  request.server.parseInvoiceId request.id = .ok id ∧ request.body.idempotencyKey = some key

def WebhookSend.respond (request : WebhookSend) (db : Db) : SendResponse :=
  Api.send request.server request.id request.body db

/-- The request makes a post that is accepted. -/
def WebhookSend.Posts (request : WebhookSend) (db : Db) : Prop :=
  ∃ post ∈ (request.respond db).posts, ∃ status,
    request.server.http post = .ok status ∧ status.isSuccess = true

/-- The request makes no post, and returns what the first returned. -/
def WebhookSend.Skips (request : WebhookSend) (db : Db) (first : SendResponse) : Prop :=
  (request.respond db).posts = [] ∧ (request.respond db).result = first.result

/-- Any send request, or any command. -/
inductive ApiCall
  | send (server : ApiServer) (id : String) (body : SendBody)
  | command (command : Command)

/-- The tables after the call. -/
def ApiCall.execute : ApiCall → Db → Db
  | .send server id body, db => (Api.send server id body db).after
  | .command ran, db => (ran.execute db).2

def runCalls (db : Db) (calls : List ApiCall) : Db := calls.foldl (fun db call => call.execute db) db

/-- Send records stay. -/
def SendsStay (before after : Db) : Prop :=
  ∀ id key record, before.findSend id key = some record → after.findSend id key = some record

theorem Command.sendsStay (command : Command) (db : Db) : SendsStay db (command.execute db).2 := by
  intro id key record found
  rcases command.invoice_cases db with same | ⟨request, loaded, tx, rfl, edit, stored, committed⟩
  · exact (same.stays id).sends key record found
  · rw [(InvoiceTx.commit_ok committed).1]
    show (db.sendKeys ++ tx.sendKey.toList).find? _ = some record
    rw [List.find?_append]
    unfold Db.findSend at found
    rw [found]
    rfl

/-- A send request is a link, a refusal, or one of the two send commands. -/
theorem Api.send_execute (server : ApiServer) (id : String) (body : SendBody) (db : Db) :
    (Api.send server id body db).after = db ∨
      ∃ request : Request, (Api.send server id body db).after = (request.execute db).2 := by
  unfold Api.send
  cases server.parseInvoiceId id with
  | error e => exact Or.inl rfl
  | ok invoiceId =>
    dsimp only
    split
    · refine Or.inl ?_
      unfold Api.mintLink
      split
      · rfl
      · rfl
    split
    · refine Or.inr ⟨.sendRender server.ctx (Api.webhookInput invoiceId body), ?_⟩
      rcases sent : sendInvoiceRender server.ctx (Api.webhookInput invoiceId body) db with
        ⟨result, after⟩
      have executed : ((Request.sendRender server.ctx (Api.webhookInput invoiceId body)).execute db).2 =
          after := congrArg Prod.snd sent
      rw [executed]
      cases result with
      | error e => rw [Api.sendWebhook_of_error sent]
      | ok out => exact (Api.sendWebhook_of_ok sent).1
    split
    · exact Or.inl rfl
    · refine Or.inr ⟨.send server.ctx (Api.otherInput invoiceId body), ?_⟩
      show (Api.sendOther server invoiceId body db).after =
        (sendInvoice server.ctx (Api.otherInput invoiceId body) db).2
      unfold Api.sendOther
      rcases sendInvoice server.ctx (Api.otherInput invoiceId body) db with ⟨result, after⟩
      cases result with
      | error e => rfl
      | ok out => rfl

theorem ApiCall.sendsStay (call : ApiCall) (db : Db) : SendsStay db (call.execute db) := by
  cases call with
  | command ran => exact ran.sendsStay db
  | send server text body =>
    show SendsStay db (Api.send server text body db).after
    rcases Api.send_execute server text body db with same | ⟨request, same⟩
    · rw [same]
      exact fun _ _ _ found => found
    · rw [same]
      exact (Command.invoice request).sendsStay db

theorem runCalls_sendsStay (db : Db) (calls : List ApiCall) : SendsStay db (runCalls db calls) := by
  induction calls generalizing db with
  | nil => exact fun _ _ _ found => found
  | cons call rest ih =>
    intro id key record found
    exact ih (call.execute db) id key record (call.sendsStay db id key record found)

/-! ### The later request -/

/-- Over the stored tables, the request makes a post: what its send loads is read. -/
structure WebhookSend.PostsStored (texts : RowTexts) (request : WebhookSend) (id : InvoiceId) (key : String)
    (db : Db) : Prop where
  loads : db.LoadsSend texts id key
  posts : (request.respond db).posts ≠ []

/-- The stored invoice of the request still has its customer and renders. -/
def WebhookSend.Renders (request : WebhookSend) (id : InvoiceId) (db : Db) : Prop :=
  ∃ inv customer pages, db.getInvoice id = some inv ∧ db.getCustomer inv.customerId = some customer ∧
    request.server.ctx.render inv customer (db.linesOf id) = .ok pages

/-- A request under a key goes through the send command. -/
theorem WebhookSend.respond_eq {request : WebhookSend} {id : InvoiceId} {key : String}
    (under : request.Under id key) (db : Db) :
    request.respond db = Api.sendWebhook request.server id request.body db := by
  unfold respond Api.send
  rw [under.1]
  dsimp only
  rw [request.webhook.not_link, if_neg Bool.false_ne_true, if_pos request.webhook]

/-- The send command of the request looks the key up before it writes. -/
theorem WebhookSend.looksUp {request : WebhookSend} {id : InvoiceId} {key : String}
    (under : request.Under id key) (db : Db) :
    ∃ go, sendInvoiceRender request.server.ctx (Api.webhookInput id request.body) db =
        perform (replayOr request.server.ctx id (some key) db go) db ∧
      WritesSend request.server.ctx id key db go :=
  @sendInvoiceRender_looksUp (Api.webhookInput id request.body) key under.2
    request.webhook.validateDestination request.server.ctx db

/-- A request that posts left its record, and returned what its send returned. -/
theorem WebhookSend.Posts.recorded {request : WebhookSend} {id : InvoiceId} {key : String} {db : Db}
    (under : request.Under id key) (posts : request.Posts db) :
    (∃ reply, (request.respond db).result = .ok reply) ∧
      ∃ record, (request.respond db).after.findSend id key = some record := by
  obtain ⟨post, made, status, came, success⟩ := posts
  rw [request.respond_eq under] at made ⊢
  rcases sent : sendInvoiceRender request.server.ctx (Api.webhookInput id request.body) db with
    ⟨result, after⟩
  cases result with
  | error e =>
    rw [Api.sendWebhook_of_error sent] at made
    cases made
  | ok out =>
    obtain ⟨after', posts', _⟩ := Api.sendWebhook_of_ok sent
    rw [posts'] at made
    refine ⟨⟨_, Api.sendWebhook_accepted sent (dispatch_accepted made came success)⟩, ?_⟩
    obtain ⟨go, shape, writes⟩ := request.looksUp under db
    have done : (perform (replayOr request.server.ctx id (some key) db go) db).1 = .ok out := by
      rw [← shape, sent]
    obtain ⟨_, _, record, recorded⟩ := replayOr_stored writes done
    rw [← shape, sent] at recorded
    rw [after']
    exact ⟨record, recorded⟩

/-- **A later request under a recorded key** posts when the invoice still renders, and fails without a
post when it does not. -/
theorem WebhookSend.again {request : WebhookSend} {id : InvoiceId} {key : String} {db : Db}
    {record : SendIdempotencyRecord} (under : request.Under id key)
    (recorded : db.findSend id key = some record) :
    ((request.respond db).posts ≠ [] ↔ request.Renders id db) ∧
      ((request.respond db).posts = [] → ∃ stop, (request.respond db).result = .error stop) := by
  rw [request.respond_eq under]
  obtain ⟨go, shape, _⟩ := request.looksUp under db
  cases tried : tryReplay request.server.ctx id key db with
  | error stop =>
    have failed : sendInvoiceRender request.server.ctx (Api.webhookInput id request.body) db =
        (.error stop, db) := by
      rw [shape]
      show perform (tryReplay request.server.ctx id key db >>= _) db = _
      rw [tried]
      rfl
    rw [Api.sendWebhook_of_error failed]
    refine ⟨iff_of_false (fun posts => posts rfl) ?_, fun _ => ⟨_, rfl⟩⟩
    rintro ⟨inv, customer, pages, stored, buyer, rendered⟩
    rw [tryReplay_of_recorded recorded stored buyer rendered] at tried
    cases tried
  | ok answer =>
    cases answer with
    | none =>
      rw [tryReplay_none tried] at recorded
      cases recorded
    | some out =>
      have sent : sendInvoiceRender request.server.ctx (Api.webhookInput id request.body) db =
          (.ok out, db) := by
        rw [shape]
        show perform (tryReplay request.server.ctx id key db >>= _) db = _
        rw [tried]
        rfl
      obtain ⟨_, found, customer, buyer, rendered⟩ := tryReplay_some tried
      obtain ⟨_, posts, _⟩ := Api.sendWebhook_of_ok sent
      obtain ⟨post, made⟩ := @dispatch_posts request.server _ "application/pdf" out.pdf
        request.webhook
      rw [posts, made]
      refine ⟨iff_of_true (List.cons_ne_nil _ _) ⟨_, customer, _, found, buyer, rendered⟩, ?_⟩
      intro noPost
      cases noPost

/-- **Keyed webhook sends are posted again.** After a request that posted, and whatever calls came in
between, no later request under the same invoice and key skips its post and returns the first result. It
posts again exactly when the stored invoice still renders, and the rows it loads are read back. -/
theorem dispatched_again {first later : WebhookSend} {id : InvoiceId} {key : String} {db : Db}
    (between : List ApiCall) (under : first.Under id key) (under' : later.Under id key)
    (posted : first.Posts db) :
    let after := runCalls (first.respond db).after between
    ¬ later.Skips after (first.respond db) ∧
      ∀ texts : RowTexts, texts.Documented →
        (later.PostsStored texts id key after ↔ later.Renders id after ∧ after.SendFits id key) := by
  intro after
  obtain ⟨⟨reply, answered⟩, record, recorded⟩ := posted.recorded under
  have kept : after.findSend id key = some record := runCalls_sendsStay _ between id key record recorded
  obtain ⟨postsIff, fails⟩ := later.again under' kept
  refine ⟨?_, fun texts documented => ?_⟩
  · rintro ⟨noPost, same⟩
    obtain ⟨stop, failed⟩ := fails noPost
    rw [failed, answered] at same
    cases same
  · constructor
    · rintro ⟨loads, posts⟩
      exact ⟨postsIff.mp posts, (loadsSend_iff documented).mp loads⟩
    · rintro ⟨renders, fits⟩
      exact ⟨(loadsSend_iff documented).mpr fits, postsIff.mpr renders⟩

theorem webhook_one : IsWebhook "webhook://one" := by decide

/-- A keyed request to a webhook. -/
def sampleWebhookSend (draw : ℕ) : WebhookSend where
  server := sampleServer (oneOClock firstOfMarch) draw
  id := (⟨1⟩ : InvoiceId).text
  body := ⟨"webhook://one", some "send-1"⟩
  webhook := webhook_one

theorem posts_once : (sampleWebhookSend 3).Posts issuedDb :=
  ⟨_, List.mem_singleton.mpr rfl, _, rfl, rfl⟩

/-- The same request made twice: both post to the customer's endpoint. -/
theorem posted_twice :
    (sampleWebhookSend 3).Posts issuedDb ∧
      ((sampleWebhookSend 4).respond ((sampleWebhookSend 3).respond issuedDb).after).posts =
        ((sampleWebhookSend 3).respond issuedDb).posts := by
  exact ⟨posts_once, rfl⟩

theorem dispatched_again_after_a_payment :
    let first := (sampleWebhookSend 3).respond issuedDb
    let after := runCalls first.after [.command (.invoice (.markPaid
      (sampleCtx (oneOClock firstOfMarch) 4) (samplePayment 4000 fits_forty)))]
    ¬ (sampleWebhookSend 5).Skips after first ∧
      (sampleWebhookSend 5).PostsStored plainRowTexts ⟨1⟩ "send-1" after := by
  have again := @dispatched_again (sampleWebhookSend 3) (sampleWebhookSend 5) ⟨1⟩ "send-1" issuedDb
    [.command (.invoice (.markPaid (sampleCtx (oneOClock firstOfMarch) 4) (samplePayment 4000 fits_forty)))]
    ⟨rfl, rfl⟩ ⟨rfl, rfl⟩ posts_once
  refine ⟨again.1, (again.2 plainRowTexts plainRowTexts_documented).mpr ⟨⟨_, _, _, rfl, rfl, rfl⟩, ?_⟩⟩
  exact Db.SendFits.of_found rfl rfl rfl (by decide +kernel)

end Invoicing
