/-
**`POST /v1/invoices/{id}/send`.**

* `ApiServer` — what the handler uses beside a command's context: the parser of ids, the signer of links
  and of webhook bodies, and the client that posts them.
* `Api.send` — `link://` answers a signed link to a stored invoice and moves nothing; `webhook://` and
  `webhook+http://` run `send_invoice_render` and post the document; `stdout` is refused; any other
  destination goes to `send_invoice`.
* **`send_ok`** — what a request that was answered with success did, one case for each path.
-/

import Invoicing.Api.View
import Invoicing.Commands.Send

namespace Invoicing

/-- The status of an HTTP response: its number, and the text it is shown as. -/
structure HttpStatus where
  code : ℕ
  text : String
  deriving DecidableEq

def HttpStatus.isSuccess (status : HttpStatus) : Bool := 200 ≤ status.code && status.code < 300

/-- A request to a webhook. -/
structure WebhookPost where
  target : String
  contentType : String
  signature : String
  body : List UInt8
  deriving DecidableEq

/-- What a send request uses. `http` is what posting gives: the status, or why nothing came back. -/
structure ApiServer extends ApiState where
  parseInvoiceId : String → Except String InvoiceId
  signLink : InvoiceId → String
  linkTtlSecs : ℕ
  publicBaseUrl : String
  webhookSignature : List UInt8 → String
  http : WebhookPost → Except String HttpStatus

/-- How a send request fails. -/
inductive SendError
  | core (e : CoreError)
  | badRequest (message : String)
  | notFound (what : String)
  | webhookDispatch (message : String)
  deriving DecidableEq

/-- The body of a send request. -/
structure SendBody where
  destinationUri : String
  idempotencyKey : Option String
  deriving DecidableEq

/-- What a send request returns. -/
inductive SendReply
  | link (url token : String) (expiresInSeconds : ℕ)
  | sent (invoice : Invoice) (deliveredTo : String)
  deriving DecidableEq

/-- A request's result, the tables after it, and the webhook posts it made. -/
structure SendResponse where
  result : Except (Stop SendError) SendReply
  after : Db
  posts : List WebhookPost

/-! ### Texts -/

/-- `uri` without `start`, if it begins with it. -/
def stripStart (start uri : String) : Option String :=
  if start.toList <+: uri.toList then some (String.ofList (uri.toList.drop start.toList.length))
  else none

def startsWith (start uri : String) : Bool := (stripStart start uri).isSome

/-- `url` without the slashes it ends in. -/
def trimSlashes (url : String) : String :=
  String.ofList (url.toList.reverse.dropWhile (· = '/')).reverse

theorem stripStart_isSome {start uri : String} (starts : startsWith start uri = true) :
    ∃ rest, stripStart start uri = some rest := Option.isSome_iff_exists.mp starts

theorem startsWith_iff {start uri : String} :
    startsWith start uri = true ↔ start.toList <+: uri.toList := by
  unfold startsWith stripStart
  split
  · rename_i starts
    exact iff_of_true rfl starts
  · rename_i other
    exact iff_of_false (by simp) other

/-! ### Webhooks -/

/-- A destination the handler posts to. -/
def IsWebhook (uri : String) : Prop :=
  startsWith "webhook://" uri = true ∨ startsWith "webhook+http://" uri = true

instance (uri : String) : Decidable (IsWebhook uri) := inferInstanceAs (Decidable (_ ∨ _))

/-- A webhook destination is not a link. -/
theorem IsWebhook.not_link {uri : String} (webhook : IsWebhook uri) :
    startsWith "link://" uri = false := by
  rw [Bool.eq_false_iff]
  intro link
  have apart : ∀ start : String, startsWith start uri = true →
      "link://".toList <+: start.toList ∨ start.toList <+: "link://".toList :=
    fun start starts =>
      List.prefix_or_prefix_of_prefix (startsWith_iff.mp link) (startsWith_iff.mp starts)
  rcases webhook with starts | starts
  · exact absurd (apart _ starts) (by decide)
  · exact absurd (apart _ starts) (by decide)

/-- A webhook destination is not blank. -/
theorem IsWebhook.validateDestination {uri : String} (webhook : IsWebhook uri) :
    validateDestination uri = .ok () := by
  have letter : 'w' ∈ uri.toList := by
    rcases webhook with starts | starts
    · exact (startsWith_iff.mp starts).subset (by decide)
    · exact (startsWith_iff.mp starts).subset (by decide)
  have notBlank : ¬ isBlank uri = true := by
    intro blank
    exact absurd (List.all_eq_true.mp blank 'w' letter) (by decide)
  unfold Invoicing.validateDestination
  rw [if_neg notBlank]

/-- The address of a webhook destination. -/
def webhookToHttp (uri : String) : Except SendError String :=
  match stripStart "webhook+http://" uri with
  | some rest => .ok ("http://" ++ rest)
  | none =>
      match stripStart "webhook://" uri with
      | some rest => .ok ("https://" ++ rest)
      | none => .error (.badRequest
          ("webhook URI must start with `webhook://` or `webhook+http://`: " ++ uri))

theorem webhookToHttp_ok {uri : String} (webhook : IsWebhook uri) :
    ∃ target, webhookToHttp uri = .ok target := by
  unfold webhookToHttp
  cases plain : stripStart "webhook+http://" uri with
  | some rest => exact ⟨_, rfl⟩
  | none =>
    rcases webhook with starts | starts
    · obtain ⟨rest, stripped⟩ := stripStart_isSome starts
      rw [stripped]
      exact ⟨_, rfl⟩
    · obtain ⟨rest, stripped⟩ := stripStart_isSome starts
      rw [plain] at stripped
      cases stripped

/-- Post the body; the post that was made, and whether it was accepted. -/
def dispatch (server : ApiServer) (uri contentType : String) (body : List UInt8) :
    Except SendError Unit × List WebhookPost :=
  match webhookToHttp uri with
  | .error e => (.error e, [])
  | .ok target =>
      let post : WebhookPost := ⟨target, contentType, server.webhookSignature body, body⟩
      match server.http post with
      | .error message => (.error (.webhookDispatch ("POST " ++ target ++ ": " ++ message)), [post])
      | .ok status =>
          if status.isSuccess then (.ok (), [post])
          else (.error (.webhookDispatch ("POST " ++ target ++ ": status " ++ status.text)), [post])

/-- **A webhook destination is posted to**, whatever comes back. -/
theorem dispatch_posts {server : ApiServer} {uri contentType : String} {body : List UInt8}
    (webhook : IsWebhook uri) : ∃ post, (dispatch server uri contentType body).2 = [post] := by
  obtain ⟨target, resolved⟩ := webhookToHttp_ok webhook
  unfold dispatch
  rw [resolved]
  dsimp only
  split
  · exact ⟨_, rfl⟩
  · split
    · exact ⟨_, rfl⟩
    · exact ⟨_, rfl⟩

/-- A post that came back with a success was accepted. -/
theorem dispatch_accepted {server : ApiServer} {uri contentType : String} {body : List UInt8}
    {post : WebhookPost} {status : HttpStatus} (made : post ∈ (dispatch server uri contentType body).2)
    (came : server.http post = .ok status) (success : status.isSuccess = true) :
    (dispatch server uri contentType body).1 = .ok () := by
  unfold dispatch at made ⊢
  cases resolved : webhookToHttp uri with
  | error e =>
    rw [resolved] at made
    cases made
  | ok target =>
    rw [resolved] at made
    dsimp only at made ⊢
    have same : post = ⟨target, contentType, server.webhookSignature body, body⟩ := by
      split at made
      · exact List.mem_singleton.mp made
      · split at made
        · exact List.mem_singleton.mp made
        · exact List.mem_singleton.mp made
    rw [← same, came]
    dsimp only
    rw [if_pos success]

/-! ### The handler -/

namespace Api

/-- The caller the handler names in audit rows. -/
def apiActor : Actor := .api "http"

/-- The signed link to a stored invoice. -/
def mintLink (server : ApiServer) (id : InvoiceId) (db : Db) : SendResponse :=
  match db.getInvoice id with
  | none => ⟨.error (.error (.notFound ("invoice " ++ id.text))), db, []⟩
  | some _ =>
      let token := server.signLink id
      ⟨.ok (.link (trimSlashes server.publicBaseUrl ++ "/v/" ++ token) token server.linkTtlSecs),
        db, []⟩

def webhookInput (id : InvoiceId) (body : SendBody) : SendInvoiceRenderInput :=
  ⟨id, body.destinationUri, body.idempotencyKey, apiActor, .api⟩

/-- Send, then post the document. The command's answer to a recorded key is posted like any other. -/
def sendWebhook (server : ApiServer) (id : InvoiceId) (body : SendBody) (db : Db) : SendResponse :=
  let (out, after) := sendInvoiceRender server.ctx (webhookInput id body) db
  match out with
  | .error e => ⟨.error (e.map SendError.core), after, []⟩
  | .ok out =>
      let (dispatched, posts) := dispatch server body.destinationUri "application/pdf" out.pdf
      match dispatched with
      | .error e => ⟨.error (.error e), after, posts⟩
      | .ok _ => ⟨.ok (.sent out.invoice body.destinationUri), after, posts⟩

def otherInput (id : InvoiceId) (body : SendBody) : SendInvoiceInput :=
  ⟨id, body.destinationUri, body.idempotencyKey, apiActor, .api, none⟩

/-- Any other destination is the command's to deliver to. -/
def sendOther (server : ApiServer) (id : InvoiceId) (body : SendBody) (db : Db) : SendResponse :=
  let (out, after) := sendInvoice server.ctx (otherInput id body) db
  match out with
  | .error e => ⟨.error (e.map SendError.core), after, []⟩
  | .ok out => ⟨.ok (.sent out.invoice out.deliveredTo), after, []⟩

/-- **`send`.** -/
def send (server : ApiServer) (id : String) (body : SendBody) (db : Db) : SendResponse :=
  match server.parseInvoiceId id with
  | .error e =>
      ⟨.error (.error (.badRequest ("invalid invoice id `" ++ id ++ "`: " ++ e))), db, []⟩
  | .ok invoiceId =>
      if startsWith "link://" body.destinationUri then mintLink server invoiceId db
      else if IsWebhook body.destinationUri then sendWebhook server invoiceId body db
      else if body.destinationUri = "stdout" then
        ⟨.error (.error (.badRequest
          "send: `stdout` destination is not supported over HTTP — use webhook:// or file:// or link://")),
          db, []⟩
      else sendOther server invoiceId body db

/-! ### What a request did -/

theorem mintLink_ok {server : ApiServer} {id : InvoiceId} {db : Db} {reply : SendReply}
    (answered : (mintLink server id db).result = .ok reply) :
    (mintLink server id db).after = db ∧ (∃ inv, db.getInvoice id = some inv) ∧
      ∃ url token ttl, reply = .link url token ttl := by
  unfold mintLink at answered ⊢
  cases found : db.getInvoice id with
  | none =>
    rw [found] at answered
    cases answered
  | some inv =>
    rw [found] at answered
    cases answered
    exact ⟨rfl, ⟨inv, rfl⟩, _, _, _, rfl⟩

/-- A webhook request whose send failed made no post. -/
theorem sendWebhook_of_error {server : ApiServer} {id : InvoiceId} {body : SendBody} {db after : Db}
    {e : Stop CoreError}
    (failed : sendInvoiceRender server.ctx (webhookInput id body) db = (.error e, after)) :
    sendWebhook server id body db = ⟨.error (e.map SendError.core), after, []⟩ := by
  unfold sendWebhook
  rw [failed]

/-- One whose send succeeded made the posts of `dispatch`. -/
theorem sendWebhook_of_ok {server : ApiServer} {id : InvoiceId} {body : SendBody} {db after : Db}
    {out : SendInvoiceOutput}
    (sent : sendInvoiceRender server.ctx (webhookInput id body) db = (.ok out, after)) :
    (sendWebhook server id body db).after = after ∧
      (sendWebhook server id body db).posts =
        (dispatch server body.destinationUri "application/pdf" out.pdf).2 ∧
      ∀ reply, (sendWebhook server id body db).result = .ok reply →
        reply = .sent out.invoice body.destinationUri := by
  unfold sendWebhook
  rw [sent]
  dsimp only
  split
  · refine ⟨rfl, rfl, ?_⟩
    intro reply answered
    cases answered
  · refine ⟨rfl, rfl, ?_⟩
    intro reply answered
    cases answered
    rfl

theorem sendWebhook_accepted {server : ApiServer} {id : InvoiceId} {body : SendBody} {db after : Db}
    {out : SendInvoiceOutput}
    (sent : sendInvoiceRender server.ctx (webhookInput id body) db = (.ok out, after))
    (accepted : (dispatch server body.destinationUri "application/pdf" out.pdf).1 = .ok ()) :
    (sendWebhook server id body db).result = .ok (.sent out.invoice body.destinationUri) := by
  unfold sendWebhook
  rw [sent]
  dsimp only
  rw [accepted]

theorem sendWebhook_ok {server : ApiServer} {id : InvoiceId} {body : SendBody} {db : Db}
    {reply : SendReply} (answered : (sendWebhook server id body db).result = .ok reply) :
    ∃ out, (sendInvoiceRender server.ctx (webhookInput id body) db).1 = .ok out ∧
      (sendWebhook server id body db).after =
        (sendInvoiceRender server.ctx (webhookInput id body) db).2 ∧
      reply = .sent out.invoice body.destinationUri := by
  rcases sent : sendInvoiceRender server.ctx (webhookInput id body) db with ⟨result, after⟩
  cases result with
  | error e =>
    rw [sendWebhook_of_error sent] at answered
    cases answered
  | ok out =>
    obtain ⟨same, _, replies⟩ := sendWebhook_of_ok sent
    exact ⟨out, rfl, same, replies reply answered⟩

theorem sendOther_ok {server : ApiServer} {id : InvoiceId} {body : SendBody} {db : Db}
    {reply : SendReply} (answered : (sendOther server id body db).result = .ok reply) :
    ∃ out, (sendInvoice server.ctx (otherInput id body) db).1 = .ok out ∧
      (sendOther server id body db).after = (sendInvoice server.ctx (otherInput id body) db).2 ∧
      reply = .sent out.invoice out.deliveredTo := by
  unfold sendOther at answered ⊢
  rcases sent : sendInvoice server.ctx (otherInput id body) db with ⟨result, after⟩
  rw [sent] at answered
  cases result with
  | error e => cases answered
  | ok out =>
    cases answered
    exact ⟨out, rfl, rfl, rfl⟩

/-- Which path a request took. -/
inductive Path (server : ApiServer) (invoiceId : InvoiceId) (body : SendBody) (db : Db) :
    SendResponse → Prop
  | link (link : startsWith "link://" body.destinationUri = true) :
      Path server invoiceId body db (mintLink server invoiceId db)
  | webhook (notLink : startsWith "link://" body.destinationUri = false)
      (webhook : IsWebhook body.destinationUri) :
      Path server invoiceId body db (sendWebhook server invoiceId body db)
  | other (notLink : startsWith "link://" body.destinationUri = false) :
      Path server invoiceId body db (sendOther server invoiceId body db)

/-- **The paths of the handler**, when it answers with success. -/
theorem send_ok {server : ApiServer} {id : String} {body : SendBody} {db : Db} {reply : SendReply}
    (answered : (send server id body db).result = .ok reply) :
    ∃ invoiceId, server.parseInvoiceId id = .ok invoiceId ∧
      Path server invoiceId body db (send server id body db) := by
  unfold send at answered ⊢
  cases parsed : server.parseInvoiceId id with
  | error e =>
    rw [parsed] at answered
    cases answered
  | ok invoiceId =>
    rw [parsed] at answered
    refine ⟨invoiceId, rfl, ?_⟩
    dsimp only at answered ⊢
    by_cases link : startsWith "link://" body.destinationUri = true
    · rw [if_pos link]
      exact .link link
    rw [if_neg link] at answered ⊢
    have notLink : startsWith "link://" body.destinationUri = false := by simpa using link
    by_cases webhook : IsWebhook body.destinationUri
    · rw [if_pos webhook]
      exact .webhook notLink webhook
    rw [if_neg webhook] at answered ⊢
    by_cases stdout : body.destinationUri = "stdout"
    · rw [if_pos stdout] at answered
      cases answered
    · rw [if_neg stdout]
      exact .other notLink

end Api

end Invoicing
