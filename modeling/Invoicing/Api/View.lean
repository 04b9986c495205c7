/-
**`GET /v/{token}`, the signed-link view of an invoice.**

* `verifyLink` stands for the check of a token: the invoice id it names, or nothing.
* `prepareView` — load, render, and move a sent invoice to viewed with a `view` history row. Any other
  state is rendered and nothing is written. The transition table is not asked.
-/

import Invoicing.Commands.Ctx

namespace Invoicing

open Chrono

/-- How a request fails. -/
inductive ApiError
  | invalidLink
  | core (e : CoreError)
  deriving DecidableEq

/-- What a view request uses: the context of a command, and the check of tokens. -/
structure ApiState where
  ctx : CoreCtx
  verifyLink : String → Option InvoiceId

/-- Rows whose absence is reported as an invalid link. -/
def orInvalidLink {α : Type} (found : Option α) : Except (Stop ApiError) α :=
  match found with
  | none => .error (.error .invalidLink)
  | some a => .ok a

theorem orInvalidLink_ok {α : Type} {found : Option α} {a : α}
    (there : orInvalidLink found = .ok a) : found = some a := by
  cases found with
  | none => cases there
  | some b =>
    cases there
    rfl

/-- The row of a viewed invoice. -/
def viewedRow (inv : Invoice) (time : DateTime) : Invoice :=
  { inv with state := .viewed, viewedAt := some time, updatedAt := time }

/-- The write set of a first view. -/
def viewTx (ctx : CoreCtx) (inv : Invoice) : InvoiceTx where
  invoice := viewedRow inv ctx.now
  lines := none
  history := transitionRow ctx inv .viewed "view" (.api "link.viewer") .api ctx.now
  sendKey := none

/-- The rendered page, and the write of a first view. -/
def prepareView (state : ApiState) (token : String) (db : Db) :
    Except (Stop ApiError) (Prepared String) := do
  let id ← orInvalidLink (state.verifyLink token)
  let inv ← orInvalidLink (db.getInvoice id)
  let lines := db.linesOf id
  let customer ← orInvalidLink (db.getCustomer inv.customerId)
  let html ← (state.ctx.renderHtml inv.templatePath inv customer lines).mapError fun e =>
    Stop.error (ApiError.core (.render e))
  if inv.state = .sent then return .write (some inv) (viewTx state.ctx inv) html
  else return .answer html

/-- A page that is not prepared fails on no key of the schema. -/
theorem prepareView_error {state : ApiState} {token : String} {db : Db} {e : CoreError}
    (failed : prepareView state token db = .error (.error (.core e))) : ∃ message, e = .render message := by
  have invalid : ∀ {α : Type} {found : Option α},
      orInvalidLink found ≠ .error (.error (.core e)) := by
    intro α found same
    cases found <;> cases same
  rcases bind_error failed with early | ⟨_, _, failed⟩
  · exact absurd early invalid
  rcases bind_error failed with early | ⟨inv, _, failed⟩
  · exact absurd early invalid
  rcases bind_error failed with early | ⟨customer, _, failed⟩
  · exact absurd early invalid
  rcases bind_error failed with early | ⟨html, _, failed⟩
  · cases rendered : state.ctx.renderHtml inv.templatePath inv customer (db.linesOf _) with
    | error message =>
      rw [rendered] at early
      cases early
      exact ⟨message, rfl⟩
    | ok html =>
      rw [rendered] at early
      cases early
  · split at failed <;> cases failed

/-- **`view_invoice`.** -/
def viewInvoice (state : ApiState) (token : String) (db : Db) :
    Except (Stop ApiError) String × Db :=
  match prepareView state token db with
  | .error e => (.error e, db)
  | .ok prepared =>
      let (result, after) := prepared.finish db
      (result.mapError (Stop.map ApiError.core), after)

/-- **A page that is prepared**: the token names a stored invoice, and a sent one is moved. -/
theorem prepareView_ok {state : ApiState} {token : String} {db : Db} {prepared : Prepared String}
    (done : prepareView state token db = .ok prepared) :
    ∃ id inv html, state.verifyLink token = some id ∧ db.getInvoice id = some inv ∧
      prepared = if inv.state = .sent then .write (some inv) (viewTx state.ctx inv) html
        else .answer html := by
  obtain ⟨id, verified, rest⟩ := bind_ok done
  obtain ⟨inv, found, rest⟩ := bind_ok rest
  obtain ⟨customer, _, rest⟩ := bind_ok rest
  obtain ⟨html, _, rest⟩ := bind_ok rest
  refine ⟨id, inv, html, orInvalidLink_ok verified, orInvalidLink_ok found, ?_⟩
  split at rest
  · rename_i sent
    cases rest
    exact (if_pos sent).symm
  · rename_i notSent
    cases rest
    exact (if_neg notSent).symm

/-- **What a view writes**, and when. -/
theorem prepareView_write {state : ApiState} {token : String} {db : Db} {loaded : Option Invoice}
    {tx : InvoiceTx} {html : String}
    (prepared : prepareView state token db = .ok (.write loaded tx html)) :
    ∃ id inv, state.verifyLink token = some id ∧ db.getInvoice id = some inv ∧
      inv.state = .sent ∧ loaded = some inv ∧ tx = viewTx state.ctx inv := by
  obtain ⟨id, inv, page, verified, found, same⟩ := prepareView_ok prepared
  by_cases sent : inv.state = .sent
  · rw [if_pos sent] at same
    cases same
    exact ⟨id, inv, verified, found, sent, rfl, rfl⟩
  · rw [if_neg sent] at same
    cases same

end Invoicing
