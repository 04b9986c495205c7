/-
**What every command gets and gives.**

* `Actor`, `Channel`, `CoreError` — who asks, through which adapter, and how a command fails.
* `CoreCtx` — what one call of a command uses of the world: the tax configuration, the reading of the
  clock, the fresh ids it draws, decimal arithmetic, the renderers and the blob store.
* `Prepared` — a command up to its transaction: an answer that writes nothing, or a write set.
  `perform` runs the transaction; a command that fails leaves the tables as they were
  (`perform_error`).
* Events a command publishes are not part of it: publishing comes after the commit, and its failures
  are swallowed.
-/

import Invoicing.State.Transitions
import Invoicing.Store.Db
import Invoicing.Tax.Resolver

namespace Invoicing

open Chrono DigitText

/-! ### Callers and failures -/

/-- Who triggered a command. -/
inductive Actor
  | cli (name : String)
  | api (name : String)
  | ws (name : String)
  | mcp (name : String)
  | bus (source : String)
  deriving DecidableEq

/-- The text of an actor in audit rows. -/
def Actor.auditString : Actor → String
  | .cli name => name
  | .api name => name
  | .ws name => name
  | .mcp name => name
  | .bus source => source ++ ".bus.consumer"

/-- The adapter a command came through. -/
inductive Channel
  | cli
  | api
  | ws
  | mcp
  | bus
  deriving DecidableEq

def Channel.toHistory : Channel → HistoryChannel
  | .cli => .cli
  | .api => .api
  | .ws => .ws
  | .mcp => .mcp
  | .bus => .bus

/-- How a command fails. -/
inductive CoreError
  | validation (message : String)
  | idempotency (message : String)
  | fsmTransition (e : TransitionError)
  | repo (e : StoreError)
  | tax (e : TaxError)
  | render (message : String)
  | pdf (message : String)
  | notFound (what : String)
  | notImplemented (message : String)
  deriving DecidableEq

/-- What a command returns when it does not abort. -/
abbrev CoreResult (α : Type) := Except (Stop CoreError) α

def fail {α : Type} (e : CoreError) : CoreResult α := .error (.error e)

/-- An entity that must exist. -/
def orNotFound {α : Type} (found : Option α) (what : String) : CoreResult α :=
  match found with
  | none => fail (.notFound what)
  | some a => .ok a

/-- A transition the table must accept. -/
def orRejected {α : Type} (verdict : Except TransitionError α) : CoreResult α :=
  verdict.mapError fun e => .error (.fsmTransition e)

theorem orNotFound_ok {α : Type} {found : Option α} {what : String} {a : α}
    (there : orNotFound found what = .ok a) : found = some a := by
  cases found with
  | none => cases there
  | some b =>
    cases there
    rfl

theorem orRejected_ok {α : Type} {verdict : Except TransitionError α} {a : α}
    (accepted : orRejected verdict = .ok a) : verdict = .ok a := by
  cases verdict with
  | error e => cases accepted
  | ok b =>
    cases accepted
    rfl

/-! ### Failures that are not the schema's -/

/-- The failure, if there is one, is not a violated key. -/
def SchemaFree {α : Type} (result : CoreResult α) : Prop :=
  ∀ e, result = .error (.error (.repo e)) → ∃ message, e = .blob message

section SchemaFree

variable {α β γ : Type}

theorem SchemaFree.ok (a : α) : SchemaFree (.ok a) := by
  intro e same
  cases same

theorem SchemaFree.fail {e : CoreError} (other : ∀ s, e ≠ .repo s) :
    SchemaFree (fail e : CoreResult α) := by
  intro s same
  cases same
  exact absurd rfl (other s)

theorem SchemaFree.bind {first : CoreResult α} {rest : α → CoreResult β}
    (free : SchemaFree first) (free' : ∀ a, SchemaFree (rest a)) : SchemaFree (first >>= rest) := by
  intro e failed
  rcases bind_error failed with early | ⟨a, _, late⟩
  · exact free e early
  · exact free' a e late

theorem SchemaFree.foldlM {step : β → γ → CoreResult β} (free : ∀ b c, SchemaFree (step b c))
    (items : List γ) (start : β) : SchemaFree (items.foldlM step start) := by
  induction items generalizing start with
  | nil => exact .ok start
  | cons item rest ih =>
    rw [List.foldlM_cons]
    exact (free start item).bind ih

theorem SchemaFree.mapError {ε : Type} {wrap : ε → CoreError} (other : ∀ e s, wrap e ≠ .repo s)
    (result : Except ε α) :
    SchemaFree (result.mapError fun e => Stop.error (wrap e)) := by
  intro s same
  cases result with
  | error e =>
    have wrapped : wrap e = .repo s := Stop.error.inj (Except.error.inj same)
    exact absurd wrapped (other e s)
  | ok a => cases same

theorem schemaFree_orNotFound (found : Option α) (what : String) :
    SchemaFree (orNotFound found what) := by
  cases found with
  | none => exact .fail fun _ => by simp
  | some a => exact .ok a

theorem schemaFree_orRejected (verdict : Except TransitionError α) :
    SchemaFree (orRejected verdict) := .mapError (fun _ _ => by simp) verdict

theorem schemaFree_orPanic (result : Option α) : SchemaFree (orPanic result) := by
  intro e same
  cases result with
  | none => cases same
  | some a => cases same

end SchemaFree

/-! ### Texts -/

/-- Unicode white space. -/
def isWhiteSpace (c : Char) : Bool :=
  let n := c.toNat
  (9 ≤ n && n ≤ 13) || n == 32 || n == 133 || n == 160 || n == 5760 || (8192 ≤ n && n ≤ 8202) ||
    n == 8232 || n == 8233 || n == 8239 || n == 8287 || n == 12288

/-- Nothing is left of the text after trimming. -/
def isBlank (s : String) : Bool := s.toList.all isWhiteSpace

def natText (n : ℕ) : String := String.ofList (Nat.toDigits 10 n)

/-! ### Contexts -/

/-- What one call of a command uses of the world. -/
structure CoreCtx where
  taxTable : TaxTable
  nexus : NexusConfig
  now : DateTime
  arith : Arith
  newInvoiceId : InvoiceId
  newLineId : ℕ → LineId
  newHistoryId : HistoryId
  newCreditNoteId : CreditNoteId
  newScheduleId : ScheduleId
  renderHtml : Option String → Invoice → Customer → List InvoiceLine → Except String String
  renderPdf : String → Except String (List UInt8)
  blobStore : Option (List UInt8 → Except String String)
  writeFile : String → List UInt8 → Except String Unit

/-- HTML and PDF of an invoice. -/
def CoreCtx.render (ctx : CoreCtx) (inv : Invoice) (customer : Customer)
    (lines : List InvoiceLine) : CoreResult (String × List UInt8) := do
  let html ← (ctx.renderHtml inv.templatePath inv customer lines).mapError fun e =>
    Stop.error (CoreError.render e)
  let pdf ← (ctx.renderPdf html).mapError fun e => Stop.error (CoreError.pdf e)
  return (html, pdf)

/-- The customer an invoice refers to. -/
def customerOf (db : Db) (inv : Invoice) : CoreResult Customer :=
  orNotFound (db.getCustomer inv.customerId)
    ("customer " ++ inv.customerId.text ++ " (referenced by invoice " ++ inv.id.text ++ ")")

def invoiceOf (db : Db) (id : InvoiceId) : CoreResult Invoice :=
  orNotFound (db.getInvoice id) ("invoice " ++ id.text)

theorem schemaFree_render (ctx : CoreCtx) (inv : Invoice) (customer : Customer)
    (lines : List InvoiceLine) : SchemaFree (ctx.render inv customer lines) :=
  (SchemaFree.mapError (fun _ _ => by simp) _).bind fun _ =>
    (SchemaFree.mapError (fun _ _ => by simp) _).bind fun _ => .ok _

theorem schemaFree_customerOf (db : Db) (inv : Invoice) : SchemaFree (customerOf db inv) :=
  schemaFree_orNotFound _ _

theorem schemaFree_invoiceOf (db : Db) (id : InvoiceId) : SchemaFree (invoiceOf db id) :=
  schemaFree_orNotFound _ _

/-- A history row of a transition of an invoice. -/
def transitionRow (ctx : CoreCtx) (inv : Invoice) (toState : InvoiceState) (event : String)
    (actor : Actor) (channel : Channel) (time : DateTime) : InvoiceStateHistory where
  id := ctx.newHistoryId
  invoiceId := inv.id
  fromState := some inv.state
  toState := toState
  event := event
  actor := some actor.auditString
  channel := channel.toHistory
  busEventId := none
  reason := none
  occurredAt := time
  publishedAt := none
  metadata := []

/-! ### Preparing and performing -/

/-- A command up to its transaction. `loaded` is the invoice row the write set was computed from. -/
inductive Prepared (α : Type)
  | answer (output : α)
  | write (loaded : Option Invoice) (tx : InvoiceTx) (output : α)

/-- Run the transaction of a prepared command. -/
def Prepared.finish {α : Type} (prepared : Prepared α) (db : Db) : CoreResult α × Db :=
  match prepared with
  | .answer output => (.ok output, db)
  | .write _ tx output =>
      match tx.commit db with
      | .error e => (fail (.repo e), db)
      | .ok db' => (.ok output, db')

/-- Run a command. -/
def perform {α : Type} (prepared : CoreResult (Prepared α)) (db : Db) : CoreResult α × Db :=
  match prepared with
  | .error e => (.error e, db)
  | .ok prepared => prepared.finish db

/-- What a command that succeeded did. -/
theorem perform_ok {α : Type} {prepared : CoreResult (Prepared α)} {db : Db} {output : α}
    (done : (perform prepared db).1 = .ok output) :
    (prepared = .ok (.answer output) ∧ (perform prepared db).2 = db) ∨
      ∃ loaded tx, prepared = .ok (.write loaded tx output) ∧
        tx.commit db = .ok (perform prepared db).2 := by
  cases prepared with
  | error e => cases done
  | ok prepared =>
    cases prepared with
    | answer out =>
      cases done
      exact Or.inl ⟨rfl, rfl⟩
    | write loaded tx out =>
      refine Or.inr ⟨loaded, tx, ?_⟩
      simp only [perform, Prepared.finish] at done ⊢
      cases committed : tx.commit db with
      | error e =>
        rw [committed] at done
        cases done
      | ok db' =>
        rw [committed] at done
        cases done
        exact ⟨rfl, rfl⟩

/-- **A command that fails leaves every table as it was.** -/
theorem perform_error {α : Type} {prepared : CoreResult (Prepared α)} {db : Db} {e : Stop CoreError}
    (failed : (perform prepared db).1 = .error e) : (perform prepared db).2 = db := by
  cases prepared with
  | error e' => rfl
  | ok prepared =>
    cases prepared with
    | answer out => rfl
    | write loaded tx out =>
      simp only [perform, Prepared.finish] at failed ⊢
      cases committed : tx.commit db with
      | error e' => rfl
      | ok db' =>
        rw [committed] at failed
        cases failed

end Invoicing
