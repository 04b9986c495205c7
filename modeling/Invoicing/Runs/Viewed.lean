/-
**Views are reported once.**

* `fetch_publishes` — a fetch that succeeds publishes one `viewed` event if its invoice is stored as sent,
  and nothing otherwise.
* `PastSent` — an invoice that was viewed, paid or voided. **`Command.pastSent`** — it is never sent again.
* `Command.views`, `runViews` — the events that the fetches of an invoice publish, in a command and in a
  run. **`viewed_once`** — at most one in a run, whatever the tokens. **`second_token_silent`** — the
  second of two tokens of an invoice reports nothing.
-/

import Invoicing.Runs.AuditLog
import Invoicing.Runs.Published

namespace Invoicing

open Chrono (DateTime)

/-! ### One fetch -/

/-- **What a fetch that succeeds publishes.** -/
theorem fetch_publishes {state : ApiState} {token : String} {db : Db} {reply : Reply}
    (fetched : ((Request.view state token).execute db).1 = .ok reply) :
    ∃ id inv, state.verifyLink token = some id ∧ db.getInvoice id = some inv ∧
      (Request.view state token).published db =
        if inv.state = .sent then viewedEvents (viewedRow inv state.ctx.now) state.ctx.now else [] := by
  cases page : prepareView state token db with
  | error stop =>
    rw [Request.execute_view_error page] at fetched
    cases fetched
  | ok prepared =>
    obtain ⟨id, inv, html, verified, found, shape⟩ := prepareView_ok page
    refine ⟨id, inv, verified, found, ?_⟩
    unfold Request.published Request.ready
    by_cases sent : inv.state = .sent
    · rw [if_pos sent] at shape ⊢
      subst shape
      have loads : Request.load (.view state token) db = .committing (.view state token) (some inv)
          (viewTx state.ctx inv) (.viewed html) := by simp only [Request.load, page]
      rw [loads]
      rw [Request.execute_view_write page] at fetched
      cases committed : (viewTx state.ctx inv).commit db with
      | error e =>
        simp only [commitOutcome, committed] at fetched
        cases fetched
      | ok after =>
        simp only [committed]
        rfl
    · rw [if_neg sent] at shape ⊢
      subst shape
      have loads : Request.load (.view state token) db =
          .finished (.view state token) (.ok (.viewed html)) := by simp only [Request.load, page]
      rw [loads]

/-! ### Past the send -/

/-- Viewed, or later. -/
def InvoiceState.PastSent (state : InvoiceState) : Prop :=
  state ≠ .draft ∧ state ≠ .issued ∧ state ≠ .sent

/-- The invoice is stored, and is viewed or later. -/
def PastSent (id : InvoiceId) (db : Db) : Prop :=
  ∃ inv, db.getInvoice id = some inv ∧ inv.state.PastSent

/-- No edit leads back to before a view. -/
theorem Edit.pastSent {request : Request} {inv : Invoice} {tx : InvoiceTx}
    (edit : Edit request (some inv) tx) (past : inv.state.PastSent) : tx.invoice.state.PastSent := by
  have notOpen : ¬ (inv.state = .issued ∨ inv.state = .sent) := by
    rintro (issued | sent)
    · exact past.2.1 issued
    · exact past.2.2 sent
  cases edit with
  | issue draft toState target owners => exact absurd draft past.1
  | send target open' => exact absurd open' notOpen
  | sendRender target open' => exact absurd open' notOpen
  | view verified sent => exact absurd sent past.2.2
  | markPaid target positive summed accepted =>
    rcases (nextState_pay accepted).2 with ⟨_, rfl⟩ | ⟨_, rfl⟩
    · exact ⟨nofun, nofun, nofun⟩
    · exact ⟨nofun, nofun, nofun⟩
  | void target accepted =>
    obtain ⟨_, rfl⟩ := nextState_void accepted
    exact ⟨nofun, nofun, nofun⟩

/-- A draft draws a new id. -/
def Command.DraftsNew (db : Db) (command : Command) : Prop :=
  ∀ request, command = .invoice request → Invoicing.DraftsNew db request

/-- **A viewed invoice is never sent again.** -/
theorem Command.pastSent {id : InvoiceId} {db : Db} {command : Command} (past : PastSent id db)
    (new : command.DraftsNew db) : PastSent id (command.execute db).2 := by
  obtain ⟨inv, found, past⟩ := past
  rcases command.invoice_cases db with same | ⟨request, loaded, tx, rfl, edit, stored, committed⟩
  · exact ⟨inv, (same.stays id).invoice.trans found, past⟩
  · rw [(InvoiceTx.commit_ok committed).1]
    by_cases mine : id = tx.invoice.id
    · subst mine
      cases loaded with
      | none =>
        cases edit with
        | draft summed => cases (new _ rfl _ _ rfl).symm.trans found
      | some old =>
        have same : old = inv := by
          have there := stored old rfl
          rw [edit.owners.2 old rfl] at there
          exact Option.some.inj (there.symm.trans found)
        subst same
        obtain ⟨createdAt, written⟩ := InvoiceTx.getInvoice_apply_self tx db
        exact ⟨_, written, edit.pastSent past⟩
    · exact ⟨inv, (edit.stays mine db).invoice.trans found, past⟩

/-! ### Runs -/

/-- What a command publishes as a fetch of an invoice. -/
def Command.views (command : Command) (id : InvoiceId) (db : Db) : List BusEvent :=
  match command with
  | .invoice (.view state token) =>
      if state.verifyLink token = some id then (Request.view state token).published db else []
  | _ => []

/-- What the fetches of an invoice publish in a run, in order. -/
def runViews (id : InvoiceId) (db : Db) : List Command → List BusEvent
  | [] => []
  | command :: rest => command.views id db ++ runViews id (command.execute db).2 rest

/-- A command reports no view of an invoice, or one, and leaves it viewed. -/
theorem Command.views_cases (command : Command) (id : InvoiceId) (db : Db) :
    command.views id db = [] ∨
      (command.views id db).length = 1 ∧ PastSent id (command.execute db).2 := by
  unfold Command.views
  split
  · rename_i state token
    split
    · rename_i valid
      rcases (Request.view state token).published_cases db with
        ⟨_, none⟩ | ⟨loaded, tx, reply, edit, _, executes, publishes⟩
      · exact Or.inl none
      · right
        have after : ((Command.invoice (.view state token)).execute db).2 = tx.apply db := by
          show ((Request.view state token).execute db).2 = _
          rw [executes]
        rw [after, publishes]
        cases edit with
        | view verified sent =>
          obtain rfl := Option.some.inj (verified.symm.trans valid)
          obtain ⟨createdAt, written⟩ := InvoiceTx.getInvoice_apply_self (viewTx state.ctx _) db
          exact ⟨rfl, _, written, nofun, nofun, nofun⟩
    · exact Or.inl rfl
  · exact Or.inl rfl

/-- The row of an invoice past its send is not sent, so a fetch reports nothing. -/
theorem views_of_pastSent {id : InvoiceId} {db : Db} (past : PastSent id db) (command : Command) :
    command.views id db = [] := by
  unfold Command.views
  split
  · rename_i state token
    split
    · rename_i valid
      rcases (Request.view state token).published_cases db with
        ⟨_, none⟩ | ⟨loaded, tx, reply, edit, _, executes, _⟩
      · exact none
      · obtain ⟨inv, found, past⟩ := past
        obtain ⟨other, row, verified, there, publishes⟩ := fetch_publishes (congrArg Prod.fst executes)
        obtain rfl := Option.some.inj (verified.symm.trans valid)
        obtain rfl := Option.some.inj (there.symm.trans found)
        rw [publishes, if_neg past.2.2]
    · rfl
  · rfl

/-- After a view, the fetches of an invoice report nothing. -/
theorem runViews_of_pastSent {id : InvoiceId} {db : Db} {commands : List Command}
    (past : PastSent id db) (new : AllCommands (fun db command => command.DraftsNew db) db commands) :
    runViews id db commands = [] := by
  induction commands generalizing db with
  | nil => rfl
  | cons command rest ih =>
    show command.views id db ++ runViews id (command.execute db).2 rest = []
    rw [views_of_pastSent past, ih (Command.pastSent past new.1) new.2, List.append_nil]

theorem runViews_length {id : InvoiceId} {db : Db} {commands : List Command}
    (new : AllCommands (fun db command => command.DraftsNew db) db commands) :
    (runViews id db commands).length ≤ 1 := by
  induction commands generalizing db with
  | nil => exact Nat.zero_le _
  | cons command rest ih =>
    show (command.views id db ++ runViews id (command.execute db).2 rest).length ≤ 1
    rcases command.views_cases id db with none | ⟨one, past⟩
    · rw [none, List.nil_append]
      exact ih new.2
    · rw [runViews_of_pastSent past new.2, List.append_nil, one]

/-- **Views are reported once**: in every run of commands and fetches, executed one at a time, a fetch that
succeeds reports a view exactly if the invoice of its token is stored as sent, with one event, and the
fetches of one invoice report at most one in all, whatever their tokens. -/
theorem viewed_once {start : Db} {commands : List Command}
    (new : AllCommands (fun db command => command.DraftsNew db) start commands) :
    (∀ before after state token reply, commands = before ++ .invoice (.view state token) :: after →
      ((Request.view state token).execute (runCommands start before)).1 = .ok reply →
      ∃ id inv, state.verifyLink token = some id ∧
        (runCommands start before).getInvoice id = some inv ∧
        (Request.view state token).published (runCommands start before) =
          if inv.state = .sent then viewedEvents (viewedRow inv state.ctx.now) state.ctx.now else []) ∧
      ∀ id, (runViews id start commands).length ≤ 1 :=
  ⟨fun _ _ _ _ _ _ fetched => fetch_publishes fetched, fun _ => runViews_length new⟩

/-- The invoice, sent. -/
def sentDb : Db := runCommands issuedDb [.invoice (.sendRender (sampleCtx (oneOClock firstOfMarch) 3)
  ⟨⟨1⟩, "link://", none, .cli "operator", .api⟩)]

/-- A link of the invoice. -/
def firstToken : String :=
  "aW52b2ljZV8wMDAwMDAwMDAwMDAwMDAwMDAwMDAwMDAwMToxNzQyMDAwMDAwOmJkNjQyZmFmOWExYzBhYWMxNGVjYWM0ZjM0" ++
    "MjU3NmE5MGNkNmQ0YTc3OTBhZTgyYzJhMTFmNDcwZjBmMTRmOTM"

/-- Another link of the invoice, which expires later. -/
def secondToken : String :=
  "aW52b2ljZV8wMDAwMDAwMDAwMDAwMDAwMDAwMDAwMDAwMToxNzQyMDg2NDAwOjA0MGQ4MjhiMzg3YjQ5MTMyZWMyMjE0NzY4" ++
    "ZmI1ODYxMjZkYzA0MmFjN2Q3YTQ1MTFmZDEyNzgzMTRmYjNlOTc"

/-- A fetch of one of the two links. -/
def fetchAt (draw : ℕ) (token : String) : Request :=
  .view ⟨sampleCtx (oneOClock firstOfMarch) draw, fun text =>
    if text = firstToken ∨ text = secondToken then some ⟨1⟩ else none⟩ token

/-- The fetch of the first link, a draft of another invoice, then the fetch of the second link. -/
def twoFetches : List Command :=
  [.invoice (fetchAt 4 firstToken), .invoice (.draft (sampleCtx (oneOClock firstOfMarch) 6) sampleDraft),
    .invoice (fetchAt 5 secondToken)]

/-- **The second of two tokens of an invoice reports nothing**: both fetches succeed, one event is
published. -/
theorem second_token_silent :
    firstToken ≠ secondToken ∧
      ((fetchAt 4 firstToken).execute sentDb).1.isOk = true ∧
      ((fetchAt 4 firstToken).published sentDb).length = 1 ∧
      ((fetchAt 5 secondToken).execute (runCommands sentDb [.invoice (fetchAt 4 firstToken)])).1.isOk =
        true ∧
      (fetchAt 5 secondToken).published (runCommands sentDb [.invoice (fetchAt 4 firstToken)]) = [] := by
  refine ⟨by decide +kernel, by decide +kernel, by decide +kernel, by decide +kernel, ?_⟩
  exact List.length_eq_zero_iff.mp (by decide +kernel)

/-- The two fetches report one view. -/
theorem viewed_once_of_two : (runViews ⟨1⟩ sentDb twoFetches).length ≤ 1 := by
  have new : AllCommands (fun db command => command.DraftsNew db) sentDb twoFetches := by
    refine ⟨?_, ?_, ?_, trivial⟩
    · rintro request same ctx input rfl
      cases same
    · rintro request same ctx input rfl
      cases same
      decide +kernel
    · rintro request same ctx input rfl
      cases same
  exact (viewed_once new).2 ⟨1⟩

end Invoicing
