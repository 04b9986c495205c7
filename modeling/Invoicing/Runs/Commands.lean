/-
**Commands executed one at a time.**

* `Command` — a call of an invoice or credit-note command, or of a command that writes neither.
  `Command.execute` runs it; `runCommands` runs a list of them.
* `AllCommands P` — `P` holds of each command and of the tables it is executed on.
* **`Request.executed`** — an invoice command that is executed alone fails, answers without a write,
  or tries to commit an edit of rows that are stored; only the commit can violate a key.
-/

import Invoicing.Commands.Numbers
import Invoicing.Runs.Steps

namespace Invoicing

/-! ### Commands -/

/-- A command. -/
inductive Command
  | invoice (request : Request)
  | createCreditNote (ctx : CoreCtx) (input : CreateCreditNoteInput)
  | issueCreditNote (ctx : CoreCtx) (input : IssueCreditNoteInput)
  | elsewhere (write : Db → Db)

/-- What a command returns. -/
inductive CommandReply
  | invoice (reply : Reply)
  | created (output : CreateCreditNoteOutput)
  | creditIssued (output : IssueCreditNoteOutput)
  | done

abbrev CommandOutcome := Except (Stop ApiError) CommandReply

/-- An invoice or credit-note command, or a command that writes other tables. -/
def Command.execute (command : Command) (db : Db) : CommandOutcome × Db :=
  match command with
  | .invoice request => (request.execute db).map (Except.map .invoice) id
  | .createCreditNote ctx input => (Invoicing.createCreditNote ctx input db).map
      (fun result => (result.mapError (Stop.map ApiError.core)).map .created) id
  | .issueCreditNote ctx input => (Invoicing.issueCreditNote ctx input db).map
      (fun result => (result.mapError (Stop.map ApiError.core)).map .creditIssued) id
  | .elsewhere write => (.ok .done, { write db with
      invoices := db.invoices
      lines := db.lines
      history := db.history
      sendKeys := db.sendKeys
      creditNotes := db.creditNotes
      creditHistory := db.creditHistory })

/-- Run commands one after the other. -/
def runCommands (db : Db) : List Command → Db
  | [] => db
  | command :: rest => runCommands (command.execute db).2 rest

/-- The condition holds of each command where it is executed. -/
def AllCommands (P : Db → Command → Prop) (db : Db) : List Command → Prop
  | [] => True
  | command :: rest => P db command ∧ AllCommands P (command.execute db).2 rest

instance AllCommands.decidable (P : Db → Command → Prop) [∀ db command, Decidable (P db command)] :
    (db : Db) → (commands : List Command) → Decidable (AllCommands P db commands)
  | _, [] => inferInstanceAs (Decidable True)
  | db, command :: rest =>
      @instDecidableAnd _ _ (inferInstanceAs (Decidable (P db command)))
        (AllCommands.decidable P (command.execute db).2 rest)

theorem allCommands_append {P : Db → Command → Prop} {db : Db} {first second : List Command} :
    AllCommands P db (first ++ second) ↔
      AllCommands P db first ∧ AllCommands P (runCommands db first) second := by
  induction first generalizing db with
  | nil => simp [AllCommands, runCommands]
  | cons command rest ih => simp only [List.cons_append, AllCommands, runCommands, ih, and_assoc]

/-- The condition at the `n`-th command, and at the commands before it. -/
theorem AllCommands.at {P : Db → Command → Prop} {db : Db} {commands : List Command}
    (all : AllCommands P db commands) {n : ℕ} {command : Command}
    (there : commands[n]? = some command) :
    AllCommands P db (commands.take n) ∧ P (runCommands db (commands.take n)) command := by
  obtain ⟨inside, rfl⟩ := List.getElem?_eq_some_iff.mp there
  have split : commands = commands.take n ++ commands[n] :: commands.drop (n + 1) := by
    rw [List.getElem_cons_drop, List.take_append_drop]
  rw [split, allCommands_append] at all
  exact ⟨all.1, all.2.1⟩

theorem AllCommands.take {P : Db → Command → Prop} {db : Db} {commands : List Command}
    (all : AllCommands P db commands) (n : ℕ) : AllCommands P db (commands.take n) := by
  rw [← List.take_append_drop n commands] at all
  exact (allCommands_append.mp all).1

/-! ### What an invoice command does -/

/-- The outcome of a transaction. -/
def commitOutcome (tx : InvoiceTx) (reply : Reply) (db : Db) : Outcome × Db :=
  match tx.commit db with
  | .error e => (.error (.error (.core (.repo e))), db)
  | .ok db' => (.ok reply, db')

/-- The outcome is not a violated key. -/
def NoKeyViolated (outcome : Outcome) : Prop :=
  ∀ e, outcome = .error (.error (.core (.repo e))) → ∃ message, e = .blob message

/-- The write set of an issue is numbered by the count of the tables. -/
def CountedOn (db : Db) (request : Request) (tx : InvoiceTx) : Prop :=
  ∀ ctx input, request = .issue ctx input → ∃ ready blobRef,
    tx = issueTx ctx input ready (countInvoicesIssuedInYear db ctx.now.year) blobRef

theorem noKeyViolated_toOutcome {α : Type} (reply : α → Reply) {result : CoreResult α}
    (free : SchemaFree result) : NoKeyViolated (toOutcome reply result) := by
  intro e same
  cases result with
  | ok output => cases same
  | error stop =>
    cases stop with
    | panic => cases same
    | error e' =>
      cases same
      exact free e rfl

/-- A command that is prepared without a violated key violates one only at its commit. -/
theorem perform_outcome {α : Type} (reply : α → Reply) {prepared : CoreResult (Prepared α)}
    (free : SchemaFree prepared) (db : Db) :
    (∃ stop, (perform prepared db).map (toOutcome reply) id = (.error stop, db) ∧
        NoKeyViolated (.error stop)) ∨
      (∃ output, prepared = .ok (.answer output) ∧
        (perform prepared db).map (toOutcome reply) id = (.ok (reply output), db)) ∨
      ∃ loaded tx output, prepared = .ok (.write loaded tx output) ∧
        (perform prepared db).map (toOutcome reply) id = commitOutcome tx (reply output) db := by
  cases prepared with
  | error stop =>
    have free' : SchemaFree (.error stop : CoreResult α) := by
      intro e same
      cases same
      exact free e rfl
    exact Or.inl ⟨_, rfl, noKeyViolated_toOutcome reply free'⟩
  | ok done =>
    cases done with
    | answer output => exact Or.inr (Or.inl ⟨output, rfl, rfl⟩)
    | write loaded tx output =>
      refine Or.inr (Or.inr ⟨loaded, tx, output, rfl, ?_⟩)
      simp only [perform, Prepared.finish, commitOutcome]
      cases tx.commit db with
      | error e => rfl
      | ok db' => rfl

section View

variable {state : ApiState} {token : String} {db : Db}

theorem Request.execute_view_error {stop : Stop ApiError}
    (page : prepareView state token db = .error stop) :
    (Request.view state token).execute db = (.error stop, db) := by
  simp only [Request.execute, viewInvoice, page]
  rfl

theorem Request.execute_view_answer {html : String}
    (page : prepareView state token db = .ok (.answer html)) :
    (Request.view state token).execute db = (.ok (.viewed html), db) := by
  simp only [Request.execute, viewInvoice, page]
  rfl

theorem Request.execute_view_write {loaded : Option Invoice} {tx : InvoiceTx} {html : String}
    (page : prepareView state token db = .ok (.write loaded tx html)) :
    (Request.view state token).execute db = commitOutcome tx (.viewed html) db := by
  simp only [Request.execute, viewInvoice, page, Prepared.finish, commitOutcome]
  cases tx.commit db with
  | error e => rfl
  | ok db' => rfl

end View

/-- What an invoice command executed alone can do. -/
inductive Request.Executed (request : Request) (db : Db) : Prop
  | failed (stop : Stop ApiError) (same : request.execute db = (.error stop, db))
      (noKey : NoKeyViolated (.error stop))
  | answered (reply : Reply) (notIssue : ∀ ctx input, request ≠ .issue ctx input)
      (same : request.execute db = (.ok reply, db))
  | committed (loaded : Option Invoice) (tx : InvoiceTx) (reply : Reply)
      (edit : Edit request loaded tx)
      (stored : ∀ inv, loaded = some inv → db.getInvoice inv.id = some inv)
      (counted : CountedOn db request tx) (same : request.execute db = commitOutcome tx reply db)

/-- **An invoice command executed alone** fails on no key, or answers without a write, or tries to
commit an edit of stored rows. -/
theorem Request.executed (request : Request) (db : Db) : request.Executed db := by
  have byLoad : ∀ {α : Type} (reply : α → Reply) {prepared' : CoreResult (Prepared α)},
      SchemaFree prepared' → request.load db = prepared request reply prepared' →
      (∀ ctx input, request ≠ .issue ctx input) →
      request.execute db = (perform prepared' db).map (toOutcome reply) id →
      request.Executed db := by
    intro α reply prepared' free loads notIssue executes
    rcases perform_outcome reply free db with ⟨stop, shape, noKey⟩ | ⟨output, _, shape⟩ |
      ⟨loaded, tx, output, shape, commits⟩
    · exact .failed stop (executes.trans shape) noKey
    · exact .answered (reply output) notIssue (executes.trans shape)
    · rw [shape] at loads
      obtain ⟨_, edit, stored⟩ := load_committing loads
      exact .committed loaded tx (reply output) edit stored
        (fun ctx input same => absurd same (notIssue ctx input)) (executes.trans commits)
  cases request with
  | draft ctx input =>
    exact byLoad .drafted (schemaFree_prepareDraft ctx input db) rfl (fun _ _ => by simp) rfl
  | send ctx input =>
    exact byLoad .sent (schemaFree_prepareSendInvoice ctx input db) rfl (fun _ _ => by simp) rfl
  | sendRender ctx input =>
    exact byLoad .sent (schemaFree_prepareSendRender ctx input db) rfl (fun _ _ => by simp) rfl
  | markPaid ctx input =>
    exact byLoad .paid (schemaFree_prepareMarkPaid ctx input db) rfl (fun _ _ => by simp) rfl
  | void ctx input =>
    exact byLoad .voided (schemaFree_prepareVoid ctx input db) rfl (fun _ _ => by simp) rfl
  | issue ctx input =>
    have free := (schemaFree_prepareIssue ctx input db).bind fun ready =>
      schemaFree_finishIssue ctx input ready (countInvoicesIssuedInYear db ctx.now.year)
    rcases perform_outcome .issued free db with ⟨stop, shape, noKey⟩ | ⟨output, answered, _⟩ |
      ⟨loaded, tx, output, shape, commits⟩
    · exact .failed stop shape noKey
    · obtain ⟨ready, _, finished⟩ := bind_ok answered
      obtain ⟨blobRef, html, pdf, same⟩ := finishIssue_write finished
      cases same
    · obtain ⟨ready, prepared', finished⟩ := bind_ok shape
      obtain ⟨blobRef, html, pdf, same⟩ := finishIssue_write finished
      cases same
      obtain ⟨checked, found⟩ := prepareIssue_checked prepared'
      refine .committed (some ready.loaded) _ _
        (.issue checked.draft checked.toState checked.target checked.owners) ?_ ?_ commits
      · intro inv same
        cases same
        rw [checked.target]
        exact found
      · intro ctx' input' same
        cases same
        exact ⟨ready, blobRef, rfl⟩
  | view state token =>
    cases page : prepareView state token db with
    | error stop =>
      refine .failed stop (Request.execute_view_error page) ?_
      intro e same
      have stopped : stop = .error (.core (.repo e)) := Except.error.inj same
      rw [stopped] at page
      obtain ⟨message, same⟩ := prepareView_error page
      cases same
    | ok done =>
      cases done with
      | answer html =>
        exact .answered (.viewed html) (fun _ _ => by simp) (Request.execute_view_answer page)
      | write loaded tx html =>
        have loads : Request.load (.view state token) db =
            .committing (.view state token) loaded tx (.viewed html) := by
          simp only [Request.load, page]
        obtain ⟨_, edit, stored⟩ := load_committing loads
        refine .committed loaded tx (.viewed html) edit stored ?_ (Request.execute_view_write page)
        intro ctx input same
        cases same

/-- The tables with an issued invoice of 100.00. -/
def issuedDb : Db :=
  runCommands sampleDb [.invoice (.draft (sampleCtx (oneOClock firstOfMarch) 1) sampleDraft),
    .invoice (.issue (sampleCtx (oneOClock firstOfMarch) 2) sampleIssue)]

end Invoicing
