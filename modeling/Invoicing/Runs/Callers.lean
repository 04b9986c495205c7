/-
**Who asks decides nothing but the audit columns.**

* `Db.masked` — the tables without the actors and channels of their history rows.
* `Prepared.Alike` — two prepared commands that differ in these columns of their write sets only.
  **`Request.prepared_alike`** — the same call by two callers, on tables that differ in these columns only.
* `Blind` — a step that answers alike on such tables and leaves such tables; transactions are, and so are
  steps made of blind ones.
* **`callers_only_audited`** — two runs of the same calls by different callers give the same answers, and
  end in tables that differ in these columns only.
-/

import Invoicing.Lib.Mealy
import Invoicing.Runs.Calls

namespace Invoicing

/-! ### Tables without callers -/

/-- A history row without its caller. -/
def InvoiceStateHistory.masked (row : InvoiceStateHistory) : InvoiceStateHistory :=
  { row with actor := none, channel := .bus }

def CreditNoteStateHistory.masked (row : CreditNoteStateHistory) : CreditNoteStateHistory :=
  { row with actor := none, channel := .bus }

def Db.masked (db : Db) : Db :=
  { db with
    history := db.history.map InvoiceStateHistory.masked
    creditHistory := db.creditHistory.map CreditNoteStateHistory.masked }

def ReminderDb.masked (tables : ReminderDb) : ReminderDb := { tables with db := tables.db.masked }

/-- The result of a step, and its tables without callers. -/
def seen {α : Type} (result : α × Db) : α × Db := (result.1, result.2.masked)

/-- Two tables that differ in callers only. -/
theorem eq_of_masked {db other : Db} (same : db.masked = other.masked) :
    ∃ history notes, other = { db with history := history, creditHistory := notes } := by
  refine ⟨other.history, other.creditHistory, ?_⟩
  obtain ⟨customers, invoices, lines, history, sendKeys, creditNotes, creditHistory, schedules⟩ := db
  obtain ⟨customers', invoices', lines', history', sendKeys', creditNotes', creditHistory',
    schedules'⟩ := other
  obtain ⟨rfl, rfl, rfl, _, rfl, rfl, _, rfl⟩ := Db.mk.inj same
  rfl

/-! ### Blind steps -/

/-- The two steps answer alike on tables that differ in callers only, and leave such tables. -/
def Blind {α : Type} (first second : Db → α × Db) : Prop :=
  ∀ db other, db.masked = other.masked → seen (first db) = seen (second other)

section Blind

variable {α β : Type} {first second : Db → α × Db}

theorem Blind.answers (blind : Blind first second) {db other : Db} (same : db.masked = other.masked) :
    (first db).1 = (second other).1 := (Prod.mk.inj (blind db other same)).1

theorem Blind.leaves (blind : Blind first second) {db other : Db} (same : db.masked = other.masked) :
    (first db).2.masked = (second other).2.masked := (Prod.mk.inj (blind db other same)).2

theorem Blind.map (blind : Blind first second) (f : α → β) :
    Blind (fun db => (first db).map f id) fun db => (second db).map f id := by
  intro db other same
  exact Prod.ext (congrArg f (blind.answers same)) (blind.leaves same)

/-- A step that only reads what is no history. -/
theorem blind_of_reads {result : Db → α}
    (reads : ∀ db history notes, result { db with history := history, creditHistory := notes } = result db) :
    Blind (fun db => (result db, db)) fun db => (result db, db) := by
  intro db other same
  obtain ⟨history, notes, rfl⟩ := eq_of_masked same
  exact Prod.ext (reads db history notes).symm same

theorem blind_andThen {first second : Db → CoreResult α × Db} {next next' : α → Db → CoreResult β × Db}
    (blind : Blind first second) (later : ∀ a, Blind (next a) (next' a)) :
    Blind (fun db => andThen (first db) next) fun db => andThen (second db) next' := by
  intro db other same
  have answers := blind.answers same
  have leaves := blind.leaves same
  dsimp only
  generalize first db = one at answers leaves ⊢
  generalize second other = two at answers leaves ⊢
  obtain ⟨result, after⟩ := one
  obtain ⟨result', after'⟩ := two
  obtain rfl : result = result' := answers
  cases result with
  | error e => exact Prod.ext rfl leaves
  | ok a => exact later a after after' leaves

end Blind

/-! ### Transactions -/

def InvoiceTx.masked (tx : InvoiceTx) : InvoiceTx := { tx with history := tx.history.masked }

def CreditTx.masked (tx : CreditTx) : CreditTx := { tx with history := tx.history.masked }

theorem saveInvoice_masked (db : Db) (inv : Invoice) :
    db.masked.saveInvoice inv = (db.saveInvoice inv).map Db.masked := by
  unfold Db.saveInvoice
  simp only [apply_ite (Except.map Db.masked)]
  rfl

theorem insertLine_masked (db : Db) (line : InvoiceLine) :
    db.masked.insertLine line = (db.insertLine line).map Db.masked := by
  unfold Db.insertLine
  simp only [apply_ite (Except.map Db.masked)]
  rfl

theorem insertLines_masked (lines : List InvoiceLine) (db : Db) :
    lines.foldlM Db.insertLine db.masked = (lines.foldlM Db.insertLine db).map Db.masked := by
  induction lines generalizing db with
  | nil => rfl
  | cons line rest ih =>
    rw [List.foldlM_cons, List.foldlM_cons, insertLine_masked]
    cases db.insertLine line with
    | error e => rfl
    | ok after => exact ih after

theorem writeLines_masked (db : Db) (id : InvoiceId) (lines : Option (List InvoiceLine)) :
    db.masked.writeLines id lines = (db.writeLines id lines).map Db.masked := by
  cases lines with
  | none => rfl
  | some lines =>
    show lines.foldlM Db.insertLine
      (Db.masked { db with lines := db.lines.filter fun line => decide (line.invoiceId ≠ id) }) = _
    exact insertLines_masked lines _

theorem insertHistory_masked (db : Db) (row : InvoiceStateHistory) :
    db.masked.insertHistory row.masked = (db.insertHistory row).map Db.masked := by
  have ids : (∃ other ∈ db.masked.history, other.id = row.masked.id) ↔
      ∃ other ∈ db.history, other.id = row.id := by
    simp [Db.masked, InvoiceStateHistory.masked]
  unfold Db.insertHistory
  by_cases taken : ∃ other ∈ db.history, other.id = row.id
  · rw [if_pos (ids.mpr taken), if_pos taken]
    rfl
  · rw [if_neg fun masked => taken (ids.mp masked), if_neg taken]
    by_cases missing : db.getInvoice row.invoiceId = none
    · rw [if_pos missing, if_pos (show db.masked.getInvoice row.masked.invoiceId = none from missing)]
      rfl
    · rw [if_neg missing, if_neg (show ¬ db.masked.getInvoice row.masked.invoiceId = none from missing)]
      simp [Db.masked, Except.map]

theorem writeSendKey_masked (db : Db) (record : Option SendIdempotencyRecord) :
    db.masked.writeSendKey record = (db.writeSendKey record).map Db.masked := by
  cases record with
  | none => rfl
  | some record =>
    unfold Db.writeSendKey Db.insertSendKey
    simp only [apply_ite (Except.map Db.masked)]
    rfl

theorem bind_masked {first : Except StoreError Db} {next next' : Db → Except StoreError Db}
    (later : ∀ db, next db.masked = (next' db).map Db.masked) :
    (first.map Db.masked >>= next) = (first >>= next').map Db.masked := by
  cases first with
  | error e => rfl
  | ok db => exact later db

/-- **A transaction goes through alike without the callers.** -/
theorem InvoiceTx.commit_masked (tx : InvoiceTx) (db : Db) :
    tx.masked.commit db.masked = (tx.commit db).map Db.masked := by
  unfold commit
  show (db.masked.saveInvoice tx.invoice >>= _) = _
  rw [saveInvoice_masked]
  refine bind_masked fun db => ?_
  show (db.masked.writeLines tx.invoice.id tx.lines >>= _) = _
  rw [writeLines_masked]
  refine bind_masked fun db => ?_
  show (db.masked.insertHistory tx.history.masked >>= _) = _
  rw [insertHistory_masked]
  exact bind_masked fun db => writeSendKey_masked db tx.sendKey

theorem CreditTx.commit_masked (tx : CreditTx) (db : Db) :
    tx.masked.commit db.masked = (tx.commit db).map Db.masked := by
  have saved : db.masked.saveCreditNote tx.note = (db.saveCreditNote tx.note).map Db.masked := by
    unfold Db.saveCreditNote
    simp only [apply_ite (Except.map Db.masked)]
    rfl
  unfold commit
  show (db.masked.saveCreditNote tx.note >>= _) = _
  rw [saved]
  refine bind_masked fun db => ?_
  have ids : (∃ other ∈ db.masked.creditHistory, other.id = tx.history.masked.id) ↔
      ∃ other ∈ db.creditHistory, other.id = tx.history.id := by
    simp [Db.masked, CreditNoteStateHistory.masked]
  show db.masked.insertCreditHistory tx.history.masked = _
  unfold Db.insertCreditHistory
  by_cases taken : ∃ other ∈ db.creditHistory, other.id = tx.history.id
  · rw [if_pos (ids.mpr taken), if_pos taken]
    rfl
  · rw [if_neg fun masked => taken (ids.mp masked), if_neg taken]
    by_cases missing : db.getCreditNote tx.history.creditNoteId = none
    · have maskedMissing : db.masked.getCreditNote tx.history.masked.creditNoteId = none := missing
      rw [if_pos missing, if_pos maskedMissing]
      rfl
    · rw [if_neg missing,
        if_neg (show ¬ db.masked.getCreditNote tx.history.masked.creditNoteId = none from missing)]
      simp [Db.masked, Except.map]

/-! ### Prepared commands -/

/-- Two prepared commands whose write sets differ in callers only. -/
def Prepared.masked {α : Type} : Prepared α → Prepared α
  | .answer output => .answer output
  | .write loaded tx output => .write loaded tx.masked output

def PreparedAlike {α ε : Type} (first second : Except ε (Prepared α)) : Prop :=
  first.map Prepared.masked = second.map Prepared.masked

section Alike

variable {α β ε : Type}

theorem PreparedAlike.refl (prepared : Except ε (Prepared α)) : PreparedAlike prepared prepared := rfl

theorem PreparedAlike.bind {first : Except ε β} {next next' : β → Except ε (Prepared α)}
    (later : ∀ b, PreparedAlike (next b) (next' b)) : PreparedAlike (first >>= next) (first >>= next') :=
  map_bind_congr later

/-- **Prepared alike, run alike.** -/
theorem finish_blind {prepared prepared' : Prepared α} (alike : prepared.masked = prepared'.masked) :
    Blind prepared.finish prepared'.finish := by
  intro db other same
  have masked : ∀ (p : Prepared α) (db : Db), seen (p.finish db) = p.masked.finish db.masked := by
    intro p db
    cases p with
    | answer output => rfl
    | write loaded tx output =>
      simp only [Prepared.masked, Prepared.finish, tx.commit_masked db]
      cases tx.commit db with
      | error e => rfl
      | ok after => rfl
  rw [masked, masked, alike, same]

theorem perform_blind {prepare prepare' : Db → CoreResult (Prepared α)}
    (alike : ∀ db other, db.masked = other.masked → PreparedAlike (prepare db) (prepare' other)) :
    Blind (fun db => perform (prepare db) db) fun db => perform (prepare' db) db := by
  intro db other same
  have both := alike db other same
  unfold PreparedAlike at both
  dsimp only
  generalize prepare db = one at both ⊢
  generalize prepare' other = two at both ⊢
  cases one with
  | error e =>
    cases two with
    | error e' =>
      cases both
      exact Prod.ext rfl same
    | ok p' => cases both
  | ok p =>
    cases two with
    | error e' => cases both
    | ok p' => exact finish_blind (Except.ok.inj both) db other same

end Alike

/-! ### Commands -/

section Commands

variable (caller : Caller) (ctx : CoreCtx) (db : Db)

theorem prepareDraft_alike (input : DraftInvoiceInput) :
    PreparedAlike (prepareDraft ctx input db)
      (prepareDraft ctx { input with actor := caller.actor, channel := caller.channel } db) := by
  unfold prepareDraft
  refine .bind fun _ => ?_
  dsimp only
  cases input.idempotencyKey.bind db.findByIdempotencyKey with
  | some existing => exact .refl _
  | none => exact .bind fun _ => rfl

theorem prepareIssue_alike (input : IssueInvoiceInput) (count : ℕ) :
    PreparedAlike (prepareIssue ctx input db >>= fun ready => finishIssue ctx input ready count)
      (prepareIssue ctx { input with actor := caller.actor, channel := caller.channel } db >>= fun ready =>
        finishIssue ctx { input with actor := caller.actor, channel := caller.channel } ready count) := by
  have finished : ∀ ready, PreparedAlike (finishIssue ctx input ready count)
      (finishIssue ctx { input with actor := caller.actor, channel := caller.channel } ready count) :=
    fun _ => .bind fun _ => .bind fun _ => rfl
  exact .bind finished

theorem replayOr_alike {go go' : CoreResult (Prepared SendInvoiceOutput)} (alike : PreparedAlike go go')
    (id : InvoiceId) (key : Option String) :
    PreparedAlike (replayOr ctx id key db go) (replayOr ctx id key db go') := by
  cases key with
  | none => exact alike
  | some key =>
    refine .bind fun replay => ?_
    cases replay with
    | none => exact alike
    | some output => exact .refl _

theorem prepareSendInvoice_alike (input : SendInvoiceInput) :
    PreparedAlike (prepareSendInvoice ctx input db)
      (prepareSendInvoice ctx { input with actor := caller.actor, channel := caller.channel } db) := by
  unfold prepareSendInvoice
  refine .bind fun _ => .bind fun _ => replayOr_alike ctx db ?_ _ _
  exact .bind fun _ => .bind fun _ => rfl

theorem prepareSendRender_alike (input : SendInvoiceRenderInput) :
    PreparedAlike (prepareSendRender ctx input db)
      (prepareSendRender ctx { input with actor := caller.actor, channel := caller.channel } db) := by
  unfold prepareSendRender
  refine .bind fun _ => replayOr_alike ctx db ?_ _ _
  exact .bind fun _ => rfl

theorem prepareMarkPaid_alike (input : MarkPaidInput) :
    PreparedAlike (prepareMarkPaid ctx input db)
      (prepareMarkPaid ctx { input with actor := caller.actor, channel := caller.channel } db) := by
  unfold prepareMarkPaid
  exact .bind fun _ => .bind fun _ => .bind fun _ => .bind fun _ => rfl

theorem prepareVoid_alike (input : VoidInvoiceInput) :
    PreparedAlike (prepareVoid ctx input db)
      (prepareVoid ctx { input with actor := caller.actor, channel := caller.channel } db) := by
  unfold prepareVoid
  exact .bind fun _ => .bind fun _ => rfl

end Commands

/-- A command that prepares alike and reads no history. -/
theorem command_blind {α : Type} {prepare prepare' : Db → CoreResult (Prepared α)}
    (reads : ∀ db history notes,
      prepare' { db with history := history, creditHistory := notes } = prepare' db)
    (alike : ∀ db, PreparedAlike (prepare db) (prepare' db)) :
    Blind (fun db => perform (prepare db) db) fun db => perform (prepare' db) db := by
  refine perform_blind fun db other same => ?_
  obtain ⟨history, notes, rfl⟩ := eq_of_masked same
  rw [reads]
  exact alike db

theorem viewInvoice_blind (state : ApiState) (token : String) :
    Blind (viewInvoice state token) (viewInvoice state token) := by
  intro db other same
  obtain ⟨history, notes, rfl⟩ := eq_of_masked same
  have reads : prepareView state token { db with history := history, creditHistory := notes } =
      prepareView state token db := rfl
  unfold viewInvoice
  rw [reads]
  cases prepareView state token db with
  | error e => exact Prod.ext rfl same
  | ok prepared =>
    have finished : Blind prepared.finish prepared.finish := finish_blind rfl
    exact finished.map (Except.mapError (Stop.map ApiError.core)) db _ same

theorem draftInvoice_blind (caller : Caller) (ctx : CoreCtx) (input : DraftInvoiceInput) :
    Blind (draftInvoice ctx input)
      (draftInvoice ctx { input with actor := caller.actor, channel := caller.channel }) :=
  command_blind (fun _ _ _ => rfl) (prepareDraft_alike caller ctx · input)

theorem issueInvoice_blind (caller : Caller) (ctx : CoreCtx) (input : IssueInvoiceInput) :
    Blind (issueInvoice ctx input)
      (issueInvoice ctx { input with actor := caller.actor, channel := caller.channel }) :=
  command_blind (fun _ _ _ => rfl) fun db => prepareIssue_alike caller ctx db input _

theorem markPaid_blind (caller : Caller) (ctx : CoreCtx) (input : MarkPaidInput) :
    Blind (markPaid ctx input)
      (markPaid ctx { input with actor := caller.actor, channel := caller.channel }) :=
  command_blind (fun _ _ _ => rfl) (prepareMarkPaid_alike caller ctx · input)

/-- **An invoice command does not look at its caller**, nor at those of earlier calls. -/
theorem Request.blind (caller : Caller) (request : Request) :
    Blind request.execute (request.askedBy caller).execute := by
  cases request with
  | draft ctx input => exact (draftInvoice_blind caller ctx input).map (toOutcome .drafted)
  | issue ctx input => exact (issueInvoice_blind caller ctx input).map (toOutcome .issued)
  | send ctx input =>
    exact (command_blind (fun _ _ _ => rfl) (prepareSendInvoice_alike caller ctx · input)).map
      (toOutcome .sent)
  | sendRender ctx input =>
    exact (command_blind (fun _ _ _ => rfl) (prepareSendRender_alike caller ctx · input)).map
      (toOutcome .sent)
  | view state token => exact (viewInvoice_blind state token).map _
  | markPaid ctx input => exact (markPaid_blind caller ctx input).map (toOutcome .paid)
  | void ctx input =>
    exact (command_blind (fun _ _ _ => rfl) (prepareVoid_alike caller ctx · input)).map (toOutcome .voided)

/-! ### Credit notes -/

theorem performCredit_blind {α : Type} (output : CreditNote → α) {prepare prepare' : Db → CoreResult CreditTx}
    (reads : ∀ db history notes,
      prepare' { db with history := history, creditHistory := notes } = prepare' db)
    (alike : ∀ db, (prepare db).map CreditTx.masked = (prepare' db).map CreditTx.masked) :
    Blind (fun db => performCredit output (prepare db) db)
      fun db => performCredit output (prepare' db) db := by
  have masked : ∀ (prepared : CoreResult CreditTx) (db : Db), seen (performCredit output prepared db) =
      performCredit output (prepared.map CreditTx.masked) db.masked := by
    intro prepared db
    cases prepared with
    | error e => rfl
    | ok tx =>
      simp only [performCredit, Except.map, tx.commit_masked db]
      cases tx.commit db with
      | error e => rfl
      | ok after => rfl
  intro db other same
  dsimp only
  rw [masked, masked, same]
  obtain ⟨history, notes, rfl⟩ := eq_of_masked same
  rw [reads, alike]

theorem createCreditNote_blind (caller : Caller) (ctx : CoreCtx) (input : CreateCreditNoteInput) :
    Blind (createCreditNote ctx input)
      (createCreditNote ctx { input with actor := caller.actor, channel := caller.channel }) := by
  refine performCredit_blind _ (fun _ _ _ => rfl) fun db => ?_
  unfold prepareCreateCreditNote
  exact map_bind_congr fun _ => map_bind_congr fun _ => rfl

theorem issueCreditNote_blind (caller : Caller) (ctx : CoreCtx) (input : IssueCreditNoteInput) :
    Blind (issueCreditNote ctx input)
      (issueCreditNote ctx { input with actor := caller.actor, channel := caller.channel }) := by
  refine performCredit_blind _ (fun _ _ _ => rfl) fun db => ?_
  unfold prepareIssueCreditNote
  exact map_bind_congr fun _ => map_bind_congr fun _ => rfl

/-! ### Schedules -/

/-- Saving a schedule row looks at no history. -/
theorem saveRow_blind {α : Type} (schedule : Schedule) (output : α) :
    Blind (saveRow schedule output) (saveRow schedule output) := by
  intro db other same
  have masked : ∀ db : Db, seen (saveRow schedule output db) = saveRow schedule output db.masked := by
    intro db
    unfold saveRow
    have saved : db.masked.saveSchedule schedule = (db.saveSchedule schedule).map Db.masked := by
      unfold Db.saveSchedule
      simp only [apply_ite (Except.map Db.masked)]
      rfl
    rw [saved]
    cases db.saveSchedule schedule with
    | error e => rfl
    | ok after => rfl
  rw [masked, masked, same]

theorem scheduleCreate_blind (caller : Caller) (ctx : CoreCtx) (input : ScheduleCreateInput) :
    Blind (scheduleCreate ctx input)
      (scheduleCreate ctx { input with actor := caller.actor, channel := caller.channel }) := by
  intro db other same
  have valid : ScheduleCreateInput.validate { input with actor := caller.actor, channel := caller.channel } =
      input.validate := rfl
  unfold scheduleCreate
  rw [valid]
  cases input.validate with
  | error e => exact Prod.ext rfl same
  | ok _ => exact saveRow_blind _ _ db other same

theorem transitionSchedule_blind (caller : Caller) (ctx : CoreCtx) (input : ScheduleStateChangeInput)
    (toState : ScheduleState) :
    Blind (transitionSchedule ctx input toState)
      (transitionSchedule ctx { input with actor := caller.actor, channel := caller.channel } toState) := by
  intro db other same
  have prepared : prepareTransition ctx { input with actor := caller.actor, channel := caller.channel } toState
      other = prepareTransition ctx input toState db := by
    obtain ⟨history, notes, rfl⟩ := eq_of_masked same
    rfl
  unfold transitionSchedule
  rw [prepared]
  cases prepareTransition ctx input toState db with
  | error e => exact Prod.ext rfl same
  | ok schedule => exact saveRow_blind _ _ db other same

/-! ### Ticks and inbound events -/

/-- A run of a schedule looks at no history. -/
theorem materialise_blind (ctx : TickCtx) (schedule : Schedule) :
    Blind (materialise ctx schedule) (materialise ctx schedule) := by
  have drafts : Blind (draftStep ctx schedule) (draftStep ctx schedule) :=
    draftInvoice_blind ⟨scheduler, .bus⟩ (ctx.draft schedule.id) schedule.draftInput
  have answers : ∀ {α : Type} (a : CoreResult α), Blind (fun db => (a, db)) fun db => (a, db) :=
    fun a => blind_of_reads fun _ _ _ => rfl
  refine blind_andThen drafts fun drafted => blind_andThen ?_ fun _ => blind_andThen ?_ fun _ => answers _
  · unfold issueStep
    cases schedule.autoIssue with
    | false => exact answers _
    | true =>
      refine blind_andThen ?_ fun _ => answers _
      exact issueInvoice_blind ⟨scheduler, .bus⟩ (ctx.issue schedule.id) (tickIssueInput drafted.invoice.id)
  · unfold advanceStep
    cases schedule.cadence.advance schedule.nextRun with
    | none => exact answers _
    | some next => exact saveRow_blind _ _

theorem tickLoop_blind (ctx : TickCtx) (rows : List Schedule) (done : SchedulesTickOutput) :
    Blind (tickLoop ctx rows done) (tickLoop ctx rows done) := by
  induction rows generalizing done with
  | nil => exact blind_of_reads fun _ _ _ => rfl
  | cons schedule rest ih =>
    intro db other same
    rw [tickLoop, tickLoop]
    by_cases inactive : schedule.state ≠ .active
    · rw [if_pos inactive, if_pos inactive]
      exact ih done db other same
    · rw [if_neg inactive, if_neg inactive]
      exact blind_andThen (materialise_blind ctx schedule) (fun _ => ih _) db other same

theorem schedulesTick_blind (ctx : TickCtx) : Blind (schedulesTick ctx) (schedulesTick ctx) := by
  intro db other same
  have due : other.dueSchedules ctx.today = db.dueSchedules ctx.today := by
    obtain ⟨history, notes, rfl⟩ := eq_of_masked same
    rfl
  unfold schedulesTick
  rw [due]
  exact tickLoop_blind ctx _ _ db other same

theorem dispatch_blind (consumer : Consumer) (ctx : CoreCtx) (topic eventId payload : String) :
    Blind (consumer.dispatch ctx topic eventId payload) (consumer.dispatch ctx topic eventId payload) := by
  intro db other same
  unfold Consumer.dispatch
  cases consumer.route topic eventId payload with
  | error e => exact Prod.ext rfl same
  | ok command =>
    cases command with
    | draftInvoice input =>
      exact (draftInvoice_blind ⟨input.actor, input.channel⟩ ctx input).map
        (toDispatch "draft_invoice" .drafted) db other same
    | markPaid input =>
      exact (markPaid_blind ⟨input.actor, input.channel⟩ ctx input).map (toDispatch "mark_paid" .paid)
        db other same
    | createCreditNote input =>
      exact (createCreditNote_blind ⟨input.actor, input.channel⟩ ctx input).map
        (toDispatch "create_credit_note" .refunded) db other same

/-! ### Reminders -/

theorem saveReminder_masked (tables : ReminderDb) (reminder : Reminder) :
    tables.masked.saveReminder reminder = (tables.saveReminder reminder).map ReminderDb.masked := by
  unfold ReminderDb.saveReminder
  simp only [apply_ite (Except.map ReminderDb.masked)]
  rfl

/-- The step of a reminder command works alike on the tables without callers. -/
def ReminderBlind {α : Type} (step : ReminderDb → Emission α) : Prop :=
  ∀ tables, (step tables.masked).ends = (step tables).ends.map id ReminderDb.masked

theorem ReminderBlind.alike {α : Type} {step : ReminderDb → Emission α} (blind : ReminderBlind step)
    {tables other : ReminderDb} (same : tables.masked = other.masked) :
    (step tables).result = (step other).result ∧ (step tables).after.masked = (step other).after.masked := by
  have alike := congrArg (fun tables => (step tables).ends) same
  have both := (blind tables).symm.trans (alike.trans (blind other))
  exact Prod.mk.inj both

theorem reminderSchedule_blind (ctx : ReminderCtx) (input : ReminderScheduleInput) :
    ReminderBlind (reminderSchedule ctx input) := by
  intro tables
  unfold reminderSchedule
  rw [saveReminder_masked]
  cases input.validate ctx.now with
  | error e => rfl
  | ok _ =>
    dsimp only
    cases tables.saveReminder (newReminder ctx input) with
    | error e => rfl
    | ok after => rfl

theorem reminderSchedule_askedBy (caller : Caller) (ctx : ReminderCtx) (input : ReminderScheduleInput)
    (tables : ReminderDb) :
    (reminderSchedule ctx { input with actor := caller.actor, channel := caller.channel } tables).ends =
      (reminderSchedule ctx input tables).ends := by
  have valid : ReminderScheduleInput.validate { input with actor := caller.actor, channel := caller.channel }
      ctx.now = input.validate ctx.now := rfl
  have row : newReminder ctx { input with actor := caller.actor, channel := caller.channel } =
      newReminder ctx input := rfl
  unfold reminderSchedule
  rw [valid, row]
  cases input.validate ctx.now with
  | error e => rfl
  | ok _ =>
    dsimp only
    cases tables.saveReminder (newReminder ctx input) with
    | error e => rfl
    | ok after => rfl

theorem reminderCancel_blind (ctx : ReminderCtx) (input : ReminderCancelInput) :
    ReminderBlind (reminderCancel ctx input) := by
  intro tables
  have same : tables.masked.getReminder input.reminderId = tables.getReminder input.reminderId := rfl
  unfold reminderCancel
  rw [same]
  cases tables.getReminder input.reminderId with
  | none => rfl
  | some reminder =>
    dsimp only
    rw [saveReminder_masked]
    by_cases scheduled : reminder.state = .scheduled
    · rw [if_pos scheduled, if_pos scheduled]
      cases tables.saveReminder { reminder with state := .cancelled } with
      | error e => rfl
      | ok after => rfl
    · rw [if_neg scheduled, if_neg scheduled]
      rfl

theorem reminderCancel_askedBy (caller : Caller) (ctx : ReminderCtx) (input : ReminderCancelInput)
    (tables : ReminderDb) :
    (reminderCancel ctx { input with actor := caller.actor, channel := caller.channel } tables).ends =
      (reminderCancel ctx input tables).ends := by
  unfold reminderCancel
  dsimp only
  cases tables.getReminder input.reminderId with
  | none => rfl
  | some reminder =>
    dsimp only
    by_cases scheduled : reminder.state = .scheduled
    · rw [if_pos scheduled, if_pos scheduled]
      cases tables.saveReminder { reminder with state := .cancelled } with
      | error e => rfl
      | ok after => rfl
    · rw [if_neg scheduled, if_neg scheduled]
      rfl

theorem remindersLoop_blind (now : Chrono.DateTime) (rows done : List Reminder) :
    ReminderBlind (remindersLoop now rows done) := by
  intro tables
  induction rows generalizing done tables with
  | nil => rfl
  | cons reminder rest ih =>
    rw [remindersLoop, remindersLoop, saveReminder_masked]
    by_cases other : reminder.state ≠ .scheduled
    · rw [if_pos other, if_pos other]
      exact ih done tables
    · rw [if_neg other, if_neg other]
      cases tables.saveReminder (sentReminder reminder now) with
      | error e => rfl
      | ok after => exact ih _ after

theorem remindersTick_blind (now : Chrono.DateTime) : ReminderBlind (remindersTick now) := by
  intro tables
  exact remindersLoop_blind now (tables.dueReminders now) [] tables

theorem markOverdueTicker_blind (now : Chrono.DateTime) : ReminderBlind (markOverdueTicker now) :=
  fun _ => rfl

/-! ### Runs -/

/-- The same call by another caller. -/
def Call.Alike (first second : Call) : Prop := ∃ caller, second = first.askedBy caller

theorem answering_alike {α : Type} (answer : α → Answer) {step step' : Db → α × Db} (blind : Blind step step')
    {tables other : ReminderDb} (same : tables.masked = other.masked) :
    (answering answer step tables).1 = (answering answer step' other).1 ∧
      (answering answer step tables).2.masked = (answering answer step' other).2.masked := by
  obtain ⟨masked, reminders⟩ := ReminderDb.mk.inj same
  exact ⟨congrArg answer (blind.answers masked), congrArg₂ ReminderDb.mk (blind.leaves masked) reminders⟩

theorem emission_alike {α : Type} (answer : CoreResult α → Answer) {step step' : ReminderDb → Emission α}
    (blind : ReminderBlind step) (ends : ∀ tables, (step' tables).ends = (step tables).ends)
    {tables other : ReminderDb} (same : tables.masked = other.masked) :
    ((step tables).answering answer).1 = ((step' other).answering answer).1 ∧
      ((step tables).answering answer).2.masked = ((step' other).answering answer).2.masked := by
  obtain ⟨result, after⟩ := blind.alike same
  obtain ⟨result', after'⟩ := Prod.mk.inj (ends other)
  exact ⟨congrArg answer (result.trans result'.symm), after.trans (congrArg ReminderDb.masked after'.symm)⟩

/-- **One call by two callers**, on tables that differ in callers only. -/
theorem Call.blind {first second : Call} (alike : first.Alike second) {tables other : ReminderDb}
    (same : tables.masked = other.masked) :
    (first.execute tables).1 = (second.execute other).1 ∧
      (first.execute tables).2.masked = (second.execute other).2.masked := by
  obtain ⟨caller, rfl⟩ := alike
  cases first with
  | invoice request => exact answering_alike _ (request.blind caller) same
  | createCreditNote ctx input => exact answering_alike _ (createCreditNote_blind caller ctx input) same
  | issueCreditNote ctx input => exact answering_alike _ (issueCreditNote_blind caller ctx input) same
  | scheduleCreate ctx input => exact answering_alike _ (scheduleCreate_blind caller ctx input) same
  | schedulePause ctx input => exact answering_alike _ (transitionSchedule_blind caller ctx input .paused) same
  | scheduleCancel ctx input =>
    exact answering_alike _ (transitionSchedule_blind caller ctx input .cancelled) same
  | reminderSchedule ctx input =>
    exact emission_alike _ (reminderSchedule_blind ctx input) (reminderSchedule_askedBy caller ctx input) same
  | reminderCancel ctx input =>
    exact emission_alike _ (reminderCancel_blind ctx input) (reminderCancel_askedBy caller ctx input) same
  | schedulesTick ctx => exact answering_alike _ (schedulesTick_blind ctx) same
  | remindersTick now => exact emission_alike _ (remindersTick_blind now) (fun _ => rfl) same
  | overdueTick now => exact emission_alike _ (markOverdueTicker_blind now) (fun _ => rfl) same
  | inbound consumer ctx topic eventId payload =>
    exact answering_alike _ (dispatch_blind consumer ctx topic eventId payload) same

/-- **Who asks decides nothing but the audit columns.** The same calls, asked by different callers on tables
that differ in the actors and channels of their history rows only, are answered alike, and leave tables that
differ in these columns only. -/
theorem callers_only_audited {calls calls' : List Call} (alike : List.Forall₂ Call.Alike calls calls')
    {tables tables' : ReminderDb} (same : tables.masked = tables'.masked) :
    Mealy.outputs Call.execute tables calls = Mealy.outputs Call.execute tables' calls' ∧
      (Mealy.after Call.execute tables calls).masked = (Mealy.after Call.execute tables' calls').masked := by
  have step : ∀ (tables other : ReminderDb) (first second : Call), tables.masked = other.masked →
      first.Alike second → (first.execute tables).1 = (second.execute other).1 ∧
        (first.execute tables).2.masked = (second.execute other).2.masked :=
    fun _ _ _ _ same alike => Call.blind alike same
  exact Mealy.alike_inputs step same alike

/-- The caller of the HTTP handlers. -/
def overHttp : Caller := ⟨.api "http", .api⟩

/-- Over HTTP the same calls are answered alike, and their history rows have other callers. -/
theorem callers_only_audited_overHttp :
    let cli := Mealy.after Call.execute ⟨sampleDb, []⟩ billAndPay
    let http := Mealy.after Call.execute ⟨sampleDb, []⟩ (billAndPay.map (Call.askedBy overHttp))
    cli.db.history ≠ http.db.history ∧ cli.masked = http.masked := by
  intro cli http
  have alike : List.Forall₂ Call.Alike billAndPay (billAndPay.map (Call.askedBy overHttp)) :=
    .cons ⟨overHttp, rfl⟩ (.cons ⟨overHttp, rfl⟩ (.cons ⟨overHttp, rfl⟩ .nil))
  exact ⟨by decide +kernel, (callers_only_audited alike rfl).2⟩

end Invoicing
