/-
**Numbers in a run of commands executed one at a time.**

* `issuedAlong` — the documents a run issues, in order, each with the UTC year of the clock.
* `GaplessNumbers` — the `k`-th document of a year is stored under the year's number `k`, and no two
  documents have one number; `NumberTaken` — a command fails on the unique key of a number.
* `Command.Regular` — issues read the clock in years `0000..9998`, new rows draw new ids.
  `Command.CountFits` — at an issue, as many documents were issued in the first second of its year as
  in that of the next, and fewer than `2 ^ 32 - 1` in its year.
* **`gapless_numbers`** — when every issue of a run meets it, the numbers are gapless and no command
  fails on one. **`number_taken`** — an issue at midnight on New Year is not counted, and the next
  one fails.
-/

import Invoicing.Runs.Commands
import Invoicing.Runs.Frozen

namespace Invoicing

open Chrono KeyedTable Series

/-! ### What a run issues -/

/-- The invoice a command issues when it succeeds. -/
def Command.invoicesOf : Command → List (InvoiceId × ℤ)
  | .invoice (.issue ctx input) => [(input.invoiceId, ctx.now.year)]
  | _ => []

/-- The credit note a command issues when it succeeds. -/
def Command.notesOf : Command → List (CreditNoteId × ℤ)
  | .issueCreditNote ctx input => [(input.creditNoteId, ctx.now.year)]
  | _ => []

/-- What is issued, when the command succeeded. -/
def onSuccess {α : Type} (outcome : CommandOutcome) (issued : List α) : List α :=
  match outcome with
  | .ok _ => issued
  | .error _ => []

/-- What a run issues, in order. -/
def issuedAlong {α : Type} (issued : Command → List α) (db : Db) : List Command → List α
  | [] => []
  | command :: rest =>
      onSuccess (command.execute db).1 (issued command) ++
        issuedAlong issued (command.execute db).2 rest

/-- The unique column of the numbers a command writes. -/
def Command.numberColumn : Command → String
  | .createCreditNote _ _ | .issueCreditNote _ _ => "credit_notes.number"
  | _ => "invoices.number"

/-- A command failed on the unique key of a number. -/
def NumberTaken (command : Command) (outcome : CommandOutcome) : Prop :=
  outcome = .error (.error (.core (.repo (.unique command.numberColumn))))

/-- The documents issued are numbered without gaps. -/
structure GaplessNumbers (db : Db) (invoices : List (InvoiceId × ℤ))
    (notes : List (CreditNoteId × ℤ)) : Prop where
  invoices : ∀ (year : ℤ) (k : ℕ) (id : InvoiceId), (entriesOf invoices year)[k]? = some id →
    ∃ inv, db.getInvoice id = some inv ∧ inv.issuedAt.map DateTime.year = some year ∧
      inv.number = some (invoiceNumber year (k + 1))
  notes : ∀ (year : ℤ) (k : ℕ) (id : CreditNoteId), (entriesOf notes year)[k]? = some id →
    ∃ note, db.getCreditNote id = some note ∧ note.issuedAt.map DateTime.year = some year ∧
      note.number = some (creditNoteNumber year (k + 1))
  distinctInvoices : ∀ inv ∈ db.invoices, ∀ other ∈ db.invoices, inv.number ≠ none →
    inv.number = other.number → inv = other
  distinctNotes : ∀ note ∈ db.creditNotes, ∀ other ∈ db.creditNotes, note.number ≠ none →
    note.number = other.number → note = other

/-- New rows draw new ids, and issues read the clock in years `0000..9998`. -/
def Command.Regular (db : Db) : Command → Prop
  | .invoice (.draft ctx _) => db.getInvoice ctx.newInvoiceId = none
  | .invoice (.issue ctx _) => CoveredYear ctx.now.year
  | .createCreditNote ctx _ => db.getCreditNote ctx.newCreditNoteId = none
  | .issueCreditNote ctx _ => CoveredYear ctx.now.year
  | _ => True

/-- The count an issue reads is the number of documents issued in its year. -/
def Command.CountFits (db : Db) : Command → Prop
  | .invoice (.issue ctx _) => Aligned ctx.now.year (db.invoices.map Invoice.issuedAt)
  | .issueCreditNote ctx _ => Aligned ctx.now.year (db.creditNotes.map CreditNote.issuedAt)
  | _ => True

instance (db : Db) : (command : Command) → Decidable (command.Regular db)
  | .invoice (.draft ctx _) => inferInstanceAs (Decidable (db.getInvoice ctx.newInvoiceId = none))
  | .invoice (.issue ctx _) => inferInstanceAs (Decidable (CoveredYear ctx.now.year))
  | .createCreditNote ctx _ =>
      inferInstanceAs (Decidable (db.getCreditNote ctx.newCreditNoteId = none))
  | .issueCreditNote ctx _ => inferInstanceAs (Decidable (CoveredYear ctx.now.year))
  | .invoice (.send _ _) | .invoice (.sendRender _ _) | .invoice (.view _ _)
  | .invoice (.markPaid _ _) | .invoice (.void _ _) | .elsewhere _ => .isTrue trivial

instance (db : Db) : (command : Command) → Decidable (command.CountFits db)
  | .invoice (.issue ctx _) =>
      inferInstanceAs (Decidable (Aligned ctx.now.year (db.invoices.map Invoice.issuedAt)))
  | .issueCreditNote ctx _ =>
      inferInstanceAs (Decidable (Aligned ctx.now.year (db.creditNotes.map CreditNote.issuedAt)))
  | .invoice (.draft _ _) | .invoice (.send _ _) | .invoice (.sendRender _ _)
  | .invoice (.view _ _) | .invoice (.markPaid _ _) | .invoice (.void _ _)
  | .createCreditNote _ _ | .elsewhere _ => .isTrue trivial

/-! ### One commit -/

/-- Drafts have not been issued. -/
def DraftsUnissued (db : Db) : Prop :=
  (∀ id inv, db.getInvoice id = some inv → inv.state = .draft → inv.issuedAt = none) ∧
    ∀ id note, db.getCreditNote id = some note → note.state = .draft → note.issuedAt = none

/-- A write set that leaves a draft leaves it unissued. -/
theorem Edit.draft_unissued {request : Request} {loaded : Option Invoice} {tx : InvoiceTx}
    (edit : Edit request loaded tx) (draft : tx.invoice.state = .draft) :
    tx.invoice.issuedAt = none := by
  cases edit with
  | draft summed => rfl
  | markPaid target positive summed accepted =>
    rcases (nextState_pay accepted).2 with ⟨_, paid⟩ | ⟨_, partPaid⟩
    · rw [paid] at draft
      cases draft
    · rw [partPaid] at draft
      cases draft
  | void target accepted =>
    rw [(nextState_void accepted).2] at draft
    cases draft
  | _ => cases draft

/-- The stored row and a row that repeats its frozen fields are numbered alike. -/
theorem keeps_numbering {db : Db} {inv row : Invoice} (found : db.getInvoice row.id = some inv)
    (frozen : row.frozen = inv.frozen) :
    row.number = (db.getInvoice row.id).bind Invoice.number ∧
      row.issuedAt.map DateTime.year =
        (db.getInvoice row.id).bind fun inv => inv.issuedAt.map DateTime.year := by
  have issuedAt : row.issuedAt = inv.issuedAt := congrArg (fun fields => fields.2.1) frozen
  rw [found]
  exact ⟨number_of_frozen frozen, congrArg (Option.map DateTime.year) issuedAt⟩

section Invoices

variable {db : Db} {log : List (InvoiceId × ℤ)} {request : Request} {loaded : Option Invoice}
  {tx : InvoiceTx}

/-- The name an issue writes is the one the series needs. -/
theorem issue_number (gapless : Gapless invoiceNumbering db.invoices log) {year : ℤ}
    (covered : CoveredYear year) (aligned : Aligned year (db.invoices.map Invoice.issuedAt)) :
    nextSequence (countInvoicesIssuedInYear db year) = (entriesOf log year).length + 1 :=
  nextSequence_of_gapless invoiceNumbering (fun _ => rfl) rfl gapless covered aligned

/-- **A commit on the rows it loaded keeps the series of invoices.** -/
theorem gapless_apply (gapless : Gapless invoiceNumbering db.invoices log)
    (drafts : DraftsUnissued db) (edit : Edit request loaded tx)
    (stored : ∀ inv, loaded = some inv → db.getInvoice inv.id = some inv)
    (counted : CountedOn db request tx) (regular : Command.Regular db (.invoice request))
    (fits : Command.CountFits db (.invoice request)) :
    Gapless invoiceNumbering (tx.apply db).invoices
        (log ++ Command.invoicesOf (.invoice request)) ∧
      ¬ Db.Clashes Invoice.id Invoice.number db.invoices tx.invoice := by
  by_cases rewrites : request.Rewrites
  · cases edit with
    | @draft ctx input lines subtotal summed =>
      have fresh : db.getInvoice (draftTx ctx input lines subtotal).invoice.id = none := regular
      refine ⟨?_, ?_⟩
      · show Gapless invoiceNumbering _ (log ++ [])
        rw [List.append_nil]
        refine gapless.keep (draftTx ctx input lines subtotal).invoice ?_ ?_
        · show none = (db.getInvoice (draftTx ctx input lines subtotal).invoice.id).bind _
          rw [fresh]
          rfl
        · show none = (db.getInvoice (draftTx ctx input lines subtotal).invoice.id).bind _
          rw [fresh]
          rfl
      · rintro ⟨_, _, _, numbered, _⟩
        exact numbered rfl
    | @issue ctx input ready count blobRef draft toState target owners =>
      obtain ⟨ready', blobRef', shape⟩ := counted ctx input rfl
      have number : (issueTx ctx input ready count blobRef).invoice.number =
          some (invoiceNumber ctx.now.year ((entriesOf log ctx.now.year).length + 1)) := by
        rw [shape, ← issue_number gapless regular fits]
        rfl
      have found := stored ready.loaded rfl
      refine ⟨?_, ?_⟩
      · show Gapless invoiceNumbering _ (log ++ [(input.invoiceId, ctx.now.year)])
        rw [← target]
        refine gapless.issue (issueTx ctx input ready count blobRef).invoice ?_ rfl
          regular number
        intro before there
        have same : before = ready.loaded := Option.some.inj (there.symm.trans found)
        show before.issuedAt.map DateTime.year = none
        rw [same, drafts.1 _ _ found draft]
        rfl
      · rintro ⟨other, inTable, _, _, same⟩
        rw [number] at same
        exact gapless.next_free regular other inTable same
    | _ => exact absurd rewrites id
  · obtain ⟨inv, rfl, _, sameId, frozen, _⟩ := edit.keeps rewrites
    have found := stored inv rfl
    rw [sameId] at found
    obtain ⟨number, period⟩ := keeps_numbering found frozen
    have nothing : Command.invoicesOf (.invoice request) = [] := by
      cases request with
      | issue ctx input => exact absurd trivial rewrites
      | _ => rfl
    refine ⟨?_, ?_⟩
    · rw [nothing, List.append_nil]
      exact gapless.keep tx.invoice number period
    · rintro ⟨other, inTable, different, numbered, same⟩
      rw [number_of_frozen frozen] at numbered same
      have one := gapless.unique (mem_of_find found) inTable numbered same.symm
      rw [← one, ← sameId] at different
      exact different rfl

theorem draftsUnissued_apply (drafts : DraftsUnissued db) (edit : Edit request loaded tx) :
    DraftsUnissued (tx.apply db) := by
  refine ⟨?_, drafts.2⟩
  intro id inv found draft
  rcases InvoiceTx.getInvoice_apply_cases found with ⟨_, before⟩ | ⟨_, createdAt, rfl⟩
  · exact drafts.1 id inv before draft
  · exact edit.draft_unissued draft

end Invoices

theorem getCreditNote_apply (tx : CreditTx) (db : Db) (id : CreditNoteId) :
    (tx.apply db).getCreditNote id =
      if id = tx.note.id then
        some (merged CreditNote.mergeRow (db.getCreditNote tx.note.id) tx.note)
      else db.getCreditNote id :=
  find_upsert CreditNote.keepsKey db.creditNotes tx.note id

theorem draftsUnissued_creditApply {tx : CreditTx} {db : Db} (drafts : DraftsUnissued db)
    (written : tx.note.state = .draft → tx.note.issuedAt = none) : DraftsUnissued (tx.apply db) := by
  refine ⟨drafts.1, ?_⟩
  intro id note found draft
  rw [getCreditNote_apply] at found
  by_cases same : id = tx.note.id
  · rw [if_pos same] at found
    cases found
    cases stored : db.getCreditNote tx.note.id with
    | none =>
      rw [stored] at draft
      exact written draft
    | some old =>
      rw [stored] at draft
      exact written draft
  · rw [if_neg same] at found
    exact drafts.2 id note found draft

/-! ### One command -/

/-- What holds of the tables along a run. -/
structure WellNumbered (db : Db) (invoices : List (InvoiceId × ℤ))
    (notes : List (CreditNoteId × ℤ)) : Prop where
  invoices : Gapless invoiceNumbering db.invoices invoices
  notes : Gapless creditNoteNumbering db.creditNotes notes
  drafts : DraftsUnissued db

/-- The log of a run after one more command. -/
def logged {α : Type} (issued : Command → List α) (db : Db) (command : Command) (log : List α) :
    List α := log ++ onSuccess (command.execute db).1 (issued command)

variable {db : Db} {invoices : List (InvoiceId × ℤ)} {notes : List (CreditNoteId × ℤ)}

/-- **An invoice command keeps the tables well numbered.** -/
theorem wellNumbered_invoice (well : WellNumbered db invoices notes) (request : Request)
    (regular : Command.Regular db (.invoice request))
    (fits : Command.CountFits db (.invoice request)) :
    WellNumbered ((Command.invoice request).execute db).2
        (logged Command.invoicesOf db (.invoice request) invoices)
        (logged Command.notesOf db (.invoice request) notes) ∧
      ¬ NumberTaken (.invoice request) ((Command.invoice request).execute db).1 := by
  have noNotes : logged Command.notesOf db (.invoice request) notes = notes := by
    unfold logged onSuccess
    split <;> exact List.append_nil notes
  rw [noNotes]
  have executes : ∀ {outcome : Outcome} {after : Db}, request.execute db = (outcome, after) →
      (Command.invoice request).execute db = (outcome.map .invoice, after) := by
    intro outcome after same
    simp only [Command.execute, same]
    rfl
  cases request.executed db with
  | failed stop same noKey =>
    have shape := executes same
    refine ⟨?_, ?_⟩
    · unfold logged
      rw [shape]
      show WellNumbered db (invoices ++ []) notes
      rw [List.append_nil]
      exact well
    · intro taken
      unfold NumberTaken at taken
      rw [shape] at taken
      have stopped : stop = .error (.core (.repo (.unique "invoices.number"))) :=
        Except.error.inj taken
      obtain ⟨message, same⟩ := noKey _ (by rw [stopped])
      cases same
  | answered reply notIssue same =>
    have shape := executes same
    have nothing : Command.invoicesOf (.invoice request) = [] := by
      cases request with
      | issue ctx input => exact absurd rfl (notIssue ctx input)
      | _ => rfl
    refine ⟨?_, ?_⟩
    · unfold logged
      rw [shape, nothing]
      show WellNumbered db (invoices ++ []) notes
      rw [List.append_nil]
      exact well
    · intro taken
      unfold NumberTaken at taken
      rw [shape] at taken
      cases taken
  | committed loaded tx reply edit stored counted same =>
    have shape := executes same
    obtain ⟨after, free⟩ := gapless_apply well.invoices well.drafts edit stored counted regular fits
    cases committed : tx.commit db with
    | error e =>
      rw [committed] at shape
      refine ⟨?_, ?_⟩
      · unfold logged
        rw [shape]
        show WellNumbered db (invoices ++ []) notes
        rw [List.append_nil]
        exact well
      · intro taken
        unfold NumberTaken at taken
        rw [shape] at taken
        cases taken
        exact free (InvoiceTx.commit_number committed)
    | ok db' =>
      rw [committed] at shape
      obtain ⟨rfl, _⟩ := InvoiceTx.commit_ok committed
      refine ⟨?_, ?_⟩
      · unfold logged
        rw [shape]
        exact ⟨after, well.notes, draftsUnissued_apply well.drafts edit⟩
      · intro taken
        unfold NumberTaken at taken
        rw [shape] at taken
        cases taken

/-- **A credit-note command keeps the tables well numbered**, if its write set keeps the series. -/
theorem wellNumbered_credit (well : WellNumbered db invoices notes) {command : Command} {α : Type}
    {output : CreditNote → α} {reply : α → CommandReply} {prepared' : CoreResult CreditTx}
    (executes : command.execute db = (performCredit output prepared' db).map
      (fun result => (result.mapError (Stop.map ApiError.core)).map reply) id)
    (noInvoices : command.invoicesOf = []) (column : command.numberColumn = "credit_notes.number")
    (free : SchemaFree prepared')
    (keeps : ∀ tx, prepared' = .ok tx →
      Gapless creditNoteNumbering (tx.apply db).creditNotes (notes ++ command.notesOf) ∧
        ¬ Db.Clashes CreditNote.id CreditNote.number db.creditNotes tx.note ∧
        (tx.note.state = .draft → tx.note.issuedAt = none)) :
    WellNumbered (command.execute db).2 (logged Command.invoicesOf db command invoices)
        (logged Command.notesOf db command notes) ∧
      ¬ NumberTaken command (command.execute db).1 := by
  have noInvoicesLogged : logged Command.invoicesOf db command invoices = invoices := by
    unfold logged onSuccess
    rw [noInvoices]
    split <;> exact List.append_nil invoices
  rw [noInvoicesLogged]
  unfold logged NumberTaken
  rw [executes, column]
  cases prepared' with
  | error stop =>
    refine ⟨?_, ?_⟩
    · show WellNumbered db invoices (notes ++ [])
      rw [List.append_nil]
      exact well
    · intro taken
      cases stop with
      | panic => cases taken
      | error e =>
        cases taken
        obtain ⟨message, same⟩ := free _ rfl
        cases same
  | ok tx =>
    obtain ⟨after, unclashed, written⟩ := keeps tx rfl
    simp only [performCredit]
    cases committed : tx.commit db with
    | error e =>
      refine ⟨?_, ?_⟩
      · show WellNumbered db invoices (notes ++ [])
        rw [List.append_nil]
        exact well
      · intro taken
        cases taken
        exact unclashed (CreditTx.commit_unique committed)
    | ok db' =>
      obtain ⟨rfl, _⟩ := CreditTx.commit_ok committed
      refine ⟨⟨well.invoices, after, draftsUnissued_creditApply well.drafts written⟩, ?_⟩
      intro taken
      cases taken

/-- **A command keeps the tables well numbered**, and fails on no number. -/
theorem wellNumbered_execute (well : WellNumbered db invoices notes) (command : Command)
    (regular : command.Regular db) (fits : command.CountFits db) :
    WellNumbered (command.execute db).2 (logged Command.invoicesOf db command invoices)
        (logged Command.notesOf db command notes) ∧
      ¬ NumberTaken command (command.execute db).1 := by
  cases command with
  | invoice request => exact wellNumbered_invoice well request regular fits
  | createCreditNote ctx input =>
    refine wellNumbered_credit well rfl rfl rfl (schemaFree_prepareCreateCreditNote ctx input db) ?_
    intro tx prepared'
    obtain ⟨inv, _, rfl⟩ := prepareCreateCreditNote_ok prepared'
    have fresh : db.getCreditNote (createCreditTx ctx input inv).note.id = none := regular
    refine ⟨?_, ?_, fun _ => rfl⟩
    · show Gapless creditNoteNumbering _ (notes ++ [])
      rw [List.append_nil]
      refine well.notes.keep (createCreditTx ctx input inv).note ?_ ?_
      · show none = (db.getCreditNote (createCreditTx ctx input inv).note.id).bind _
        rw [fresh]
        rfl
      · show none = (db.getCreditNote (createCreditTx ctx input inv).note.id).bind _
        rw [fresh]
        rfl
    · rintro ⟨_, _, _, numbered, _⟩
      exact numbered rfl
  | issueCreditNote ctx input =>
    refine wellNumbered_credit well rfl rfl rfl (schemaFree_prepareIssueCreditNote ctx input db) ?_
    intro tx prepared'
    obtain ⟨note, found, draft, rfl⟩ := prepareIssueCreditNote_ok prepared'
    have target : note.id = input.creditNoteId := key_of_find found
    have number : (issueCreditTx ctx input note .issued
        (countCreditNotesIssuedInYear db ctx.now.year)).note.number =
          some (creditNoteNumber ctx.now.year ((entriesOf notes ctx.now.year).length + 1)) := by
      have next := nextSequence_of_gapless creditNoteNumbering (fun _ => rfl) rfl well.notes regular fits
      rw [← next]
      rfl
    refine ⟨?_, ?_, ?_⟩
    · show Gapless creditNoteNumbering _ (notes ++ [(input.creditNoteId, ctx.now.year)])
      rw [← target]
      refine well.notes.issue (issueCreditTx ctx input note .issued _).note ?_ rfl
        regular number
      intro before there
      have stored : db.getCreditNote note.id = some before := there
      rw [target, found] at stored
      cases stored
      show note.issuedAt.map DateTime.year = none
      rw [well.drafts.2 _ _ found draft]
      rfl
    · rintro ⟨other, inTable, _, _, same⟩
      rw [number] at same
      exact well.notes.next_free regular other inTable same
    · intro stillDraft
      cases stillDraft
  | elsewhere write =>
    have nothing : ∀ {α : Type} (log : List α) (outcome : CommandOutcome),
        log ++ onSuccess outcome [] = log := by
      intro α log outcome
      cases outcome <;> exact List.append_nil log
    refine ⟨?_, ?_⟩
    · unfold logged
      show WellNumbered _ (invoices ++ onSuccess _ []) (notes ++ onSuccess _ [])
      rw [nothing, nothing]
      exact ⟨well.invoices, well.notes, well.drafts⟩
    · intro taken
      cases taken

/-! ### Runs -/

/-- Along a run the tables stay well numbered. -/
theorem wellNumbered_run (well : WellNumbered db invoices notes) {commands : List Command}
    (regular : AllCommands Command.Regular db commands)
    (fits : AllCommands Command.CountFits db commands) :
    WellNumbered (runCommands db commands)
      (invoices ++ issuedAlong Command.invoicesOf db commands)
      (notes ++ issuedAlong Command.notesOf db commands) := by
  induction commands generalizing db invoices notes with
  | nil =>
    rw [issuedAlong, issuedAlong, List.append_nil, List.append_nil]
    exact well
  | cons command rest ih =>
    obtain ⟨next, _⟩ := wellNumbered_execute well command regular.1 fits.1
    have after := ih next regular.2 fits.2
    unfold logged at after
    rw [List.append_assoc, List.append_assoc] at after
    exact after

theorem WellNumbered.gaplessNumbers (well : WellNumbered db invoices notes) :
    GaplessNumbers db invoices notes where
  invoices := by
    intro year k id there
    obtain ⟨inv, inTable, same, period, number⟩ := well.invoices.stored year k id there
    have found : db.getInvoice inv.id = some inv := find_of_mem well.invoices.distinct inTable
    have sameId : inv.id = id := same
    rw [sameId] at found
    exact ⟨inv, found, period, number⟩
  notes := by
    intro year k id there
    obtain ⟨note, inTable, same, period, number⟩ := well.notes.stored year k id there
    have found : db.getCreditNote note.id = some note := find_of_mem well.notes.distinct inTable
    have sameId : note.id = id := same
    rw [sameId] at found
    exact ⟨note, found, period, number⟩
  distinctInvoices := fun _ inTable _ inTable' numbered same =>
    well.invoices.unique inTable inTable' numbered same
  distinctNotes := fun _ inTable _ inTable' numbered same =>
    well.notes.unique inTable inTable' numbered same

/-- **The numbers of a run are gapless, and no command fails on one**, when every issue of the run
finds as many documents issued in the first second of its year as in that of the next. The run is any
list of commands, from tables without invoices and credit notes. -/
theorem gapless_numbers (noInvoices : db.invoices = []) (noNotes : db.creditNotes = [])
    {commands : List Command} (regular : AllCommands Command.Regular db commands)
    (fits : AllCommands Command.CountFits db commands) (n : ℕ) :
    GaplessNumbers (runCommands db (commands.take n))
        (issuedAlong Command.invoicesOf db (commands.take n))
        (issuedAlong Command.notesOf db (commands.take n)) ∧
      ∀ command, commands[n]? = some command →
        ¬ NumberTaken command (command.execute (runCommands db (commands.take n))).1 := by
  have start : WellNumbered db [] [] := by
    refine ⟨by rw [noInvoices]; exact .nil _, by rw [noNotes]; exact .nil _, ?_, ?_⟩
    · intro id inv found
      unfold Db.getInvoice at found
      rw [noInvoices] at found
      cases found
    · intro id note found
      unfold Db.getCreditNote at found
      rw [noNotes] at found
      cases found
  have before := wellNumbered_run start (regular.take n) (fits.take n)
  refine ⟨before.gaplessNumbers, ?_⟩
  intro command there
  exact (wellNumbered_execute before command (regular.at there).2 (fits.at there).2).2

/-- Two drafts, the first issued at a time, the second an hour into the first of March. -/
def issuesFrom (time : DateTime) : List Command :=
  [.invoice (.draft (sampleCtx (oneOClock firstOfMarch) 1) sampleDraft),
    .invoice (.draft (sampleCtx (oneOClock firstOfMarch) 2) sampleDraft),
    .invoice (.issue (sampleCtx time 3) sampleIssue),
    .invoice (.issue (sampleCtx (oneOClock firstOfMarch) 4) { sampleIssue with invoiceId := ⟨2⟩ })]

/-- Midnight on New Year 2025. -/
def newYear : DateTime := ⟨⟨2025, 1, 1, by decide⟩, 0, 0, by decide⟩

/-- The invoice issued at midnight on New Year is stored as `INV-2025-0001` and not counted, so the
next issue of the year draws the same number and fails. -/
theorem number_taken :
    AllCommands Command.Regular sampleDb (issuesFrom newYear) ∧
      ∃ command, (issuesFrom newYear)[3]? = some command ∧
        NumberTaken command
          (command.execute (runCommands sampleDb ((issuesFrom newYear).take 3))).1 := by
  refine ⟨by decide +kernel, _, rfl, ?_⟩
  rfl

theorem gapless_numbers_from_march :
    GaplessNumbers (runCommands sampleDb ((issuesFrom (oneOClock firstOfMarch)).take 3))
        (issuedAlong Command.invoicesOf sampleDb ((issuesFrom (oneOClock firstOfMarch)).take 3))
        (issuedAlong Command.notesOf sampleDb ((issuesFrom (oneOClock firstOfMarch)).take 3)) ∧
      ∀ command, (issuesFrom (oneOClock firstOfMarch))[3]? = some command →
        ¬ NumberTaken command (command.execute
          (runCommands sampleDb ((issuesFrom (oneOClock firstOfMarch)).take 3))).1 :=
  gapless_numbers rfl rfl (by decide +kernel) (by decide +kernel) 3

end Invoicing
