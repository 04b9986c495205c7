/-
**The audit log of a credit note replays it.**

* `CreditAuditState` — what the history rows of a credit note say of its row; `CreditAuditState.record` is
  what one more row adds, and `CreditAuditState.Allows` which row may follow.
* `CreditNote.Audited` — the history replays to the row, starts with the refund that asked for the note, and
  numbers it in the year it was issued in.
* `CreditsAudited` — all notes are; **`CreditsAudited.part`** — every command keeps them so.
* **`credit_log_replays`** — after every run of calls from tables without credit notes, each note is audited.
-/

import Invoicing.Lib.Journal
import Invoicing.Lib.Mealy
import Invoicing.Runs.Numbering
import Invoicing.Runs.Positive
import Invoicing.Runs.Veto
import Invoicing.Runs.Written

namespace Invoicing

open Chrono (DateTime)
open Journal KeyedTable Labelled

/-! ### What the rows say -/

/-- What the history of a credit note says of its row. -/
structure CreditAuditState where
  state : Option CreditNoteState
  issuedAt : Option DateTime
  deriving DecidableEq

/-- Before the first row nothing is stored. -/
def CreditAuditState.start : CreditAuditState := ⟨none, none⟩

/-- One more row. -/
def CreditAuditState.record (before : CreditAuditState) (row : CreditNoteStateHistory) : CreditAuditState where
  state := some row.toState
  issuedAt := if row.event = "issue" then some row.occurredAt else before.issuedAt

/-- The row may follow: a draft first, then an edge of the table for its tag. -/
def CreditAuditState.Allows (before : CreditAuditState) (row : CreditNoteStateHistory) : Prop :=
  match before.state with
  | none => row.fromState = none ∧ row.toState = .draft ∧ row.event = "draft"
  | some state => row.fromState = some state ∧
      ∃ event : CreditNoteEvent, event.tag = row.event ∧ event.nextState state = .ok row.toState

/-- What the stored row says. -/
def CreditNote.auditState (note : CreditNote) : CreditAuditState := ⟨some note.state, note.issuedAt⟩

/-- **What the history of a note has to do with its row.** -/
structure CreditNote.Audited (note : CreditNote) (history : List CreditNoteStateHistory) : Prop where
  replays : Replays CreditAuditState.record CreditAuditState.Allows .start history note.auditState
  asked : ∃ row rest, history = row :: rest ∧ row.busEventId = note.refundRef ∧
    row.occurredAt = note.createdAt
  draft : note.state = .draft → note.number = none ∧ note.issuedAt = none
  issued : note.state = .issued → ∃ time sequence, note.issuedAt = some time ∧
    note.number = some (creditNoteNumber time.year sequence)

/-- Every note is audited, and every row is of a note. -/
structure CreditsAudited (db : Db) : Prop where
  owned : ∀ row ∈ db.creditHistory, db.getCreditNote row.creditNoteId ≠ none
  audited : ∀ id note, db.getCreditNote id = some note → note.Audited (db.creditHistoryOf id)

/-! ### Commands -/

theorem CreditsAudited.of_same {before after : Db} (notes : after.creditNotes = before.creditNotes)
    (history : after.creditHistory = before.creditHistory) (audited : CreditsAudited before) :
    CreditsAudited after := by
  have found : ∀ id, after.getCreditNote id = before.getCreditNote id := fun id =>
    congrArg (fun rows => find CreditNote.id rows id) notes
  have rows : ∀ id, after.creditHistoryOf id = before.creditHistoryOf id := fun id =>
    congrArg (fun rows => rows.filter fun row => decide (row.creditNoteId = id)) history
  refine ⟨fun row there => ?_, fun id note stored => ?_⟩
  · rw [found]
    exact audited.owned row (history ▸ there)
  · rw [rows]
    exact audited.audited id note ((found id).symm.trans stored)

/-! ### One more row -/

theorem creditHistoryOf_apply (tx : CreditTx) (db : Db) (id : CreditNoteId) :
    (tx.apply db).creditHistoryOf id =
      db.creditHistoryOf id ++ if tx.history.creditNoteId = id then [tx.history] else [] := by
  show (db.creditHistory ++ [tx.history]).filter _ = _
  rw [List.filter_append]
  by_cases own : tx.history.creditNoteId = id
  · rw [if_pos own, List.filter_cons_of_pos (by simpa using own)]
    rfl
  · rw [if_neg own, List.filter_cons_of_neg (by simpa using own)]
    rfl

/-- **A transaction keeps the notes audited** when its note is, with its row. -/
theorem CreditsAudited.apply {db : Db} (audits : CreditsAudited db) {tx : CreditTx}
    (own : tx.history.creditNoteId = tx.note.id)
    (audited : (merged CreditNote.mergeRow (db.getCreditNote tx.note.id) tx.note).Audited
      (db.creditHistoryOf tx.note.id ++ [tx.history])) : CreditsAudited (tx.apply db) := by
  refine ⟨fun row there => ?_, fun id note found => ?_⟩
  · rw [getCreditNote_apply]
    split
    · exact Option.some_ne_none _
    · rename_i other
      rcases List.mem_append.mp there with before | new
      · exact audits.owned row before
      · rw [List.mem_singleton.mp new, own] at other
        exact absurd rfl other
  · rw [getCreditNote_apply] at found
    rw [creditHistoryOf_apply, own]
    by_cases mine : id = tx.note.id
    · subst mine
      rw [if_pos rfl] at found ⊢
      cases found
      exact audited
    · rw [if_neg mine] at found
      rw [if_neg (Ne.symm mine), List.append_nil]
      exact audits.audited id note found

theorem creditHistoryOf_of_absent {db : Db} (audits : CreditsAudited db) {id : CreditNoteId}
    (absent : db.getCreditNote id = none) : db.creditHistoryOf id = [] := by
  refine List.filter_eq_nil_iff.mpr fun row there same => audits.owned row there ?_
  rw [of_decide_eq_true same]
  exact absent

/-- A new note starts its log. -/
theorem CreditsAudited.create {db : Db} (audits : CreditsAudited db) {ctx : CoreCtx}
    (input : CreateCreditNoteInput) (inv : Invoice) (new : db.getCreditNote ctx.newCreditNoteId = none) :
    CreditsAudited ((createCreditTx ctx input inv).apply db) := by
  refine audits.apply rfl ?_
  show (merged CreditNote.mergeRow (db.getCreditNote ctx.newCreditNoteId) (draftNote ctx input inv)).Audited
    (db.creditHistoryOf ctx.newCreditNoteId ++ [(createCreditTx ctx input inv).history])
  rw [new, creditHistoryOf_of_absent audits new]
  refine ⟨⟨⟨⟨rfl, rfl, rfl⟩, trivial⟩, rfl⟩, ⟨_, [], rfl, rfl, rfl⟩, fun _ => ⟨rfl, rfl⟩, fun issued => ?_⟩
  cases issued

/-- An issued note adds its row. -/
theorem CreditsAudited.issue {db : Db} (audits : CreditsAudited db) (ctx : CoreCtx)
    {input : IssueCreditNoteInput} {note : CreditNote} (count : ℕ)
    (found : db.getCreditNote input.creditNoteId = some note) (draft : note.state = .draft) :
    CreditsAudited ((issueCreditTx ctx input note .issued count).apply db) := by
  have own : note.id = input.creditNoteId := key_of_find found
  rw [← own] at found
  have before := audits.audited note.id note found
  refine audits.apply rfl ?_
  show (merged CreditNote.mergeRow (db.getCreditNote note.id) (issuedNote ctx note .issued count)).Audited
    (db.creditHistoryOf note.id ++ [(issueCreditTx ctx input note .issued count).history])
  rw [found]
  have replays : Replays CreditAuditState.record CreditAuditState.Allows .start
      (db.creditHistoryOf note.id ++ [(issueCreditTx ctx input note .issued count).history])
      (CreditAuditState.record note.auditState (issueCreditTx ctx input note .issued count).history) := by
    refine before.replays.append ⟨rfl, .issue, rfl, ?_⟩
    rw [draft]
    rfl
  refine ⟨replays, ?_, fun state => ?_, fun _ => ⟨ctx.now, _, rfl, rfl⟩⟩
  · obtain ⟨row, rest, first, asked, created⟩ := before.asked
    exact ⟨row, rest ++ _, by rw [first]; rfl, asked, created⟩
  · cases state

/-! ### Runs -/

/-- The id a new credit note draws is new. -/
def Part.NewNote (tables : ReminderDb) : Part → Prop
  | .createCreditNote ctx _ => tables.db.getCreditNote ctx.newCreditNoteId = none
  | _ => True

instance (tables : ReminderDb) : (part : Part) → Decidable (part.NewNote tables)
  | .createCreditNote ctx _ => inferInstanceAs (Decidable (tables.db.getCreditNote ctx.newCreditNoteId = none))
  | .invoice _ | .issueCreditNote _ _ | .createSchedule _ _ | .pauseSchedule _ _ | .cancelSchedule _ _
  | .advanceSchedule _ _ | .scheduleReminder _ _ | .cancelReminder _ _ | .sendReminder _ _ => isTrue trivial

/-- The ids the credit notes of a call draw are new. -/
def Call.NewNotes (tables : ReminderDb) (call : Call) : Prop :=
  Meets Part.step Part.NewNote tables (call.parts tables)

instance (tables : ReminderDb) (call : Call) : Decidable (call.NewNotes tables) :=
  inferInstanceAs (Decidable (Meets Part.step Part.NewNote tables (call.parts tables)))

/-- **A command keeps every credit note audited.** -/
theorem CreditsAudited.part {tables : ReminderDb} (audits : CreditsAudited tables.db) {part : Part}
    (new : part.NewNote tables) : CreditsAudited (part.execute tables).db := by
  have wrote := part.wrote tables
  generalize part.published tables = events at wrote
  generalize (part.execute tables).db = after at wrote ⊢
  cases wrote with
  | nothing same => exact audits.of_same same.creditNotes same.creditHistory
  | edited edit =>
    refine audits.of_same ?_ ?_
    · rfl
    · rfl
  | created found => exact audits.create _ _ new
  | issued found draft counted => exact audits.issue _ _ found draft

/-- **The audit log replays the credit note**: after every run of calls of every kind, inbound events and
tickers among them, from tables without credit notes, the history of each note replays to its row, starts with
the refund that asked for it, and its number is of the year it was issued in. -/
theorem credit_log_replays {tables : ReminderDb} (notes : tables.db.creditNotes = [])
    (history : tables.db.creditHistory = []) {calls : List Call}
    (new : Meets Call.step Call.NewNotes tables calls) :
    ∀ id note, (Mealy.after Call.execute tables calls).db.getCreditNote id = some note →
      note.Audited ((Mealy.after Call.execute tables calls).db.creditHistoryOf id) := by
  have start : CreditsAudited tables.db := by
    refine ⟨?_, fun id note found => ?_⟩
    · rw [history]
      exact List.forall_mem_nil _
    · unfold Db.getCreditNote at found
      rw [notes] at found
      cases found
  exact (calls_keep (I := fun tables => CreditsAudited tables.db) (fun _ _ audits new => audits.part new) start
    new).audited

/-- A refund of 40.00, and the issue of its note. -/
def refundAndIssue : List Call :=
  [.inbound (sampleRefunds ⟨4000, 2, fits_forty⟩) (sampleCtx (oneOClock firstOfMarch) 3)
      "fin.billing.payment.refunded" "event" "refund",
    .issueCreditNote (sampleCtx (oneOClock firstOfMarch) 4) ⟨⟨3⟩, none, .cli "operator", .cli⟩]

/-- The two rows of the issued note replay to it. -/
theorem credit_log_of_refund :
    let after := (Mealy.after Call.execute ⟨issuedDb, []⟩ refundAndIssue).db
    ∃ note, after.getCreditNote ⟨3⟩ = some note ∧ note.state = .issued ∧
      (after.creditHistoryOf ⟨3⟩).length = 2 ∧ note.Audited (after.creditHistoryOf ⟨3⟩) := by
  intro after
  have stored : ∃ note, after.getCreditNote ⟨3⟩ = some note ∧ note.state = .issued ∧
      (after.creditHistoryOf ⟨3⟩).length = 2 := by decide +kernel
  obtain ⟨note, found, issued, two⟩ := stored
  have new : Meets Call.step Call.NewNotes ⟨issuedDb, []⟩ refundAndIssue := by decide +kernel
  exact ⟨note, found, issued, two,
    credit_log_replays (by decide +kernel) (by decide +kernel) new ⟨3⟩ note found⟩

end Invoicing
