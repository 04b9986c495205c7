/-
**The audit log replays the invoice.**

* `AuditState` — what the history rows of an invoice say about its row: state, sum paid and dates.
  `AuditState.record` is what one more row adds to it.
* `AuditState.Allows` — which row may follow: a draft first; then an edge of the transition table for
  the tag of the row, from the state the rows before it end in, or another send of a sent invoice.
* `Edit.audited` — the write set of every command appends an allowed row and says of the invoice what
  the row adds. **`audit_log_replays`** — after every run from empty tables the history of each invoice
  replays to its stored row.
-/

import Invoicing.Lib.Journal
import Invoicing.Runs.Lifecycle
import Invoicing.Runs.Payments

namespace Invoicing

open Chrono Journal

/-! ### What the rows say -/

/-- What the history of an invoice says about its row. -/
structure AuditState where
  state : Option InvoiceState
  amountPaid : Option Decimal
  issuedAt : Option DateTime
  sentAt : Option DateTime
  viewedAt : Option DateTime
  voidedAt : Option DateTime
  deriving DecidableEq

/-- Before the first row: nothing is stored, nothing is paid. -/
def AuditState.start : AuditState := ⟨none, some Decimal.zero, none, none, none, none⟩

/-- The sum paid with the amount a row records. -/
def AuditState.paidWith (arith : Arith) (before : AuditState) (row : InvoiceStateHistory) :
    Option Decimal :=
  before.amountPaid.bind fun sum =>
    ((row.metadata.lookup "amount").bind Decimal.fromStr).bind fun amount => arith.add sum amount

/-- One more row. -/
def AuditState.record (arith : Arith) (before : AuditState) (row : InvoiceStateHistory) :
    AuditState where
  state := some row.toState
  amountPaid := if row.event = "pay" then before.paidWith arith row else before.amountPaid
  issuedAt := if row.event = "issue" then some row.occurredAt else before.issuedAt
  sentAt := if row.event = "send" then some row.occurredAt else before.sentAt
  viewedAt := if row.event = "view" then some row.occurredAt else before.viewedAt
  voidedAt := if row.event = "void" then some row.occurredAt else before.voidedAt

/-- The row is an edge of the table for its tag; a payment is asked for with the sum paid including
its own amount, and the total of the invoice. -/
def AuditState.TableEdge (arith : Arith) (total : Decimal) (before : AuditState)
    (state : InvoiceState) (row : InvoiceStateHistory) : Prop :=
  ∃ event : InvoiceEvent, event.tag = row.event ∧ nextState state event = .ok row.toState ∧
    ∀ amountPaid total', event = .pay amountPaid total' →
      before.paidWith arith row = some amountPaid ∧ total' = total

/-- A sent invoice is sent again. -/
def Resend (state : InvoiceState) (row : InvoiceStateHistory) : Prop :=
  row.event = "send" ∧ state = .sent ∧ row.toState = .sent

/-- The row may follow. -/
def AuditState.Allows (arith : Arith) (total : Decimal) (before : AuditState)
    (row : InvoiceStateHistory) : Prop :=
  match before.state with
  | none => row.fromState = none ∧ row.toState = .draft ∧ row.event = "draft"
  | some state => row.fromState = some state ∧
      (before.TableEdge arith total state row ∨ Resend state row)

/-- What the stored row says. -/
def Invoice.auditState (inv : Invoice) : AuditState :=
  ⟨some inv.state, some inv.amountPaid, inv.issuedAt, inv.sentAt, inv.viewedAt, inv.voidedAt⟩

/-- The history replays to the stored row: every row may follow those before it, and together they say
what the row says. -/
abbrev Invoice.ReplaysFrom (arith : Arith) (history : List InvoiceStateHistory) (inv : Invoice) :
    Prop :=
  Replays (AuditState.record arith) (AuditState.Allows arith inv.total) .start history inv.auditState

/-! ### One row -/

/-- A log that leads to a draft is its first row. -/
theorem only_row_of_draft {arith : Arith} {total : Decimal} {history : List InvoiceStateHistory}
    {current : AuditState}
    (replays : Replays (AuditState.record arith) (AuditState.Allows arith total) .start history current)
    (draft : current.state = some .draft) :
    ∃ row, history = [row] ∧ row.event = "draft" ∧ AuditState.Allows arith total .start row := by
  rcases List.eq_nil_or_concat history with rfl | ⟨before, row, rfl⟩
  · obtain rfl : AuditState.start = current := replays.leads
    cases draft
  rw [List.concat_eq_append] at replays ⊢
  obtain ⟨state, first, allowed, rfl⟩ := replays.last
  have toDraft : row.toState = .draft := Option.some.inj draft
  -- only the first row leads to a draft, so nothing is before it
  rcases List.eq_nil_or_concat before with rfl | ⟨earlier, previous, rfl⟩
  · obtain rfl : AuditState.start = state := first.leads
    exact ⟨row, rfl, allowed.2.2, allowed⟩
  · rw [List.concat_eq_append] at first
    obtain ⟨state', _, _, rfl⟩ := first.last
    obtain ⟨_, ⟨event, _, accepted, _⟩ | ⟨_, _, sent⟩⟩ := allowed
    · exact absurd toDraft (nextState_ne_draft accepted)
    · rw [sent] at toDraft
      cases toDraft

/-- The total a draft is issued with does not matter to its log. -/
theorem Invoice.ReplaysFrom.of_draft {arith : Arith} {history : List InvoiceStateHistory}
    {inv : Invoice} (replays : inv.ReplaysFrom arith history) (draft : inv.state = .draft)
    (total : Decimal) :
    Replays (AuditState.record arith) (AuditState.Allows arith total) .start history
      inv.auditState := by
  obtain ⟨row, rfl, _, allowed⟩ := only_row_of_draft replays (congrArg some draft)
  exact ⟨⟨allowed, trivial⟩, replays.leads⟩

theorem tableEdge_of {arith : Arith} {total : Decimal} {before : AuditState} {state : InvoiceState}
    {row : InvoiceStateHistory} (event : InvoiceEvent) (tag : event.tag = row.event)
    (accepted : nextState state event = .ok row.toState)
    (notPay : ∀ amountPaid total', event ≠ .pay amountPaid total') :
    before.TableEdge arith total state row :=
  ⟨event, tag, accepted, fun _ _ pay => absurd pay (notPay _ _)⟩

/-- What an edit of a stored row appends: an allowed row that says what the written row says. -/
structure Audited (arith : Arith) (inv : Invoice) (tx : InvoiceTx) : Prop where
  allowed : inv.auditState.Allows arith tx.invoice.total tx.history
  recorded : inv.auditState.record arith tx.history = tx.invoice.auditState
  total : inv.state = .draft ∨ tx.invoice.total = inv.total

theorem sendTx_audited {arith : Arith} {ctx : CoreCtx} {inv : Invoice} {actor : Actor}
    {channel : Channel} {deliveredTo : String} {key : Option String}
    (open' : inv.state = .issued ∨ inv.state = .sent) :
    Audited arith inv (sendTx ctx inv .sent actor channel deliveredTo key) where
  allowed := by
    refine ⟨rfl, ?_⟩
    rcases open' with state | state
    · exact Or.inl (tableEdge_of .send rfl (by rw [state]; rfl) (fun _ _ => nofun))
    · exact Or.inr ⟨rfl, state, rfl⟩
  recorded := rfl
  total := Or.inr rfl

theorem payTx_audited {ctx : CoreCtx} {input : MarkPaidInput} {inv : Invoice} {amountPaid : Decimal}
    {toState : InvoiceState} (summed : ctx.arith.add inv.amountPaid input.amount = some amountPaid)
    (accepted : nextState inv.state (.pay amountPaid inv.total) = .ok toState) :
    Audited ctx.arith inv (payTx ctx input inv amountPaid toState) := by
  have paid : inv.auditState.paidWith ctx.arith (payTx ctx input inv amountPaid toState).history =
      some amountPaid := by
    show ((List.lookup "amount" [("amount", input.amount.toString)]).bind Decimal.fromStr).bind
      (fun amount => ctx.arith.add inv.amountPaid amount) = some amountPaid
    simp only [List.lookup_cons_self, Option.bind_some, Decimal.fromStr_toString, summed]
  refine ⟨⟨rfl, Or.inl ⟨.pay amountPaid inv.total, rfl, accepted, ?_⟩⟩, ?_, Or.inr rfl⟩
  · intro amountPaid' total' same
    cases same
    exact ⟨paid, rfl⟩
  · show AuditState.mk _ (inv.auditState.paidWith ctx.arith _) _ _ _ _ = _
    rw [paid]
    rfl

/-- **Every write set appends an allowed row that says what it writes.** -/
theorem Edit.audited {request : Request} {inv : Invoice} {tx : InvoiceTx}
    (edit : Edit request (some inv) tx) : Audited request.ctx.arith inv tx := by
  cases edit with
  | issue draft toState target owners =>
    refine ⟨⟨rfl, Or.inl (tableEdge_of .issue rfl ?_ (fun _ _ => nofun))⟩, ?_, Or.inl draft⟩
    · show nextState _ _ = .ok (IssueReady.toState _)
      rw [draft, toState]
      rfl
    · show AuditState.mk (some (IssueReady.toState _)) _ _ _ _ _ = _
      rw [toState]
      rfl
  | send target open' => exact sendTx_audited open'
  | sendRender target open' => exact sendTx_audited open'
  | view verified sent =>
    refine ⟨⟨rfl, Or.inl (tableEdge_of .view rfl ?_ (fun _ _ => nofun))⟩, rfl, Or.inr rfl⟩
    rw [sent]
    rfl
  | markPaid target positive summed accepted => exact payTx_audited summed accepted
  | void target accepted =>
    obtain ⟨_, voided⟩ := nextState_void accepted
    exact ⟨⟨rfl, Or.inl (tableEdge_of .void rfl accepted (fun _ _ => nofun))⟩, rfl,
      Or.inr rfl⟩

/-- A new draft starts its log. -/
theorem draft_replays {arith : Arith} {request : Request} {tx : InvoiceTx}
    (edit : Edit request none tx) : tx.invoice.ReplaysFrom arith [tx.history] := by
  cases edit with
  | draft summed => exact ⟨⟨⟨rfl, rfl, rfl⟩, trivial⟩, rfl⟩

/-! ### Runs -/

/-- The id a draft draws is new. -/
def DraftsNew (db : Db) (request : Request) : Prop :=
  ∀ ctx input, request = .draft ctx input → db.getInvoice ctx.newInvoiceId = none

/-- Every invoice has a history that replays to its row, and every history row an invoice. -/
structure AuditedDb (arith : Arith) (db : Db) : Prop where
  distinct : KeyedTable.Distinct Invoice.id db.invoices
  owned : HistoryOwned db
  replays : ∀ id inv, db.getInvoice id = some inv → inv.ReplaysFrom arith (db.historyOf id)

theorem AuditedDb.of_same {arith : Arith} {before after : Db} (same : SameInvoices before after)
    (audited : AuditedDb arith before) : AuditedDb arith after := by
  refine ⟨?_, ?_, ?_⟩
  · rw [same.invoices]
    exact audited.distinct
  · intro row member
    rw [same.history] at member
    have stored := audited.owned row member
    unfold Db.getInvoice at stored ⊢
    rw [same.invoices]
    exact stored
  · intro id inv found
    rw [(same.stays id).history]
    rw [(same.stays id).invoice] at found
    exact audited.replays id inv found

theorem historyOf_apply {tx : InvoiceTx} (owner : tx.history.invoiceId = tx.invoice.id) (db : Db) :
    (tx.apply db).historyOf tx.invoice.id = db.historyOf tx.invoice.id ++ [tx.history] := by
  show (db.history ++ [tx.history]).filter _ = _
  rw [List.filter_append, List.filter_cons_of_pos (by simpa using owner), List.filter_nil]
  rfl

theorem historyOf_of_absent {db : Db} (owned : HistoryOwned db) {id : InvoiceId}
    (absent : db.getInvoice id = none) : db.historyOf id = [] := by
  refine List.filter_eq_nil_iff.mpr ?_
  intro row member same
  refine owned row member ?_
  rw [of_decide_eq_true same]
  exact absent

/-- **A committed edit keeps every log replaying.** -/
theorem AuditedDb.commit {arith : Arith} {db : Db} (audited : AuditedDb arith db) {request : Request}
    {loaded : Option Invoice} {tx : InvoiceTx} (edit : Edit request loaded tx)
    (oneArith : request.ctx.arith = arith) (new : DraftsNew db request)
    (stored : ∀ inv, loaded = some inv → db.getInvoice inv.id = some inv) :
    AuditedDb arith (tx.apply db) := by
  have owner := edit.owners.1
  refine ⟨KeyedTable.distinct_upsert Invoice.keepsKey tx.invoice audited.distinct,
    historyOwned_apply owner audited.owned, ?_⟩
  intro id inv found
  rcases InvoiceTx.getInvoice_apply_cases found with ⟨other, before⟩ | ⟨rfl, createdAt, rfl⟩
  · rw [(edit.stays other db).history]
    exact audited.replays id inv before
  · show Replays (AuditState.record arith) (AuditState.Allows arith tx.invoice.total) .start _
      tx.invoice.auditState
    rw [historyOf_apply owner]
    cases loaded with
    | none =>
      have absent : db.getInvoice tx.invoice.id = none := by
        cases edit with
        | draft summed => exact new _ _ rfl
      rw [historyOf_of_absent audited.owned absent]
      exact draft_replays edit
    | some inv =>
      have sameId := edit.owners.2 inv rfl
      have replays := audited.replays _ inv (stored inv rfl)
      rw [sameId] at replays
      have step := edit.audited
      rw [oneArith] at step
      rw [← step.recorded]
      rcases step.total with draft | same
      · exact (replays.of_draft draft tx.invoice.total).append step.allowed
      · have allowed := step.allowed
        rw [same] at allowed ⊢
        exact replays.append allowed

/-- Sums of a chain of rows are sums of the recorded amounts, when decimal sums are exact. -/
theorem paid_of_rows {arith : Arith} (exact' : arith.ExactAdd) {history : List InvoiceStateHistory}
    {start : AuditState} {sum : Decimal}
    (leads : (history.foldl (AuditState.record arith) start).amountPaid = some sum) :
    ∃ before, start.amountPaid = some before ∧
      sum.value = before.value + (history.map recordedAmount).sum := by
  induction history generalizing start with
  | nil => exact ⟨sum, leads, by simp⟩
  | cons row rest ih =>
    obtain ⟨between, first, total⟩ := ih leads
    have here : (if row.event = "pay" then start.paidWith arith row else start.amountPaid) =
        some between := first
    rw [List.map_cons, List.sum_cons, total]
    by_cases pay : row.event = "pay"
    · rw [if_pos pay] at here
      obtain ⟨before, there, here⟩ := Option.bind_eq_some_iff.mp here
      obtain ⟨amount, parsed, added⟩ := Option.bind_eq_some_iff.mp here
      refine ⟨before, there, ?_⟩
      have recorded : recordedAmount row = amount.value := by
        unfold recordedAmount
        rw [if_pos pay, parsed]
        rfl
      rw [recorded, exact' _ _ _ added, add_assoc]
    · rw [if_neg pay] at here
      have recorded : recordedAmount row = 0 := if_neg pay
      exact ⟨between, here, by rw [recorded, zero_add]⟩

/-- **The audit log replays the invoice**: after every run of schedules, ticks and commands from empty
tables the history of each invoice, in insertion order, replays to its stored row. -/
theorem audit_log_replays {arith : Arith} {actions : List Action}
    (oneArith : AllActions (fun db action =>
      action.Each (fun db request => request.ctx.arith = arith ∧ DraftsNew db request) db)
      emptyDb actions) :
    ∀ inv ∈ (runActions emptyDb actions).invoices,
      inv.ReplaysFrom arith ((runActions emptyDb actions).historyOf inv.id) ∧
        (arith.ExactAdd → inv.amountPaid.value = paidSum (runActions emptyDb actions) inv.id) := by
  have audited : AuditedDb arith (runActions emptyDb actions) := by
    refine runActions_keeps_of (I := AuditedDb arith)
      (P := fun db request => request.ctx.arith = arith ∧ DraftsNew db request) .of_same ?_ ?_ oneArith
    · intro db request audited guard
      rcases Command.invoice_cases (.invoice request) db with
        same | ⟨request', loaded, tx, same, edit, stored, committed⟩
      · exact audited.of_same same
      · cases same
        show AuditedDb arith ((Command.invoice request).execute db).2
        rw [(InvoiceTx.commit_ok committed).1]
        exact audited.commit edit guard.1 guard.2 stored
    · refine ⟨List.nodup_nil, ?_, ?_⟩
      · intro row absent
        cases absent
      · intro id inv absent
        cases absent
  intro inv member
  have replays := audited.replays inv.id inv (KeyedTable.find_of_mem audited.distinct member)
  refine ⟨replays, fun exact' => ?_⟩
  obtain ⟨before, zero, total⟩ := paid_of_rows exact' (congrArg AuditState.amountPaid replays.leads)
  obtain rfl : Decimal.zero = before := Option.some.inj zero
  rw [total, Decimal.value_zero, zero_add]
  rfl

/-- An issue, a payment and a void of one invoice: its four rows replay to its row. -/
theorem audit_log_of_paid_and_voided :
    ∃ inv ∈ (runActions emptyDb paidAndVoided).invoices, inv.state = .voided ∧
      inv.ReplaysFrom Arith.exact ((runActions emptyDb paidAndVoided).historyOf inv.id) ∧
      (Arith.exact.ExactAdd →
        inv.amountPaid.value = paidSum (runActions emptyDb paidAndVoided) inv.id) := by
  have oneArith : AllActions (fun db action => action.Each (fun db request =>
      request.ctx.arith = Arith.exact ∧ DraftsNew db request) db) emptyDb paidAndVoided := by
    refine ⟨trivial, ⟨rfl, ?_⟩, ⟨rfl, ?_⟩, ⟨rfl, ?_⟩, ⟨rfl, ?_⟩, trivial⟩
    · intro ctx input same
      cases same
      rfl
    · exact fun _ _ other => by cases other
    · exact fun _ _ other => by cases other
    · exact fun _ _ other => by cases other
  obtain ⟨inv, member, voided⟩ : ∃ inv ∈ (runActions emptyDb paidAndVoided).invoices,
      inv.state = .voided := by decide +kernel
  exact ⟨inv, member, voided, audit_log_replays oneArith inv member⟩

end Invoicing
