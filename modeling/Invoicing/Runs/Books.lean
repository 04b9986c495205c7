/-
**The books: what the tables are about.**

* `Account`, `Credit`, `Plan`, `Notice` — an invoice, a credit note, a schedule and a reminder without their
  texts, lines and dates. A `Receivable` is not covered yet, a `Settlement` is.
* `Entry`, `Books.enter` — an entry in the books, and what it does; `none` where it is not allowed.
* `Books.Later` — what is closed is not opened again. **`Books.enter_later`**, **`run_later`** — no entry, and
  no list of entries, does.
-/

import Invoicing.Commands.Reminder
import Invoicing.Domain.Schedule
import Invoicing.Lib.Labelled
import Invoicing.Lib.Register

namespace Invoicing

open Chrono (NaiveDate)
open Labelled Register

/-! ### Accounts -/

/-- What is asked for, and what came in of it: nothing, or less. -/
structure Receivable where
  total : ℚ
  received : ℚ
  partly : received = 0 ∨ 0 < received ∧ received < total

/-- What was asked for, and what came in: enough. -/
structure Settlement where
  total : ℚ
  received : ℚ
  covered : 0 < received ∧ total ≤ received

inductive Standing
  | draft
  | due (receivable : Receivable)
  | settled (settlement : Settlement)
  | cancelled (receivable : Receivable)

/-- The account of an invoice. -/
structure Account where
  customer : CustomerId
  currency : Currency
  standing : Standing

def Receivable.ofTotal (total : ℚ) : Receivable := ⟨total, 0, Or.inl rfl⟩

theorem Receivable.nonneg (receivable : Receivable) : 0 ≤ receivable.received := by
  rcases receivable.partly with none | ⟨some, _⟩
  · exact none.ge
  · exact some.le

/-- A payment settles what it covers. -/
def Receivable.receive (receivable : Receivable) (amount : ℚ) (positive : 0 < amount) : Standing :=
  have some : 0 < receivable.received + amount := add_pos_of_nonneg_of_pos receivable.nonneg positive
  if covered : receivable.total ≤ receivable.received + amount then
    .settled ⟨receivable.total, receivable.received + amount, some, covered⟩
  else .due ⟨receivable.total, receivable.received + amount, Or.inr ⟨some, not_le.mp covered⟩⟩

namespace Account

def opened (customer : CustomerId) (currency : Currency) : Option Account → Option Account
  | none => some ⟨customer, currency, .draft⟩
  | some _ => none

def billed (total : ℚ) : Option Account → Option Account
  | some ⟨customer, currency, .draft⟩ => some ⟨customer, currency, .due (.ofTotal total)⟩
  | _ => none

def paid (amount : ℚ) : Option Account → Option Account
  | some ⟨customer, currency, .due receivable⟩ =>
      if positive : 0 < amount then some ⟨customer, currency, receivable.receive amount positive⟩ else none
  | _ => none

/-- A due account is cancelled, with what came in. -/
def called : Option Account → Option Account
  | some ⟨customer, currency, .due receivable⟩ => some ⟨customer, currency, .cancelled receivable⟩
  | _ => none

end Account

/-! ### Credits, plans and notices -/

/-- A credit note. -/
structure Credit where
  invoice : InvoiceId
  currency : Currency
  amount : ℚ
  granted : Bool

/-- A credit is in the currency of its account. -/
def Credit.opened (account : Option Account) (invoice : InvoiceId) (amount : ℚ) :
    Option Credit → Option Credit
  | none => account.map fun account => ⟨invoice, account.currency, amount, false⟩
  | some _ => none

def Credit.grant : Option Credit → Option Credit
  | some ⟨invoice, currency, amount, false⟩ => some ⟨invoice, currency, amount, true⟩
  | _ => none

/-- A schedule. -/
structure Plan where
  customer : CustomerId
  cadence : Cadence
  last : Option NaiveDate
  next : NaiveDate
  state : ScheduleState

namespace Plan

def opened (customer : CustomerId) (cadence : Cadence) (first : NaiveDate) (last : Option NaiveDate) :
    Option Plan → Option Plan
  | none => some ⟨customer, cadence, last, first, .active⟩
  | some _ => none

/-- A closed plan is not suspended. -/
def suspended : Option Plan → Option Plan
  | some plan => if plan.state = .cancelled then none else some { plan with state := .paused }
  | none => none

def closed : Option Plan → Option Plan
  | some plan => some { plan with state := .cancelled }
  | none => none

/-- An active plan goes on to the next date of its cadence, and ends after its last. -/
def ran : Option Plan → Option Plan
  | some plan =>
      if plan.state = .active then
        (plan.cadence.advance plan.next).map fun next =>
          { plan with next := next, state := if ∃ last ∈ plan.last, last < next then .cancelled else .active }
      else none
  | none => none

end Plan

/-- A reminder. -/
structure Notice where
  invoice : InvoiceId
  state : ReminderState

namespace Notice

/-- A notice is of an account. -/
def opened (account : Option Account) (invoice : InvoiceId) : Option Notice → Option Notice
  | none => account.map fun _ => ⟨invoice, .scheduled⟩
  | some _ => none

/-- A notice that is still scheduled goes out. -/
def delivered : Option Notice → Option Notice
  | some ⟨invoice, .scheduled⟩ => some ⟨invoice, .sent⟩
  | _ => none

/-- A notice that is still scheduled is dropped, and any other is left. -/
def dropped : Option Notice → Option Notice
  | some ⟨invoice, .scheduled⟩ => some ⟨invoice, .cancelled⟩
  | other => other

end Notice

/-! ### The books -/

structure Books where
  accounts : InvoiceId → Option Account
  credits : CreditNoteId → Option Credit
  plans : ScheduleId → Option Plan
  notices : ReminderId → Option Notice

def Books.empty : Books := ⟨fun _ => none, fun _ => none, fun _ => none, fun _ => none⟩

/-- An entry in the books. -/
inductive Entry
  | draft (id : InvoiceId) (customer : CustomerId) (currency : Currency)
  | bill (id : InvoiceId) (total : ℚ)
  | receive (id : InvoiceId) (amount : ℚ)
  | cancel (id : InvoiceId)
  | credit (id : CreditNoteId) (invoice : InvoiceId) (amount : ℚ)
  | grant (id : CreditNoteId)
  | plan (id : ScheduleId) (customer : CustomerId) (cadence : Cadence) (first : NaiveDate)
      (last : Option NaiveDate)
  | suspend (id : ScheduleId)
  | close (id : ScheduleId)
  | run (id : ScheduleId)
  | remind (id : ReminderId) (invoice : InvoiceId)
  | deliver (id : ReminderId)
  | drop (id : ReminderId)
  deriving DecidableEq

namespace Books

variable (books : Books)

def onAccount (id : InvoiceId) (change : Option Account → Option Account) : Option Books :=
  (alter books.accounts id change).map fun accounts => { books with accounts := accounts }

def onCredit (id : CreditNoteId) (change : Option Credit → Option Credit) : Option Books :=
  (alter books.credits id change).map fun credits => { books with credits := credits }

def onPlan (id : ScheduleId) (change : Option Plan → Option Plan) : Option Books :=
  (alter books.plans id change).map fun plans => { books with plans := plans }

def onNotice (id : ReminderId) (change : Option Notice → Option Notice) : Option Books :=
  (alter books.notices id change).map fun notices => { books with notices := notices }

/-- **What an entry does**; `none` where it is not allowed. -/
def enter : Entry → Option Books
  | .draft id customer currency => books.onAccount id (Account.opened customer currency)
  | .bill id total => books.onAccount id (Account.billed total)
  | .receive id amount => books.onAccount id (Account.paid amount)
  | .cancel id => books.onAccount id Account.called
  | .credit id invoice amount => books.onCredit id (Credit.opened (books.accounts invoice) invoice amount)
  | .grant id => books.onCredit id Credit.grant
  | .plan id customer cadence first last => books.onPlan id (Plan.opened customer cadence first last)
  | .suspend id => books.onPlan id Plan.suspended
  | .close id => books.onPlan id Plan.closed
  | .run id => books.onPlan id Plan.ran
  | .remind id invoice => books.onNotice id (Notice.opened (books.accounts invoice) invoice)
  | .deliver id => books.onNotice id Notice.delivered
  | .drop id => books.onNotice id Notice.dropped

end Books

/-! ### What entries leave -/

def Standing.received : Standing → ℚ
  | .draft => 0
  | .due receivable | .cancelled receivable => receivable.received
  | .settled settlement => settlement.received

/-- What is asked for, once it is billed. -/
def Standing.total : Standing → Option ℚ
  | .draft => none
  | .due receivable | .cancelled receivable => some receivable.total
  | .settled settlement => some settlement.total

/-- Nothing more is due. -/
def Standing.Closed : Standing → Prop
  | .draft | .due _ => False
  | .settled _ | .cancelled _ => True

/-- The account as it may be later: what is asked for does not change, what came in is not lost, and what is
closed stays as it is. -/
structure Account.Later (before after : Account) : Prop where
  customer : after.customer = before.customer
  currency : after.currency = before.currency
  total : ∀ total, before.standing.total = some total → after.standing.total = some total
  received : before.standing.received ≤ after.standing.received
  closed : before.standing.Closed → after = before

structure Credit.Later (before after : Credit) : Prop where
  invoice : after.invoice = before.invoice
  currency : after.currency = before.currency
  amount : after.amount = before.amount
  granted : before.granted = true → after.granted = true

/-- The plan as it may be later: it does not go back in time, and once it is suspended or closed it does not
go on any more. -/
structure Plan.Later (before after : Plan) : Prop where
  customer : after.customer = before.customer
  cadence : after.cadence = before.cadence
  last : after.last = before.last
  next : before.next ≤ after.next
  stopped : before.state ≠ .active → after.state ≠ .active ∧ after.next = before.next
  closed : before.state = .cancelled → after = before

/-- The notice as it may be later: one that went out or was dropped stays as it is. -/
structure Notice.Later (before after : Notice) : Prop where
  invoice : after.invoice = before.invoice
  closed : before.state ≠ .scheduled → after = before

theorem Account.Later.refl (account : Account) : account.Later account :=
  ⟨rfl, rfl, fun _ same => same, le_refl _, fun _ => rfl⟩

theorem Credit.Later.refl (credit : Credit) : credit.Later credit := ⟨rfl, rfl, rfl, id⟩

theorem Plan.Later.refl (plan : Plan) : plan.Later plan :=
  ⟨rfl, rfl, rfl, le_refl _, fun stopped => ⟨stopped, rfl⟩, fun _ => rfl⟩

theorem Notice.Later.refl (notice : Notice) : notice.Later notice := ⟨rfl, fun _ => rfl⟩

theorem Account.Later.trans {first second third : Account} (one : first.Later second)
    (two : second.Later third) :
    first.Later third where
  customer := two.customer.trans one.customer
  currency := two.currency.trans one.currency
  total := fun total same => two.total total (one.total total same)
  received := one.received.trans two.received
  closed := by
    intro closed
    obtain rfl := one.closed closed
    exact two.closed closed

theorem Credit.Later.trans {first second third : Credit} (one : first.Later second)
    (two : second.Later third) :
    first.Later third :=
  ⟨two.invoice.trans one.invoice, two.currency.trans one.currency, two.amount.trans one.amount,
    fun granted => two.granted (one.granted granted)⟩

theorem Plan.Later.trans {first second third : Plan} (one : first.Later second) (two : second.Later third) :
    first.Later third where
  customer := two.customer.trans one.customer
  cadence := two.cadence.trans one.cadence
  last := two.last.trans one.last
  next := one.next.trans two.next
  stopped := by
    intro stopped
    obtain ⟨still, next⟩ := one.stopped stopped
    obtain ⟨still', next'⟩ := two.stopped still
    exact ⟨still', next'.trans next⟩
  closed := by
    intro closed
    obtain rfl := one.closed closed
    exact two.closed closed

theorem Notice.Later.trans {first second third : Notice} (one : first.Later second)
    (two : second.Later third) :
    first.Later third := by
  refine ⟨two.invoice.trans one.invoice, fun closed => ?_⟩
  obtain rfl := one.closed closed
  exact two.closed closed

/-! ### Changes -/

theorem Account.advances_opened (customer : CustomerId) (currency : Currency) :
    Advances Account.Later (Account.opened customer currency) := fun _ _ changed => by cases changed

theorem Account.advances_billed (total : ℚ) : Advances Account.Later (Account.billed total) := by
  rintro ⟨customer, currency, standing⟩ after changed
  cases standing with
  | draft =>
    cases changed
    exact ⟨rfl, rfl, (fun _ absent => nomatch absent), le_refl _, False.elim⟩
  | due receivable => cases changed
  | settled settlement => cases changed
  | cancelled receivable => cases changed

theorem Receivable.receive_keeps (receivable : Receivable) {amount : ℚ} (positive : 0 < amount) :
    (receivable.receive amount positive).total = some receivable.total ∧
      (receivable.receive amount positive).received = receivable.received + amount := by
  unfold receive
  split
  · exact ⟨rfl, rfl⟩
  · exact ⟨rfl, rfl⟩

theorem Account.advances_paid (amount : ℚ) : Advances Account.Later (Account.paid amount) := by
  rintro ⟨customer, currency, standing⟩ after changed
  cases standing with
  | draft => cases changed
  | due receivable =>
    rw [Account.paid] at changed
    split at changed
    · rename_i positive
      cases changed
      obtain ⟨total, received⟩ := receivable.receive_keeps positive
      refine ⟨rfl, rfl, fun asked same => ?_, ?_, False.elim⟩
      · cases same
        exact total
      · show receivable.received ≤ (receivable.receive amount positive).received
        rw [received]
        exact le_add_of_nonneg_right positive.le
    · cases changed
  | settled settlement => cases changed
  | cancelled receivable => cases changed

theorem Account.advances_called : Advances Account.Later Account.called := by
  rintro ⟨customer, currency, standing⟩ after changed
  cases standing with
  | draft => cases changed
  | due receivable =>
    cases changed
    exact ⟨rfl, rfl, fun _ same => same, le_refl _, False.elim⟩
  | settled settlement => cases changed
  | cancelled receivable => cases changed

theorem Credit.advances_opened (account : Option Account) (invoice : InvoiceId) (amount : ℚ) :
    Advances Credit.Later (Credit.opened account invoice amount) := fun _ _ changed => by cases changed

theorem Credit.advances_grant : Advances Credit.Later Credit.grant := by
  rintro ⟨invoice, currency, amount, granted⟩ after changed
  cases granted with
  | false =>
    cases changed
    exact ⟨rfl, rfl, rfl, fun _ => rfl⟩
  | true => cases changed

theorem Plan.advances_opened (customer : CustomerId) (cadence : Cadence) (first : NaiveDate)
    (last : Option NaiveDate) : Advances Plan.Later (Plan.opened customer cadence first last) :=
  fun _ _ changed => by cases changed

theorem Plan.advances_suspended : Advances Plan.Later Plan.suspended := by
  intro plan after changed
  rw [Plan.suspended] at changed
  split at changed
  · cases changed
  · rename_i opened
    cases changed
    exact ⟨rfl, rfl, rfl, le_refl _, fun _ => ⟨ScheduleState.noConfusion, rfl⟩,
      fun closed => absurd closed opened⟩

theorem Plan.advances_closed : Advances Plan.Later Plan.closed := by
  intro plan after changed
  cases changed
  refine ⟨rfl, rfl, rfl, le_refl _, fun _ => ⟨ScheduleState.noConfusion, rfl⟩, fun closed => ?_⟩
  rw [← closed]

/-- A run goes on to a later date. -/
theorem Plan.advances_ran : Advances Plan.Later Plan.ran := by
  intro plan after changed
  rw [Plan.ran] at changed
  split at changed
  · rename_i active
    obtain ⟨next, advanced, rfl⟩ := Option.map_eq_some_iff.mp changed
    refine ⟨rfl, rfl, rfl, (Cadence.advance_gt advanced).le, fun stopped => absurd active stopped,
      fun closed => ?_⟩
    rw [active] at closed
    cases closed
  · cases changed

theorem Notice.advances_opened (account : Option Account) (invoice : InvoiceId) :
    Advances Notice.Later (Notice.opened account invoice) := fun _ _ changed => by cases changed

theorem Notice.advances_delivered : Advances Notice.Later Notice.delivered := by
  rintro ⟨invoice, state⟩ after changed
  cases state with
  | scheduled =>
    cases changed
    exact ⟨rfl, fun closed => absurd rfl closed⟩
  | sent => cases changed
  | cancelled => cases changed

theorem Notice.advances_dropped : Advances Notice.Later Notice.dropped := by
  rintro ⟨invoice, state⟩ after changed
  cases state with
  | scheduled =>
    cases changed
    exact ⟨rfl, fun closed => absurd rfl closed⟩
  | sent =>
    cases changed
    exact .refl _
  | cancelled =>
    cases changed
    exact .refl _

/-! ### The books later -/

/-- **Nothing in the books is undone**: every account, credit, plan and notice is still there, later. -/
structure Books.Later (before after : Books) : Prop where
  accounts : Keeps Account.Later before.accounts after.accounts
  credits : Keeps Credit.Later before.credits after.credits
  plans : Keeps Plan.Later before.plans after.plans
  notices : Keeps Notice.Later before.notices after.notices

theorem Books.Later.refl (books : Books) : books.Later books :=
  ⟨.refl .refl _, .refl .refl _, .refl .refl _, .refl .refl _⟩

theorem Books.Later.trans {first second third : Books} (one : first.Later second) (two : second.Later third) :
    first.Later third :=
  ⟨one.accounts.trans .trans two.accounts, one.credits.trans .trans two.credits,
    one.plans.trans .trans two.plans, one.notices.trans .trans two.notices⟩

section Later

variable {books after : Books}

theorem Books.onAccount_later {id : InvoiceId} {change : Option Account → Option Account}
    (advances : Advances Account.Later change) (entered : books.onAccount id change = some after) :
    books.Later after := by
  obtain ⟨accounts, altered, rfl⟩ := Option.map_eq_some_iff.mp entered
  exact { Books.Later.refl books with accounts := alter_keeps .refl advances altered }

theorem Books.onCredit_later {id : CreditNoteId} {change : Option Credit → Option Credit}
    (advances : Advances Credit.Later change) (entered : books.onCredit id change = some after) :
    books.Later after := by
  obtain ⟨credits, altered, rfl⟩ := Option.map_eq_some_iff.mp entered
  exact { Books.Later.refl books with credits := alter_keeps .refl advances altered }

theorem Books.onPlan_later {id : ScheduleId} {change : Option Plan → Option Plan}
    (advances : Advances Plan.Later change) (entered : books.onPlan id change = some after) :
    books.Later after := by
  obtain ⟨plans, altered, rfl⟩ := Option.map_eq_some_iff.mp entered
  exact { Books.Later.refl books with plans := alter_keeps .refl advances altered }

theorem Books.onNotice_later {id : ReminderId} {change : Option Notice → Option Notice}
    (advances : Advances Notice.Later change) (entered : books.onNotice id change = some after) :
    books.Later after := by
  obtain ⟨notices, altered, rfl⟩ := Option.map_eq_some_iff.mp entered
  exact { Books.Later.refl books with notices := alter_keeps .refl advances altered }

/-- **No entry undoes anything.** -/
theorem Books.enter_later {entry : Entry} (entered : books.enter entry = some after) : books.Later after := by
  cases entry with
  | draft id customer currency => exact onAccount_later (Account.advances_opened customer currency) entered
  | bill id total => exact onAccount_later (Account.advances_billed total) entered
  | receive id amount => exact onAccount_later (Account.advances_paid amount) entered
  | cancel id => exact onAccount_later Account.advances_called entered
  | credit id invoice amount =>
    exact onCredit_later (Credit.advances_opened (books.accounts invoice) invoice amount) entered
  | grant id => exact onCredit_later Credit.advances_grant entered
  | plan id customer cadence first last =>
    exact onPlan_later (Plan.advances_opened customer cadence first last) entered
  | suspend id => exact onPlan_later Plan.advances_suspended entered
  | close id => exact onPlan_later Plan.advances_closed entered
  | run id => exact onPlan_later Plan.advances_ran entered
  | remind id invoice =>
    exact onNotice_later (Notice.advances_opened (books.accounts invoice) invoice) entered
  | deliver id => exact onNotice_later Notice.advances_delivered entered
  | drop id => exact onNotice_later Notice.advances_dropped entered

/-- **No list of entries undoes anything.** -/
theorem Books.run_later {entries : List Entry} (entered : run Books.enter books entries = some after) :
    books.Later after :=
  run_keeps (I := books.Later) (fun _ _ _ later entered => later.trans (enter_later entered)) (.refl books)
    entered

end Later

end Invoicing
