/-
**The transition tables of invoices and credit notes.**

* `nextState` — the verdict on each state and event. A payment event carries the sum paid so far,
  this payment included, and the invoice total; `classifyPayment` compares the two.
* `nextState_terminal` — nothing leaves `paid` or `voided`; `nextState_issue`, `nextState_void`,
  `nextState_pay` — what an accepted event says about the state before and after.
* `CreditNoteEvent.nextState` — the table of credit notes, `draft` to `issued`.
-/

import Invoicing.Domain.Invoice

namespace Invoicing

/-! ### Events -/

/-- An input event of the invoice machine. -/
inductive InvoiceEvent
  | issue
  | send
  | remind
  | view
  | pay (amountPaid total : Decimal)
  | void
  deriving DecidableEq

/-- The tag of an event in audit rows. -/
def InvoiceEvent.tag : InvoiceEvent → String
  | .issue => "issue"
  | .send => "send"
  | .remind => "remind"
  | .view => "view"
  | .pay _ _ => "pay"
  | .void => "void"

/-- Why the table rejects an event. -/
inductive TransitionError
  | illegal (state : InvoiceState) (event : String)
  | nonPositivePayment (amountPaid : Decimal)
  deriving DecidableEq

inductive PaymentKind
  | full
  | partPaid
  deriving DecidableEq

/-- Compare the sum paid with the total. -/
def classifyPayment (amountPaid total : Decimal) : Except TransitionError PaymentKind :=
  if amountPaid ≤ Decimal.zero then .error (.nonPositivePayment amountPaid)
  else if total ≤ amountPaid then .ok .full
  else .ok .partPaid

def payFromOpen (amountPaid total : Decimal) : Except TransitionError InvoiceState :=
  match classifyPayment amountPaid total with
  | .error e => .error e
  | .ok .full => .ok .paid
  | .ok .partPaid => .ok .partiallyPaid

def illegal (state : InvoiceState) (event : InvoiceEvent) : TransitionError :=
  .illegal state event.tag

/-- **The transition table.** -/
def nextState (current : InvoiceState) (event : InvoiceEvent) :
    Except TransitionError InvoiceState :=
  match current, event with
  | .draft, .issue => .ok .issued
  | .draft, _ => .error (illegal current event)
  | .issued, .send => .ok .sent
  | .issued, .pay amountPaid total => payFromOpen amountPaid total
  | .issued, .void => .ok .voided
  | .issued, _ => .error (illegal current event)
  | .sent, .remind => .ok .sent
  | .sent, .view => .ok .viewed
  | .sent, .pay amountPaid total => payFromOpen amountPaid total
  | .sent, .void => .ok .voided
  | .sent, _ => .error (illegal current event)
  | .viewed, .pay amountPaid total => payFromOpen amountPaid total
  | .viewed, .void => .ok .voided
  | .viewed, _ => .error (illegal current event)
  | .partiallyPaid, .pay amountPaid total =>
      match classifyPayment amountPaid total with
      | .error e => .error e
      | .ok .full => .ok .paid
      | .ok .partPaid => .ok .partiallyPaid
  | .partiallyPaid, .void => .ok .voided
  | .partiallyPaid, _ => .error (illegal current event)
  | .paid, _ => .error (illegal current event)
  | .voided, _ => .error (illegal current event)

/-! ### What an accepted event says -/

/-- States nothing leaves. -/
def InvoiceState.Terminal (state : InvoiceState) : Prop := state = .paid ∨ state = .voided

instance (state : InvoiceState) : Decidable state.Terminal :=
  inferInstanceAs (Decidable (_ ∨ _))

/-- Nothing leaves a terminal state. -/
theorem nextState_terminal {current : InvoiceState} (terminal : current.Terminal)
    (event : InvoiceEvent) : nextState current event = .error (illegal current event) := by
  rcases terminal with rfl | rfl
  · rfl
  · rfl

/-- A payment is full when the sum reaches the total. -/
def FullPayment (amountPaid total : Decimal) : Prop :=
  ¬ amountPaid ≤ Decimal.zero ∧ total ≤ amountPaid

instance (amountPaid total : Decimal) : Decidable (FullPayment amountPaid total) :=
  inferInstanceAs (Decidable (_ ∧ _))

theorem payFromOpen_ok {amountPaid total : Decimal} {next : InvoiceState}
    (accepted : payFromOpen amountPaid total = .ok next) :
    (FullPayment amountPaid total ∧ next = .paid) ∨
      (¬ FullPayment amountPaid total ∧ next = .partiallyPaid) := by
  unfold payFromOpen classifyPayment at accepted
  by_cases positive : amountPaid ≤ Decimal.zero
  · simp [positive] at accepted
  · by_cases full : total ≤ amountPaid
    · simp only [positive, full, if_true, if_false, Except.ok.injEq] at accepted
      exact Or.inl ⟨⟨positive, full⟩, accepted.symm⟩
    · simp only [positive, full, if_false, Except.ok.injEq] at accepted
      exact Or.inr ⟨fun both => full both.2, accepted.symm⟩

/-- Only a draft is issued. -/
theorem nextState_issue {current next : InvoiceState}
    (accepted : nextState current .issue = .ok next) : current = .draft ∧ next = .issued := by
  cases current with
  | draft => exact ⟨rfl, by simpa [nextState] using accepted.symm⟩
  | _ => simp [nextState] at accepted

/-- The states a void is accepted in. -/
theorem nextState_void {current next : InvoiceState}
    (accepted : nextState current .void = .ok next) : current ≠ .draft ∧ next = .voided := by
  cases current with
  | draft => simp [nextState] at accepted
  | paid => simp [nextState] at accepted
  | voided => simp [nextState] at accepted
  | _ => exact ⟨by decide, by simpa [nextState] using accepted.symm⟩

/-- A payment leads to `paid` when the sum reaches the total, else to `partiallyPaid`. -/
theorem nextState_pay {current next : InvoiceState} {amountPaid total : Decimal}
    (accepted : nextState current (.pay amountPaid total) = .ok next) :
    current ≠ .draft ∧
      ((FullPayment amountPaid total ∧ next = .paid) ∨
        (¬ FullPayment amountPaid total ∧ next = .partiallyPaid)) := by
  cases current with
  | draft => simp [nextState] at accepted
  | paid => simp [nextState] at accepted
  | voided => simp [nextState] at accepted
  | _ => exact ⟨by decide, payFromOpen_ok accepted⟩

/-- An accepted payment leaves a positive sum paid. -/
theorem nextState_pay_positive {current next : InvoiceState} {amountPaid total : Decimal}
    (accepted : nextState current (.pay amountPaid total) = .ok next) :
    ¬ amountPaid ≤ Decimal.zero := by
  intro nonPositive
  cases current with
  | draft => simp [nextState] at accepted
  | paid => simp [nextState] at accepted
  | voided => simp [nextState] at accepted
  | _ => simp [nextState, payFromOpen, classifyPayment, nonPositive] at accepted

/-- The table leads nowhere back to a draft. -/
theorem nextState_ne_draft {current : InvoiceState} {event : InvoiceEvent} {next : InvoiceState}
    (accepted : nextState current event = .ok next) : next ≠ .draft := by
  rintro rfl
  cases event with
  | pay amountPaid total =>
    obtain ⟨_, ⟨_, other⟩ | ⟨_, other⟩⟩ := nextState_pay accepted
    · cases other
    · cases other
  | _ => cases current <;> simp [nextState] at accepted

/-! ### Credit notes -/

/-- The one event of a credit note. -/
inductive CreditNoteEvent
  | issue
  deriving DecidableEq

def CreditNoteEvent.tag : CreditNoteEvent → String
  | .issue => "issue"

/-- Why the credit-note table rejects an event. -/
inductive CreditNoteTransitionError
  | illegal (state : CreditNoteState) (event : String)
  deriving DecidableEq

/-- The credit-note table. -/
def CreditNoteEvent.nextState (current : CreditNoteState) (event : CreditNoteEvent) :
    Except CreditNoteTransitionError CreditNoteState :=
  match current, event with
  | .draft, .issue => .ok .issued
  | .issued, _ => .error (.illegal current event.tag)

end Invoicing
