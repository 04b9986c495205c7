/-
**The audit logs are only appended to, and every row names its caller.**

* `Request.signer`, `Call.signer` — the caller whose name the history rows of a call carry; tickers, views
  and inbound events sign for themselves.
* `Part.SignedBy` — the rows of a command name the caller; **`Call.parts_signed`** — those of a call's
  commands name its signer.
* **`rows_signed`** — after every run of calls the histories are those before it, and then rows each signed
  by the caller of one of the calls.
-/

import Invoicing.Lib.Mealy
import Invoicing.Runs.Written

namespace Invoicing

open Chrono (DateTime)
open Labelled

/-! ### Signatures -/

/-- The row names the caller. -/
def InvoiceStateHistory.SignedBy (row : InvoiceStateHistory) (caller : Caller) : Prop :=
  row.actor = some caller.actor.auditString ∧ row.channel = caller.channel.toHistory

def CreditNoteStateHistory.SignedBy (row : CreditNoteStateHistory) (caller : Caller) : Prop :=
  row.actor = some caller.actor.auditString ∧ row.channel = caller.channel.toHistory

/-- The caller a call records. -/
def Request.signer : Request → Caller
  | .draft _ input => ⟨input.actor, input.channel⟩
  | .issue _ input => ⟨input.actor, input.channel⟩
  | .send _ input => ⟨input.actor, input.channel⟩
  | .sendRender _ input => ⟨input.actor, input.channel⟩
  | .view _ _ => ⟨.api "link.viewer", .api⟩
  | .markPaid _ input => ⟨input.actor, input.channel⟩
  | .void _ input => ⟨input.actor, input.channel⟩

def Call.signer : Call → Caller
  | .invoice request => request.signer
  | .createCreditNote _ input => ⟨input.actor, input.channel⟩
  | .issueCreditNote _ input => ⟨input.actor, input.channel⟩
  | .scheduleCreate _ input => ⟨input.actor, input.channel⟩
  | .schedulePause _ input => ⟨input.actor, input.channel⟩
  | .scheduleCancel _ input => ⟨input.actor, input.channel⟩
  | .reminderSchedule _ input => ⟨input.actor, input.channel⟩
  | .reminderCancel _ input => ⟨input.actor, input.channel⟩
  | .schedulesTick _ => ⟨scheduler, .bus⟩
  | .remindersTick _ => ⟨scheduler, .bus⟩
  | .overdueTick _ => ⟨scheduler, .bus⟩
  | .inbound _ _ _ _ _ => ⟨.bus "fin", .bus⟩

/-- The row of an edit is signed by the caller of its call. -/
theorem Edit.signed {request : Request} {loaded : Option Invoice} {tx : InvoiceTx}
    (edit : Edit request loaded tx) : tx.history.SignedBy request.signer := by
  cases edit with
  | draft summed => exact ⟨rfl, rfl⟩
  | issue draft toState target owners => exact ⟨rfl, rfl⟩
  | send target open' => exact ⟨rfl, rfl⟩
  | sendRender target open' => exact ⟨rfl, rfl⟩
  | view verified sent => exact ⟨rfl, rfl⟩
  | markPaid target positive summed accepted => exact ⟨rfl, rfl⟩
  | void target accepted => exact ⟨rfl, rfl⟩

/-! ### Calls -/

/-- The histories grow by rows that one caller signed. -/
abbrev Signs (caller : Caller) (before after : Db) : Prop :=
  Appends (·.SignedBy caller) (·.SignedBy caller) before after

/-- The rows of a command, if it writes any, name the caller. -/
def Part.SignedBy (caller : Caller) : Part → Prop
  | .invoice request => request.signer = caller
  | .createCreditNote _ input => ⟨input.actor, input.channel⟩ = caller
  | .issueCreditNote _ input => ⟨input.actor, input.channel⟩ = caller
  | _ => True

/-- **A command appends at most rows of its caller.** -/
theorem Part.signs {caller : Caller} {part : Part} (signed : part.SignedBy caller) (tables : ReminderDb) :
    Signs caller tables.db (part.execute tables).db := by
  have wrote := part.wrote tables
  generalize part.published tables = events at wrote
  generalize (part.execute tables).db = after at wrote ⊢
  cases wrote with
  | nothing same => exact same.appends
  | edited edit =>
    obtain rfl : _ = caller := signed
    exact InvoiceTx.appends edit.signed _
  | created found =>
    obtain rfl : _ = caller := signed
    exact CreditTx.appends ⟨rfl, rfl⟩ _
  | issued found draft counted =>
    obtain rfl : _ = caller := signed
    exact CreditTx.appends ⟨rfl, rfl⟩ _

/-- A run of a schedule signs as the scheduler. -/
theorem materialiseParts_signed (ctx : TickCtx) (schedule : Schedule) (db : Db) :
    ∀ part ∈ materialiseParts ctx schedule db, part.SignedBy ⟨scheduler, .bus⟩ := by
  refine List.forall_mem_cons.mpr ⟨rfl, ?_⟩
  rcases draftStep ctx schedule db with ⟨stop | drafted, first⟩
  · exact List.forall_mem_nil _
  refine List.forall_mem_append.mpr ⟨?_, ?_⟩
  · unfold issueParts
    split
    · exact List.forall_mem_singleton.mpr rfl
    · exact List.forall_mem_nil _
  · rcases issueStep ctx schedule drafted first with ⟨stop | _, second⟩
    · exact List.forall_mem_nil _
    · exact List.forall_mem_singleton.mpr trivial

theorem tickParts_signed (ctx : TickCtx) (rows : List Schedule) (db : Db) :
    ∀ part ∈ tickParts ctx rows db, part.SignedBy ⟨scheduler, .bus⟩ := by
  induction rows generalizing db with
  | nil => exact List.forall_mem_nil _
  | cons schedule rest ih =>
    rw [tickParts]
    by_cases inactive : schedule.state ≠ .active
    · rw [if_pos inactive]
      exact ih db
    rw [if_neg inactive]
    refine List.forall_mem_append.mpr ⟨materialiseParts_signed ctx schedule db, ?_⟩
    rcases materialise ctx schedule db with ⟨stop | drafted, after⟩
    · exact List.forall_mem_nil _
    · exact ih after

theorem sendParts_signed (caller : Caller) (now : DateTime) (rows : List Reminder) (tables : ReminderDb) :
    ∀ part ∈ sendParts now rows tables, part.SignedBy caller := by
  induction rows generalizing tables with
  | nil => exact List.forall_mem_nil _
  | cons reminder rest ih =>
    rw [sendParts]
    by_cases other : reminder.state ≠ .scheduled
    · rw [if_pos other]
      exact ih tables
    rw [if_neg other]
    refine List.forall_mem_cons.mpr ⟨trivial, ?_⟩
    cases tables.saveReminder (sentReminder reminder now) with
    | error e => exact List.forall_mem_nil _
    | ok after => exact ih after

/-- The inputs a consumer builds name the payments system. -/
theorem route_signed {consumer : Consumer} {topic eventId payload : String} {command : InboundCommand}
    (routed : consumer.route topic eventId payload = .ok command) (ctx : CoreCtx) :
    (command.part ctx).SignedBy ⟨.bus "fin", .bus⟩ := by
  unfold Consumer.route at routed
  dsimp only at routed
  split at routed
  · obtain ⟨input, built, rfl⟩ := map_ok routed
    obtain ⟨p, _, built⟩ := bind_ok built
    obtain ⟨customer, _, built⟩ := bind_ok built
    cases built
    rfl
  · split at routed
    · obtain ⟨input, built, rfl⟩ := map_ok routed
      obtain ⟨p, _, built⟩ := bind_ok built
      split at built
      · cases built
      · obtain ⟨invoice, _, built⟩ := bind_ok built
        cases built
        rfl
    · split at routed
      · obtain ⟨input, built, rfl⟩ := map_ok routed
        obtain ⟨p, _, built⟩ := bind_ok built
        obtain ⟨invoice, _, built⟩ := bind_ok built
        cases built
        rfl
      · cases routed

/-- The commands of a call are its signer's. -/
theorem Call.parts_signed (call : Call) (tables : ReminderDb) :
    ∀ part ∈ call.parts tables, part.SignedBy call.signer := by
  cases call with
  | schedulesTick ctx => exact tickParts_signed ctx _ tables.db
  | remindersTick now => exact sendParts_signed _ now _ tables
  | overdueTick now => exact List.forall_mem_nil _
  | inbound consumer ctx topic eventId payload =>
    rw [parts]
    cases routed : consumer.route topic eventId payload with
    | error e => exact List.forall_mem_nil _
    | ok command => exact List.forall_mem_singleton.mpr (route_signed routed ctx)
  | invoice request => exact List.forall_mem_singleton.mpr rfl
  | createCreditNote ctx input => exact List.forall_mem_singleton.mpr rfl
  | issueCreditNote ctx input => exact List.forall_mem_singleton.mpr rfl
  | _ => exact List.forall_mem_singleton.mpr trivial

/-- **A call appends rows of its signer**, and takes none away. -/
theorem Call.signs (call : Call) (tables : ReminderDb) :
    Signs call.signer tables.db (call.execute tables).2.db :=
  run_appends (fun tables _ signed => Part.signs signed tables)
    (Meets.of_forall (call.parts_signed tables) tables) (call.run_parts tables)

/-- **The audit logs are only appended to, and every new row names the caller of one of the calls.** -/
theorem rows_signed (tables : ReminderDb) (calls : List Call) :
    Appends (fun row => ∃ call ∈ calls, row.SignedBy call.signer)
      (fun row => ∃ call ∈ calls, row.SignedBy call.signer) tables.db
      (Mealy.after Call.execute tables calls).db := by
  induction calls generalizing tables with
  | nil => exact SameLogs.appends (.refl _)
  | cons call rest ih =>
    refine Appends.trans ((call.signs tables).mono ?_ ?_) ((ih (call.execute tables).2).mono ?_ ?_)
    · exact fun row signed => ⟨call, List.mem_cons_self, signed⟩
    · exact fun row signed => ⟨call, List.mem_cons_self, signed⟩
    · rintro row ⟨other, there, signed⟩
      exact ⟨other, List.mem_cons_of_mem _ there, signed⟩
    · rintro row ⟨other, there, signed⟩
      exact ⟨other, List.mem_cons_of_mem _ there, signed⟩

end Invoicing
