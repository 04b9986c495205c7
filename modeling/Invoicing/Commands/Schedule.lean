/-
**`schedule_create`, `schedule_pause`, `schedule_cancel` and `schedules_tick`.**

* `ScheduleCreateInput.validate`, `scheduleCreate` — a new active schedule, first due at its start date.
* `transitionSchedule` — pause and cancel; cancelled is terminal.
* `Schedule.draftInput`, `materialise` — one run of a due schedule in three transactions: a draft under
  the key of the run date, its issue when the schedule asks for it, and the advanced schedule row.
* `schedulesTick` — the due schedules one after the other; the first error ends the tick.
* **`materialise_cases`** — where a run of a schedule can end.
-/

import Invoicing.Commands.Draft
import Invoicing.Commands.Issue

namespace Invoicing

open Chrono

/-! ### Creating -/

/-- A template line of a new schedule. -/
structure ScheduleLineInput where
  description : String
  quantity : Decimal
  unitPrice : Decimal
  taxCategory : TaxCategory
  deriving DecidableEq

structure ScheduleCreateInput where
  customerId : CustomerId
  templateLines : List ScheduleLineInput
  currency : Currency
  cadence : Cadence
  startDate : NaiveDate
  endDate : Option NaiveDate
  autoIssue : Bool
  actor : Actor
  channel : Channel
  deriving DecidableEq

structure ScheduleCreateOutput where
  schedule : Schedule
  deriving DecidableEq

/-- The check of template line `i`. -/
def ScheduleLineInput.validate (i : ℕ) (line : ScheduleLineInput) : CoreResult Unit :=
  if line.quantity ≤ Decimal.zero then
    fail (.validation ("line " ++ natText i ++ ": quantity must be > 0"))
  else if line.unitPrice < Decimal.zero then
    fail (.validation ("line " ++ natText i ++ ": unit_price must be >= 0"))
  else .ok ()

def validateTemplate : ℕ → List ScheduleLineInput → CoreResult Unit
  | _, [] => .ok ()
  | i, line :: rest => do
      line.validate i
      validateTemplate (i + 1) rest

/-- A last date before the first. -/
def EndsEarly (start : NaiveDate) (endDate : Option NaiveDate) : Prop :=
  ∃ last ∈ endDate, last < start

instance (start : NaiveDate) (endDate : Option NaiveDate) : Decidable (EndsEarly start endDate) :=
  inferInstanceAs (Decidable (∃ last ∈ endDate, _))

def ScheduleCreateInput.validate (input : ScheduleCreateInput) : CoreResult Unit :=
  if input.templateLines = [] then
    fail (.validation "schedule must have at least one template line")
  else do
    validateTemplate 0 input.templateLines
    if EndsEarly input.startDate input.endDate then
      fail (.validation "end_date must be >= start_date")
    else .ok ()

/-- What the check of a template line accepts. -/
def ScheduleLineInput.Valid (line : ScheduleLineInput) : Prop :=
  ¬ line.quantity ≤ Decimal.zero ∧ ¬ line.unitPrice < Decimal.zero

theorem ScheduleLineInput.validate_ok {i : ℕ} {line : ScheduleLineInput} :
    line.validate i = .ok () ↔ line.Valid := by
  unfold ScheduleLineInput.validate ScheduleLineInput.Valid
  by_cases quantity : line.quantity ≤ Decimal.zero
  · simp [quantity, fail]
  · by_cases price : line.unitPrice < Decimal.zero
    · simp [quantity, price, fail]
    · simp [quantity, price]

theorem validateTemplate_ok {lines : List ScheduleLineInput} {i : ℕ} :
    validateTemplate i lines = .ok () ↔ ∀ line ∈ lines, line.Valid := by
  induction lines generalizing i with
  | nil => simp [validateTemplate]
  | cons line rest ih =>
    rw [validateTemplate, List.forall_mem_cons, ← ScheduleLineInput.validate_ok (i := i),
      ← @ih (i + 1)]
    cases line.validate i with
    | error e => simp [bind, Except.bind]
    | ok _ => simp [bind, Except.bind]

/-- **What `validate` accepts.** -/
theorem ScheduleCreateInput.validate_ok {input : ScheduleCreateInput}
    (valid : input.validate = .ok ()) :
    input.templateLines ≠ [] ∧ (∀ line ∈ input.templateLines, line.Valid) ∧
      ¬ EndsEarly input.startDate input.endDate := by
  unfold ScheduleCreateInput.validate at valid
  split at valid
  · cases valid
  · rename_i nonempty
    obtain ⟨_, lines, rest⟩ := bind_ok valid
    refine ⟨nonempty, validateTemplate_ok.mp lines, ?_⟩
    intro early
    rw [if_pos early] at rest
    cases rest

/-- The row of a new schedule. -/
def newSchedule (ctx : CoreCtx) (input : ScheduleCreateInput) : Schedule where
  id := ctx.newScheduleId
  customerId := input.customerId
  templateLines := input.templateLines.mapIdx fun i line =>
    ⟨line.description, line.quantity, line.unitPrice, line.taxCategory, ctx.newLineId i⟩
  currency := input.currency
  cadence := input.cadence
  startDate := input.startDate
  endDate := input.endDate
  autoIssue := input.autoIssue
  nextRun := input.startDate
  lastRun := none
  state := .active
  metadata := []
  createdAt := ctx.now
  updatedAt := ctx.now

/-- Save a schedule row and answer. -/
def saveRow {α : Type} (schedule : Schedule) (output : α) (db : Db) : CoreResult α × Db :=
  match db.saveSchedule schedule with
  | .error e => (fail (.repo e), db)
  | .ok db' => (.ok output, db')

/-- **`schedule_create`.** -/
def scheduleCreate (ctx : CoreCtx) (input : ScheduleCreateInput) (db : Db) :
    CoreResult ScheduleCreateOutput × Db :=
  match input.validate with
  | .error e => (.error e, db)
  | .ok _ => saveRow (newSchedule ctx input) ⟨newSchedule ctx input⟩ db

/-! ### Pausing and cancelling -/

structure ScheduleStateChangeInput where
  scheduleId : ScheduleId
  actor : Actor
  channel : Channel
  deriving DecidableEq

structure ScheduleStateChangeOutput where
  schedule : Schedule
  deriving DecidableEq

def ScheduleState.debug : ScheduleState → String
  | .active => "Active"
  | .paused => "Paused"
  | .cancelled => "Cancelled"

/-- The row to save, when the transition is allowed. -/
def prepareTransition (ctx : CoreCtx) (input : ScheduleStateChangeInput) (toState : ScheduleState)
    (db : Db) : CoreResult Schedule := do
  let schedule ← orNotFound (db.getSchedule input.scheduleId) ("schedule " ++ input.scheduleId.text)
  if schedule.state = .cancelled ∧ toState ≠ .cancelled then
    fail (.validation ("schedule " ++ input.scheduleId.text ++
      " is cancelled (terminal); cannot transition to " ++ toState.debug))
  else return { schedule with state := toState, updatedAt := ctx.now }

def transitionSchedule (ctx : CoreCtx) (input : ScheduleStateChangeInput) (toState : ScheduleState)
    (db : Db) : CoreResult ScheduleStateChangeOutput × Db :=
  match prepareTransition ctx input toState db with
  | .error e => (.error e, db)
  | .ok schedule => saveRow schedule ⟨schedule⟩ db

/-- **`schedule_pause`.** -/
def schedulePause (ctx : CoreCtx) (input : ScheduleStateChangeInput) (db : Db) :
    CoreResult ScheduleStateChangeOutput × Db := transitionSchedule ctx input .paused db

/-- **`schedule_cancel`.** -/
def scheduleCancel (ctx : CoreCtx) (input : ScheduleStateChangeInput) (db : Db) :
    CoreResult ScheduleStateChangeOutput × Db := transitionSchedule ctx input .cancelled db

/-! ### One run of a schedule -/

/-- The key of the run of a schedule at a date. -/
def runKey (id : ScheduleId) (date : NaiveDate) : String :=
  "schedule:" ++ id.text ++ ":run:" ++ String.ofList date.text

/-- The key of the next run. -/
def Schedule.runKey (schedule : Schedule) : String := Invoicing.runKey schedule.id schedule.nextRun

/-- The actor of a tick. -/
def scheduler : Actor := .bus "inv.scheduler"

/-- The draft a run asks for. -/
def Schedule.draftInput (schedule : Schedule) : DraftInvoiceInput where
  customerId := schedule.customerId
  sellerJurisdiction := .quebecCa
  currency := schedule.currency
  lines := schedule.templateLines.map fun line =>
    ⟨line.description, line.quantity, line.unitPrice, line.taxCategory⟩
  idempotencyKey := some schedule.runKey
  actor := scheduler
  channel := .bus
  dueAt := none
  templatePath := none
  scheduleId := some schedule.id

/-- The issue a run asks for. -/
def tickIssueInput (id : InvoiceId) : IssueInvoiceInput := ⟨id, none, scheduler, .bus⟩

/-- The schedule after a run. -/
def Schedule.advanced (schedule : Schedule) (next : NaiveDate) (time : DateTime) : Schedule :=
  { schedule with
    lastRun := some schedule.nextRun
    nextRun := next
    updatedAt := time
    state := if ∃ last ∈ schedule.endDate, last < next then .cancelled else schedule.state }

/-- What a tick uses of the world: its reading of the clock, and what the draft and the issue of each
schedule use. -/
structure TickCtx where
  now : DateTime
  draft : ScheduleId → CoreCtx
  issue : ScheduleId → CoreCtx

/-- The date of a tick. -/
def TickCtx.today (ctx : TickCtx) : NaiveDate := ctx.now.dateNaive

/-- Go on with the tables a step left, unless it failed. -/
def andThen {α β : Type} (first : CoreResult α × Db) (next : α → Db → CoreResult β × Db) :
    CoreResult β × Db :=
  match first with
  | (.error e, db) => (.error e, db)
  | (.ok a, db) => next a db

def draftStep (ctx : TickCtx) (schedule : Schedule) (db : Db) : CoreResult DraftInvoiceOutput × Db :=
  draftInvoice (ctx.draft schedule.id) schedule.draftInput db

def issueStep (ctx : TickCtx) (schedule : Schedule) (drafted : DraftInvoiceOutput) (db : Db) :
    CoreResult Unit × Db :=
  if schedule.autoIssue then
    andThen (issueInvoice (ctx.issue schedule.id) (tickIssueInput drafted.invoice.id) db)
      fun _ db => (.ok (), db)
  else (.ok (), db)

def advanceStep (ctx : TickCtx) (schedule : Schedule) (db : Db) : CoreResult Unit × Db :=
  match schedule.cadence.advance schedule.nextRun with
  | none => (.error .panic, db)
  | some next => saveRow (schedule.advanced next ctx.now) () db

/-- One run of a due schedule. -/
def materialise (ctx : TickCtx) (schedule : Schedule) (db : Db) :
    CoreResult DraftInvoiceOutput × Db :=
  andThen (draftStep ctx schedule db) fun drafted db =>
    andThen (issueStep ctx schedule drafted db) fun _ db =>
      andThen (advanceStep ctx schedule db) fun _ db => (.ok drafted, db)

/-! ### The tick -/

structure SchedulesTickOutput where
  ranScheduleIds : List ScheduleId
  drafts : List DraftInvoiceOutput

/-- The loop over the due schedules. -/
def tickLoop (ctx : TickCtx) : List Schedule → SchedulesTickOutput → Db →
    CoreResult SchedulesTickOutput × Db
  | [], done, db => (.ok done, db)
  | schedule :: rest, done, db =>
      if schedule.state ≠ .active then tickLoop ctx rest done db
      else andThen (materialise ctx schedule db) fun drafted db =>
        tickLoop ctx rest ⟨done.ranScheduleIds ++ [schedule.id], done.drafts ++ [drafted]⟩ db

/-- **`schedules_tick`.** -/
def schedulesTick (ctx : TickCtx) (db : Db) : CoreResult SchedulesTickOutput × Db :=
  tickLoop ctx (db.dueSchedules ctx.today) ⟨[], []⟩ db

/-! ### Where a run ends -/

theorem saveRow_ok {α : Type} {schedule : Schedule} {output : α} {db : Db} {given : α}
    (done : (saveRow schedule output db).1 = .ok given) :
    given = output ∧ (saveRow schedule output db).2 = db.putSchedule schedule := by
  unfold saveRow at done ⊢
  cases saved : db.saveSchedule schedule with
  | error e =>
    rw [saved] at done
    cases done
  | ok db' =>
    rw [saved] at done
    cases done
    exact ⟨rfl, Db.saveSchedule_ok saved⟩

theorem saveRow_error {α : Type} {schedule : Schedule} {output : α} {db : Db} {stop : Stop CoreError}
    (failed : (saveRow schedule output db).1 = .error stop) :
    (saveRow schedule output db).2 = db := by
  unfold saveRow at failed ⊢
  cases saved : db.saveSchedule schedule with
  | error e => rfl
  | ok db' =>
    rw [saved] at failed
    cases failed

theorem draftStep_error {ctx : TickCtx} {schedule : Schedule} {db : Db} {stop : Stop CoreError}
    (failed : (draftStep ctx schedule db).1 = .error stop) :
    draftStep ctx schedule db = (.error stop, db) := Prod.ext failed (perform_error failed)

/-- The issue step is skipped, or is an issue. -/
theorem issueStep_cases (ctx : TickCtx) (schedule : Schedule) (drafted : DraftInvoiceOutput)
    (db : Db) :
    (schedule.autoIssue = false ∧ issueStep ctx schedule drafted db = (.ok (), db)) ∨
      (schedule.autoIssue = true ∧
        ((∃ stop, (issueInvoice (ctx.issue schedule.id) (tickIssueInput drafted.invoice.id) db).1 =
              .error stop ∧ issueStep ctx schedule drafted db = (.error stop, db)) ∨
          ∃ output, (issueInvoice (ctx.issue schedule.id) (tickIssueInput drafted.invoice.id) db).1 =
              .ok output ∧ issueStep ctx schedule drafted db =
                (.ok (), (issueInvoice (ctx.issue schedule.id)
                  (tickIssueInput drafted.invoice.id) db).2))) := by
  unfold issueStep
  cases auto : schedule.autoIssue with
  | false => exact Or.inl ⟨rfl, rfl⟩
  | true =>
    refine Or.inr ⟨rfl, ?_⟩
    cases done : issueInvoice (ctx.issue schedule.id) (tickIssueInput drafted.invoice.id) db with
    | mk result after =>
      cases result with
      | error stop =>
        have failed : (issueInvoice (ctx.issue schedule.id) (tickIssueInput drafted.invoice.id) db).1 =
          .error stop := by rw [done]
        have same := perform_error failed
        refine Or.inl ⟨stop, rfl, ?_⟩
        show (Except.error stop, after) = _
        rw [← same]
        unfold issueInvoice at done
        rw [done]
      | ok output => exact Or.inr ⟨output, rfl, rfl⟩

/-- The schedule row is left, or advanced to the next date of its cadence. -/
theorem advanceStep_cases (ctx : TickCtx) (schedule : Schedule) (db : Db) :
    (∃ stop, advanceStep ctx schedule db = (.error stop, db)) ∨
      ∃ next, schedule.cadence.advance schedule.nextRun = some next ∧
        advanceStep ctx schedule db =
          (.ok (), db.putSchedule (schedule.advanced next ctx.now)) := by
  unfold advanceStep
  cases schedule.cadence.advance schedule.nextRun with
  | none => exact Or.inl ⟨_, rfl⟩
  | some next =>
    show (∃ stop, saveRow (schedule.advanced next ctx.now) () db = (.error stop, db)) ∨ _
    cases saved : (saveRow (schedule.advanced next ctx.now) () db).1 with
    | error stop => exact Or.inl ⟨stop, Prod.ext saved (saveRow_error saved)⟩
    | ok _ => exact Or.inr ⟨next, rfl, Prod.ext saved (saveRow_ok saved).2⟩

theorem advanceStep_of_next {ctx : TickCtx} {schedule : Schedule} {db : Db} {next : NaiveDate}
    (next' : schedule.cadence.advance schedule.nextRun = some next)
    (customer : db.getCustomer schedule.customerId ≠ none) :
    advanceStep ctx schedule db = (.ok (), db.putSchedule (schedule.advanced next ctx.now)) := by
  have saved : db.saveSchedule (schedule.advanced next ctx.now) =
      .ok (db.putSchedule (schedule.advanced next ctx.now)) := if_neg customer
  unfold advanceStep
  rw [next']
  show saveRow (schedule.advanced next ctx.now) () db = _
  unfold saveRow
  rw [saved]

/-- **Where a run of a schedule can end**: refused, after its draft, after its issue, or done. -/
inductive RunEnd (ctx : TickCtx) (schedule : Schedule) (db : Db) :
    CoreResult DraftInvoiceOutput × Db → Prop
  | refused {stop : Stop CoreError} (draft : draftStep ctx schedule db = (.error stop, db)) :
      RunEnd ctx schedule db (.error stop, db)
  | drafted {output : DraftInvoiceOutput} {after : Db} {stop : Stop CoreError}
      (draft : draftStep ctx schedule db = (.ok output, after))
      (issue : issueStep ctx schedule output after = (.error stop, after)) :
      RunEnd ctx schedule db (.error stop, after)
  | issued {output : DraftInvoiceOutput} {between after : Db} {stop : Stop CoreError}
      (draft : draftStep ctx schedule db = (.ok output, between))
      (issue : issueStep ctx schedule output between = (.ok (), after))
      (save : advanceStep ctx schedule after = (.error stop, after)) :
      RunEnd ctx schedule db (.error stop, after)
  | done {output : DraftInvoiceOutput} {first second : Db} {next : NaiveDate}
      (draft : draftStep ctx schedule db = (.ok output, first))
      (issue : issueStep ctx schedule output first = (.ok (), second))
      (next' : schedule.cadence.advance schedule.nextRun = some next) :
      RunEnd ctx schedule db (.ok output, second.putSchedule (schedule.advanced next ctx.now))

theorem materialise_cases (ctx : TickCtx) (schedule : Schedule) (db : Db) :
    RunEnd ctx schedule db (materialise ctx schedule db) := by
  unfold materialise
  cases draft : draftStep ctx schedule db with
  | mk result first =>
    cases result with
    | error stop =>
      have same := draftStep_error (congrArg Prod.fst draft)
      rw [draft] at same
      cases same
      exact .refused draft
    | ok output =>
      show RunEnd ctx schedule db (andThen (issueStep ctx schedule output first) _)
      have issued : ∀ second, issueStep ctx schedule output first = (.ok (), second) →
          RunEnd ctx schedule db (andThen (advanceStep ctx schedule second)
            fun _ db => (.ok output, db)) := by
        intro second issue
        rcases advanceStep_cases ctx schedule second with ⟨stop, save⟩ | ⟨next, next', save⟩
        · rw [save]
          exact .issued draft issue save
        · rw [save]
          exact .done draft issue next'
      rcases issueStep_cases ctx schedule output first with
        ⟨_, issue⟩ | ⟨_, ⟨stop, _, issue⟩ | ⟨_, _, issue⟩⟩
      · rw [issue]
        exact issued _ issue
      · rw [issue]
        exact .drafted draft issue
      · rw [issue]
        exact issued _ issue

end Invoicing
