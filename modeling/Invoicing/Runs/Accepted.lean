/-
**Accepted schedules and the drafts their runs ask for.**

* `ScheduleCreateInput.Billable` — what `draft_invoice` checks and `schedule_create` does not: the
  currency is one of version 1, and no description is blank.
* **`accepted_iff_billable`** — the drafts of an accepted schedule pass the checks of `draft_invoice`
  exactly then, at every run date. **`euro_schedule_accepted`** — a schedule in euros is accepted.
-/

import Invoicing.Commands.Schedule
import Invoicing.Runs.Steps

namespace Invoicing

open Chrono KeyedTable

/-- What the two validators do not share. -/
def ScheduleCreateInput.Billable (input : ScheduleCreateInput) : Prop :=
  input.currency.Supported ∧ ∀ line ∈ input.templateLines, isBlank line.description = false

/-- A template line as the line of a draft. -/
def ScheduleLineInput.draftLine (line : ScheduleLineInput) : DraftLineInput :=
  ⟨line.description, line.quantity, line.unitPrice, line.taxCategory⟩

/-- A schedule that was refused leaves the tables. -/
theorem scheduleCreate_error {ctx : CoreCtx} {input : ScheduleCreateInput} {db : Db}
    {stop : Stop CoreError} (refused : (scheduleCreate ctx input db).1 = .error stop) :
    (scheduleCreate ctx input db).2 = db := by
  unfold scheduleCreate at refused ⊢
  cases valid : input.validate with
  | error e => rfl
  | ok _ =>
    rw [valid] at refused
    exact saveRow_error refused

theorem newSchedule_draftLines (ctx : CoreCtx) (input : ScheduleCreateInput) :
    (newSchedule ctx input).draftInput.lines =
      input.templateLines.map ScheduleLineInput.draftLine := by
  refine List.ext_getElem? fun i => ?_
  simp only [Schedule.draftInput, newSchedule, List.getElem?_map, List.getElem?_mapIdx,
    Option.map_map]
  rfl

/-- A schedule that was created is stored. -/
theorem scheduleCreate_stored {ctx : CoreCtx} {input : ScheduleCreateInput} {db : Db}
    {output : ScheduleCreateOutput} (accepted : (scheduleCreate ctx input db).1 = .ok output) :
    input.validate = .ok () ∧ output.schedule = newSchedule ctx input ∧
      (scheduleCreate ctx input db).2 = db.putSchedule (newSchedule ctx input) := by
  unfold scheduleCreate at accepted ⊢
  cases valid : input.validate with
  | error e =>
    rw [valid] at accepted
    cases accepted
  | ok _ =>
    rw [valid] at accepted
    obtain ⟨rfl, after⟩ := saveRow_ok accepted
    exact ⟨rfl, rfl, after⟩

/-- **The drafts of an accepted schedule are accepted** exactly when its currency is one of version 1
and no description is blank: for every row that has the stored template, at any run date. -/
theorem accepted_iff_billable {ctx : CoreCtx} {input : ScheduleCreateInput} {db : Db}
    {output : ScheduleCreateOutput} (accepted : (scheduleCreate ctx input db).1 = .ok output) :
    ∃ stored, (scheduleCreate ctx input db).2.getSchedule output.schedule.id = some stored ∧
      ∀ row : Schedule, row.templateLines = stored.templateLines → row.currency = stored.currency →
        (row.draftInput.validate = .ok () ↔ input.Billable) := by
  obtain ⟨valid, same, after⟩ := scheduleCreate_stored accepted
  obtain ⟨nonempty, lines, _⟩ := ScheduleCreateInput.validate_ok valid
  rw [after, same]
  refine ⟨_, Db.getSchedule_put db (newSchedule ctx input), ?_⟩
  intro row template currency
  have rowLines : row.draftInput.lines = input.templateLines.map ScheduleLineInput.draftLine := by
    rw [← newSchedule_draftLines ctx input]
    show row.templateLines.map _ = _
    rw [template]
    cases db.getSchedule (newSchedule ctx input).id <;> rfl
  have rowCurrency : row.draftInput.currency = input.currency := by
    show row.currency = _
    rw [currency]
    cases db.getSchedule (newSchedule ctx input).id <;> rfl
  rw [DraftInvoiceInput.validate_ok, rowLines, rowCurrency]
  constructor
  · rintro ⟨_, supported, valid⟩
    refine ⟨supported, ?_⟩
    intro line member
    exact (valid _ (List.mem_map_of_mem member)).1
  · rintro ⟨supported, described⟩
    refine ⟨by simpa using nonempty, supported, ?_⟩
    intro drafted member
    obtain ⟨line, inside, rfl⟩ := List.mem_map.mp member
    exact ⟨described line inside, lines line inside⟩

/-! ### A schedule -/

/-- 100.00 a month, from the first of March on. -/
def sampleSchedule : ScheduleCreateInput where
  customerId := ⟨1⟩
  templateLines := [⟨"Retainer", ⟨1, 0, Decimal.fits_one⟩, ⟨10000, 2, fits_hundred⟩, .standard⟩]
  currency := Currency.cad
  cadence := .monthly ⟨1, by decide⟩
  startDate := firstOfMarch
  endDate := none
  autoIssue := true
  actor := .cli "operator"
  channel := .cli

/-- The row `schedule_create` makes of it. -/
def monthly : Schedule := newSchedule (sampleCtx (oneOClock firstOfMarch) 1) sampleSchedule

/-- A tick; the numbers of the ids it draws count on from `draw`. -/
def sampleTick (time : DateTime) (draw : ℕ) : TickCtx where
  now := time
  draft id := sampleCtx time (draw + 2 * id.uuid.toNat)
  issue id := sampleCtx time (draw + 2 * id.uuid.toNat + 1)

/-- The same in euros. -/
def euroSchedule : ScheduleCreateInput := { sampleSchedule with currency := ⟨"EUR", by decide⟩ }

/-- A schedule in euros is created, and its first draft is refused. -/
theorem euro_schedule_accepted :
    ∃ output, (scheduleCreate (sampleCtx (oneOClock firstOfMarch) 1) euroSchedule sampleDb).1 =
        .ok output ∧
      output.schedule.draftInput.validate = fail (.validation
        "currency EUR not supported at v1 (use USD, CAD, or DZD)") := by
  refine ⟨_, rfl, ?_⟩
  decide +kernel

theorem accepted_iff_billable_monthly :
    ∃ output stored,
      (scheduleCreate (sampleCtx (oneOClock firstOfMarch) 1) sampleSchedule sampleDb).1 = .ok output ∧
      (scheduleCreate (sampleCtx (oneOClock firstOfMarch) 1) sampleSchedule sampleDb).2.getSchedule
        output.schedule.id = some stored ∧
      ∀ row : Schedule, row.templateLines = stored.templateLines → row.currency = stored.currency →
        (row.draftInput.validate = .ok () ↔ sampleSchedule.Billable) := by
  have accepted : (scheduleCreate (sampleCtx (oneOClock firstOfMarch) 1) sampleSchedule
      sampleDb).1 = .ok ⟨newSchedule (sampleCtx (oneOClock firstOfMarch) 1) sampleSchedule⟩ := rfl
  obtain ⟨stored, found, rows⟩ := accepted_iff_billable accepted
  exact ⟨_, stored, accepted, found, rows⟩

end Invoicing
