/-
**No run before its date.**

* `BillsNothingEarly` — what a tick newly bills of a schedule does not lie after its date.
* **`no_early_run`** — a due schedule is early exactly when its year and the tick's sort the wrong way round
  as texts, and then a tick that goes through bills it early; the exact condition on the two years for any
  disagreement of the two orders.
* `run_in_year_ten_thousand` — a schedule that starts in the year 10000 runs at once.
-/

import Invoicing.Lib.DateOrder
import Invoicing.Runs.Recurring

namespace Invoicing

open Chrono

/-- What a tick newly bills of a schedule does not lie after the tick's date. -/
def BillsNothingEarly (ctx : TickCtx) (db : Db) (row : Schedule) : Prop :=
  ∀ date, Materialised (schedulesTick ctx db).2 row.id date →
    Materialised db row.id date ∨ date ≤ ctx.today

/-- A tick bills nothing early of a schedule that is not early when it is due. -/
theorem billsNothingEarly_of_due {ctx : TickCtx} {db : Db} {row : Schedule} (sound : db.Sound)
    (draws : DrawsFresh ctx (db.dueSchedules ctx.today) db) (stored : row ∈ db.schedules)
    (inOrder : row ∈ db.dueSchedules ctx.today → row.nextRun ≤ ctx.today) :
    BillsNothingEarly ctx db row := by
  intro date billed
  have found : db.getSchedule row.id = some row := KeyedTable.find_of_mem sound.schedules stored
  by_cases run : row ∈ db.dueSchedules ctx.today ∧ row.runKey = runKey row.id date
  · obtain ⟨due, same⟩ := run
    right
    rw [← NaiveDate.text_injective (runKey_inj same).2]
    exact inOrder due
  · left
    refine (schedulesTick_otherDates sound draws found fun due => ?_).mp billed
    exact not_and.mp run due

/-- **Exactly when `due` follows the calendar**: for every stored schedule and every date of a tick, a due
schedule is not early unless the year of its next run is printed before an earlier one; and the order of
the texts is that of the calendar unless one of the two years is. So a tick bills nothing of it early
where its year is not turned round, and a tick that goes through bills a run not billed yet early where
it is. -/
theorem no_early_run (ctx : TickCtx) (db : Db) (row : Schedule) (stored : row ∈ db.schedules)
    (active : row.state = .active) :
    ((row ∈ db.dueSchedules ctx.today → row.nextRun ≤ ctx.today) ↔
        ¬ Misordered row.nextRun.year ctx.today.year) ∧
      ((row ∈ db.dueSchedules ctx.today ↔ row.nextRun ≤ ctx.today) ↔
        ¬ Misordered row.nextRun.year ctx.today.year ∧ ¬ Misordered ctx.today.year row.nextRun.year) ∧
      (db.Sound → DrawsFresh ctx (db.dueSchedules ctx.today) db →
        (¬ Misordered row.nextRun.year ctx.today.year → BillsNothingEarly ctx db row) ∧
          ∀ output, (schedulesTick ctx db).1 = .ok output → ¬ Materialised db row.id row.nextRun →
            (BillsNothingEarly ctx db row ↔ ¬ Misordered row.nextRun.year ctx.today.year)) := by
  have due : row ∈ db.dueSchedules ctx.today ↔ row.nextRun.text ≤ ctx.today.text := by
    rw [mem_dueSchedules]
    exact ⟨fun member => member.2.2, fun printed => ⟨stored, active, printed⟩⟩
  have early : (row ∈ db.dueSchedules ctx.today → row.nextRun ≤ ctx.today) ↔
      ¬ Misordered row.nextRun.year ctx.today.year := by
    rw [due]
    exact NaiveDate.le_of_text_le_iff row.nextRun ctx.today
  refine ⟨early, ?_, ?_⟩
  · rw [due]
    exact NaiveDate.text_le_agrees_iff row.nextRun ctx.today
  · intro sound draws
    have enough : ¬ Misordered row.nextRun.year ctx.today.year → BillsNothingEarly ctx db row :=
      fun inOrder => billsNothingEarly_of_due sound draws stored (early.mpr inOrder)
    refine ⟨enough, fun output done unbilled => ⟨fun nothing => early.mp fun isDue => ?_, enough⟩⟩
    have billed := (schedulesTick_due sound draws done isDue).1
    exact (nothing row.nextRun billed).resolve_left unbilled

theorem valid_yearTenThousand : ValidYmd 10000 1 1 := by decide

/-- The first day of the year 10000. -/
def yearTenThousand : NaiveDate := ⟨10000, 1, 1, valid_yearTenThousand⟩

def farSchedule : ScheduleCreateInput := { sampleSchedule with startDate := yearTenThousand }

/-- Its creation, and a tick in March 2025. -/
def farDb : Db :=
  runActions sampleDb [.create (sampleCtx (oneOClock firstOfMarch) 1) farSchedule, .tick firstTick]

/-- **A run some eight thousand years early**: the schedule is accepted, and the first tick bills it. -/
theorem run_in_year_ten_thousand :
    ∃ output, (scheduleCreate (sampleCtx (oneOClock firstOfMarch) 1) farSchedule sampleDb).1 = .ok output ∧
      firstTick.today < output.schedule.nextRun ∧
      Materialised farDb output.schedule.id output.schedule.nextRun := by
  refine ⟨⟨newSchedule (sampleCtx (oneOClock firstOfMarch) 1) farSchedule⟩, rfl, by decide, ?_⟩
  unfold Materialised
  decide +kernel

/-- The schedule of the first of March and the tick of that day: due, not early, and billed. -/
theorem no_early_run_in_march :
    monthly ∈ monthlyDb.dueSchedules firstTick.today ∧ monthly.nextRun ≤ firstTick.today ∧
      BillsNothingEarly firstTick monthlyDb monthly := by
  have stored : monthly ∈ monthlyDb.schedules := by decide +kernel
  have due : monthly ∈ monthlyDb.dueSchedules firstTick.today := by decide +kernel
  obtain ⟨inOrder, _, bills⟩ := no_early_run firstTick monthlyDb monthly stored rfl
  have notTurned : ¬ Misordered monthly.nextRun.year firstTick.today.year := by decide
  have sound : monthlyDb.Sound := by
    refine ⟨⟨List.nodup_nil, fun _ absent => by cases absent⟩, ?_⟩
    exact List.nodup_singleton _
  exact ⟨due, inOrder.mpr notTurned due, (bills sound monthlyDb_draws).1 notTurned⟩

end Invoicing
