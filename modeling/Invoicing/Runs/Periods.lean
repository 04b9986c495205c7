/-
**One run for each month, quarter or year.**

* `Schedule.OnePerPeriod` — no two run dates of a schedule lie in one period of its cadence.
* **`one_run_per_period`** — a created schedule is so exactly when its start has reached the cadence's day
  in its period; then the tables hold one run for each period, at every moment.
* `twice_in_march` — a schedule that starts a day early runs twice in its first month.
-/

import Invoicing.Domain.Cadence
import Invoicing.Runs.Recurring

namespace Invoicing

open Chrono Recurrence

/-- No two run dates lie in one period. -/
def Schedule.OnePerPeriod (row : Schedule) : Prop :=
  ∀ m n first second, m < n → row.runDate m = some first → row.runDate n = some second →
    row.cadence.period first ≠ row.cadence.period second

/-- The runs the tables hold of a schedule lie in different periods. -/
theorem Billed.onePerPeriod {row : Schedule} {ticks : List NaiveDate} {n : ℕ} {db : Db}
    (billed : Billed row ticks n db) (distinct : row.OnePerPeriod) {first second : NaiveDate}
    (years : InYears first) (years' : InYears second) (there : Materialised db row.id first)
    (there' : Materialised db row.id second) (differ : first ≠ second) :
    row.cadence.period first ≠ row.cadence.period second := by
  obtain ⟨m, _, found⟩ := billed.only first years there
  obtain ⟨k, _, found'⟩ := billed.only second years' there'
  rcases lt_trichotomy m k with before | rfl | after
  · exact distinct m k first second before found found'
  · rw [found] at found'
    exact absurd (Option.some.inj found') differ
  · exact (distinct k m second first after found' found).symm

/-- **A created schedule runs once for each period exactly when its start has reached its day**, and then
every moment of its runs shows one run for each. -/
theorem one_run_per_period (ctx : CoreCtx) (input : ScheduleCreateInput) :
    ((newSchedule ctx input).OnePerPeriod ↔ input.cadence.Reached input.startDate) ∧
      ∀ row ticks n db, SameRule row (newSchedule ctx input) → Billed row ticks n db →
        input.cadence.Reached input.startDate → ∀ first second, InYears first → InYears second →
          Materialised db row.id first → Materialised db row.id second → first ≠ second →
            row.cadence.period first ≠ row.cadence.period second := by
  have created : (newSchedule ctx input).OnePerPeriod ↔ input.cadence.Reached input.startDate :=
    Cadence.periods_distinct_iff input.cadence input.startDate
  refine ⟨created, ?_⟩
  intro row ticks n db rule billed reached first second years years' there there'
  have distinct : row.OnePerPeriod := by
    have dates : row.runDate = (newSchedule ctx input).runDate := by
      unfold Schedule.runDate
      rw [rule.cadence, rule.startDate]
    unfold Schedule.OnePerPeriod
    rw [dates, rule.cadence]
    exact created.mpr reached
  exact billed.onePerPeriod distinct years years' there there'

/-- A schedule of the second of the month that starts on the first of March. -/
def earlySchedule : ScheduleCreateInput := { sampleSchedule with cadence := .monthly ⟨2, by decide⟩ }

/-- Its creation, and a tick on each of the first two days of March. -/
def earlyDb : Db :=
  runActions sampleDb [.create (sampleCtx (oneOClock firstOfMarch) 1) earlySchedule,
    .tick (sampleTick (oneOClock firstOfMarch) 10), .tick (sampleTick (oneOClock secondOfMarch) 20)]

/-- **Two runs in one month**: the start and the cadence's day right after it. -/
theorem twice_in_march :
    ∃ id, earlyDb.schedules.map Schedule.id = [id] ∧ Materialised earlyDb id firstOfMarch ∧
      Materialised earlyDb id secondOfMarch ∧ firstOfMarch ≠ secondOfMarch ∧
      earlySchedule.cadence.period firstOfMarch = earlySchedule.cadence.period secondOfMarch := by
  refine ⟨⟨1⟩, ?_⟩
  unfold Materialised
  decide +kernel

/-- The first of April. -/
def firstOfApril : NaiveDate := ⟨2025, 4, 1, by decide⟩

/-- A tick on the first of April. -/
def aprilTick : TickCtx := sampleTick (oneOClock firstOfApril) 20

/-- The tables of the schedule of the first of the month, after its ticks in March and in April. -/
def springDb : Db := runActions monthlyDb [.tick firstTick, .tick aprilTick]

/-- Both dates are billed, in different months. -/
theorem one_run_per_period_in_spring :
    Materialised springDb monthly.id firstOfMarch ∧ Materialised springDb monthly.id firstOfApril ∧
      monthly.cadence.period firstOfMarch ≠ monthly.cadence.period firstOfApril := by
  have march : Materialised springDb monthly.id firstOfMarch := by
    unfold Materialised
    decide +kernel
  have april : Materialised springDb monthly.id firstOfApril := by
    unfold Materialised
    decide +kernel
  have accepted : (scheduleCreate (sampleCtx (oneOClock firstOfMarch) 1) sampleSchedule sampleDb).1 =
      .ok ⟨monthly⟩ := rfl
  have owned : RunKeysOwned sampleDb := by
    rintro id date ⟨inv, absent, _⟩
    cases absent
  have sound : sampleDb.Sound := ⟨⟨List.nodup_nil, fun _ absent => by cases absent⟩, List.nodup_nil⟩
  obtain ⟨stored, begun⟩ := billed_of_created owned rfl accepted
  have kept : monthlyDb.Sound ∧ RunKeysOwned monthlyDb := Action.Regular.keeps
    (show (Action.create (sampleCtx (oneOClock firstOfMarch) 1) sampleSchedule).Regular sampleDb from rfl)
    sound owned
  have regular : AllActions (fun db action => action.Regular db) monthlyDb
      [.tick firstTick, .tick aprilTick] := by
    refine ⟨⟨⟨_, rfl⟩, monthlyDb_draws, ⟨by decide, by decide⟩, ?_⟩,
      ⟨⟨_, rfl⟩, ⟨?_, ?_⟩, ⟨by decide, by decide⟩, ?_⟩, trivial⟩
    · unfold InYears
      decide +kernel
    · decide +kernel
    · decide +kernel
    · unfold InYears
      decide +kernel
  obtain ⟨row, n, _, rule, billed⟩ := begun.run kept.1 kept.2 regular stored
  have apart := (one_run_per_period (sampleCtx (oneOClock firstOfMarch) 1) sampleSchedule).2 row _ n
    springDb rule billed (by decide) firstOfMarch firstOfApril ⟨by decide, by decide⟩
    ⟨by decide, by decide⟩
  rw [rule.id, rule.cadence] at apart
  exact ⟨march, april, apart march april (by decide)⟩

end Invoicing
