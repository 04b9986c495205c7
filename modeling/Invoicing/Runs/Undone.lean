/-
**Ticks beside pauses and cancels.**

* `ScheduleRun` — where a tick, a pause or a cancel stands; `advanceSchedule` is one atomic step of it:
  selecting the due rows, a draft, an issue, the load of a row or its save. **`tick_alone`** — a tick
  that is never interrupted is `schedules_tick`.
* `NotUndone` — a cancelled schedule stays cancelled, one that is not active does not become active,
  and no next run moves back.
* `SavesOnto` — when a save finds the stored row in a state it may overwrite.
* **`not_undone_iff`** — in every interleaving the other writers of a schedule are not undone exactly
  if every accepted save finds such a row. **`cancel_undone`** — a tick that selected a schedule before
  it was cancelled makes it active again.
-/

import Invoicing.Lib.Interleave
import Invoicing.Runs.Recovery

namespace Invoicing

open Chrono Interleave KeyedTable

/-! ### Steps -/

/-- A pause or a cancel. -/
inductive StateChange
  | pause
  | cancel
  deriving DecidableEq

def StateChange.toState : StateChange → ScheduleState
  | .pause => .paused
  | .cancel => .cancelled

/-- Where a run stands. -/
inductive ScheduleRun
  | tick (ctx : TickCtx)
  | looping (ctx : TickCtx) (rows : List Schedule) (done : SchedulesTickOutput)
  | issuing (ctx : TickCtx) (schedule : Schedule) (drafted : DraftInvoiceOutput)
      (rest : List Schedule) (done : SchedulesTickOutput)
  | saving (ctx : TickCtx) (schedule : Schedule) (drafted : DraftInvoiceOutput)
      (rest : List Schedule) (done : SchedulesTickOutput)
  | change (ctx : CoreCtx) (input : ScheduleStateChangeInput) (kind : StateChange)
  | changing (kind : StateChange) (schedule : Schedule)
  | finished (outcome : CoreResult Unit)

/-- The loop from its next active schedule on: its draft, or the end of the tick. -/
def loopStep (ctx : TickCtx) (done : SchedulesTickOutput) (db : Db) : List Schedule → ScheduleRun × Db
  | [] => (.finished (.ok ()), db)
  | schedule :: rest =>
      if schedule.state ≠ .active then loopStep ctx done db rest
      else match draftStep ctx schedule db with
        | (.error stop, after) => (.finished (.error stop), after)
        | (.ok drafted, after) => (.issuing ctx schedule drafted rest done, after)

/-- One step of a run. -/
def advanceSchedule (run : ScheduleRun) (db : Db) : ScheduleRun × Db :=
  match run with
  | .tick ctx => (.looping ctx (db.dueSchedules ctx.today) ⟨[], []⟩, db)
  | .looping ctx rows done => loopStep ctx done db rows
  | .issuing ctx schedule drafted rest done =>
      match issueStep ctx schedule drafted db with
      | (.error stop, after) => (.finished (.error stop), after)
      | (.ok _, after) => (.saving ctx schedule drafted rest done, after)
  | .saving ctx schedule drafted rest done =>
      match advanceStep ctx schedule db with
      | (.error stop, after) => (.finished (.error stop), after)
      | (.ok _, after) =>
          (.looping ctx rest ⟨done.ranScheduleIds ++ [schedule.id], done.drafts ++ [drafted]⟩, after)
  | .change ctx input kind =>
      match prepareTransition ctx input kind.toState db with
      | .error stop => (.finished (.error stop), db)
      | .ok schedule => (.changing kind schedule, db)
  | .changing _ schedule =>
      match saveRow schedule () db with
      | (result, after) => (.finished result, after)
  | .finished outcome => (.finished outcome, db)

/-! ### A tick alone -/

/-- A run that is alone. -/
def alone (run : ScheduleRun) (db : Db) : Pool Db ScheduleRun := ⟨db, [run]⟩

/-- A run takes a number of turns alone and finishes. -/
def FinishesAlone (start : ScheduleRun × Db) (outcome : CoreResult Unit × Db) : Prop :=
  ∃ turns, (alone start.1 start.2).exec advanceSchedule (List.replicate turns 0) =
    alone (.finished outcome.1) outcome.2

theorem FinishesAlone.step {run : ScheduleRun} {db : Db} {outcome : CoreResult Unit × Db}
    (rest : FinishesAlone (advanceSchedule run db) outcome) : FinishesAlone (run, db) outcome := by
  obtain ⟨turns, finished⟩ := rest
  exact ⟨turns + 1, finished⟩

theorem FinishesAlone.done (outcome : CoreResult Unit) (db : Db) :
    FinishesAlone (.finished outcome, db) (outcome, db) := ⟨0, rfl⟩

/-- What a tick's result is without its output. -/
def withoutOutput {α : Type} (result : CoreResult α × Db) : CoreResult Unit × Db :=
  (result.1.map fun _ => (), result.2)

/-- The loop alone does what the loop of a tick does. -/
theorem loopStep_alone (ctx : TickCtx) (rows : List Schedule) (done : SchedulesTickOutput) (db : Db) :
    FinishesAlone (loopStep ctx done db rows) (withoutOutput (tickLoop ctx rows done db)) := by
  induction rows generalizing done db with
  | nil => exact .done (.ok ()) db
  | cons schedule rest ih =>
    rw [loopStep, tickLoop]
    split
    · exact ih done db
    · rw [materialise]
      cases draftStep ctx schedule db with
      | mk result first =>
        cases result with
        | error stop => exact .done (.error stop) first
        | ok drafted =>
          refine .step ?_
          simp only [advanceSchedule, andThen]
          cases issueStep ctx schedule drafted first with
          | mk result second =>
            cases result with
            | error stop => exact .done (.error stop) second
            | ok _ =>
              refine .step ?_
              simp only [advanceSchedule]
              cases advanceStep ctx schedule second with
              | mk result third =>
                cases result with
                | error stop => exact .done (.error stop) third
                | ok _ => exact .step (ih _ third)

/-- **A tick whose steps nothing interrupts is `schedules_tick`.** -/
theorem tick_alone (ctx : TickCtx) (db : Db) :
    FinishesAlone (.tick ctx, db) (withoutOutput (schedulesTick ctx db)) :=
  .step (.step (loopStep_alone ctx (db.dueSchedules ctx.today) ⟨[], []⟩ db))

/-! ### Undoing -/

/-- What is stored of a schedule is not undone: cancelled is terminal, nothing resumes, and no next
run moves back. -/
structure Schedule.KeptBy (before after : Schedule) : Prop where
  cancelled : before.state = .cancelled → after.state = .cancelled
  notActive : before.state ≠ .active → after.state ≠ .active
  nextRun : before.nextRun ≤ after.nextRun

def NotUndone (before after : Db) : Prop :=
  ∀ id row, before.getSchedule id = some row →
    ∃ row', after.getSchedule id = some row' ∧ row.KeptBy row'

theorem Schedule.KeptBy.refl (row : Schedule) : row.KeptBy row :=
  ⟨fun same => same, fun same => same, le_rfl⟩

theorem Schedule.KeptBy.trans {first second third : Schedule} (one : first.KeptBy second)
    (two : second.KeptBy third) : first.KeptBy third :=
  ⟨two.cancelled ∘ one.cancelled, two.notActive ∘ one.notActive, one.nextRun.trans two.nextRun⟩

theorem NotUndone.of_rows {before after : Db} (same : after.schedules = before.schedules) :
    NotUndone before after := by
  intro id row stored
  refine ⟨row, ?_, .refl row⟩
  unfold Db.getSchedule
  rw [same]
  exact stored

theorem NotUndone.refl (db : Db) : NotUndone db db := .of_rows rfl

theorem NotUndone.trans {first second third : Db} (one : NotUndone first second)
    (two : NotUndone second third) : NotUndone first third := by
  intro id row stored
  obtain ⟨row', stored', kept⟩ := one id row stored
  obtain ⟨row'', stored'', kept'⟩ := two id row' stored'
  exact ⟨row'', stored'', kept.trans kept'⟩

/-- **A save undoes nothing exactly if it keeps the stored row.** -/
theorem notUndone_put_iff (db : Db) (saved : Schedule) :
    NotUndone db (db.putSchedule saved) ↔
      ∀ stored, db.getSchedule saved.id = some stored → stored.KeptBy saved := by
  constructor
  · intro notUndone stored found
    obtain ⟨row', found', kept⟩ := notUndone _ _ found
    rw [Db.getSchedule_put, found] at found'
    cases found'
    exact ⟨kept.cancelled, kept.notActive, kept.nextRun⟩
  · intro keeps id row stored
    by_cases same : id = saved.id
    · subst same
      have kept := keeps row stored
      refine ⟨_, Db.getSchedule_put db saved, ?_⟩
      rw [stored]
      exact ⟨kept.cancelled, kept.notActive, kept.nextRun⟩
    · exact ⟨row, (find_upsert_other Schedule.keepsKey db.schedules same).trans stored, .refl row⟩

/-! ### What a save finds -/

/-- The next date of a schedule's cadence lies past its end. -/
def Schedule.EndsBefore (schedule : Schedule) (next : NaiveDate) : Prop :=
  ∃ last ∈ schedule.endDate, last < next

/-- A tick's save of a row it loaded finds it still active, unless the run is its last, and not moved
on past the date after the loaded one. -/
def TickSavesOnto (loaded stored : Schedule) : Prop :=
  ∀ next, loaded.cadence.advance loaded.nextRun = some next →
    (stored.state = .active ∨ loaded.EndsBefore next) ∧ stored.nextRun ≤ next

/-- A pause finds the row it loaded not cancelled, a pause and a cancel find it not moved on. -/
def ChangeSavesOnto (kind : StateChange) (loaded stored : Schedule) : Prop :=
  (kind = .pause → stored.state ≠ .cancelled) ∧ stored.nextRun ≤ loaded.nextRun

/-- What an accepted save finds stored. -/
def SavesOnto (db : Db) : ScheduleRun → Prop
  | .saving _ schedule _ _ _ => db.getCustomer schedule.customerId ≠ none →
      ∀ stored, db.getSchedule schedule.id = some stored → TickSavesOnto schedule stored
  | .changing kind schedule => db.getCustomer schedule.customerId ≠ none →
      ∀ stored, db.getSchedule schedule.id = some stored → ChangeSavesOnto kind schedule stored
  | _ => True

/-- What holds of a run: a tick runs active rows, and a change saves the state it is for. -/
def ScheduleRun.WellFormed : ScheduleRun → Prop
  | .issuing _ schedule _ _ _ => schedule.state = .active
  | .saving _ schedule _ _ _ => schedule.state = .active
  | .changing kind schedule => schedule.state = kind.toState
  | _ => True

theorem loopStep_wellFormed (ctx : TickCtx) (done : SchedulesTickOutput) (db : Db)
    (rows : List Schedule) : (loopStep ctx done db rows).1.WellFormed := by
  induction rows with
  | nil =>
    unfold loopStep
    trivial
  | cons schedule rest ih =>
    unfold loopStep
    by_cases active : schedule.state = .active
    · rw [if_neg (not_not.mpr active)]
      cases draftStep ctx schedule db with
      | mk result after =>
        cases result with
        | error stop => trivial
        | ok drafted => exact active
    · rw [if_pos active]
      exact ih

theorem prepareTransition_ok {ctx : CoreCtx} {input : ScheduleStateChangeInput}
    {toState : ScheduleState} {db : Db} {row : Schedule}
    (prepared : prepareTransition ctx input toState db = .ok row) : row.state = toState := by
  obtain ⟨loaded, _, rest⟩ := bind_ok prepared
  split at rest
  · cases rest
  · cases rest
    rfl

theorem advanceSchedule_wellFormed {run : ScheduleRun} (wellFormed : run.WellFormed) (db : Db) :
    (advanceSchedule run db).1.WellFormed := by
  cases run with
  | tick ctx => trivial
  | looping ctx rows done => exact loopStep_wellFormed ctx done db rows
  | issuing ctx schedule drafted rest done =>
    simp only [advanceSchedule]
    cases issueStep ctx schedule drafted db with
    | mk result after =>
      cases result with
      | error stop => trivial
      | ok _ => exact wellFormed
  | saving ctx schedule drafted rest done =>
    simp only [advanceSchedule]
    cases advanceStep ctx schedule db with
    | mk result after => cases result <;> trivial
  | change ctx input kind =>
    simp only [advanceSchedule]
    cases prepared : prepareTransition ctx input kind.toState db with
    | error stop => trivial
    | ok schedule => exact prepareTransition_ok prepared
  | changing kind schedule => trivial
  | finished outcome => trivial

/-! ### One turn -/

theorem loopStep_schedules (ctx : TickCtx) (done : SchedulesTickOutput) (db : Db)
    (rows : List Schedule) : (loopStep ctx done db rows).2.schedules = db.schedules := by
  induction rows with
  | nil => rfl
  | cons schedule rest ih =>
    unfold loopStep
    split
    · exact ih
    · have leaves := (draftStep_leaves ctx schedule db).2
      cases drafted : draftStep ctx schedule db with
      | mk result after =>
        rw [drafted] at leaves
        cases result <;> exact leaves

/-- **The row a tick saves keeps the stored one** exactly if the tick saves onto it. -/
theorem keptBy_advanced_iff {loaded stored : Schedule} {next : NaiveDate} {time : DateTime}
    (active : loaded.state = .active) (next' : loaded.cadence.advance loaded.nextRun = some next) :
    stored.KeptBy (loaded.advanced next time) ↔ TickSavesOnto loaded stored := by
  have state : (loaded.advanced next time).state =
      if ∃ last ∈ loaded.endDate, last < next then .cancelled else .active := by
    rw [← active]
    rfl
  constructor
  · intro kept other other'
    rw [next'] at other'
    cases other'
    refine ⟨?_, kept.nextRun⟩
    by_contra neither
    obtain ⟨notActive, goesOn⟩ := not_or.mp neither
    exact kept.notActive notActive (state.trans (if_neg goesOn))
  · intro saves
    obtain ⟨open', later⟩ := saves next next'
    refine ⟨?_, ?_, later⟩
    · intro cancelled
      rcases open' with isActive | ends
      · rw [cancelled] at isActive
        cases isActive
      · exact state.trans (if_pos ends)
    · intro notActive
      rcases open' with isActive | ends
      · exact absurd isActive notActive
      · rw [state.trans (if_pos ends)]
        exact ScheduleState.noConfusion

/-- **The row a change saves keeps the stored one** exactly if the change saves onto it. -/
theorem keptBy_changed_iff {kind : StateChange} {saved stored : Schedule}
    (state : saved.state = kind.toState) :
    stored.KeptBy saved ↔ ChangeSavesOnto kind saved stored := by
  cases kind with
  | pause =>
    constructor
    · intro kept
      refine ⟨fun _ cancelled => ?_, kept.nextRun⟩
      have after := (kept.cancelled cancelled).symm.trans state
      cases after
    · rintro ⟨notCancelled, later⟩
      refine ⟨fun cancelled => absurd cancelled (notCancelled rfl), fun _ => ?_, later⟩
      rw [state]
      exact ScheduleState.noConfusion
  | cancel =>
    constructor
    · intro kept
      exact ⟨fun other => StateChange.noConfusion other, kept.nextRun⟩
    · rintro ⟨_, later⟩
      refine ⟨fun _ => state, fun _ => ?_, later⟩
      rw [state]
      exact ScheduleState.noConfusion

/-- **One turn undoes nothing exactly if its save finds a row it may overwrite.** -/
theorem advanceSchedule_notUndone_iff {run : ScheduleRun} (wellFormed : run.WellFormed) (db : Db) :
    NotUndone db (advanceSchedule run db).2 ↔ SavesOnto db run := by
  cases run with
  | tick ctx => exact iff_of_true (.of_rows rfl) trivial
  | looping ctx rows done => exact iff_of_true (.of_rows (loopStep_schedules ctx done db rows)) trivial
  | issuing ctx schedule drafted rest done =>
    refine iff_of_true (.of_rows ?_) trivial
    have leaves := (issueStep_leaves ctx schedule drafted db).2
    simp only [advanceSchedule]
    cases issued : issueStep ctx schedule drafted db with
    | mk result after =>
      rw [issued] at leaves
      cases result <;> exact leaves
  | saving ctx schedule drafted rest done =>
    have after : (advanceSchedule (.saving ctx schedule drafted rest done) db).2 =
        (advanceStep ctx schedule db).2 := by
      simp only [advanceSchedule]
      cases advanceStep ctx schedule db with
      | mk result after => cases result <;> rfl
    rw [after]
    cases next' : schedule.cadence.advance schedule.nextRun with
    | none =>
      have same : (advanceStep ctx schedule db).2 = db := by
        unfold advanceStep
        rw [next']
      rw [same]
      refine iff_of_true (.of_rows rfl) ?_
      intro _ stored _ next found
      rw [next'] at found
      cases found
    | some next =>
      by_cases customer : db.getCustomer schedule.customerId = none
      · have saved : db.saveSchedule (schedule.advanced next ctx.now) = .error _ := if_pos customer
        have same : (advanceStep ctx schedule db).2 = db := by
          unfold advanceStep
          rw [next']
          show (saveRow (schedule.advanced next ctx.now) () db).2 = db
          unfold saveRow
          rw [saved]
        rw [same]
        exact iff_of_true (.of_rows rfl) fun present => absurd customer present
      · rw [advanceStep_of_next next' customer]
        show NotUndone db (db.putSchedule _) ↔ (_ → _)
        rw [notUndone_put_iff]
        constructor
        · intro keeps _ stored found
          exact (keptBy_advanced_iff wellFormed next').mp (keeps stored found)
        · intro saves stored found
          exact (keptBy_advanced_iff wellFormed next').mpr (saves customer stored found)
  | change ctx input kind =>
    refine iff_of_true (.of_rows ?_) trivial
    simp only [advanceSchedule]
    cases prepareTransition ctx input kind.toState db <;> rfl
  | changing kind schedule =>
    have after : (advanceSchedule (.changing kind schedule) db).2 =
        (saveRow schedule () db).2 := rfl
    rw [after]
    by_cases customer : db.getCustomer schedule.customerId = none
    · have saved : db.saveSchedule schedule = .error _ := if_pos customer
      have same : (saveRow schedule () db).2 = db := by
        unfold saveRow
        rw [saved]
      rw [same]
      exact iff_of_true (.of_rows rfl) fun present => absurd customer present
    · have saved : db.saveSchedule schedule = .ok (db.putSchedule schedule) := if_neg customer
      have put : (saveRow schedule () db).2 = db.putSchedule schedule := by
        unfold saveRow
        rw [saved]
      rw [put, notUndone_put_iff]
      constructor
      · intro keeps _ stored found
        exact (keptBy_changed_iff wellFormed).mp (keeps stored found)
      · intro saves stored found
        exact (keptBy_changed_iff wellFormed).mpr (saves customer stored found)
  | finished outcome => exact iff_of_true (.of_rows rfl) trivial

/-! ### Runs -/

/-- Every run is a tick, a pause or a cancel that has not begun. -/
def SchedulesStarting (runs : List ScheduleRun) : Prop :=
  ∀ run ∈ runs, (∃ ctx, run = .tick ctx) ∨ ∃ ctx input kind, run = .change ctx input kind

theorem SchedulesStarting.wellFormed {runs : List ScheduleRun} (starting : SchedulesStarting runs) :
    ∀ run ∈ runs, run.WellFormed := by
  intro run member
  rcases starting run member with ⟨ctx, rfl⟩ | ⟨ctx, input, kind, rfl⟩
  · trivial
  · trivial

theorem scheduleRuns_rules :
    Rules advanceSchedule (fun _ _ => True) (fun _ => True) (fun _ run => run.WellFormed)
      (fun _ _ => True) where
  store := fun _ _ _ _ _ => trivial
  own := fun db _ _ wellFormed _ => advanceSchedule_wellFormed wellFormed db
  others := fun _ _ _ _ _ wellFormed _ _ => wellFormed
  apart := fun _ _ _ _ _ _ _ _ => trivial
  symm := fun _ _ _ => trivial

/-- **No tick, pause or cancel undoes another exactly if every accepted save finds a row it may
overwrite.** The run is any interleaving of the steps of any number of them, from any tables. -/
theorem not_undone_iff {pool : Pool Db ScheduleRun} (starting : SchedulesStarting pool.runs)
    (order : List ℕ) :
    (∀ m n, m ≤ n →
        NotUndone (pool.exec advanceSchedule (order.take m)).store
          (pool.exec advanceSchedule (order.take n)).store) ↔
      AllTurns advanceSchedule SavesOnto pool order := by
  have holds : Holds (fun _ => True) (fun _ run => run.WellFormed) (fun _ _ => True) pool :=
    ⟨trivial, fun _ run found => starting.wellFormed run (List.mem_of_getElem? found),
      fun _ _ _ _ _ _ _ => trivial⟩
  refine relates_iff_allTurns scheduleRuns_rules NotUndone.refl (fun _ _ _ => NotUndone.trans) ?_
    holds order
  intro db run _ wellFormed
  exact advanceSchedule_notUndone_iff wellFormed db

/-- A tick on the first of March, beside a cancel of the schedule it bills. -/
def tickAndCancel : Pool Db ScheduleRun where
  store := monthlyDb
  runs := [.tick firstTick,
    .change (sampleCtx (oneOClock firstOfMarch) 40) ⟨monthly.id, .cli "operator", .cli⟩ .cancel]

theorem tickAndCancel_starting : SchedulesStarting tickAndCancel.runs := by
  intro run member
  simp only [tickAndCancel, List.mem_cons, List.not_mem_nil, or_false] at member
  rcases member with rfl | rfl
  · exact Or.inl ⟨_, rfl⟩
  · exact Or.inr ⟨_, _, _, rfl⟩

/-- The tick selects the schedule, the cancel loads and saves it, the tick drafts, issues and saves:
cancelled becomes active. -/
theorem cancel_undone :
    SchedulesStarting tickAndCancel.runs ∧
      ¬ NotUndone (tickAndCancel.exec advanceSchedule [0, 1, 1]).store
        (tickAndCancel.exec advanceSchedule [0, 1, 1, 0, 0, 0]).store := by
  refine ⟨tickAndCancel_starting, ?_⟩
  intro notUndone
  have before : ((tickAndCancel.exec advanceSchedule [0, 1, 1]).store.getSchedule monthly.id).map
      Schedule.state = some .cancelled := by decide +kernel
  have after : ((tickAndCancel.exec advanceSchedule [0, 1, 1, 0, 0, 0]).store.getSchedule
      monthly.id).map Schedule.state = some .active := by decide +kernel
  obtain ⟨row, stored, cancelled⟩ := Option.map_eq_some_iff.mp before
  obtain ⟨row', stored', kept⟩ := notUndone _ _ stored
  rw [stored'] at after
  rw [Option.map_some, kept.cancelled cancelled] at after
  cases after

theorem not_undone_iff_tick_and_cancel :
    (∀ m n, m ≤ n →
        NotUndone (tickAndCancel.exec advanceSchedule ([0, 1, 1, 0, 0, 0].take m)).store
          (tickAndCancel.exec advanceSchedule ([0, 1, 1, 0, 0, 0].take n)).store) ↔
      AllTurns advanceSchedule SavesOnto tickAndCancel [0, 1, 1, 0, 0, 0] :=
  not_undone_iff tickAndCancel_starting _

end Invoicing
