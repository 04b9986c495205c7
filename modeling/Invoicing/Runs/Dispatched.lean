/-
**Reminder ticks beside cancels.**

* `ReminderRun` — where a tick or a cancel stands; `advanceReminder` is one step of it: selecting the
  due rows, saving a row, publishing it; loading a row, saving it. `ReminderWorld` — the tables, and the
  log of what was dispatched and what was cancelled. **`reminders_tick_alone`** — a tick that is never
  interrupted is `reminders_tick`.
* `SavesOpen` — a tick's save finds the reminder scheduled, a cancel's finds it not sent.
* **`dispatched_once`** — in every interleaving whose accepted saves are like that, each reminder is
  dispatched at most once, never after its cancellation, and no reminder leaves `cancelled` or `sent`.
  **`dispatched_twice`** — two ticks that selected one reminder both dispatch it.
-/

import Invoicing.Lib.Interleave
import Invoicing.Runs.Reminded

namespace Invoicing

open Chrono (DateTime)
open Interleave KeyedTable

/-! ### Steps -/

/-- What is remembered of a run beside the tables. -/
inductive ReminderEntry
  | dispatched (reminder : ReminderId) (event : BusEvent)
  | cancelled (reminder : ReminderId)

def ReminderEntry.reminder : ReminderEntry → ReminderId
  | .dispatched reminder _ => reminder
  | .cancelled reminder => reminder

/-- The tables, and the published dispatches and committed cancellations so far. -/
structure ReminderWorld where
  tables : ReminderDb
  log : List ReminderEntry

/-- Where a run stands. -/
inductive ReminderRun
  | tick (now : DateTime)
  | sending (now : DateTime) (rows : List Reminder)
  | publishing (now : DateTime) (sent : Reminder) (rest : List Reminder)
  | cancel (input : ReminderCancelInput)
  | cancelling (reminder : Reminder)
  | finished (outcome : CoreResult Unit)

/-- The loop of a tick from its next scheduled row on: the save of that row, or the end. -/
def sendStep (now : DateTime) (world : ReminderWorld) : List Reminder → ReminderRun × ReminderWorld
  | [] => (.finished (.ok ()), world)
  | row :: rest =>
      if row.state ≠ .scheduled then sendStep now world rest
      else
        match world.tables.saveReminder (sentReminder row now) with
        | .error e => (.finished (fail (.repo e)), world)
        | .ok after => (.publishing now (sentReminder row now) rest, { world with tables := after })

/-- One step of a run. -/
def advanceReminder (run : ReminderRun) (world : ReminderWorld) : ReminderRun × ReminderWorld :=
  match run with
  | .tick now => (.sending now (world.tables.dueReminders now), world)
  | .sending now rows => sendStep now world rows
  | .publishing now sent rest =>
      (.sending now rest,
        { world with log := world.log ++ [.dispatched sent.id (reminderSentEvent sent now)] })
  | .cancel input =>
      match world.tables.getReminder input.reminderId with
      | none => (.finished (fail (.notFound ("reminder " ++ input.reminderId.text))), world)
      | some reminder =>
          if reminder.state = .scheduled then (.cancelling reminder, world)
          else (.finished (.ok ()), world)
  | .cancelling reminder =>
      match world.tables.saveReminder { reminder with state := .cancelled } with
      | .error e => (.finished (fail (.repo e)), world)
      | .ok after =>
          (.finished (.ok ()), ⟨after, world.log ++ [.cancelled reminder.id]⟩)
  | .finished outcome => (.finished outcome, world)

/-! ### A tick alone -/

/-- The event of a dispatch. -/
def ReminderEntry.event : ReminderEntry → Option BusEvent
  | .dispatched _ event => some event
  | .cancelled _ => none

/-- Runs that take a number of turns alone end with the tables and the result of an emission, and its
events in the log. -/
def EmitsAlone (start : ReminderRun × ReminderWorld) (log : List ReminderEntry)
    (emission : Emission (List Reminder)) : Prop :=
  ∃ turns entries, Pool.exec advanceReminder ⟨start.2, [start.1]⟩ (List.replicate turns 0) =
      ⟨⟨emission.after, log ++ entries⟩, [.finished (emission.result.map fun _ => ())]⟩ ∧
    entries.filterMap ReminderEntry.event = emission.events

theorem EmitsAlone.step {run : ReminderRun} {world : ReminderWorld} {log : List ReminderEntry}
    {emission : Emission (List Reminder)}
    (rest : EmitsAlone (advanceReminder run world) log emission) :
    EmitsAlone (run, world) log emission := by
  obtain ⟨turns, entries, ends, events⟩ := rest
  exact ⟨turns + 1, entries, ends, events⟩

theorem sendStep_alone (now : DateTime) (rows done : List Reminder) (world : ReminderWorld) :
    EmitsAlone (sendStep now world rows) world.log (remindersLoop now rows done world.tables) := by
  induction rows generalizing done world with
  | nil => exact ⟨0, [], by simp [sendStep, remindersLoop, Pool.exec, Except.map], rfl⟩
  | cons row rest ih =>
    rw [sendStep, remindersLoop]
    split
    · exact ih done world
    · cases world.tables.saveReminder (sentReminder row now) with
      | error e => exact ⟨0, [], by simp [Pool.exec, fail, Except.map], rfl⟩
      | ok after =>
        refine .step (.step ?_)
        obtain ⟨turns, entries, ends, events⟩ := ih (done ++ [sentReminder row now])
          ⟨after, world.log ++ [.dispatched row.id (reminderSentEvent (sentReminder row now) now)]⟩
        refine ⟨turns, .dispatched row.id (reminderSentEvent (sentReminder row now) now) :: entries,
          ?_, ?_⟩
        · rw [List.append_assoc] at ends
          exact ends
        · rw [List.filterMap_cons]
          exact congrArg _ events

/-- **A tick whose steps nothing interrupts is `reminders_tick`.** -/
theorem reminders_tick_alone (now : DateTime) (world : ReminderWorld) :
    EmitsAlone (.tick now, world) world.log (remindersTick now world.tables) :=
  .step (.step (sendStep_alone now (world.tables.dueReminders now) [] world))

/-! ### What a step can do -/

/-- The row a tick saves next. -/
def nextScheduled (rows : List Reminder) : Option Reminder :=
  rows.find? fun row => decide (row.state = .scheduled)

/-- The loop of a tick ends, or saves its next row. -/
theorem sendStep_cases (now : DateTime) (world : ReminderWorld) (rows : List Reminder) :
    (∃ outcome, sendStep now world rows = (.finished outcome, world)) ∨
      ∃ row rest, nextScheduled rows = some row ∧ row.state = .scheduled ∧
        world.tables.db.getInvoice row.invoiceId ≠ none ∧
        sendStep now world rows = (.publishing now (sentReminder row now) rest,
          { world with tables := world.tables.putReminder (sentReminder row now) }) := by
  induction rows with
  | nil => exact Or.inl ⟨_, rfl⟩
  | cons row rest ih =>
    by_cases scheduled : row.state = .scheduled
    · have next : nextScheduled (row :: rest) = some row := by
        rw [nextScheduled, List.find?_cons_of_pos (by simpa using scheduled)]
      rw [sendStep, if_neg (not_not.mpr scheduled)]
      cases saved : world.tables.saveReminder (sentReminder row now) with
      | error e => exact Or.inl ⟨_, rfl⟩
      | ok after =>
        obtain ⟨rfl, stored⟩ := saveReminder_ok saved
        exact Or.inr ⟨row, rest, next, scheduled, stored, rfl⟩
    · have next : nextScheduled (row :: rest) = nextScheduled rest := by
        rw [nextScheduled, List.find?_cons_of_neg (by simpa using scheduled)]
        rfl
      rw [sendStep, if_pos scheduled, next]
      exact ih

/-- Everything a step can do to the world. -/
inductive ReminderStep (world : ReminderWorld) : ReminderRun → ReminderRun × ReminderWorld → Prop
  | nothing {run after : ReminderRun} (idle : ∀ now sent rest, after ≠ .publishing now sent rest) :
      ReminderStep world run (after, world)
  | sent {now : DateTime} {rows rest : List Reminder} {row : Reminder}
      (next : nextScheduled rows = some row)
      (stored : world.tables.db.getInvoice row.invoiceId ≠ none) :
      ReminderStep world (.sending now rows) (.publishing now (sentReminder row now) rest,
        { world with tables := world.tables.putReminder (sentReminder row now) })
  | published {now : DateTime} {sent : Reminder} {rest : List Reminder} :
      ReminderStep world (.publishing now sent rest) (.sending now rest,
        { world with log := world.log ++ [.dispatched sent.id (reminderSentEvent sent now)] })
  | cancelled {reminder : Reminder}
      (stored : world.tables.db.getInvoice reminder.invoiceId ≠ none) :
      ReminderStep world (.cancelling reminder) (.finished (.ok ()),
        ⟨world.tables.putReminder { reminder with state := .cancelled },
          world.log ++ [.cancelled reminder.id]⟩)

theorem advanceReminder_cases (run : ReminderRun) (world : ReminderWorld) :
    ReminderStep world run (advanceReminder run world) := by
  cases run with
  | tick now => exact .nothing (by simp)
  | sending now rows =>
    rcases sendStep_cases now world rows with ⟨outcome, same⟩ | ⟨row, rest, next, _, stored, same⟩
    · rw [advanceReminder, same]
      exact .nothing (by simp)
    · rw [advanceReminder, same]
      exact .sent next stored
  | publishing now sent rest => exact .published
  | cancel input =>
    rw [advanceReminder]
    cases world.tables.getReminder input.reminderId with
    | none => exact .nothing (by simp)
    | some reminder =>
      dsimp only
      split
      · exact .nothing (by simp)
      · exact .nothing (by simp)
  | cancelling reminder =>
    rw [advanceReminder]
    cases saved : world.tables.saveReminder { reminder with state := .cancelled } with
    | error e => exact .nothing (by simp)
    | ok after =>
      obtain ⟨rfl, stored⟩ := saveReminder_ok saved
      exact .cancelled stored
  | finished outcome => exact .nothing (by simp)

/-- What an accepted save finds stored: a tick's, the reminder scheduled; a cancel's, not sent. -/
def SavesOpen (world : ReminderWorld) : ReminderRun → Prop
  | .sending _ rows => ∀ row, nextScheduled rows = some row →
      world.tables.db.getInvoice row.invoiceId ≠ none →
        ∀ stored, world.tables.getReminder row.id = some stored → stored.state = .scheduled
  | .cancelling reminder => world.tables.db.getInvoice reminder.invoiceId ≠ none →
      ∀ stored, world.tables.getReminder reminder.id = some stored → stored.state ≠ .sent
  | _ => True

instance (world : ReminderWorld) (run : ReminderRun) : Decidable (SavesOpen world run) :=
  match run with
  | .sending _ rows => inferInstanceAs (Decidable (∀ row ∈ nextScheduled rows,
      world.tables.db.getInvoice row.invoiceId ≠ none →
        ∀ stored ∈ world.tables.getReminder row.id, stored.state = .scheduled))
  | .cancelling reminder =>
      inferInstanceAs (Decidable (world.tables.db.getInvoice reminder.invoiceId ≠ none →
        ∀ stored ∈ world.tables.getReminder reminder.id, stored.state ≠ .sent))
  | .tick _ | .publishing _ _ _ | .cancel _ | .finished _ => inferInstanceAs (Decidable True)

/-! ### The invariant -/

/-- The reminder is stored in the state. -/
def StoredAs (tables : ReminderDb) (id : ReminderId) (state : ReminderState) : Prop :=
  ∃ row, tables.getReminder id = some row ∧ row.state = state

theorem StoredAs.put_self (tables : ReminderDb) (row : Reminder) :
    StoredAs (tables.putReminder row) row.id row.state :=
  ⟨row, by rw [getReminder_put, if_pos rfl], rfl⟩

theorem StoredAs.put_other {tables : ReminderDb} {row : Reminder} {id : ReminderId}
    {state : ReminderState} (stored : StoredAs tables id state) (other : id ≠ row.id) :
    StoredAs (tables.putReminder row) id state := by
  obtain ⟨old, found, same⟩ := stored
  exact ⟨old, by rw [getReminder_put, if_neg other, found], same⟩

/-- The state an entry leaves its reminder in. -/
def ReminderEntry.state : ReminderEntry → ReminderState
  | .dispatched _ _ => .sent
  | .cancelled _ => .cancelled

/-- The entry is not of the same reminder as a later dispatch. -/
def ReminderEntry.MayPrecede (first second : ReminderEntry) : Prop :=
  second.state = .sent → first.reminder ≠ second.reminder

/-- Logged reminders are stored as logged, and nothing precedes a dispatch of its reminder. -/
structure LogSound (world : ReminderWorld) : Prop where
  stored : ∀ entry ∈ world.log, StoredAs world.tables entry.reminder entry.state
  order : world.log.Pairwise ReminderEntry.MayPrecede

/-- A tick that is about to publish has its reminder stored as sent, and nothing logged of it. -/
def ReminderRun.Ready (world : ReminderWorld) : ReminderRun → Prop
  | .publishing _ sent _ => StoredAs world.tables sent.id .sent ∧
      ∀ entry ∈ world.log, entry.reminder ≠ sent.id
  | _ => True

/-- Two ticks are not about to publish one reminder. -/
def ReminderRun.Apart : ReminderRun → ReminderRun → Prop
  | .publishing _ sent _, .publishing _ sent' _ => sent.id ≠ sent'.id
  | _, _ => True

theorem ReminderRun.ready_of_idle {run : ReminderRun} (world : ReminderWorld)
    (idle : ∀ now sent rest, run ≠ .publishing now sent rest) : run.Ready world := by
  cases run with
  | publishing now sent rest => exact absurd rfl (idle now sent rest)
  | _ => trivial

theorem ReminderRun.apart_of_idle {run : ReminderRun} (other : ReminderRun)
    (idle : ∀ now sent rest, run ≠ .publishing now sent rest) : run.Apart other := by
  cases run with
  | publishing now sent rest => exact absurd rfl (idle now sent rest)
  | _ => trivial

theorem ReminderRun.Apart.symm {run other : ReminderRun} (apart : run.Apart other) :
    other.Apart run := by
  cases run with
  | publishing now sent rest =>
    cases other with
    | publishing now' sent' rest' => exact Ne.symm apart
    | _ => trivial
  | _ => cases other <;> trivial

section Guarded

variable {world : ReminderWorld}

/-- The row a guarded tick saves is not stored as sent or cancelled. -/
theorem SavesOpen.scheduled {now : DateTime} {rows : List Reminder} {row : Reminder}
    (opens : SavesOpen world (.sending now rows)) (next : nextScheduled rows = some row)
    (owned : world.tables.db.getInvoice row.invoiceId ≠ none) {state : ReminderState}
    (closed : state ≠ .scheduled) : ¬ StoredAs world.tables row.id state := by
  rintro ⟨old, found, same⟩
  exact closed (same.symm.trans (opens row next owned old found))

/-- The row a guarded cancel saves is not stored as sent. -/
theorem SavesOpen.notSent {reminder : Reminder} (opens : SavesOpen world (.cancelling reminder))
    (owned : world.tables.db.getInvoice reminder.invoiceId ≠ none) :
    ¬ StoredAs world.tables reminder.id .sent := by
  rintro ⟨old, found, same⟩
  exact opens owned old found same

theorem ReminderEntry.closed (entry : ReminderEntry) : entry.state ≠ .scheduled := by
  cases entry <;> exact ReminderState.noConfusion

/-- Nothing is logged of the row a guarded tick saves. -/
theorem LogSound.unlogged {now : DateTime} {rows : List Reminder} {row : Reminder}
    (sound : LogSound world) (opens : SavesOpen world (.sending now rows))
    (next : nextScheduled rows = some row)
    (owned : world.tables.db.getInvoice row.invoiceId ≠ none) :
    ∀ entry ∈ world.log, entry.reminder ≠ row.id := by
  intro entry member same
  refine opens.scheduled next owned entry.closed ?_
  rw [← same]
  exact sound.stored entry member

theorem logSound_advance {run : ReminderRun} (sound : LogSound world) (ready : run.Ready world)
    (opens : SavesOpen world run) : LogSound (advanceReminder run world).2 := by
  have step := advanceReminder_cases run world
  generalize advanceReminder run world = next at step ⊢
  cases step with
  | nothing idle => exact sound
  | sent next owned =>
    refine ⟨fun entry member => ?_, sound.order⟩
    exact (sound.stored entry member).put_other (sound.unlogged opens next owned entry member)
  | published =>
    obtain ⟨stored, unlogged⟩ := ready
    refine ⟨fun entry member => ?_, ?_⟩
    · rcases List.mem_append.mp member with before | now
      · exact sound.stored entry before
      · rw [List.mem_singleton.mp now]
        exact stored
    · refine List.pairwise_append.mpr ⟨sound.order, List.pairwise_singleton _ _, ?_⟩
      intro entry member later now _
      rw [List.mem_singleton.mp now]
      exact unlogged entry member
  | @cancelled reminder owned =>
    refine ⟨fun entry member => ?_, ?_⟩
    · rcases List.mem_append.mp member with before | now
      · have stored := sound.stored entry before
        by_cases same : entry.reminder = reminder.id
        · have cancelled : entry.state = .cancelled := by
            cases entry with
            | dispatched id event =>
              have sent : StoredAs world.tables reminder.id .sent := same ▸ stored
              exact absurd sent (opens.notSent owned)
            | cancelled id => rfl
          rw [same, cancelled]
          exact StoredAs.put_self world.tables { reminder with state := .cancelled }
        · exact stored.put_other same
      · rw [List.mem_singleton.mp now]
        exact StoredAs.put_self world.tables { reminder with state := .cancelled }
    · refine List.pairwise_append.mpr ⟨sound.order, List.pairwise_singleton _ _, ?_⟩
      intro entry _ later now dispatched
      rw [List.mem_singleton.mp now] at dispatched
      cases dispatched

theorem ready_advance {run : ReminderRun} (sound : LogSound world) (opens : SavesOpen world run) :
    (advanceReminder run world).1.Ready (advanceReminder run world).2 := by
  have step := advanceReminder_cases run world
  generalize advanceReminder run world = next at step ⊢
  cases step with
  | nothing idle => exact ReminderRun.ready_of_idle _ idle
  | @sent now rows rest row next owned =>
    have unlogged := sound.unlogged opens next owned
    exact ⟨StoredAs.put_self world.tables (sentReminder row now), unlogged⟩
  | published => trivial
  | cancelled owned => trivial

theorem ready_other {run other : ReminderRun} (ready : other.Ready world) (apart : run.Apart other)
    (opens : SavesOpen world run) : other.Ready (advanceReminder run world).2 := by
  cases other with
  | publishing now sent rest =>
    obtain ⟨stored, unlogged⟩ := ready
    have step := advanceReminder_cases run world
    generalize advanceReminder run world = next at step ⊢
    cases step with
    | nothing idle => exact ⟨stored, unlogged⟩
    | @sent now' rows rest' row next owned =>
      refine ⟨stored.put_other ?_, unlogged⟩
      intro same
      exact opens.scheduled next owned ReminderState.noConfusion (same ▸ stored)
    | @published now' sent' rest' =>
      refine ⟨stored, fun entry member => ?_⟩
      rcases List.mem_append.mp member with before | now
      · exact unlogged entry before
      · rw [List.mem_singleton.mp now]
        exact apart
    | @cancelled reminder owned =>
      have different : sent.id ≠ reminder.id := fun same => opens.notSent owned (same ▸ stored)
      refine ⟨stored.put_other different, fun entry member => ?_⟩
      rcases List.mem_append.mp member with before | now
      · exact unlogged entry before
      · rw [List.mem_singleton.mp now]
        exact Ne.symm different
  | _ => trivial

theorem apart_advance {run other : ReminderRun} (ready : other.Ready world)
    (opens : SavesOpen world run) : (advanceReminder run world).1.Apart other := by
  have step := advanceReminder_cases run world
  generalize advanceReminder run world = next at step ⊢
  cases step with
  | nothing idle => exact ReminderRun.apart_of_idle other idle
  | @sent now rows rest row next owned =>
    cases other with
    | publishing now' sent' rest' =>
      intro same
      have stored : StoredAs world.tables row.id .sent := by
        rw [show row.id = sent'.id from same]
        exact ready.1
      exact opens.scheduled next owned ReminderState.noConfusion stored
    | _ => trivial
  | published => exact ReminderRun.apart_of_idle other (by simp)
  | cancelled owned => exact ReminderRun.apart_of_idle other (by simp)

end Guarded

theorem reminderRuns_rules : Rules advanceReminder SavesOpen LogSound
    (fun world run => run.Ready world) ReminderRun.Apart where
  store := fun _ _ sound ready opens => logSound_advance sound ready opens
  own := fun _ _ sound _ opens => ready_advance sound opens
  others := fun _ _ _ _ _ ready apart opens => ready_other ready apart opens
  apart := fun _ _ _ _ _ ready _ opens => apart_advance ready opens
  symm := fun _ _ apart => apart.symm

/-! ### Closed reminders -/

/-- No reminder leaves `cancelled` or `sent`. -/
def StaysClosed (before after : ReminderDb) : Prop :=
  ∀ id state, state ≠ .scheduled → StoredAs before id state → StoredAs after id state

theorem StaysClosed.refl (tables : ReminderDb) : StaysClosed tables tables :=
  fun _ _ _ stored => stored

theorem StaysClosed.trans {first second third : ReminderDb} (one : StaysClosed first second)
    (two : StaysClosed second third) : StaysClosed first third :=
  fun id state closed stored => two id state closed (one id state closed stored)

theorem staysClosed_advance {run : ReminderRun} {world : ReminderWorld}
    (opens : SavesOpen world run) :
    StaysClosed world.tables (advanceReminder run world).2.tables := by
  have step := advanceReminder_cases run world
  generalize advanceReminder run world = next at step ⊢
  cases step with
  | nothing idle => exact .refl world.tables
  | @sent now rows rest row next owned =>
    intro id state closed stored
    refine stored.put_other ?_
    rintro rfl
    exact opens.scheduled next owned closed stored
  | published => exact .refl world.tables
  | @cancelled reminder owned =>
    intro id state closed stored
    by_cases same : id = reminder.id
    · subst same
      cases state with
      | scheduled => exact absurd rfl closed
      | sent => exact absurd stored (opens.notSent owned)
      | cancelled => exact StoredAs.put_self world.tables { reminder with state := .cancelled }
    · exact stored.put_other same

/-! ### Runs -/

/-- The reminder of a dispatch. -/
def ReminderEntry.dispatchedId : ReminderEntry → Option ReminderId
  | .dispatched reminder _ => some reminder
  | .cancelled _ => none

/-- Each reminder is dispatched at most once. -/
def OncePerReminder (log : List ReminderEntry) : Prop :=
  (log.filterMap ReminderEntry.dispatchedId).Nodup

instance (log : List ReminderEntry) : Decidable (OncePerReminder log) :=
  inferInstanceAs (Decidable (List.Nodup _))

/-- No reminder is dispatched after its cancellation was committed. -/
def NeverAfterCancel (log : List ReminderEntry) : Prop :=
  log.Pairwise fun first second => ∀ id event, first = .cancelled id → second ≠ .dispatched id event

theorem LogSound.once {world : ReminderWorld} (sound : LogSound world) : OncePerReminder world.log := by
  refine List.pairwise_filterMap.mpr (sound.order.imp ?_)
  intro first second precede id isFirst id' isSecond
  cases first with
  | cancelled other => cases isFirst
  | dispatched reminder event =>
    cases second with
    | cancelled other => cases isSecond
    | dispatched reminder' event' =>
      cases isFirst
      cases isSecond
      exact precede rfl

theorem LogSound.neverAfter {world : ReminderWorld} (sound : LogSound world) :
    NeverAfterCancel world.log := by
  refine sound.order.imp ?_
  rintro first second precede id event rfl rfl
  exact precede rfl rfl

/-- Nothing is logged yet, and every run is a tick or a cancel that has not begun. -/
structure RemindersStarting (pool : Pool ReminderWorld ReminderRun) : Prop where
  log : pool.store.log = []
  runs : ∀ run ∈ pool.runs, (∃ now, run = .tick now) ∨ ∃ input, run = .cancel input

theorem RemindersStarting.holds {pool : Pool ReminderWorld ReminderRun}
    (starting : RemindersStarting pool) :
    Holds LogSound (fun world run => run.Ready world) ReminderRun.Apart pool := by
  have idle : ∀ (i : ℕ) run, pool.runs[i]? = some run →
      ∀ now sent rest, run ≠ .publishing now sent rest := by
    rintro i run found now sent rest rfl
    rcases starting.runs _ (List.mem_of_getElem? found) with ⟨_, other⟩ | ⟨_, other⟩ <;> cases other
  refine ⟨⟨?_, ?_⟩, ?_, ?_⟩
  · rw [starting.log]
    exact fun _ absent => by cases absent
  · rw [starting.log]
    exact .nil
  · exact fun i run found => ReminderRun.ready_of_idle _ (idle i run found)
  · exact fun i j run other _ found _ => ReminderRun.apart_of_idle other (idle i run found)

/-- **Reminders are dispatched at most once, never after their cancellation, and never reopened**, in
every interleaving of the steps of any number of ticks and cancels, from any tables, whose accepted
saves find the reminder still open. -/
theorem dispatched_once {pool : Pool ReminderWorld ReminderRun} (starting : RemindersStarting pool)
    {order : List ℕ} (turns : AllTurns advanceReminder SavesOpen pool order) :
    (∀ n, OncePerReminder (pool.exec advanceReminder (order.take n)).store.log ∧
      NeverAfterCancel (pool.exec advanceReminder (order.take n)).store.log) ∧
    ∀ m n, m ≤ n → StaysClosed (pool.exec advanceReminder (order.take m)).store.tables
      (pool.exec advanceReminder (order.take n)).store.tables := by
  refine ⟨fun n => ?_, fun m n later => ?_⟩
  · have sound := (reminderRuns_rules.holds_exec starting.holds (turns.take n)).store
    exact ⟨sound.once, sound.neverAfter⟩
  · exact reminderRuns_rules.relates_take (R := fun before after =>
      StaysClosed before.tables after.tables) (fun _ => .refl _) (fun _ _ _ => .trans)
      (fun _ _ _ _ opens => staysClosed_advance opens) starting.holds turns later

/-- Two ticks and a cancel, beside one scheduled reminder. -/
def ticksAndCancel : Pool ReminderWorld ReminderRun where
  store := ⟨runReminders ⟨sampleDb, []⟩ remindAndPay, []⟩
  runs := [.tick (oneOClock secondOfMarch), .tick (oneOClock secondOfMarch),
    .cancel ⟨⟨7⟩, .cli "operator", .cli⟩]

theorem ticksAndCancel_starting : RemindersStarting ticksAndCancel := by
  refine ⟨rfl, ?_⟩
  intro run member
  simp only [ticksAndCancel, List.mem_cons, List.not_mem_nil, or_false] at member
  rcases member with rfl | rfl | rfl
  · exact Or.inl ⟨_, rfl⟩
  · exact Or.inl ⟨_, rfl⟩
  · exact Or.inr ⟨_, rfl⟩

/-- Both ticks select the reminder, then each saves and publishes it: it is dispatched twice. -/
theorem dispatched_twice :
    RemindersStarting ticksAndCancel ∧
      ¬ OncePerReminder (ticksAndCancel.exec advanceReminder [0, 1, 0, 0, 1, 1]).store.log :=
  ⟨ticksAndCancel_starting, by decide +kernel⟩

/-- One tick dispatches the reminder before the other selects and the cancel loads. -/
theorem dispatched_once_in_turn :
    OncePerReminder (ticksAndCancel.exec advanceReminder [0, 0, 0, 1, 2, 1]).store.log := by
  have turns : AllTurns advanceReminder SavesOpen ticksAndCancel [0, 0, 0, 1, 2, 1] := by
    decide +kernel
  exact ((dispatched_once ticksAndCancel_starting turns).1 6).1

end Invoicing
