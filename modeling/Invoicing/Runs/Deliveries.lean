/-
**Deliveries of inbound events.**

* `DeliveryRun` — one delivery of an event, following the receiver: look the event up, insert it,
  prepare its command, run the transaction, mark the row. A database call may be refused, or take
  effect while its answer is lost; a delivery that is never scheduled again has crashed.
* `InboundWorld` — the tables, the inbox, and a log of what happened: an event accepted (`Ok(true)`),
  its command committed, its dispatch returned with success.
* `InboxSound` — the invariant: nothing is logged twice of an event, nothing is logged of an event that
  is not in the inbox, and a processed row has its dispatch logged.
* **`inbound_effect_once`** — in every interleaving of any number of deliveries.
  **`delivery_alone`** — a delivery that nothing disturbs is the documented flow.
-/

import Invoicing.Bus.Consumer
import Invoicing.Bus.Inbox
import Invoicing.Lib.Interleave
import Invoicing.Runs.Commands

namespace Invoicing

open Chrono (DateTime)
open Interleave KeyedTable

/-! ### The log -/

inductive InboundKind
  | accepted
  | committed
  | dispatched
  deriving DecidableEq

/-- What happened for an event; a commit comes with its write set. -/
structure InboundEntry where
  kind : InboundKind
  eventId : String
  write : Option InboundWrite

abbrev InboundLog := List InboundEntry

/-- How often something happened for an event. -/
def InboundLog.times (log : InboundLog) (kind : InboundKind) (eventId : String) : ℕ :=
  log.countP fun entry => decide (entry.kind = kind ∧ entry.eventId = eventId)

/-- The write sets that were committed, in their order, run over the tables. -/
def InboundLog.replay (log : InboundLog) (db : Db) : Db :=
  (log.filterMap InboundEntry.write).foldl (fun db write => write.apply db) db

/-- The tables, the inbox and the log. -/
structure InboundWorld where
  db : Db
  inbox : BusInbox
  log : InboundLog

/-! ### Deliveries -/

/-- What happens to a database call. -/
inductive Fault
  | refused
  | answerLost
  deriving DecidableEq

/-- One delivery of an event: what the receiver gets, the context of its command, and the readings of
the clock when the event is registered and when its row is marked. -/
structure Delivery where
  eventId : String
  topic : String
  source : String
  payload : String
  ctx : CoreCtx
  receivedAt : DateTime
  processedAt : DateTime

inductive DeliveryOutcome
  | duplicate
  | notRegistered
  | notDispatched
  | notMarked
  | processed
  deriving DecidableEq

/-- Where a delivery stands. -/
inductive DeliveryStage
  | receiving
  | inserting
  | dispatching
  | committing (ready : InboundReady)
  | marking
  | finished (outcome : DeliveryOutcome)

/-- A delivery under way, with what happens to its database calls from here on. -/
structure DeliveryRun where
  delivery : Delivery
  faults : List (Option Fault)
  stage : DeliveryStage

/-- The run at its next stage. -/
def DeliveryRun.at (run : DeliveryRun) (stage : DeliveryStage) : DeliveryRun :=
  ⟨run.delivery, run.faults.tail, stage⟩

/-- What happens to the next call of a run. -/
def DeliveryRun.fault (run : DeliveryRun) : Option Fault := run.faults.head?.join

def DeliveryRun.entry (run : DeliveryRun) (kind : InboundKind) (write : Option InboundWrite) :
    InboundEntry :=
  ⟨kind, run.delivery.eventId, write⟩

/-- The row of the event. -/
def Delivery.row (delivery : Delivery) : BusInboxRecord :=
  BusInbox.receivedRow delivery.receivedAt delivery.eventId delivery.topic delivery.source
    delivery.payload

/-- The select of `try_insert`. -/
def receiveStep (run : DeliveryRun) (world : InboundWorld) : DeliveryStage × InboundWorld :=
  if run.fault ≠ none then (.finished .notRegistered, world)
  else
    match world.inbox.getEvent run.delivery.eventId with
    | some _ => (.finished .duplicate, world)
    | none => (.inserting, world)

/-- The insert of `try_insert`. -/
def insertStep (run : DeliveryRun) (world : InboundWorld) : DeliveryStage × InboundWorld :=
  if run.fault = some .refused then (.finished .notRegistered, world)
  else
    match world.inbox.insertEvent run.delivery.row with
    | .error _ => (.finished .notRegistered, world)
    | .ok inbox =>
        if run.fault = some .answerLost then
          (.finished .notRegistered, { world with inbox := inbox })
        else
          (.dispatching,
            { world with inbox := inbox, log := world.log ++ [run.entry .accepted none] })

/-- The dispatch up to its transaction. -/
def dispatchStep (consumer : Consumer) (run : DeliveryRun) (world : InboundWorld) :
    DeliveryStage × InboundWorld :=
  match consumer.route run.delivery.topic run.delivery.eventId run.delivery.payload with
  | .error _ => (.finished .notDispatched, world)
  | .ok command =>
      if run.fault ≠ none then (.finished .notDispatched, world)
      else
        match command.prepare run.delivery.ctx world.db with
        | .error _ => (.finished .notDispatched, world)
        | .ok ready =>
            match ready.write with
            | none =>
                (.marking, { world with log := world.log ++ [run.entry .dispatched none] })
            | some _ => (.committing ready, world)

/-- The transaction of the command. -/
def commitStep (run : DeliveryRun) (ready : InboundReady) (world : InboundWorld) :
    DeliveryStage × InboundWorld :=
  match ready.write with
  | none => (.finished .notDispatched, world)
  | some write =>
      if run.fault = some .refused then (.finished .notDispatched, world)
      else
        match write.commit world.db with
        | .error _ => (.finished .notDispatched, world)
        | .ok db =>
            if run.fault = some .answerLost then
              (.finished .notDispatched,
                { world with db := db, log := world.log ++ [run.entry .committed (some write)] })
            else
              (.marking, { world with
                db := db
                log := world.log ++
                  [run.entry .committed (some write), run.entry .dispatched none] })

/-- The update of `mark_processed`. -/
def markStep (run : DeliveryRun) (world : InboundWorld) : DeliveryStage × InboundWorld :=
  if run.fault = some .refused then (.finished .notMarked, world)
  else
    (.finished (if run.fault = some .answerLost then .notMarked else .processed),
      { world with
        inbox := world.inbox.markProcessed run.delivery.eventId run.delivery.processedAt })

def stageStep (consumer : Consumer) (run : DeliveryRun) (world : InboundWorld) :
    DeliveryStage × InboundWorld :=
  match run.stage with
  | .receiving => receiveStep run world
  | .inserting => insertStep run world
  | .dispatching => dispatchStep consumer run world
  | .committing ready => commitStep run ready world
  | .marking => markStep run world
  | .finished outcome => (.finished outcome, world)

/-- One step of a delivery. -/
def advanceDelivery (consumer : Consumer) (run : DeliveryRun) (world : InboundWorld) :
    DeliveryRun × InboundWorld :=
  (run.at (stageStep consumer run world).1, (stageStep consumer run world).2)

/-- An empty inbox beside the tables, and deliveries that have not begun. -/
def openInbox (db : Db) (deliveries : List (Delivery × List (Option Fault))) :
    Pool InboundWorld DeliveryRun :=
  ⟨⟨db, [], []⟩, deliveries.map fun (delivery, faults) => ⟨delivery, faults, .receiving⟩⟩

/-! ### A delivery alone -/

/-- **The documented flow**: register the event, dispatch it only if it is new, mark its row only if
the dispatch succeeded. -/
def receiveEvent (consumer : Consumer) (delivery : Delivery) (db : Db) (inbox : BusInbox) :
    DeliveryOutcome × Db × BusInbox :=
  match inbox.dispatchInboundEvent delivery.receivedAt delivery.eventId delivery.topic
      delivery.source delivery.payload with
  | (.error _, inbox) => (.notRegistered, db, inbox)
  | (.ok false, inbox) => (.duplicate, db, inbox)
  | (.ok true, inbox) =>
      match consumer.dispatch delivery.ctx delivery.topic delivery.eventId delivery.payload db with
      | (.error _, db) => (.notDispatched, db, inbox)
      | (.ok _, db) =>
          (.processed, db, inbox.markProcessed delivery.eventId delivery.processedAt)

/-- A run that takes its turns alone, and what it leaves. -/
def EndsAlone (consumer : Consumer) (run : DeliveryRun) (world : InboundWorld)
    (ends : DeliveryOutcome × Db × BusInbox) : Prop :=
  ∃ log, Alone (advanceDelivery consumer) (run, world)
    (⟨run.delivery, [], .finished ends.1⟩, ⟨ends.2.1, ends.2.2, log⟩)

theorem EndsAlone.step {consumer : Consumer} {delivery : Delivery} {stage : DeliveryStage}
    {world : InboundWorld} {ends : DeliveryOutcome × Db × BusInbox}
    (rest : EndsAlone consumer
      ⟨delivery, [], (stageStep consumer ⟨delivery, [], stage⟩ world).1⟩
      (stageStep consumer ⟨delivery, [], stage⟩ world).2 ends) :
    EndsAlone consumer ⟨delivery, [], stage⟩ world ends := by
  obtain ⟨log, ended⟩ := rest
  exact ⟨log, .step ended⟩

theorem EndsAlone.done (consumer : Consumer) (delivery : Delivery) (outcome : DeliveryOutcome)
    (world : InboundWorld) :
    EndsAlone consumer ⟨delivery, [], .finished outcome⟩ world (outcome, world.db, world.inbox) :=
  ⟨world.log, .refl _⟩

@[simp] theorem DeliveryRun.fault_nil (delivery : Delivery) (stage : DeliveryStage) :
    DeliveryRun.fault ⟨delivery, [], stage⟩ = none := rfl

/-- A dispatch and its mark. -/
theorem dispatch_alone (consumer : Consumer) (delivery : Delivery) (world : InboundWorld) :
    EndsAlone consumer ⟨delivery, [], .dispatching⟩ world
      (match consumer.dispatch delivery.ctx delivery.topic delivery.eventId delivery.payload
          world.db with
        | (.error _, db) => (.notDispatched, db, world.inbox)
        | (.ok _, db) => (.processed, db,
            world.inbox.markProcessed delivery.eventId delivery.processedAt)) := by
  refine .step ?_
  unfold stageStep dispatchStep Consumer.dispatch
  cases consumer.route delivery.topic delivery.eventId delivery.payload with
  | error e => exact .done consumer delivery .notDispatched world
  | ok command =>
    simp only [DeliveryRun.fault_nil, ne_eq, not_true_eq_false, if_false, command.finish_prepare]
    cases command.prepare delivery.ctx world.db with
    | error e => exact .done consumer delivery .notDispatched world
    | ok ready =>
      obtain ⟨write, output⟩ := ready
      cases write with
      | none => exact .step (.done consumer delivery .processed _)
      | some write =>
        refine .step ?_
        simp only [stageStep, commitStep, InboundReady.finish, DeliveryRun.fault_nil, reduceCtorEq,
          if_false]
        cases write.commit world.db with
        | error e => exact .done consumer delivery .notDispatched world
        | ok db => exact .step (.done consumer delivery .processed _)

/-- **A delivery that nothing disturbs is the documented flow.** -/
theorem delivery_alone (consumer : Consumer) (delivery : Delivery) (world : InboundWorld) :
    EndsAlone consumer ⟨delivery, [], .receiving⟩ world
      (receiveEvent consumer delivery world.db world.inbox) := by
  refine .step ?_
  unfold stageStep receiveStep receiveEvent BusInbox.dispatchInboundEvent BusInbox.tryInsert
  simp only [DeliveryRun.fault_nil, ne_eq, not_true_eq_false, if_false]
  have key : (BusInbox.receivedRow delivery.receivedAt delivery.eventId delivery.topic
    delivery.source delivery.payload).eventId = delivery.eventId := rfl
  rw [key]
  cases world.inbox.getEvent delivery.eventId with
  | some row => exact .done consumer delivery .duplicate world
  | none =>
    refine .step ?_
    simp only [stageStep, insertStep, Delivery.row, DeliveryRun.fault_nil, reduceCtorEq, if_false]
    cases world.inbox.insertEvent (BusInbox.receivedRow delivery.receivedAt delivery.eventId
        delivery.topic delivery.source delivery.payload) with
    | error e => exact .done consumer delivery .notRegistered world
    | ok inbox => exact dispatch_alone consumer delivery _

/-! ### What a step can do -/

/-- The delivery has obtained `Ok(true)` and is not done. -/
def DeliveryStage.Working : DeliveryStage → Prop
  | .dispatching | .committing _ | .marking => True
  | _ => False

/-- The delivery has not dispatched its event yet. -/
def DeliveryStage.Undispatched : DeliveryStage → Prop
  | .dispatching | .committing _ => True
  | _ => False

/-- Everything a step can do. -/
inductive DeliveryStep (run : DeliveryRun) (world : InboundWorld) :
    DeliveryStage → InboundWorld → Prop
  | idle {stage : DeliveryStage} (idle : ¬ stage.Working) : DeliveryStep run world stage world
  | prepared {ready : InboundReady} (dispatching : run.stage = .dispatching) :
      DeliveryStep run world (.committing ready) world
  | inserted {outcome : DeliveryOutcome}
      (fresh : world.inbox.getEvent run.delivery.eventId = none) :
      DeliveryStep run world (.finished outcome)
        { world with inbox := world.inbox ++ [run.delivery.row] }
  | accepted (fresh : world.inbox.getEvent run.delivery.eventId = none) :
      DeliveryStep run world .dispatching { world with
        inbox := world.inbox ++ [run.delivery.row]
        log := world.log ++ [run.entry .accepted none] }
  | answered (undispatched : run.stage.Undispatched) :
      DeliveryStep run world .marking
        { world with log := world.log ++ [run.entry .dispatched none] }
  | committed {outcome : DeliveryOutcome} {write : InboundWrite} {db : Db}
      (undispatched : run.stage.Undispatched) (committed : write.commit world.db = .ok db) :
      DeliveryStep run world (.finished outcome)
        { world with db := db, log := world.log ++ [run.entry .committed (some write)] }
  | dispatched {write : InboundWrite} {db : Db} (undispatched : run.stage.Undispatched)
      (committed : write.commit world.db = .ok db) :
      DeliveryStep run world .marking { world with
        db := db
        log := world.log ++ [run.entry .committed (some write), run.entry .dispatched none] }
  | marked {outcome : DeliveryOutcome} (marking : run.stage = .marking) :
      DeliveryStep run world (.finished outcome) { world with
        inbox := world.inbox.markProcessed run.delivery.eventId run.delivery.processedAt }

theorem stageStep_cases (consumer : Consumer) (run : DeliveryRun) (world : InboundWorld) :
    DeliveryStep run world (stageStep consumer run world).1 (stageStep consumer run world).2 := by
  unfold stageStep
  cases stage : run.stage with
  | receiving =>
    dsimp only
    unfold receiveStep
    split
    · exact .idle not_false
    · cases world.inbox.getEvent run.delivery.eventId with
      | none => exact .idle not_false
      | some row => exact .idle not_false
  | inserting =>
    dsimp only
    unfold insertStep
    split
    · exact .idle not_false
    · cases inserted : world.inbox.insertEvent run.delivery.row with
      | error e => exact .idle not_false
      | ok inbox =>
        obtain ⟨fresh, rfl⟩ := BusInbox.insertEvent_ok inserted
        dsimp only
        split
        · exact .inserted fresh
        · exact .accepted fresh
  | dispatching =>
    have undispatched : run.stage.Undispatched := by
      rw [stage]
      trivial
    dsimp only
    unfold dispatchStep
    cases consumer.route run.delivery.topic run.delivery.eventId run.delivery.payload with
    | error e => exact .idle not_false
    | ok command =>
      dsimp only
      split
      · exact .idle not_false
      · cases command.prepare run.delivery.ctx world.db with
        | error e => exact .idle not_false
        | ok ready =>
          dsimp only
          cases ready.write with
          | none => exact .answered undispatched
          | some write => exact .prepared stage
  | committing ready =>
    have undispatched : run.stage.Undispatched := by
      rw [stage]
      trivial
    dsimp only
    unfold commitStep
    cases ready.write with
    | none => exact .idle not_false
    | some write =>
      dsimp only
      split
      · exact .idle not_false
      · cases committed : write.commit world.db with
        | error e => exact .idle not_false
        | ok db =>
          dsimp only
          split
          · exact .committed undispatched committed
          · exact .dispatched undispatched committed
  | marking =>
    dsimp only
    unfold markStep
    split
    · exact .idle not_false
    · exact .marked stage
  | finished outcome => exact .idle not_false

/-! ### The invariant -/

theorem InboundLog.times_append (log entries : InboundLog) (kind : InboundKind) (eventId : String) :
    InboundLog.times (log ++ entries) kind eventId =
      log.times kind eventId + InboundLog.times entries kind eventId := List.countP_append

/-- What one more entry of a run adds. -/
theorem InboundLog.times_entry (log : InboundLog) (run : DeliveryRun) (kind kind' : InboundKind)
    (write : Option InboundWrite) (eventId : String) :
    InboundLog.times (log ++ [run.entry kind' write]) kind eventId = log.times kind eventId +
      if kind' = kind ∧ run.delivery.eventId = eventId then 1 else 0 := by
  rw [times_append]
  congr 1
  rw [times, List.countP_singleton]
  exact if_congr decide_eq_true_iff rfl rfl

theorem InboundLog.times_entry_other (log : InboundLog) {run : DeliveryRun} {eventId : String}
    (other : eventId ≠ run.delivery.eventId) (kind kind' : InboundKind)
    (write : Option InboundWrite) :
    InboundLog.times (log ++ [run.entry kind' write]) kind eventId = log.times kind eventId := by
  rw [times_entry, if_neg fun both => other both.2.symm, Nat.add_zero]

theorem InboundLog.replay_append (log entries : InboundLog) (db : Db) :
    InboundLog.replay (log ++ entries) db = InboundLog.replay entries (log.replay db) := by
  unfold replay
  rw [List.filterMap_append, List.foldl_append]

/-- The invariant of the inbox and its log. -/
structure InboxSound (inbox : BusInbox) (log : InboundLog) : Prop where
  distinct : Distinct BusInboxRecord.eventId inbox
  once : ∀ kind eventId, log.times kind eventId ≤ 1
  unseen : ∀ eventId, inbox.getEvent eventId = none → ∀ kind, log.times kind eventId = 0
  processed : ∀ row ∈ inbox, row.processedAt ≠ none → log.times .dispatched row.eventId = 1

/-- What a delivery that obtained `Ok(true)` can rely on. -/
structure DeliveryRun.Relies (inbox : BusInbox) (log : InboundLog) (run : DeliveryRun) : Prop where
  registered : run.stage.Working → inbox.getEvent run.delivery.eventId ≠ none
  undone : run.stage.Undispatched → log.times .committed run.delivery.eventId = 0 ∧
    log.times .dispatched run.delivery.eventId = 0
  done : run.stage = .marking → log.times .dispatched run.delivery.eventId = 1

/-- Two deliveries do not both work on one event. -/
def DeliveryRun.Apart (run other : DeliveryRun) : Prop :=
  run.stage.Working → other.stage.Working → run.delivery.eventId ≠ other.delivery.eventId

/-- The invariant of the world: besides, its tables are what the logged write sets make of the first
ones. -/
structure InboundSound (start : Db) (world : InboundWorld) : Prop where
  inbox : InboxSound world.inbox world.log
  replayed : world.log.replay start = world.db

theorem DeliveryStage.Undispatched.working {stage : DeliveryStage}
    (undispatched : stage.Undispatched) : stage.Working := by
  cases stage with
  | dispatching => trivial
  | committing ready => trivial
  | _ => exact undispatched.elim

section Sound

variable {inbox inbox' : BusInbox} {log log' : InboundLog} {run other : DeliveryRun}

/-- An unprocessed row under a new key keeps the invariant. -/
theorem InboxSound.append (sound : InboxSound inbox log) {row : BusInboxRecord}
    (fresh : inbox.getEvent row.eventId = none) (unprocessed : row.processedAt = none) :
    InboxSound (inbox ++ [row]) log where
  distinct := BusInbox.distinct_append sound.distinct fresh
  once := sound.once
  unseen eventId absent kind := by
    refine sound.unseen eventId ?_ kind
    by_contra there
    exact BusInbox.getEvent_append_stays row there absent
  processed old member marked := by
    rcases List.mem_append.mp member with inTable | new
    · exact sound.processed old inTable marked
    · obtain rfl := List.mem_singleton.mp new
      exact absurd unprocessed marked

/-- The first entry of its kind of a registered event keeps the invariant. -/
theorem InboxSound.logged (sound : InboxSound inbox log)
    (registered : inbox.getEvent run.delivery.eventId ≠ none) {kind : InboundKind}
    (first : log.times kind run.delivery.eventId = 0) (write : Option InboundWrite) :
    InboxSound inbox (log ++ [run.entry kind write]) where
  distinct := sound.distinct
  once kind' eventId := by
    have before := sound.once kind' eventId
    rw [InboundLog.times_entry]
    split
    · rename_i same
      obtain ⟨rfl, rfl⟩ := same
      omega
    · omega
  unseen eventId absent kind' := by
    have other : eventId ≠ run.delivery.eventId := fun same => registered (same ▸ absent)
    rw [InboundLog.times_entry_other log other, sound.unseen eventId absent]
  processed row member marked := by
    have before := sound.processed row member marked
    rw [InboundLog.times_entry, if_neg, before]
    rintro ⟨rfl, same⟩
    rw [← same, first] at before
    cases before

/-- Marking the row of a dispatched event keeps the invariant. -/
theorem InboxSound.marked (sound : InboxSound inbox log) {eventId : String} {now : DateTime}
    (done : log.times .dispatched eventId = 1) :
    InboxSound (inbox.markProcessed eventId now) log where
  distinct := by
    unfold Distinct
    rw [BusInbox.map_eventId_markProcessed]
    exact sound.distinct
  once := sound.once
  unseen eventId absent := sound.unseen eventId (BusInbox.getEvent_markProcessed.mp absent)
  processed row member marked := by
    rcases BusInbox.mem_markProcessed member with same | inTable
    · rw [same]
      exact done
    · exact sound.processed row inTable marked

/-- A delivery that is not at work relies on nothing. -/
theorem DeliveryRun.relies_of_idle (idle : ¬ run.stage.Working) : run.Relies inbox log where
  registered working := absurd working idle
  undone undispatched := absurd undispatched.working idle
  done marking := absurd (by rw [marking]; trivial) idle

/-- What another delivery relies on stays. -/
theorem DeliveryRun.Relies.stays (relies : other.Relies inbox log)
    (kept : inbox.getEvent other.delivery.eventId ≠ none →
      inbox'.getEvent other.delivery.eventId ≠ none)
    (same : other.stage.Working →
      ∀ kind, log'.times kind other.delivery.eventId = log.times kind other.delivery.eventId) :
    other.Relies inbox' log' where
  registered working := kept (relies.registered working)
  undone undispatched := by
    rw [same undispatched.working, same undispatched.working]
    exact relies.undone undispatched
  done marking := by
    rw [same (by rw [marking]; trivial)]
    exact relies.done marking

/-- A delivery whose dispatch is logged goes on to mark its row. -/
theorem DeliveryRun.relies_marking (registered : inbox.getEvent run.delivery.eventId ≠ none)
    (first : log.times .dispatched run.delivery.eventId = 0) :
    (run.at .marking).Relies inbox (log ++ [run.entry .dispatched none]) where
  registered _ := registered
  undone undispatched := undispatched.elim
  done _ := by
    show InboundLog.times _ _ run.delivery.eventId = 1
    rw [InboundLog.times_entry, if_pos ⟨rfl, rfl⟩, first]

end Sound

/-! ### What every step keeps -/

theorem log_committed (log : InboundLog) (run : DeliveryRun) (write : InboundWrite) :
    log ++ [run.entry .committed (some write), run.entry .dispatched none] =
      log ++ [run.entry .committed (some write)] ++ [run.entry .dispatched none] := by
  rw [List.append_assoc]
  rfl

/-- After a commit its event has one commit logged, and no dispatch yet. -/
theorem DeliveryRun.Relies.times_committed {world : InboundWorld} {run : DeliveryRun}
    (relies : run.Relies world.inbox world.log) (undispatched : run.stage.Undispatched)
    (write : InboundWrite) :
    InboundLog.times (world.log ++ [run.entry .committed (some write)]) .dispatched
      run.delivery.eventId = 0 := by
  rw [InboundLog.times_entry, if_neg fun both => InboundKind.noConfusion both.1,
    (relies.undone undispatched).2]

theorem inboundSound_advance {start : Db} (consumer : Consumer) {run : DeliveryRun}
    {world : InboundWorld} (sound : InboundSound start world)
    (relies : run.Relies world.inbox world.log) :
    InboundSound start (advanceDelivery consumer run world).2 := by
  have step := stageStep_cases consumer run world
  unfold advanceDelivery
  generalize stageStep consumer run world = next at step ⊢
  obtain ⟨stage, world'⟩ := next
  cases step with
  | idle idle => exact sound
  | prepared dispatching => exact sound
  | inserted fresh => exact ⟨sound.inbox.append fresh rfl, sound.replayed⟩
  | accepted fresh =>
    refine ⟨(sound.inbox.append fresh rfl).logged
      (BusInbox.getEvent_append_self world.inbox run.delivery.row)
      (sound.inbox.unseen _ fresh _) none, ?_⟩
    rw [InboundLog.replay_append]
    exact sound.replayed
  | answered undispatched =>
    refine ⟨sound.inbox.logged (relies.registered undispatched.working)
      (relies.undone undispatched).2 none, ?_⟩
    rw [InboundLog.replay_append]
    exact sound.replayed
  | committed undispatched committed =>
    refine ⟨sound.inbox.logged (relies.registered undispatched.working)
      (relies.undone undispatched).1 _, ?_⟩
    rw [InboundLog.replay_append, sound.replayed, InboundWrite.commit_ok committed]
    rfl
  | dispatched undispatched committed =>
    have registered := relies.registered undispatched.working
    refine ⟨?_, ?_⟩
    · rw [log_committed]
      exact (sound.inbox.logged registered (relies.undone undispatched).1 _).logged registered
        (relies.times_committed undispatched _) none
    · rw [InboundLog.replay_append, sound.replayed, InboundWrite.commit_ok committed]
      rfl
  | marked marking => exact ⟨sound.inbox.marked (relies.done marking), sound.replayed⟩

theorem relies_advance {start : Db} (consumer : Consumer) {run : DeliveryRun}
    {world : InboundWorld} (sound : InboundSound start world)
    (relies : run.Relies world.inbox world.log) :
    (advanceDelivery consumer run world).1.Relies (advanceDelivery consumer run world).2.inbox
      (advanceDelivery consumer run world).2.log := by
  have step := stageStep_cases consumer run world
  unfold advanceDelivery
  generalize stageStep consumer run world = next at step ⊢
  obtain ⟨stage, world'⟩ := next
  cases step with
  | idle idle => exact DeliveryRun.relies_of_idle idle
  | prepared dispatching =>
    have undispatched : run.stage.Undispatched := by
      rw [dispatching]
      trivial
    exact ⟨fun _ => relies.registered undispatched.working, fun _ => relies.undone undispatched,
      fun marking => DeliveryStage.noConfusion marking⟩
  | inserted fresh => exact DeliveryRun.relies_of_idle not_false
  | accepted fresh =>
    refine ⟨fun _ => BusInbox.getEvent_append_self world.inbox run.delivery.row, fun _ => ?_,
      fun marking => DeliveryStage.noConfusion marking⟩
    show InboundLog.times _ _ run.delivery.eventId = 0 ∧
      InboundLog.times _ _ run.delivery.eventId = 0
    have unseen := sound.inbox.unseen _ fresh
    rw [InboundLog.times_entry, if_neg fun both => InboundKind.noConfusion both.1, unseen,
      InboundLog.times_entry, if_neg fun both => InboundKind.noConfusion both.1, unseen]
    exact ⟨rfl, rfl⟩
  | answered undispatched =>
    exact DeliveryRun.relies_marking (relies.registered undispatched.working)
      (relies.undone undispatched).2
  | committed undispatched committed => exact DeliveryRun.relies_of_idle not_false
  | dispatched undispatched committed =>
    dsimp only
    rw [log_committed]
    exact DeliveryRun.relies_marking (relies.registered undispatched.working)
      (relies.times_committed undispatched _)
  | marked marking => exact DeliveryRun.relies_of_idle not_false

theorem others_rely {start : Db} (consumer : Consumer) {run other : DeliveryRun}
    {world : InboundWorld} (sound : InboundSound start world)
    (relies : run.Relies world.inbox world.log) (theirs : other.Relies world.inbox world.log)
    (apart : run.Apart other) :
    other.Relies (advanceDelivery consumer run world).2.inbox
      (advanceDelivery consumer run world).2.log := by
  have step := stageStep_cases consumer run world
  unfold advanceDelivery
  generalize stageStep consumer run world = next at step ⊢
  obtain ⟨stage, world'⟩ := next
  have different : run.stage.Undispatched → other.stage.Working →
      other.delivery.eventId ≠ run.delivery.eventId :=
    fun undispatched working => Ne.symm (apart undispatched.working working)
  cases step with
  | idle idle => exact theirs
  | prepared dispatching => exact theirs
  | inserted fresh =>
    exact theirs.stays (BusInbox.getEvent_append_stays _) fun _ _ => rfl
  | accepted fresh =>
    refine theirs.stays (BusInbox.getEvent_append_stays _) fun working kind => ?_
    refine InboundLog.times_entry_other _ ?_ _ _ _
    intro same
    exact theirs.registered working (same ▸ fresh)
  | answered undispatched =>
    refine theirs.stays id fun working kind => ?_
    exact InboundLog.times_entry_other _ (different undispatched working) _ _ _
  | committed undispatched committed =>
    refine theirs.stays id fun working kind => ?_
    exact InboundLog.times_entry_other _ (different undispatched working) _ _ _
  | dispatched undispatched committed =>
    refine theirs.stays id fun working kind => ?_
    rw [log_committed, InboundLog.times_entry_other _ (different undispatched working),
      InboundLog.times_entry_other _ (different undispatched working)]
  | marked marking =>
    refine theirs.stays (fun there absent => there ?_) fun _ _ => rfl
    exact BusInbox.getEvent_markProcessed.mp absent

theorem deliveries_apart (consumer : Consumer) {run other : DeliveryRun} {world : InboundWorld}
    (theirs : other.Relies world.inbox world.log) (apart : run.Apart other) :
    (advanceDelivery consumer run world).1.Apart other := by
  have step := stageStep_cases consumer run world
  unfold advanceDelivery
  generalize stageStep consumer run world = next at step ⊢
  obtain ⟨stage, world'⟩ := next
  cases step with
  | idle idle => exact fun working => absurd working idle
  | prepared dispatching => exact fun _ => apart (by rw [dispatching]; trivial)
  | inserted fresh => exact fun working => working.elim
  | accepted fresh =>
    intro _ working same
    have same : run.delivery.eventId = other.delivery.eventId := same
    exact theirs.registered working (same ▸ fresh)
  | answered undispatched => exact fun _ => apart undispatched.working
  | committed undispatched committed => exact fun working => working.elim
  | dispatched undispatched committed => exact fun _ => apart undispatched.working
  | marked marking => exact fun working => working.elim

theorem inboundRules (start : Db) (consumer : Consumer) :
    Rules (advanceDelivery consumer) (fun _ _ => True) (InboundSound start)
      (fun world run => run.Relies world.inbox world.log) DeliveryRun.Apart where
  store _ _ sound relies _ := inboundSound_advance consumer sound relies
  own _ _ sound relies _ := relies_advance consumer sound relies
  others _ _ _ sound relies theirs apart _ := others_rely consumer sound relies theirs apart
  apart _ _ _ _ _ theirs apart _ := deliveries_apart consumer theirs apart
  symm _ _ apart working working' := Ne.symm (apart working' working)

/-! ### The result -/

theorem openInbox_holds (db : Db) (deliveries : List (Delivery × List (Option Fault))) :
    Holds (InboundSound db) (fun world run => run.Relies world.inbox world.log) DeliveryRun.Apart
      (openInbox db deliveries) where
  store := ⟨⟨List.nodup_nil, fun _ _ => Nat.zero_le 1, fun _ _ _ => rfl,
    fun _ member => absurd member List.not_mem_nil⟩, rfl⟩
  runs i run found := by
    obtain ⟨_, _, rfl⟩ := List.mem_map.mp (List.mem_of_getElem? found)
    exact DeliveryRun.relies_of_idle not_false
  apart i j run other _ found _ := by
    obtain ⟨_, _, rfl⟩ := List.mem_map.mp (List.mem_of_getElem? found)
    exact fun working => working.elim

/-- **An inbound event takes effect at most once**, however its deliveries interleave, crash and
fail: at most one of them obtains `Ok(true)`, its command commits at most once, a row is marked
processed only if its dispatch succeeded, once; and the tables change by the logged commits alone. -/
theorem inbound_effect_once (consumer : Consumer) (db : Db)
    (deliveries : List (Delivery × List (Option Fault))) (order : List ℕ) :
    let world := ((openInbox db deliveries).exec (advanceDelivery consumer) order).store
    (∀ eventId, world.log.times .accepted eventId ≤ 1 ∧ world.log.times .committed eventId ≤ 1) ∧
      (∀ row ∈ world.inbox, row.processedAt ≠ none → world.log.times .dispatched row.eventId = 1) ∧
      world.db = world.log.replay db := by
  have turns : AllTurns (advanceDelivery consumer) (fun _ _ => True) (openInbox db deliveries)
      order := allTurns_true _ _
  have holds := (inboundRules db consumer).holds_exec (openInbox_holds db deliveries) turns
  obtain ⟨sound, replayed⟩ := holds.store
  exact ⟨fun eventId => ⟨sound.once .accepted eventId, sound.once .committed eventId⟩,
    sound.processed, replayed.symm⟩

/-- A consumer that reads every payment as 100.00 on the first invoice. -/
def samplePayments : Consumer where
  remap := ⟨[]⟩
  parsers := {
    chargeCreated := fun _ => .error "not a charge"
    paymentReceived := fun _ =>
      .ok ⟨some "invoice", ⟨10000, 2, fits_hundred⟩, oneOClock firstOfMarch, none⟩
    paymentRefunded := fun _ => .error "not a refund"
    customerId := fun _ => .error "not a customer"
    invoiceId := fun _ => .ok ⟨1⟩ }

/-- A delivery of one payment; each draws its own ids. -/
def sampleDelivery (draw : ℕ) : Delivery where
  eventId := "evt-1"
  topic := "fin.billing.payment.received"
  source := "fin"
  payload := ""
  ctx := sampleCtx (oneOClock firstOfMarch) draw
  receivedAt := oneOClock firstOfMarch
  processedAt := oneOClock firstOfMarch

-- Both deliveries find the inbox empty; the primary key lets one of them pay.
example :
    let pool := (openInbox issuedDb [(sampleDelivery 7, []), (sampleDelivery 8, [])]).exec
      (advanceDelivery samplePayments) [0, 1, 0, 1, 0, 0, 0, 1]
    pool.store.log.map InboundEntry.kind = [.accepted, .committed, .dispatched] ∧
      pool.store.db.invoices.map Invoice.amountPaid = [⟨10000, 2, fits_hundred⟩] := by
  decide +kernel

end Invoicing
