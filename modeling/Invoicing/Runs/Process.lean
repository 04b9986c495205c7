/-
**The long-lived process, from a command to a subscriber.**

* `Process` — the tables, what each task still has to publish, and the WebSocket connections. Commands commit,
  tasks publish and connections go on in any order; `Process.step` is one step of one of them.
* `Process.announced` — what a command will publish. `Process.heard` — the event a step publishes: every
  forwarder of every connection receives it.
* `Process.connection_run` — the steps of one connection are a run of it. **`Process.heard_drawn`** — what
  is heard is drawn from what the tasks had left and what was announced.
* **`transitions_heard`** — a subscriber that keeps up is sent exactly that, as far as it matches; once
  nothing is left, it was sent the event of every new row of the audit logs that matches.
-/

import Invoicing.Lib.Merge
import Invoicing.Runs.Announced
import Invoicing.Runs.Forwarded

namespace Invoicing

open Chrono (DateTime)
open Labelled Merge

/-! ### The process -/

/-- The bus is told and closed from outside the connection. -/
def WsAction.own : WsAction → Bool
  | .publish _ => false
  | .closeBus => false
  | _ => true

/-- A step of the read loop, the writer or a forwarder of a connection. -/
abbrev ConnectionAction := { action : WsAction // action.own = true }

/-- The process. A command that has committed leaves a task with the events it still has to publish. -/
structure Process where
  tables : ReminderDb
  publishing : List (List BusEvent)
  connections : List WsState

def Process.start (tables : ReminderDb) : Process := ⟨tables, [], []⟩

/-- Who takes the next step. -/
inductive ProcessAction
  | command (part : Part)
  | overdue (now : DateTime)
  | publish (task : ℕ)
  | connect
  | connection (c : ℕ) (action : ConnectionAction)

/-- A connection on a bus that publishes a message. -/
def WsState.hear (capacity : ℕ) (message : BusEvent) (ws : WsState) : WsState :=
  { ws with forwarders := ws.forwarders.map (Forwarder.deliver capacity message) }

/-- One step; `none` when it cannot be taken. -/
def Process.step (capacity : ℕ) (process : Process) : ProcessAction → Option Process
  | .command part =>
      some { process with
        tables := part.execute process.tables
        publishing := process.publishing ++ [part.published process.tables] }
  | .overdue now =>
      let emission := markOverdueTicker now process.tables
      some { process with
        tables := emission.after
        publishing := process.publishing ++ [emission.events] }
  | .publish task =>
      match process.publishing[task]? with
      | some (message :: rest) =>
          some { process with
            publishing := process.publishing.set task rest
            connections := process.connections.map (WsState.hear capacity message) }
      | _ => none
  | .connect => some { process with connections := process.connections ++ [.start] }
  | .connection c action =>
      process.connections[c]?.bind fun ws => (ws.step capacity action.1).map fun next =>
        { process with connections := process.connections.set c next }

/-- The events a step will publish, as one task. -/
def Process.announced (process : Process) : ProcessAction → List (List BusEvent)
  | .command part => [part.published process.tables]
  | .overdue now => [(markOverdueTicker now process.tables).events]
  | _ => []

/-- The event a step publishes. -/
def Process.heard (process : Process) : ProcessAction → List BusEvent
  | .publish task => (process.publishing[task]?.bind List.head?).toList
  | _ => []

/-- The connection of a number, before it is made as it is then. -/
def Process.connectionAt (process : Process) (c : ℕ) : WsState := process.connections[c]?.getD .start

/-- What a step is to a connection. -/
def Process.observed (c : ℕ) (process : Process) : ProcessAction → List WsAction
  | .publish task => (process.heard (.publish task)).map WsAction.publish
  | .connection d action => if d = c then [action.1] else []
  | _ => []

section Inversion

variable {capacity : ℕ} {process next : Process}

theorem Process.step_publish {task : ℕ} (stepped : process.step capacity (.publish task) = some next) :
    ∃ message rest, process.publishing[task]? = some (message :: rest) ∧
      next = { process with
        publishing := process.publishing.set task rest
        connections := process.connections.map (WsState.hear capacity message) } := by
  simp only [step] at stepped
  split at stepped
  · rename_i message rest there
    exact ⟨message, rest, there, (Option.some.inj stepped).symm⟩
  · cases stepped

theorem Process.heard_publish {task : ℕ} {message : BusEvent} {rest : List BusEvent}
    (there : process.publishing[task]? = some (message :: rest)) :
    process.heard (.publish task) = [message] := by
  rw [heard, there]
  rfl

theorem Process.step_connection {c : ℕ} {action : ConnectionAction}
    (stepped : process.step capacity (.connection c action) = some next) :
    ∃ ws after, process.connections[c]? = some ws ∧ ws.step capacity action.1 = some after ∧
      next = { process with connections := process.connections.set c after } := by
  obtain ⟨ws, there, taken⟩ := Option.bind_eq_some_iff.mp stepped
  obtain ⟨after, goes, rfl⟩ := Option.map_eq_some_iff.mp taken
  exact ⟨ws, after, there, goes, rfl⟩

end Inversion

/-! ### What is heard -/

/-- **What is heard is drawn** from what the tasks have left and what is announced, each task's events in
their order. -/
theorem Process.heard_drawn {capacity : ℕ} {process after : Process} {actions : List ProcessAction}
    (ran : run (step capacity) process actions = some after) :
    Drawn (process.publishing ++ journal (step capacity) announced process actions)
      (journal (step capacity) heard process actions) after.publishing := by
  induction actions generalizing process with
  | nil =>
    obtain rfl : process = after := Option.some.inj ran
    rw [journal, journal, List.append_nil]
    exact .none _
  | cons action rest ih =>
    obtain ⟨next, stepped, ran⟩ := run_cons ran
    have later := ih ran
    rw [journal, journal, stepped]
    cases action with
    | command part =>
      obtain rfl := Option.some.inj stepped
      rw [List.append_assoc] at later
      exact later
    | overdue now =>
      obtain rfl := Option.some.inj stepped
      rw [List.append_assoc] at later
      exact later
    | publish task =>
      obtain ⟨message, left, there, rfl⟩ := step_publish stepped
      rw [heard_publish there]
      exact Drawn.front there later
    | connect =>
      obtain rfl := Option.some.inj stepped
      exact later
    | connection c action =>
      obtain ⟨ws, ends, _, _, rfl⟩ := step_connection stepped
      exact later

/-! ### A connection of the process -/

/-- A message to the read loop makes at most a new forwarder. -/
theorem WsState.handle_forwarders (state : WsState) (message : SocketMessage) :
    state.forwarders <+: (state.handle message).forwarders ∧
      (state.handle message).busOpen = state.busOpen := by
  have alone : ∀ after : WsState, after.forwarders = state.forwarders → after.busOpen = state.busOpen →
      state.forwarders <+: after.forwarders ∧ after.busOpen = state.busOpen :=
    fun after same open' => ⟨same ▸ List.prefix_rfl, open'⟩
  cases message with
  | text decoded =>
    cases decoded with
    | error e => exact alone _ rfl rfl
    | ok frame =>
      cases frame with
      | subMgmt sub =>
        obtain ⟨id, op, payload⟩ := sub
        cases op with
        | subscribe =>
          cases payload with
          | subscribe pattern => exact ⟨List.prefix_append _ _, rfl⟩
          | unsubscribe subId => exact alone _ rfl rfl
        | unsubscribe =>
          cases payload with
          | subscribe pattern => exact alone _ rfl rfl
          | unsubscribe subId =>
            unfold handle handleSubMgmt
            dsimp only
            split
            · exact alone _ rfl rfl
            · exact alone _ rfl rfl
      | request req => exact alone _ rfl rfl
  | binary => exact alone _ rfl rfl
  | ping => exact alone _ rfl rfl
  | pong => exact alone _ rfl rfl
  | close => exact alone _ rfl rfl
  | failed => exact alone _ rfl rfl

/-- The patterns of the subscriptions, in the order in which they were made. -/
def WsState.patterns (state : WsState) : List String := state.forwarders.map Forwarder.pattern

theorem WsState.patterns_setForwarder {state : WsState} {k : ℕ} {fwd after : Forwarder}
    (found : state.forwarders[k]? = some fwd) (same : after.pattern = fwd.pattern) :
    (state.setForwarder k after).patterns = state.patterns := by
  have here : (state.forwarders.map Forwarder.pattern)[k]? = some fwd.pattern := by
    rw [List.getElem?_map, found]
    rfl
  obtain ⟨inside, there⟩ := List.getElem?_eq_some_iff.mp here
  show (state.forwarders.set k after).map Forwarder.pattern = state.forwarders.map Forwarder.pattern
  rw [List.map_set, same, ← there]
  exact List.set_getElem_self inside

/-- **Subscriptions stay**, and a connection does not close its own bus. -/
theorem WsState.step_stays {capacity : ℕ} {state next : WsState} {action : WsAction}
    (stepped : state.step capacity action = some next) :
    state.patterns <+: next.patterns ∧ (action.own = true → next.busOpen = state.busOpen) := by
  have alone : ∀ after : WsState, after.patterns = state.patterns → after.busOpen = state.busOpen →
      state.patterns <+: after.patterns ∧ (action.own = true → after.busOpen = state.busOpen) :=
    fun after same open' => ⟨same ▸ List.prefix_rfl, fun _ => open'⟩
  cases action with
  | read message =>
    obtain ⟨_, rfl⟩ := step_read stepped
    obtain ⟨forwarders, open'⟩ := state.handle_forwarders message
    exact ⟨forwarders.map Forwarder.pattern, fun _ => open'⟩
  | dispatched answer =>
    obtain ⟨id, rfl⟩ := step_dispatched stepped
    exact alone _ rfl rfl
  | reply =>
    obtain ⟨removed, answer, sent, _, done, rfl⟩ := step_reply stepped
    rcases send_cases done with ⟨_, rfl⟩ | ⟨_, _, rfl⟩
    · exact alone _ rfl rfl
    · exact alone _ rfl rfl
  | cancelBranch k =>
    obtain ⟨fwd, found, _, rfl⟩ := step_cancelBranch stepped
    refine alone _ ?_ rfl
    exact patterns_setForwarder found rfl
  | messageBranch k =>
    obtain ⟨fwd, found, _, ⟨message, rest, _, rfl⟩ | ⟨_, rfl⟩⟩ := step_messageBranch stepped
    · have same : (fwd.receive message rest).pattern = fwd.pattern := by
        unfold Forwarder.receive
        split
        · rfl
        · rfl
      exact alone _ (patterns_setForwarder found same) rfl
    · refine alone _ ?_ rfl
      exact patterns_setForwarder found rfl
  | forward k =>
    obtain ⟨fwd, frame, sent, found, _, done, rfl⟩ := step_forward stepped
    rcases send_cases done with ⟨_, rfl⟩ | ⟨_, _, rfl⟩
    · refine alone _ ?_ rfl
      exact patterns_setForwarder found rfl
    · have placed : (state.place ⟨.forwarded fwd.subId, .event frame⟩).forwarders[k]? = some fwd := found
      refine alone _ ?_ rfl
      exact patterns_setForwarder placed rfl
  | write sent =>
    obtain ⟨_, rfl⟩ := step_write stepped
    exact alone _ rfl rfl
  | publish message =>
    obtain rfl := step_publish stepped
    refine alone _ ?_ rfl
    exact List.map_map
  | closeBus =>
    obtain rfl := Option.some.inj stepped
    exact ⟨List.prefix_rfl, fun own => by cases own⟩

section Projection

variable {capacity : ℕ} {process next : Process} {c : ℕ}

theorem Process.observed_publish {task : ℕ} {message : BusEvent} {rest : List BusEvent}
    (there : process.publishing[task]? = some (message :: rest)) :
    process.observed c (.publish task) = [.publish message] := by
  show (process.heard (.publish task)).map WsAction.publish = _
  rw [heard_publish there]
  rfl

theorem Process.observed_here (process : Process) (c : ℕ) (action : ConnectionAction) :
    process.observed c (.connection c action) = [action.1] := if_pos rfl

theorem Process.observed_elsewhere {d : ℕ} (elsewhere : d ≠ c) (action : ConnectionAction) :
    process.observed c (.connection d action) = [] := if_neg elsewhere

/-- Every connection hears a message, also one that is not made yet. -/
theorem Process.connectionAt_hear (message : BusEvent) (publishing : List (List BusEvent)) :
    Process.connectionAt
        ⟨process.tables, publishing, process.connections.map (WsState.hear capacity message)⟩ c =
      (process.connectionAt c).hear capacity message := by
  unfold connectionAt
  dsimp only
  rw [List.getElem?_map]
  cases process.connections[c]? with
  | none => rfl
  | some ws => rfl

theorem Process.connectionAt_connect :
    Process.connectionAt { process with connections := process.connections ++ [.start] } c =
      process.connectionAt c := by
  unfold connectionAt
  dsimp only
  rw [List.getElem?_append]
  split
  · rfl
  · rename_i outside
    rw [List.getElem?_eq_none (Nat.le_of_not_lt outside)]
    cases c - process.connections.length with
    | zero => rfl
    | succ n => rfl

theorem Process.connectionAt_some {ws : WsState} (there : process.connections[c]? = some ws) :
    process.connectionAt c = ws := by
  unfold connectionAt
  rw [there]
  rfl

theorem Process.connectionAt_elsewhere {d : ℕ} (elsewhere : d ≠ c) (after : WsState) :
    Process.connectionAt { process with connections := process.connections.set d after } c =
      process.connectionAt c := by
  unfold connectionAt
  dsimp only
  rw [List.getElem?_set_ne elsewhere]

/-- **What a step is to a connection, the connection takes**, and its bus stays open. -/
theorem Process.connection_step {action : ProcessAction} (c : ℕ)
    (open' : (process.connectionAt c).busOpen = true) (stepped : process.step capacity action = some next) :
    run (WsState.step capacity) (process.connectionAt c) (process.observed c action) =
        some (next.connectionAt c) ∧
      (next.connectionAt c).busOpen = true := by
  cases action with
  | command part =>
    obtain rfl := Option.some.inj stepped
    exact ⟨rfl, open'⟩
  | overdue now =>
    obtain rfl := Option.some.inj stepped
    exact ⟨rfl, open'⟩
  | publish task =>
    obtain ⟨message, rest, there, rfl⟩ := step_publish stepped
    rw [observed_publish there, connectionAt_hear, run_singleton]
    exact ⟨if_pos open', open'⟩
  | connect =>
    obtain rfl := Option.some.inj stepped
    rw [connectionAt_connect]
    exact ⟨rfl, open'⟩
  | connection d action =>
    obtain ⟨ws, after, there, goes, rfl⟩ := step_connection stepped
    by_cases here : d = c
    · subst here
      have inside := (List.getElem?_eq_some_iff.mp there).1
      rw [observed_here, run_singleton, connectionAt_some there,
        connectionAt_some (List.getElem?_set_self inside), (WsState.step_stays goes).2 action.2,
        ← connectionAt_some there]
      exact ⟨connectionAt_some there ▸ goes, open'⟩
    · rw [observed_elsewhere here, connectionAt_elsewhere here]
      exact ⟨rfl, open'⟩

end Projection

section Runs

variable {capacity : ℕ} {process after : Process} {actions : List ProcessAction}

/-- **The steps of one connection are a run of it.** -/
theorem Process.connection_run (c : ℕ) (open' : (process.connectionAt c).busOpen = true)
    (ran : run (step capacity) process actions = some after) :
    run (WsState.step capacity) (process.connectionAt c)
        (journal (step capacity) (observed c) process actions) = some (after.connectionAt c) ∧
      (after.connectionAt c).busOpen = true := by
  obtain ⟨last, goes, rfl, stays⟩ := (meets_true process actions).refines
    (R := fun process ws => process.connectionAt c = ws ∧ ws.busOpen = true)
    (fun process ws action next related _ stepped => by
      obtain ⟨rfl, open'⟩ := related
      obtain ⟨goes, stays⟩ := connection_step c open' stepped
      exact ⟨_, goes, rfl, stays⟩)
    ⟨rfl, open'⟩ ran
  exact ⟨goes, stays⟩

/-- The messages that a connection observes are those that are heard. -/
theorem Process.observed_messages (c : ℕ) (process : Process) (actions : List ProcessAction) :
    (journal (step capacity) (observed c) process actions).filterMap WsAction.message =
      journal (step capacity) heard process actions := by
  induction actions generalizing process with
  | nil => rfl
  | cons action rest ih =>
    have here : (process.observed c action).filterMap WsAction.message = process.heard action := by
      cases action with
      | publish task =>
        show ((process.heard (.publish task)).map WsAction.publish).filterMap WsAction.message = _
        rw [List.filterMap_map]
        exact List.filterMap_some
      | connection d action =>
        obtain ⟨action, own⟩ := action
        have silent : action.message = none := by
          cases action with
          | publish message => cases own
          | _ => rfl
        by_cases here : d = c
        · subst here
          rw [observed_here, List.filterMap_cons_none silent]
          rfl
        · rw [observed_elsewhere here]
          rfl
      | _ => rfl
    rw [journal, journal, List.filterMap_append, here]
    cases process.step capacity action with
    | none => rfl
    | some next => exact congrArg (process.heard action ++ ·) (ih next)

/-- The subscription of number `k` of a connection has room when an event is published. -/
def Process.KeepsUp (capacity c k : ℕ) (process : Process) : ProcessAction → Prop
  | .publish _ => ∀ fwd ∈ (process.connectionAt c).forwarders[k]?, fwd.unread.length < capacity
  | _ => True

instance (capacity c k : ℕ) (process : Process) :
    (action : ProcessAction) → Decidable (process.KeepsUp capacity c k action)
  | .publish _ =>
      inferInstanceAs
        (Decidable (∀ fwd ∈ (process.connectionAt c).forwarders[k]?, fwd.unread.length < capacity))
  | .command _ => inferInstanceAs (Decidable True)
  | .overdue _ => inferInstanceAs (Decidable True)
  | .connect => inferInstanceAs (Decidable True)
  | .connection _ _ => inferInstanceAs (Decidable True)

theorem Process.connection_keepsUp {c k : ℕ} (open' : (process.connectionAt c).busOpen = true)
    (keeps : Meets (step capacity) (KeepsUp capacity c k) process actions)
    (ran : run (step capacity) process actions = some after) :
    Meets (WsState.step capacity) (Invoicing.KeepsUp capacity k) (process.connectionAt c)
      (journal (step capacity) (observed c) process actions) := by
  refine keeps.journal (R := fun process ws => process.connectionAt c = ws ∧ ws.busOpen = true) ?_
    ⟨rfl, open'⟩ ran
  rintro process ws action next ⟨rfl, open'⟩ room stepped
  obtain ⟨goes, stays⟩ := connection_step c open' stepped
  refine ⟨?_, fun ws taken => ?_⟩
  · cases action with
    | publish task =>
      obtain ⟨message, rest, there, rfl⟩ := step_publish stepped
      rw [observed_publish there]
      exact ⟨room, fun _ _ => trivial⟩
    | connection d action =>
      obtain ⟨action, own⟩ := action
      have free : Invoicing.KeepsUp capacity k (process.connectionAt c) action := by
        cases action with
        | publish message => cases own
        | _ => trivial
      by_cases here : d = c
      · subst here
        rw [observed_here]
        exact ⟨free, fun _ _ => trivial⟩
      · rw [observed_elsewhere here]
        trivial
    | _ => trivial
  · rw [goes] at taken
    obtain rfl := Option.some.inj taken
    exact ⟨rfl, stays⟩

/-! ### The audit logs -/

/-- The rows of a step are told by what it announces. -/
theorem Process.told_step {next : Process} {action : ProcessAction}
    (stepped : process.step capacity action = some next) :
    Told (process.announced action).flatten process.tables.db next.tables.db := by
  have alone : Told (process.announced action).flatten process.tables.db process.tables.db :=
    SameLogs.appends (.refl _)
  cases action with
  | command part =>
    obtain rfl := Option.some.inj stepped
    refine (part.told process.tables).mono ?_
    show part.published process.tables ⊆ [part.published process.tables].flatten
    rw [List.flatten_singleton]
    exact List.Subset.refl _
  | overdue now =>
    obtain rfl := Option.some.inj stepped
    exact alone
  | publish task =>
    obtain ⟨message, rest, _, rfl⟩ := step_publish stepped
    exact alone
  | connect =>
    obtain rfl := Option.some.inj stepped
    exact alone
  | connection c action =>
    obtain ⟨ws, after, _, _, rfl⟩ := step_connection stepped
    exact alone

/-- **The rows of a run are told by what it announces.** -/
theorem Process.told_run (ran : run (step capacity) process actions = some after) :
    Told (journal (step capacity) announced process actions).flatten process.tables.db after.tables.db := by
  have announces : Meets (step capacity)
      (fun between action => between.announced action ⊆ journal (step capacity) announced process actions)
      process actions := meets_journal announced process actions (List.Subset.refl _)
  refine announces.keeps (I := fun later =>
    Told (journal (step capacity) announced process actions).flatten process.tables.db later.tables.db) ?_
    (SameLogs.appends (.refl _)) ran
  intro between action next told within stepped
  refine told.trans ((told_step stepped).mono fun event there => ?_)
  obtain ⟨events, announced, inside⟩ := List.mem_flatten.mp there
  exact List.mem_flatten.mpr ⟨events, within announced, inside⟩

end Runs

/-! ### From a command to a subscriber -/

/-- The read loop takes a subscribe. -/
def subscribeTo (id pattern : String) : ConnectionAction :=
  ⟨.read (.text (.ok (.subMgmt ⟨id, .subscribe, .subscribe pattern⟩))), rfl⟩

/-- Nothing is left to publish, and the subscriber has received and sent what was published. -/
structure Process.Quiet (process : Process) (fwd : Forwarder) : Prop where
  published : ∀ events ∈ process.publishing, events = []
  received : fwd.unread = []
  sent : fwd.held = none

/-- An event that matches was sent to the subscriber. -/
def WsState.Sent (ws : WsState) (fwd : Forwarder) (event : BusEvent) : Prop :=
  topicMatches fwd.pattern event.topic = true → event.toFrame ∈ ws.events fwd.subId

theorem WsState.patterns_run {capacity : ℕ} {state next : WsState} {actions : List WsAction}
    (ran : run (step capacity) state actions = some next) : state.patterns <+: next.patterns := by
  refine run_keeps (I := fun later => state.patterns <+: later.patterns) ?_ List.prefix_rfl ran
  intro between action next earlier stepped
  exact earlier.trans (step_stays stepped).1

theorem WsState.forwarders_run {capacity : ℕ} {state next : WsState} {actions : List WsAction}
    (ran : run (step capacity) state actions = some next) :
    state.forwarders.length ≤ next.forwarders.length := by
  have longer := (patterns_run ran).length_le
  unfold patterns at longer
  rwa [List.length_map, List.length_map] at longer

/-- A subscriber is sent what is heard as far as it matches, but for what it holds and what it has not
received; and what is heard is drawn from what the tasks have `left` and what commands have `announced` since.
Once nothing is left, it was sent the events of each command in their order, and of every new row of the audit
logs the event that tells it. -/
structure Served (ws : WsState) (fwd : Forwarder) (left announced : List (List BusEvent)) (before : Db)
    (after : Process) : Prop where
  received : ∃ heard, Drawn (left ++ announced) heard after.publishing ∧
    ws.events fwd.subId ++ fwd.held.toList ++ fwd.forwards fwd.unread = fwd.forwards heard
  ordered : after.Quiet fwd → ∀ events ∈ announced, (fwd.forwards events).Sublist (ws.events fwd.subId)
  rows : after.Quiet fwd →
    Appends (fun row => ∃ event : BusEvent, event.Tells row ∧ ws.Sent fwd event)
      (fun row => ∃ event : BusEvent, event.TellsNote row ∧ ws.Sent fwd event) before after.tables.db

section Subscriber

variable {capacity c : ℕ} {id pattern : String} {tables : ReminderDb} {first second : List ProcessAction}
  {before between after : Process}

/-- **A subscriber that keeps up receives what is heard since it subscribed**, and nothing else. -/
theorem Process.heard_since (reached : run (step capacity) (start tables) first = some before)
    (subscribes : before.step capacity (.connection c (subscribeTo id pattern)) = some between)
    (ran : run (step capacity) between second = some after)
    (keeps : Meets (step capacity) (KeepsUp capacity c (before.connectionAt c).forwarders.length)
      between second)
    (writing : (after.connectionAt c).writing = true)
    (few : (after.connectionAt c).forwarders.length < 2 ^ 64) :
    ∃ fwd, (after.connectionAt c).forwarders[(before.connectionAt c).forwarders.length]? = some fwd ∧
      fwd.pattern = pattern ∧
      (after.connectionAt c).events fwd.subId ++ fwd.held.toList ++ fwd.forwards fwd.unread =
        fwd.forwards (journal (step capacity) heard between second) := by
  obtain ⟨earlier, open'⟩ := connection_run c rfl reached
  obtain ⟨makes, stays⟩ := connection_step c open' subscribes
  obtain ⟨later, _⟩ := connection_run c stays ran
  rw [observed_here, run_singleton] at makes
  obtain ⟨_, made⟩ := WsState.step_read makes
  have fewBetween := Nat.lt_of_le_of_lt (WsState.forwarders_run later) few
  have fewBefore := Nat.lt_of_le_of_lt (WsState.step_forwarders makes) fewBetween
  -- until it subscribes the subscriber is not there, and then it is fed
  have unmade : Forwarding (· = ·) (before.connectionAt c).forwarders.length (before.connectionAt c)
      (journal (step capacity) (observed c) (start tables) first) :=
    (forwarding_run earlier fewBefore).unmade (Nat.le_refl _)
  have subscribed := unmade.step rfl (fun _ message => by cases message) fewBetween makes
  have forwarding := subscribed.keepsUp later (connection_keepsUp stays keeps ran) few
  obtain ⟨more, grown⟩ := WsState.patterns_run later
  have patterns : (after.connectionAt c).patterns = (before.connectionAt c).patterns ++ pattern :: more := by
    rw [← grown, made]
    show (((before.connectionAt c).forwarders ++ [_]).map Forwarder.pattern) ++ more = _
    rw [List.map_append, List.append_assoc]
    rfl
  have there :
      (after.connectionAt c).patterns[(before.connectionAt c).forwarders.length]? = some pattern := by
    have place : (before.connectionAt c).forwarders.length = (before.connectionAt c).patterns.length :=
      (List.length_map Forwarder.pattern).symm
    rw [patterns, place, List.getElem?_append_right (Nat.le_refl _), Nat.sub_self]
    rfl
  unfold WsState.patterns at there
  rw [List.getElem?_map] at there
  obtain ⟨fwd, found, same⟩ := Option.map_eq_some_iff.mp there
  refine ⟨fwd, found, same, ?_⟩
  have since : publishedSince (before.connectionAt c).forwarders.length
      (journal (step capacity) (observed c) (start tables) first ++
        (subscribeTo id pattern).1 :: journal (step capacity) (observed c) between second) =
      journal (step capacity) heard between second := by
    rw [unmade.made, publishedSince_made _ _ rfl, observed_messages]
  rw [forwarding.events_complete found writing, List.append_assoc]
  exact congrArg fwd.forwards since

/-- Once nothing is left the subscriber was sent every event of the tasks that matches. -/
theorem Process.Quiet.sent_all {process : Process} {fwd : Forwarder} (quiet : process.Quiet fwd)
    {ws : WsState} {tasks : List (List BusEvent)} {heard : List BusEvent}
    (drawn : Drawn tasks heard process.publishing)
    (received : ws.events fwd.subId ++ fwd.held.toList ++ fwd.forwards fwd.unread = fwd.forwards heard) :
    (∀ events ∈ tasks, (fwd.forwards events).Sublist (ws.events fwd.subId)) ∧
      ∀ event ∈ tasks.flatten, ws.Sent fwd event := by
  have all : ws.events fwd.subId = fwd.forwards heard := by
    rw [quiet.sent, quiet.received] at received
    rw [← received]
    show _ = ws.events fwd.subId ++ [] ++ []
    rw [List.append_nil, List.append_nil]
  constructor
  · intro events there
    obtain ⟨task, place⟩ := List.getElem?_of_mem there
    obtain ⟨taken, rest, split, left, within⟩ := drawn.part place
    rw [quiet.published rest (List.mem_of_getElem? left), List.append_nil] at split
    rw [all, split]
    exact (within.filter _).map _
  · intro event there takes
    have published : event ∈ heard := (drawn.drained quiet.published).mem_iff.mpr there
    rw [all]
    exact List.mem_map_of_mem (List.mem_filter.mpr ⟨published, takes⟩)

/-- **From a command to a subscriber, in every order of steps**, a subscriber that keeps up is served, on a
connection that still writes. -/
theorem transitions_heard (reached : run (Process.step capacity) (.start tables) first = some before)
    (subscribes : before.step capacity (.connection c (subscribeTo id pattern)) = some between)
    (ran : run (Process.step capacity) between second = some after)
    (keeps : Meets (Process.step capacity)
      (Process.KeepsUp capacity c (before.connectionAt c).forwarders.length) between second)
    (writing : (after.connectionAt c).writing = true)
    (few : (after.connectionAt c).forwarders.length < 2 ^ 64) :
    ∃ fwd, (after.connectionAt c).forwarders[(before.connectionAt c).forwarders.length]? = some fwd ∧
      fwd.pattern = pattern ∧
      Served (after.connectionAt c) fwd between.publishing
        (journal (Process.step capacity) Process.announced between second) between.tables.db after := by
  obtain ⟨fwd, found, same, received⟩ := Process.heard_since reached subscribes ran keeps writing few
  have drawn := Process.heard_drawn ran
  refine ⟨fwd, found, same, ⟨_, drawn, received⟩, fun quiet => ?_, fun quiet => ?_⟩
  · intro events there
    exact (quiet.sent_all drawn received).1 events (List.mem_append_right _ there)
  · have later : ∀ event ∈ (journal (Process.step capacity) Process.announced between second).flatten,
        (after.connectionAt c).Sent fwd event := by
      intro event there
      obtain ⟨events, announced, inside⟩ := List.mem_flatten.mp there
      exact (quiet.sent_all drawn received).2 event
        (List.mem_flatten.mpr ⟨events, List.mem_append_right _ announced, inside⟩)
    refine Appends.mono (Process.told_run ran) ?_ ?_
    · rintro row ⟨event, there, tells⟩
      exact ⟨event, tells, later event there⟩
    · rintro row ⟨event, there, tells⟩
      exact ⟨event, tells, later event there⟩

end Subscriber

/-- The sample invoice is drafted, and a subscriber is told. -/
def draftHeard : List ProcessAction :=
  [.command (.invoice (.draft (sampleCtx (oneOClock firstOfMarch) 1) sampleDraft)), .publish 0,
    .connection 0 ⟨.messageBranch 0, rfl⟩, .connection 0 ⟨.forward 0, rfl⟩]

/-- The draft has a row, its event is the one that a subscriber to everything is sent, and nothing is left. -/
theorem transitions_heard_draft :
    ∃ between after fwd, run (Process.step 1024) between draftHeard = some after ∧ after.Quiet fwd ∧
      ((after.connectionAt 0).events "sub_1").map EventFrame.topic = [topicInvoiceDrafted] ∧
      after.tables.db.history.length = 1 ∧
      Served (after.connectionAt 0) fwd []
        (journal (Process.step 1024) Process.announced between draftHeard) sampleDb after := by
  let before : Process := ⟨⟨sampleDb, []⟩, [], [.start]⟩
  let between : Process := ⟨⟨sampleDb, []⟩, [], [WsState.start.handle (.text (.ok (.subMgmt
    ⟨"1", .subscribe, .subscribe "#"⟩)))]⟩
  have reached : run (Process.step 1024) (.start ⟨sampleDb, []⟩) [.connect] = some before := rfl
  have subscribes : before.step 1024 (.connection 0 (subscribeTo "1" "#")) = some between := rfl
  have keeps : Meets (Process.step 1024) (Process.KeepsUp 1024 0 0) between draftHeard := by decide +kernel
  have ends : (run (Process.step 1024) between draftHeard).map (fun after =>
      ((after.connectionAt 0).writing, after.publishing.map List.length,
        (after.connectionAt 0).forwarders.map fun fwd => (fwd.unread.length, fwd.held.isNone))) =
      some (true, [0], [(0, true)]) := by decide +kernel
  have sent : (run (Process.step 1024) between draftHeard).map (fun after =>
      (((after.connectionAt 0).events "sub_1").map EventFrame.topic, after.tables.db.history.length)) =
      some ([topicInvoiceDrafted], 1) := by decide +kernel
  obtain ⟨after, ran, same⟩ := Option.map_eq_some_iff.mp ends
  obtain ⟨writing, same⟩ := Prod.mk.inj same
  obtain ⟨published, idle⟩ := Prod.mk.inj same
  rw [ran] at sent
  obtain ⟨topics, row⟩ := Prod.mk.inj (Option.some.inj sent)
  have one : (after.connectionAt 0).forwarders.length = 1 := by
    have lengths := congrArg List.length idle
    rwa [List.length_map] at lengths
  obtain ⟨fwd, found, _, served⟩ := transitions_heard reached subscribes ran keeps writing (by omega)
  have quiet : after.Quiet fwd := by
    have there : (after.connectionAt 0).forwarders[0]? = some fwd := found
    have here : ((after.connectionAt 0).forwarders.map fun fwd => (fwd.unread.length, fwd.held.isNone))[0]? =
        some (0, true) := by
      rw [idle]
      rfl
    rw [List.getElem?_map, there] at here
    obtain ⟨unread, held⟩ := Prod.mk.inj (Option.some.inj here)
    refine ⟨fun events left => ?_, List.length_eq_zero_iff.mp unread, Option.isNone_iff_eq_none.mp held⟩
    have length : events.length ∈ after.publishing.map List.length := List.mem_map_of_mem left
    rw [published] at length
    exact List.length_eq_zero_iff.mp (List.mem_singleton.mp length)
  exact ⟨between, after, fwd, ran, quiet, topics, row, served⟩

end Invoicing
