/-
**A WebSocket connection.**

* `ClientFrame`, `ServerFrame` — what a client sends and is sent.
* `WsState` — a connection: its read loop, the forwarders of its subscriptions, and what was placed on its
  outbound queue. The handle of a forwarder is in `subs` until it is dropped.
* `WsState.step` — one step of the read loop, of a forwarder, of the writer or of the bus. A send on a full
  queue waits, and a `select!` takes either of two ready branches.
* **`WsState.bounded_run`** — the queue never holds more than its 64 frames.
-/

import Invoicing.Lib.DigitText
import Invoicing.Lib.Labelled
import Invoicing.State.Events
import Invoicing.Ws.Topics

namespace Invoicing

open Chrono (DateTime)

/-! ### Frames -/

/-- Error body of a response. -/
structure ErrorBody where
  code : String
  message : String

inductive ResponseBody
  | result (result : Json)
  | error (error : ErrorBody)

structure ResponseFrame where
  id : String
  body : ResponseBody

def ResponseFrame.result (id : String) (result : Json) : ResponseFrame := ⟨id, .result result⟩

def ResponseFrame.error (id code message : String) : ResponseFrame := ⟨id, .error ⟨code, message⟩⟩

/-- A pushed event of the bus. -/
structure EventFrame where
  topic : String
  payload : Json
  timestamp : DateTime

/-- One frame sent by the server. -/
inductive ServerFrame
  | response (frame : ResponseFrame)
  | event (frame : EventFrame)

structure RequestFrame where
  id : String
  op : String
  payload : Json

inductive SubMgmtOp
  | subscribe
  | unsubscribe

inductive SubMgmtPayload
  | subscribe (pattern : String)
  | unsubscribe (subId : String)

structure SubMgmtFrame where
  id : String
  op : SubMgmtOp
  payload : SubMgmtPayload

/-- One frame received from a client. -/
inductive ClientFrame
  | subMgmt (frame : SubMgmtFrame)
  | request (frame : RequestFrame)

/-- What the socket yields. A text is a frame, or does not decode. -/
inductive SocketMessage
  | text (decoded : Except String ClientFrame)
  | binary
  | ping
  | pong
  | close
  | failed

/-! ### The state of a connection -/

/-- Why a frame is placed on the queue. -/
inductive Origin
  | reply
  | unsubscribed (subId : String)
  | forwarded (subId : String)
  deriving DecidableEq

/-- A frame on the outbound queue. -/
structure Outbound where
  origin : Origin
  frame : ServerFrame

/-- Where the read loop is: before a message, in a request, or in the send of an answer. `removed` is the
id whose unsubscribe the answer reports as done. -/
inductive Reader
  | waiting
  | dispatching (id : String)
  | replying (removed : Option String) (answer : ResponseFrame)
  | closed

/-- Where a forwarder is: in its `select!`, in the send of an event, or at its end. -/
inductive ForwarderPhase
  | selecting
  | sending (frame : EventFrame)
  | ended

/-- The task of a subscription; `unread` are the messages its subscriber has not received. -/
structure Forwarder where
  subId : String
  pattern : String
  unread : List BusEvent
  phase : ForwarderPhase

/-- A connection. `subs` has the cancellation handle of a forwarder, by its place; the queue is what was
placed without the first `written`, and is closed when the writer has stopped. -/
structure WsState where
  reader : Reader
  subs : List (String × ℕ)
  nextSubId : ℕ
  forwarders : List Forwarder
  placed : List Outbound
  written : ℕ
  writing : Bool
  busOpen : Bool

/-- The connection after the upgrade. -/
def WsState.start : WsState := ⟨.waiting, [], 1, [], [], 0, true, true⟩

/-- Capacity of the outbound queue. -/
def outCapacity : ℕ := 64

/-! ### The read loop -/

/-- `sub_` and the number. -/
def subIdText (n : ℕ) : String := "sub_" ++ String.ofList (Nat.toDigits 10 n)

theorem subIdText_injective {m n : ℕ} (same : subIdText m = subIdText n) : m = n := by
  have texts := congrArg String.toList same
  unfold subIdText at texts
  simp only [String.toList_append, String.toList_ofList] at texts
  exact DigitText.toDigits_injective (List.append_cancel_left texts)

/-- The read loop goes on to answer. -/
def WsState.respond (state : WsState) (answer : ResponseFrame) : WsState :=
  { state with reader := .replying none answer }

/-- The answer as it is placed on the queue. -/
def answerEntry (removed : Option String) (answer : ResponseFrame) : Outbound :=
  ⟨removed.elim .reply .unsubscribed, .response answer⟩

/-- A new forwarder, and its handle under a new id. The counter is a `u64`. -/
def WsState.subscribe (state : WsState) (pattern : String) : WsState :=
  let subId := subIdText state.nextSubId
  { state with
    subs := (subId, state.forwarders.length) :: state.subs.filter fun sub => decide (sub.1 ≠ subId)
    nextSubId := (state.nextSubId + 1) % 2 ^ 64
    forwarders := state.forwarders ++ [⟨subId, pattern, [], .selecting⟩] }

/-- The handle of an id is dropped. -/
def WsState.removeSub (state : WsState) (subId : String) : WsState :=
  { state with subs := state.subs.filter fun sub => decide (sub.1 ≠ subId) }

def WsState.handleSubMgmt (state : WsState) (sub : SubMgmtFrame) : WsState :=
  match sub.op, sub.payload with
  | .subscribe, .subscribe pattern =>
      (state.subscribe pattern).respond
        (.result sub.id (.obj [("sub_id", .str (subIdText state.nextSubId)), ("pattern", .str pattern)]))
  | .unsubscribe, .unsubscribe subId =>
      if (state.subs.lookup subId).isSome then
        { state.removeSub subId with
          reader := .replying (some subId)
            (.result sub.id (.obj [("sub_id", .str subId), ("cancelled", .bool true)])) }
      else
        (state.removeSub subId).respond (.error sub.id "not_found" ("unknown sub_id: " ++ subId))
  | _, _ =>
      state.respond (.error sub.id "validation" "sub-mgmt op and payload shape disagree")

/-- The read loop takes a message. -/
def WsState.handle (state : WsState) : SocketMessage → WsState
  | .text (.error e) => state.respond (.error "" "validation" ("frame decode: " ++ e))
  | .text (.ok (.request req)) => { state with reader := .dispatching req.id }
  | .text (.ok (.subMgmt sub)) => state.handleSubMgmt sub
  | .binary =>
      state.respond
        (.error "" "validation" "binary frames are not supported; send JSON text frames")
  | .ping => state
  | .pong => state
  | .close => { state with reader := .closed, subs := [] }
  | .failed => { state with reader := .closed, subs := [] }

/-- The answer to a request. -/
def requestAnswer (id : String) : Except ErrorBody Json → ResponseFrame
  | .ok result => .result id result
  | .error body => .error id body.code body.message

/-! ### The queue -/

/-- The queue has room. -/
def WsState.hasRoom (state : WsState) : Bool := decide (state.placed.length < state.written + outCapacity)

def WsState.place (state : WsState) (entry : Outbound) : WsState :=
  { state with placed := state.placed ++ [entry] }

/-- A send: it waits while the queue is full, and fails once the queue is closed. -/
def WsState.send (state : WsState) (entry : Outbound) : Option WsState :=
  if state.writing = false then some state
  else if state.hasRoom = true then some (state.place entry)
  else none

/-! ### The forwarders -/

/-- The cancellation handle of the forwarder is dropped. -/
def WsState.cancelReady (state : WsState) (k : ℕ) : Bool := state.subs.all fun sub => decide (sub.2 ≠ k)

def WsState.setForwarder (state : WsState) (k : ℕ) (fwd : Forwarder) : WsState :=
  { state with forwarders := state.forwarders.set k fwd }

def BusEvent.toFrame (message : BusEvent) : EventFrame :=
  ⟨message.topic, message.payload, message.occurredAt⟩

/-- The forwarder after the message it receives. -/
def Forwarder.receive (fwd : Forwarder) (message : BusEvent) (rest : List BusEvent) : Forwarder :=
  if topicMatches fwd.pattern message.topic then
    { fwd with unread := rest, phase := .sending message.toFrame }
  else { fwd with unread := rest }

/-- A message is published to a subscriber; one that lags keeps the last `capacity` messages. -/
def Forwarder.deliver (capacity : ℕ) (message : BusEvent) (fwd : Forwarder) : Forwarder :=
  { fwd with
    unread := (fwd.unread ++ [message]).drop ((fwd.unread ++ [message]).length - capacity) }

/-- The branch of the `select!` for the cancellation. -/
def WsState.cancelBranch (state : WsState) (k : ℕ) (fwd : Forwarder) : Option WsState :=
  match fwd.phase with
  | .selecting =>
      if state.cancelReady k = true then some (state.setForwarder k { fwd with phase := .ended }) else none
  | _ => none

/-- The branch of the `select!` for a message. -/
def WsState.messageBranch (state : WsState) (k : ℕ) (fwd : Forwarder) : Option WsState :=
  match fwd.phase, fwd.unread with
  | .selecting, message :: rest => some (state.setForwarder k (fwd.receive message rest))
  | .selecting, [] =>
      if state.busOpen = true then none else some (state.setForwarder k { fwd with phase := .ended })
  | _, _ => none

/-- The send of an event; after a failed one the forwarder ends. -/
def WsState.forward (state : WsState) (k : ℕ) (fwd : Forwarder) : Option WsState :=
  match fwd.phase with
  | .sending frame =>
      (state.send ⟨.forwarded fwd.subId, .event frame⟩).map fun sent =>
        sent.setForwarder k { fwd with phase := if state.writing = true then .selecting else .ended }
  | _ => none

/-! ### Steps -/

/-- Who takes the next step. -/
inductive WsAction
  | read (message : SocketMessage)
  | dispatched (answer : Except ErrorBody Json)
  | reply
  | cancelBranch (k : ℕ)
  | messageBranch (k : ℕ)
  | forward (k : ℕ)
  | write (sent : Bool)
  | publish (message : BusEvent)
  | closeBus

/-- One step; `none` when it cannot be taken. -/
def WsState.step (capacity : ℕ) (state : WsState) : WsAction → Option WsState
  | .read message =>
      match state.reader with
      | .waiting => some (state.handle message)
      | _ => none
  | .dispatched answer =>
      match state.reader with
      | .dispatching id => some (state.respond (requestAnswer id answer))
      | _ => none
  | .reply =>
      match state.reader with
      | .replying removed answer =>
          (state.send (answerEntry removed answer)).map fun sent => { sent with reader := .waiting }
      | _ => none
  | .cancelBranch k => state.forwarders[k]?.bind (state.cancelBranch k)
  | .messageBranch k => state.forwarders[k]?.bind (state.messageBranch k)
  | .forward k => state.forwarders[k]?.bind (state.forward k)
  | .write sent =>
      if state.writing = true ∧ state.written < state.placed.length then
        some { state with written := state.written + 1, writing := sent }
      else none
  | .publish message =>
      if state.busOpen = true then
        some { state with forwarders := state.forwarders.map (Forwarder.deliver capacity message) }
      else none
  | .closeBus => some { state with busOpen := false }

/-! ### What a step does -/

section Inversion

variable {capacity : ℕ} {state next : WsState} {k : ℕ}

/-- A message changes neither the queue nor the bus. -/
theorem WsState.handle_queue (state : WsState) (message : SocketMessage) :
    (state.handle message).placed = state.placed ∧ (state.handle message).written = state.written := by
  have subMgmt : ∀ sub, (state.handleSubMgmt sub).placed = state.placed ∧
      (state.handleSubMgmt sub).written = state.written := by
    rintro ⟨id, op, payload⟩
    cases op with
    | subscribe =>
      cases payload with
      | subscribe pattern => exact ⟨rfl, rfl⟩
      | unsubscribe subId => exact ⟨rfl, rfl⟩
    | unsubscribe =>
      cases payload with
      | subscribe pattern => exact ⟨rfl, rfl⟩
      | unsubscribe subId =>
        unfold handleSubMgmt
        dsimp only
        split
        · exact ⟨rfl, rfl⟩
        · exact ⟨rfl, rfl⟩
  cases message with
  | text decoded =>
    cases decoded with
    | error e => exact ⟨rfl, rfl⟩
    | ok frame =>
      cases frame with
      | subMgmt sub => exact subMgmt sub
      | request req => exact ⟨rfl, rfl⟩
  | _ => exact ⟨rfl, rfl⟩

/-- A send fails, or places its frame on a queue that has room. -/
theorem WsState.send_cases {entry : Outbound} (sent : state.send entry = some next) :
    (state.writing = false ∧ next = state) ∨
      (state.writing = true ∧ state.hasRoom = true ∧ next = state.place entry) := by
  unfold send at sent
  split at sent
  · rename_i closed
    exact Or.inl ⟨closed, (Option.some.inj sent).symm⟩
  · rename_i running
    split at sent
    · rename_i room
      exact Or.inr ⟨by simpa using running, room, (Option.some.inj sent).symm⟩
    · cases sent

/-- A send on an open queue with room places its frame. -/
theorem WsState.send_room (entry : Outbound) (writing : state.writing = true) (room : state.hasRoom = true) :
    state.send entry = some (state.place entry) := by
  unfold send
  rw [writing, room]
  rfl

theorem WsState.step_read {message : SocketMessage}
    (stepped : state.step capacity (.read message) = some next) :
    state.reader = .waiting ∧ next = state.handle message := by
  simp only [step] at stepped
  split at stepped
  · rename_i waiting
    exact ⟨waiting, (Option.some.inj stepped).symm⟩
  · cases stepped

theorem WsState.step_dispatched {answer : Except ErrorBody Json}
    (stepped : state.step capacity (.dispatched answer) = some next) :
    ∃ id, next = state.respond (requestAnswer id answer) := by
  simp only [step] at stepped
  split at stepped
  · exact ⟨_, (Option.some.inj stepped).symm⟩
  · cases stepped

theorem WsState.step_reply (stepped : state.step capacity .reply = some next) :
    ∃ removed answer sent, state.reader = .replying removed answer ∧
      state.send (answerEntry removed answer) = some sent ∧ next = { sent with reader := .waiting } := by
  simp only [step] at stepped
  split at stepped
  · rename_i removed answer replying
    obtain ⟨sent, done, rfl⟩ := Option.map_eq_some_iff.mp stepped
    exact ⟨removed, answer, sent, replying, done, rfl⟩
  · cases stepped

theorem WsState.step_cancelBranch (stepped : state.step capacity (.cancelBranch k) = some next) :
    ∃ fwd, state.forwarders[k]? = some fwd ∧ state.cancelReady k = true ∧
      next = state.setForwarder k { fwd with phase := .ended } := by
  obtain ⟨fwd, found, taken⟩ := Option.bind_eq_some_iff.mp stepped
  unfold cancelBranch at taken
  split at taken
  · split at taken
    · rename_i ready
      exact ⟨fwd, found, ready, (Option.some.inj taken).symm⟩
    · cases taken
  · cases taken

/-- A message branch receives a message, or finds the bus closed. -/
theorem WsState.step_messageBranch (stepped : state.step capacity (.messageBranch k) = some next) :
    ∃ fwd, state.forwarders[k]? = some fwd ∧ fwd.phase = .selecting ∧
      ((∃ message rest, fwd.unread = message :: rest ∧
          next = state.setForwarder k (fwd.receive message rest)) ∨
        fwd.unread = [] ∧ next = state.setForwarder k { fwd with phase := .ended }) := by
  obtain ⟨fwd, found, taken⟩ := Option.bind_eq_some_iff.mp stepped
  unfold messageBranch at taken
  split at taken
  · rename_i message rest selecting unread
    exact ⟨fwd, found, selecting, Or.inl ⟨message, rest, unread, (Option.some.inj taken).symm⟩⟩
  · rename_i selecting unread
    split at taken
    · cases taken
    · exact ⟨fwd, found, selecting, Or.inr ⟨unread, (Option.some.inj taken).symm⟩⟩
  · cases taken

theorem WsState.step_forward (stepped : state.step capacity (.forward k) = some next) :
    ∃ fwd frame sent, state.forwarders[k]? = some fwd ∧ fwd.phase = .sending frame ∧
      state.send ⟨.forwarded fwd.subId, .event frame⟩ = some sent ∧
      next = sent.setForwarder k
        { fwd with phase := if state.writing = true then .selecting else .ended } := by
  obtain ⟨fwd, found, taken⟩ := Option.bind_eq_some_iff.mp stepped
  unfold forward at taken
  split at taken
  · rename_i frame sending
    obtain ⟨sent, done, rfl⟩ := Option.map_eq_some_iff.mp taken
    exact ⟨fwd, frame, sent, found, sending, done, rfl⟩
  · cases taken

theorem WsState.step_write {sent : Bool} (stepped : state.step capacity (.write sent) = some next) :
    state.written < state.placed.length ∧
      next = { state with written := state.written + 1, writing := sent } := by
  simp only [step] at stepped
  split at stepped
  · rename_i taken
    exact ⟨taken.2, (Option.some.inj stepped).symm⟩
  · cases stepped

theorem WsState.step_publish {message : BusEvent}
    (stepped : state.step capacity (.publish message) = some next) :
    next = { state with forwarders := state.forwarders.map (Forwarder.deliver capacity message) } := by
  simp only [step] at stepped
  split at stepped
  · exact (Option.some.inj stepped).symm
  · cases stepped

end Inversion

/-! ### The queue is bounded -/

/-- The writer has written what was placed, up to a full queue. -/
def WsState.Bounded (state : WsState) : Prop :=
  state.written ≤ state.placed.length ∧ state.placed.length ≤ state.written + outCapacity

theorem WsState.Bounded.send {state sent : WsState} {entry : Outbound} (bounded : state.Bounded)
    (done : state.send entry = some sent) : sent.Bounded := by
  rcases send_cases done with ⟨_, rfl⟩ | ⟨_, room, rfl⟩
  · exact bounded
  · have free : state.placed.length < state.written + outCapacity := of_decide_eq_true room
    have longer : (state.place entry).placed.length = state.placed.length + 1 := List.length_append
    refine ⟨?_, ?_⟩
    · rw [longer]
      exact Nat.le_succ_of_le bounded.1
    · rw [longer]
      exact free

theorem WsState.Bounded.step {capacity : ℕ} {state next : WsState} {action : WsAction}
    (bounded : state.Bounded) (stepped : state.step capacity action = some next) : next.Bounded := by
  cases action with
  | read message =>
    obtain ⟨_, rfl⟩ := step_read stepped
    obtain ⟨placed, written⟩ := state.handle_queue message
    unfold Bounded
    rw [placed, written]
    exact bounded
  | dispatched answer =>
    obtain ⟨id, rfl⟩ := step_dispatched stepped
    exact bounded
  | reply =>
    obtain ⟨removed, answer, sent, _, done, rfl⟩ := step_reply stepped
    have after := bounded.send done
    exact after
  | cancelBranch k =>
    obtain ⟨fwd, _, _, rfl⟩ := step_cancelBranch stepped
    exact bounded
  | messageBranch k =>
    obtain ⟨fwd, _, _, ⟨message, rest, _, rfl⟩ | ⟨_, rfl⟩⟩ := step_messageBranch stepped
    · exact bounded
    · exact bounded
  | forward k =>
    obtain ⟨fwd, frame, sent, _, _, done, rfl⟩ := step_forward stepped
    have after := bounded.send done
    exact after
  | write sent =>
    obtain ⟨more, rfl⟩ := step_write stepped
    refine ⟨more, ?_⟩
    show state.placed.length ≤ state.written + 1 + outCapacity
    have full := bounded.2
    omega
  | publish message =>
    obtain rfl := step_publish stepped
    exact bounded
  | closeBus =>
    obtain rfl := Option.some.inj stepped
    exact bounded

/-- **The queue never holds more than its capacity.** -/
theorem WsState.bounded_run {capacity : ℕ} {actions : List WsAction} {state : WsState}
    (ran : Labelled.run (step capacity) start actions = some state) : state.Bounded :=
  Labelled.run_keeps (fun _ _ _ bounded stepped => bounded.step stepped)
    ⟨Nat.le_refl 0, Nat.zero_le _⟩ ran

end Invoicing
