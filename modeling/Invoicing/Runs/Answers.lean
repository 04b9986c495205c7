/-
**What a WebSocket client is answered.**

* `Conversation` — a connection by what its client is told: how many subscriptions were made, which of
  their ids were cancelled, the request that waits, and the answers in order. It has no queue, no
  forwarders and no handles.
* `Conversation.hear` — what a frame, or the outcome of a request, adds.
* `Conversation.Describes` — the conversation of a connection: what is on the queue, and what the read loop
  is about to place, is what was said.
* **`answers_run`** — in every order of steps the answers placed on the queue are those of the
  conversation, one for each frame, in the order of the frames and under their ids.
* **`answers_independent`** — they do not depend on the bus, the forwarders or the writer.
-/

import Invoicing.Runs.Steps
import Invoicing.Ws.Handler

namespace Invoicing

/-! ### Conversations -/

/-- What the client of a connection is told. -/
structure Conversation where
  opened : ℕ
  cancelled : List String
  asking : Option String
  said : List ResponseFrame

def Conversation.start : Conversation := ⟨0, [], none, []⟩

namespace Conversation

/-- The id was given out. -/
def Given (talk : Conversation) (subId : String) : Prop := ∃ n < talk.opened, subId = subIdText (n + 1)

/-- The id was given out, and is not cancelled. -/
def Live (talk : Conversation) (subId : String) : Prop := talk.Given subId ∧ subId ∉ talk.cancelled

instance (talk : Conversation) (subId : String) : Decidable (talk.Live subId) :=
  inferInstanceAs (Decidable ((∃ n < talk.opened, subId = subIdText (n + 1)) ∧ subId ∉ talk.cancelled))

def say (talk : Conversation) (answer : ResponseFrame) : Conversation :=
  { talk with said := talk.said ++ [answer] }

def hearSubMgmt (talk : Conversation) (sub : SubMgmtFrame) : Conversation :=
  match sub.op, sub.payload with
  | .subscribe, .subscribe pattern =>
      { talk with opened := talk.opened + 1 }.say
        (.result sub.id
          (.obj [("sub_id", .str (subIdText (talk.opened + 1))), ("pattern", .str pattern)]))
  | .unsubscribe, .unsubscribe subId =>
      if talk.Live subId then
        { talk with cancelled := subId :: talk.cancelled }.say
          (.result sub.id (.obj [("sub_id", .str subId), ("cancelled", .bool true)]))
      else talk.say (.error sub.id "not_found" ("unknown sub_id: " ++ subId))
  | _, _ => talk.say (.error sub.id "validation" "sub-mgmt op and payload shape disagree")

def hearMessage (talk : Conversation) : SocketMessage → Conversation
  | .text (.error e) => talk.say (.error "" "validation" ("frame decode: " ++ e))
  | .text (.ok (.request req)) => { talk with asking := some req.id }
  | .text (.ok (.subMgmt sub)) => talk.hearSubMgmt sub
  | .binary =>
      talk.say (.error "" "validation" "binary frames are not supported; send JSON text frames")
  | .ping => talk
  | .pong => talk
  | .close => talk
  | .failed => talk

/-- The outcome of the request that waits. -/
def hearOutcome (talk : Conversation) (outcome : Except ErrorBody Json) : Conversation :=
  match talk.asking with
  | some id => { talk with asking := none }.say (requestAnswer id outcome)
  | none => talk

/-- Only what the read loop takes in is heard. -/
def hear (talk : Conversation) : WsAction → Conversation
  | .read message => talk.hearMessage message
  | .dispatched outcome => talk.hearOutcome outcome
  | _ => talk

end Conversation

/-- The step takes in a message, or the outcome of a request. -/
def WsAction.isInput : WsAction → Bool
  | .read _ => true
  | .dispatched _ => true
  | _ => false

/-- The id under which a frame is answered; a frame that is not read has the empty one. -/
def SocketMessage.asks : SocketMessage → Option String
  | .text (.error _) => some ""
  | .text (.ok (.request req)) => some req.id
  | .text (.ok (.subMgmt sub)) => some sub.id
  | .binary => some ""
  | .ping => none
  | .pong => none
  | .close => none
  | .failed => none

def WsAction.asks : WsAction → Option String
  | .read message => message.asks
  | _ => none

/-! ### The conversation of a connection -/

def Reader.asking : Reader → Option String
  | .dispatching id => some id
  | _ => none

/-- The answer the read loop is about to place. -/
def Reader.answer : Reader → Option ResponseFrame
  | .replying _ answer => some answer
  | _ => none

def Outbound.response (entry : Outbound) : Option ResponseFrame :=
  match entry.frame with
  | .response frame => some frame
  | .event _ => none

/-- The responses placed on the queue, in order. -/
def WsState.responses (state : WsState) : List ResponseFrame := state.placed.filterMap Outbound.response

/-- The responses placed, and the one about to be. -/
def WsState.answered (state : WsState) : List ResponseFrame :=
  state.responses ++ state.reader.answer.toList

/-- The conversation of a connection. Once the writer has stopped, what is said no longer reaches the
queue; once the read loop has ended, no handle is left. -/
structure Conversation.Describes (talk : Conversation) (state : WsState) : Prop where
  opened : state.forwarders.length = talk.opened
  counter : state.nextSubId = (talk.opened + 1) % 2 ^ 64
  cancelled : ∀ subId ∈ talk.cancelled, talk.Given subId
  live : state.reader ≠ .closed → ∀ subId, (state.subs.lookup subId).isSome = true ↔ talk.Live subId
  asking : state.reader.asking = talk.asking
  begins : state.responses <+: talk.said
  said : state.writing = true → state.answered = talk.said

theorem describes_start : Conversation.start.Describes .start := by
  refine ⟨rfl, rfl, fun _ there => (nomatch there), ?_, rfl, List.prefix_rfl, fun _ => rfl⟩
  intro _ subId
  have closed : ¬ Conversation.start.Live subId := by
    rintro ⟨⟨n, below, _⟩, _⟩
    exact absurd below (Nat.not_lt_zero n)
  exact iff_of_false Bool.false_ne_true closed

namespace Conversation.Describes

variable {talk : Conversation} {state next : WsState}

/-- The read loop waits, so it has no answer and no request. -/
theorem of_waiting (describes : talk.Describes state) (waiting : state.reader = .waiting) :
    talk.asking = none ∧ (state.writing = true → state.responses = talk.said) := by
  have asking := describes.asking
  have said := describes.said
  unfold WsState.answered at said
  rw [waiting] at asking said
  refine ⟨asking.symm, fun writing => ?_⟩
  rw [← said writing]
  exact (List.append_nil _).symm

/-- A step away from the read loop keeps the conversation. -/
theorem of_same (describes : talk.Describes state) (opened : next.forwarders.length = state.forwarders.length)
    (counter : next.nextSubId = state.nextSubId) (subs : next.subs = state.subs)
    (reader : next.reader = state.reader) (responses : next.responses = state.responses)
    (writing : next.writing = true → state.writing = true) : talk.Describes next := by
  refine ⟨?_, ?_, describes.cancelled, ?_, ?_, ?_, ?_⟩
  · rw [opened]
    exact describes.opened
  · rw [counter]
    exact describes.counter
  · rw [reader, subs]
    exact describes.live
  · rw [reader]
    exact describes.asking
  · rw [responses]
    exact describes.begins
  · intro still
    unfold WsState.answered
    rw [responses, reader]
    exact describes.said (writing still)

/-- The read loop says its answer, with the handles of the ids that are live then. -/
theorem tells (describes : talk.Describes state) {after : Conversation} (removed : Option String)
    {answer : ResponseFrame} (idle : state.writing = true → state.responses = talk.said)
    (reader : next.reader = .replying removed answer) (asking : after.asking = none)
    (said : after.said = talk.said ++ [answer]) (responses : next.responses = state.responses)
    (writing : next.writing = state.writing) (opened : next.forwarders.length = after.opened)
    (counter : next.nextSubId = (after.opened + 1) % 2 ^ 64)
    (cancelled : ∀ subId ∈ after.cancelled, after.Given subId)
    (live : ∀ subId, (next.subs.lookup subId).isSome = true ↔ after.Live subId) : after.Describes next := by
  refine ⟨opened, counter, cancelled, fun _ => live, ?_, ?_, ?_⟩
  · rw [reader, asking]
    rfl
  · rw [responses, said]
    exact describes.begins.trans (List.prefix_append _ _)
  · intro still
    unfold WsState.answered
    rw [responses, reader, said, idle (writing ▸ still)]
    rfl

/-- The read loop says an answer that changes no subscription. -/
theorem tells_only (describes : talk.Describes state) {answer : ResponseFrame}
    (waiting : state.reader = .waiting) : (talk.say answer).Describes (state.respond answer) := by
  obtain ⟨asking, idle⟩ := describes.of_waiting waiting
  refine describes.tells _ idle rfl asking rfl rfl rfl describes.opened describes.counter
    describes.cancelled ?_
  refine describes.live ?_
  rw [waiting]
  exact Reader.noConfusion

/-! ### Handles and live ids -/

/-- The handles without those of one id. -/
theorem lookup_filter (subs : List (String × ℕ)) (subId other : String) :
    ((subs.filter fun sub => decide (sub.1 ≠ subId)).lookup other).isSome = true ↔
      (subs.lookup other).isSome = true ∧ other ≠ subId := by
  induction subs with
  | nil => simp
  | cons sub rest ih =>
    obtain ⟨id, k⟩ := sub
    by_cases own : id = subId
    · subst own
      have dropped : List.filter (fun sub : String × ℕ => decide (sub.1 ≠ id)) ((id, k) :: rest) =
          rest.filter fun sub => decide (sub.1 ≠ id) := by simp
      rw [dropped, ih, List.lookup_cons]
      by_cases same : other = id
      · simp [same]
      · have differs : (other == id) = false := beq_false_of_ne same
        simp [differs, same]
    · have kept : List.filter (fun sub : String × ℕ => decide (sub.1 ≠ subId)) ((id, k) :: rest) =
          (id, k) :: rest.filter fun sub => decide (sub.1 ≠ subId) := by simp [own]
      rw [kept, List.lookup_cons, List.lookup_cons]
      by_cases same : other = id
      · have here : (other == id) = true := beq_iff_eq.mpr same
        simp [same, own]
      · have differs : (other == id) = false := beq_false_of_ne same
        simp only [differs]
        exact ih

/-- A new id is live, and the ids that were live still are. -/
theorem live_subscribe (describes : talk.Describes state) (open_ : state.reader ≠ .closed)
    (few : talk.opened + 1 < 2 ^ 64) (pattern subId : String) :
    ((state.subscribe pattern).subs.lookup subId).isSome = true ↔
      Live { talk with opened := talk.opened + 1 } subId := by
  have new : subIdText state.nextSubId = subIdText (talk.opened + 1) := by
    rw [describes.counter, Nat.mod_eq_of_lt few]
  -- the new id was not given out before, so it is not cancelled
  have fresh : subIdText (talk.opened + 1) ∉ talk.cancelled := by
    intro there
    obtain ⟨n, below, same⟩ := describes.cancelled _ there
    have numbers := subIdText_injective same
    omega
  show (((subIdText state.nextSubId, state.forwarders.length) ::
    state.subs.filter fun sub => decide (sub.1 ≠ subIdText state.nextSubId)).lookup subId).isSome = true ↔ _
  rw [new, List.lookup_cons]
  by_cases same : subId = subIdText (talk.opened + 1)
  · have here : (subId == subIdText (talk.opened + 1)) = true := beq_iff_eq.mpr same
    have live : Live { talk with opened := talk.opened + 1 } subId := by
      refine ⟨⟨talk.opened, Nat.lt_succ_self _, same⟩, ?_⟩
      rw [same]
      exact fresh
    rw [here]
    exact iff_of_true rfl live
  · have differs : (subId == subIdText (talk.opened + 1)) = false := beq_false_of_ne same
    simp only [differs]
    rw [lookup_filter, describes.live open_ subId]
    constructor
    · rintro ⟨⟨⟨n, below, named⟩, kept⟩, _⟩
      exact ⟨⟨n, Nat.lt_succ_of_lt below, named⟩, kept⟩
    · rintro ⟨⟨n, below, named⟩, kept⟩
      have earlier : n < talk.opened := by
        rcases Nat.lt_succ_iff_lt_or_eq.mp below with less | rfl
        · exact less
        · exact absurd named same
      exact ⟨⟨⟨n, earlier, named⟩, kept⟩, same⟩

/-- A cancelled id is live no more. -/
theorem live_unsubscribe (describes : talk.Describes state) (open_ : state.reader ≠ .closed)
    (subId other : String) :
    ((state.removeSub subId).subs.lookup other).isSome = true ↔
      Live { talk with cancelled := subId :: talk.cancelled } other := by
  show ((state.subs.filter fun sub => decide (sub.1 ≠ subId)).lookup other).isSome = true ↔ _
  rw [lookup_filter, describes.live open_ other]
  constructor
  · rintro ⟨⟨given, kept⟩, differs⟩
    refine ⟨given, fun there => ?_⟩
    rcases List.mem_cons.mp there with same | older
    · exact differs same
    · exact kept older
  · rintro ⟨given, kept⟩
    exact ⟨⟨given, fun older => kept (List.mem_cons_of_mem _ older)⟩,
      fun same => kept (same ▸ List.mem_cons_self)⟩

/-! ### The read loop -/

theorem subMgmt (describes : talk.Describes state) (waiting : state.reader = .waiting) (sub : SubMgmtFrame)
    (few : (state.handleSubMgmt sub).forwarders.length < 2 ^ 64) :
    (talk.hearSubMgmt sub).Describes (state.handleSubMgmt sub) := by
  obtain ⟨asking, idle⟩ := describes.of_waiting waiting
  have open_ : state.reader ≠ .closed := by
    rw [waiting]
    exact Reader.noConfusion
  obtain ⟨id, op, payload⟩ := sub
  cases op with
  | subscribe =>
    cases payload with
    | subscribe pattern =>
      have longer : ((state.subscribe pattern).forwarders).length = talk.opened + 1 := by
        rw [← describes.opened]
        exact List.length_append
      have below : talk.opened + 1 < 2 ^ 64 := longer ▸ few
      have number : state.nextSubId = talk.opened + 1 := by
        rw [describes.counter, Nat.mod_eq_of_lt below]
      refine describes.tells none idle ?_ asking rfl rfl rfl longer ?_ ?_ ?_
      · show Reader.replying none (.result id (.obj [("sub_id", .str (subIdText state.nextSubId)), _])) = _
        rw [number]
      · show (state.nextSubId + 1) % 2 ^ 64 = _
        rw [number]
        rfl
      · intro subId there
        obtain ⟨n, earlier, named⟩ := describes.cancelled subId there
        exact ⟨n, Nat.lt_succ_of_lt earlier, named⟩
      · exact describes.live_subscribe open_ below pattern
    | unsubscribe subId => exact describes.tells_only waiting
  | unsubscribe =>
    cases payload with
    | subscribe pattern => exact describes.tells_only waiting
    | unsubscribe subId =>
      have found := describes.live open_ subId
      unfold WsState.handleSubMgmt hearSubMgmt
      dsimp only
      by_cases live : talk.Live subId
      · rw [if_pos (found.mpr live), if_pos live]
        refine describes.tells _ idle rfl asking rfl rfl rfl describes.opened describes.counter ?_ ?_
        · intro other there
          rcases List.mem_cons.mp there with rfl | older
          · exact live.1
          · exact describes.cancelled other older
        · exact describes.live_unsubscribe open_ subId
      · have unknown : ¬ (state.subs.lookup subId).isSome = true := fun there => live (found.mp there)
        rw [if_neg unknown, if_neg live]
        refine describes.tells none idle rfl asking rfl rfl rfl describes.opened describes.counter
          describes.cancelled ?_
        intro other
        show ((state.subs.filter fun sub => decide (sub.1 ≠ subId)).lookup other).isSome = true ↔ _
        rw [lookup_filter, describes.live open_ other]
        refine ⟨fun kept => kept.1, fun kept => ⟨kept, ?_⟩⟩
        rintro rfl
        exact live kept

theorem read (describes : talk.Describes state) (waiting : state.reader = .waiting) (message : SocketMessage)
    (few : (state.handle message).forwarders.length < 2 ^ 64) :
    (talk.hearMessage message).Describes (state.handle message) := by
  obtain ⟨asking, idle⟩ := describes.of_waiting waiting
  have open_ : state.reader ≠ .closed := by
    rw [waiting]
    exact Reader.noConfusion
  have closed : talk.Describes { state with reader := .closed, subs := [] } := by
    refine ⟨describes.opened, describes.counter, describes.cancelled, fun still => absurd rfl still,
      asking.symm, describes.begins, fun writing => ?_⟩
    rw [← idle writing]
    exact List.append_nil _
  cases message with
  | text decoded =>
    cases decoded with
    | error e => exact describes.tells_only waiting
    | ok frame =>
      cases frame with
      | subMgmt sub => exact describes.subMgmt waiting sub few
      | request req =>
        refine ⟨describes.opened, describes.counter, describes.cancelled, fun _ => describes.live open_, rfl,
          describes.begins, fun writing => ?_⟩
        show state.responses ++ [] = talk.said
        rw [idle writing]
        exact List.append_nil _
  | binary => exact describes.tells_only waiting
  | ping => exact describes
  | pong => exact describes
  | close => exact closed
  | failed => exact closed

/-- The request that waits is answered. -/
theorem dispatched (describes : talk.Describes state) {id : String} {outcome : Except ErrorBody Json}
    (dispatching : state.reader = .dispatching id) :
    (talk.hearOutcome outcome).Describes (state.respond (requestAnswer id outcome)) := by
  have asking : talk.asking = some id := by
    rw [← describes.asking, dispatching]
    rfl
  have idle : state.writing = true → state.responses = talk.said := by
    intro writing
    rw [← describes.said writing]
    unfold WsState.answered
    rw [dispatching]
    exact (List.append_nil _).symm
  have open_ : state.reader ≠ .closed := by
    rw [dispatching]
    exact Reader.noConfusion
  have heard : talk.hearOutcome outcome = { talk with asking := none }.say (requestAnswer id outcome) := by
    unfold hearOutcome
    rw [asking]
  rw [heard]
  exact describes.tells _ idle rfl rfl rfl rfl rfl describes.opened describes.counter describes.cancelled
    (describes.live open_)

/-- The answer is placed, or lost because the writer has stopped. -/
theorem reply (describes : talk.Describes state) {removed : Option String} {answer : ResponseFrame}
    {sent : WsState} (replying : state.reader = .replying removed answer)
    (done : state.send (answerEntry removed answer) = some sent) :
    talk.Describes { sent with reader := .waiting } := by
  have open_ : state.reader ≠ .closed := by
    rw [replying]
    exact Reader.noConfusion
  have asking : talk.asking = none := by
    rw [← describes.asking, replying]
    rfl
  rcases WsState.send_cases done with ⟨stopped, rfl⟩ | ⟨writing, _, rfl⟩
  · refine ⟨describes.opened, describes.counter, describes.cancelled, fun _ => describes.live open_,
      asking.symm, describes.begins, fun still => ?_⟩
    have both : sent.writing = true := still
    rw [stopped] at both
    cases both
  · have placed : (state.place (answerEntry removed answer)).responses = talk.said := by
      rw [← describes.said writing]
      unfold WsState.answered WsState.responses WsState.place
      rw [List.filterMap_append, replying]
      rfl
    refine ⟨describes.opened, describes.counter, describes.cancelled, fun _ => describes.live open_,
      asking.symm, ?_, fun _ => ?_⟩
    · show (state.place (answerEntry removed answer)).responses <+: _
      rw [placed]
    · show (state.place (answerEntry removed answer)).responses ++ [] = _
      rw [placed]
      exact List.append_nil _

end Conversation.Describes

/-! ### The rest of the connection -/

section Steps

variable {capacity : ℕ} {state next : WsState}

theorem WsState.setForwarder_length (state : WsState) (k : ℕ) (fwd : Forwarder) :
    (state.setForwarder k fwd).forwarders.length = state.forwarders.length :=
  List.length_set

/-- No step forgets a forwarder. -/
theorem WsState.step_forwarders {action : WsAction} (stepped : state.step capacity action = some next) :
    state.forwarders.length ≤ next.forwarders.length := by
  cases action with
  | read message =>
    obtain ⟨_, rfl⟩ := step_read stepped
    have subscribed : ∀ pattern, state.forwarders.length ≤ (state.subscribe pattern).forwarders.length := by
      intro pattern
      exact (List.prefix_append _ _).length_le
    cases message with
    | text decoded =>
      cases decoded with
      | error e => exact Nat.le_refl _
      | ok frame =>
        cases frame with
        | subMgmt sub =>
          obtain ⟨id, op, payload⟩ := sub
          cases op with
          | subscribe =>
            cases payload with
            | subscribe pattern => exact subscribed pattern
            | unsubscribe subId => exact Nat.le_refl _
          | unsubscribe =>
            cases payload with
            | subscribe pattern => exact Nat.le_refl _
            | unsubscribe subId =>
              unfold handle handleSubMgmt
              dsimp only
              split
              · exact Nat.le_refl _
              · exact Nat.le_refl _
        | request req => exact Nat.le_refl _
    | _ => exact Nat.le_refl _
  | dispatched outcome =>
    obtain ⟨id, rfl⟩ := step_dispatched stepped
    exact Nat.le_refl _
  | reply =>
    obtain ⟨removed, answer, sent, _, done, rfl⟩ := step_reply stepped
    rcases send_cases done with ⟨_, rfl⟩ | ⟨_, _, rfl⟩
    · exact Nat.le_refl _
    · exact Nat.le_refl _
  | cancelBranch k =>
    obtain ⟨fwd, _, _, rfl⟩ := step_cancelBranch stepped
    exact (state.setForwarder_length k _).ge
  | messageBranch k =>
    obtain ⟨fwd, _, _, ⟨message, rest, _, rfl⟩ | ⟨_, rfl⟩⟩ := step_messageBranch stepped
    · exact (state.setForwarder_length k _).ge
    · exact (state.setForwarder_length k _).ge
  | forward k =>
    obtain ⟨fwd, frame, sent, _, _, done, rfl⟩ := step_forward stepped
    rcases send_cases done with ⟨_, rfl⟩ | ⟨_, _, rfl⟩
    · exact (sent.setForwarder_length k _).ge
    · exact ((state.place _).setForwarder_length k _).ge
  | write sent =>
    obtain ⟨_, rfl⟩ := step_write stepped
    exact Nat.le_refl _
  | publish message =>
    obtain rfl := step_publish stepped
    exact List.length_map _ |>.ge
  | closeBus =>
    obtain rfl := Option.some.inj stepped
    exact Nat.le_refl _

/-- The request whose outcome is known. -/
theorem WsState.step_outcome {outcome : Except ErrorBody Json}
    (stepped : state.step capacity (.dispatched outcome) = some next) :
    ∃ id, state.reader = .dispatching id ∧ next = state.respond (requestAnswer id outcome) := by
  simp only [step] at stepped
  split at stepped
  · rename_i id dispatching
    exact ⟨id, dispatching, (Option.some.inj stepped).symm⟩
  · cases stepped

/-- An event on the queue is no response. -/
theorem WsState.responses_event (state : WsState) (subId : String) (frame : EventFrame) :
    (state.place ⟨.forwarded subId, .event frame⟩).responses = state.responses := by
  unfold responses place
  rw [List.filterMap_append]
  exact List.append_nil _

/-- **Every step keeps the conversation**, and adds what it hears. -/
theorem Conversation.Describes.step {talk : Conversation} {action : WsAction}
    (describes : talk.Describes state) (few : next.forwarders.length < 2 ^ 64)
    (stepped : state.step capacity action = some next) :
    (talk.hear action).Describes next := by
  cases action with
  | read message =>
    obtain ⟨waiting, rfl⟩ := WsState.step_read stepped
    exact describes.read waiting message few
  | dispatched outcome =>
    obtain ⟨id, dispatching, rfl⟩ := WsState.step_outcome stepped
    exact describes.dispatched dispatching
  | reply =>
    obtain ⟨removed, answer, sent, replying, done, rfl⟩ := WsState.step_reply stepped
    exact describes.reply replying done
  | cancelBranch k =>
    obtain ⟨fwd, _, _, rfl⟩ := WsState.step_cancelBranch stepped
    exact describes.of_same (state.setForwarder_length k _) rfl rfl rfl rfl id
  | messageBranch k =>
    obtain ⟨fwd, _, _, ⟨message, rest, _, rfl⟩ | ⟨_, rfl⟩⟩ := WsState.step_messageBranch stepped
    · exact describes.of_same (state.setForwarder_length k _) rfl rfl rfl rfl id
    · exact describes.of_same (state.setForwarder_length k _) rfl rfl rfl rfl id
  | forward k =>
    obtain ⟨fwd, frame, sent, _, _, done, rfl⟩ := WsState.step_forward stepped
    rcases WsState.send_cases done with ⟨_, rfl⟩ | ⟨_, _, rfl⟩
    · exact describes.of_same (sent.setForwarder_length k _) rfl rfl rfl rfl id
    · exact describes.of_same ((state.place _).setForwarder_length k _) rfl rfl rfl
        (state.responses_event fwd.subId frame) id
  | write sent =>
    simp only [WsState.step] at stepped
    split at stepped
    · rename_i running
      obtain rfl := Option.some.inj stepped
      exact describes.of_same rfl rfl rfl rfl rfl fun _ => running.1
    · cases stepped
  | publish message =>
    obtain rfl := WsState.step_publish stepped
    exact describes.of_same (List.length_map _) rfl rfl rfl rfl id
  | closeBus =>
    obtain rfl := Option.some.inj stepped
    exact describes.of_same rfl rfl rfl rfl rfl id

end Steps

/-! ### Whole runs -/

/-- The conversation of a run. -/
def conversation (actions : List WsAction) : Conversation := actions.foldl Conversation.hear .start

theorem conversation_concat (before : List WsAction) (action : WsAction) :
    conversation (before ++ [action]) = (conversation before).hear action :=
  List.foldl_concat _ _ _ _

/-- What is not heard can be left out. -/
theorem conversation_inputs (actions : List WsAction) :
    conversation actions = conversation (actions.filter WsAction.isInput) := by
  unfold conversation
  generalize Conversation.start = talk
  induction actions generalizing talk with
  | nil => rfl
  | cons action rest ih => cases action <;> exact ih _

/-- The ids of the answers, and of the request that waits. -/
def Conversation.ids (talk : Conversation) : List String :=
  talk.said.map ResponseFrame.id ++ talk.asking.toList

/-- A message is answered under its id, or its request waits. -/
theorem Conversation.ids_hearMessage {talk : Conversation} (asking : talk.asking = none)
    (message : SocketMessage) : (talk.hearMessage message).ids = talk.ids ++ message.asks.toList := by
  have tells : ∀ (after : Conversation) (answer : ResponseFrame), after.asking = none →
      after.said = talk.said → (after.say answer).ids = talk.ids ++ [answer.id] := by
    intro after answer none same
    unfold ids
    show List.map ResponseFrame.id (after.said ++ [answer]) ++ after.asking.toList = _
    rw [none, same, asking, List.map_append]
    simp
  cases message with
  | text decoded =>
    cases decoded with
    | error e => exact tells talk _ asking rfl
    | ok frame =>
      cases frame with
      | subMgmt sub =>
        obtain ⟨id, op, payload⟩ := sub
        cases op with
        | subscribe =>
          cases payload with
          | subscribe pattern => exact tells { talk with opened := talk.opened + 1 } _ asking rfl
          | unsubscribe subId => exact tells talk _ asking rfl
        | unsubscribe =>
          cases payload with
          | subscribe pattern => exact tells talk _ asking rfl
          | unsubscribe subId =>
            unfold hearMessage hearSubMgmt
            dsimp only
            split
            · exact tells { talk with cancelled := subId :: talk.cancelled } _ asking rfl
            · exact tells talk _ asking rfl
      | request req =>
        unfold ids
        rw [asking]
        show _ ++ [req.id] = _ ++ [] ++ [req.id]
        rw [List.append_nil]
        rfl
  | binary => exact tells talk _ asking rfl
  | _ => exact (List.append_nil _).symm

/-- An outcome gives the request that waits its answer. -/
theorem Conversation.ids_hearOutcome (talk : Conversation) (outcome : Except ErrorBody Json) :
    (talk.hearOutcome outcome).ids = talk.ids := by
  unfold hearOutcome
  split
  · rename_i id asking
    have named : (requestAnswer id outcome).id = id := by
      cases outcome with
      | ok result => rfl
      | error body => rfl
    unfold ids
    show List.map ResponseFrame.id (talk.said ++ [requestAnswer id outcome]) ++ [] = _
    rw [asking, List.append_nil, List.map_append, List.map_singleton, named]
    rfl
  · rfl

/-- A conversation has one answer for each frame, or its request waits. -/
structure Conversation.Follows (talk : Conversation) (state : WsState) (before : List WsAction) : Prop where
  describes : talk.Describes state
  ids : talk.ids = before.filterMap WsAction.asks

theorem Conversation.Follows.step {capacity : ℕ} {talk : Conversation} {state next : WsState}
    {before : List WsAction} {action : WsAction} (follows : talk.Follows state before)
    (few : next.forwarders.length < 2 ^ 64) (stepped : state.step capacity action = some next) :
    (talk.hear action).Follows next (before ++ [action]) := by
  refine ⟨follows.describes.step few stepped, ?_⟩
  rw [List.filterMap_append, ← follows.ids]
  cases action with
  | read message =>
    obtain ⟨waiting, _⟩ := WsState.step_read stepped
    exact ids_hearMessage (follows.describes.of_waiting waiting).1 message
  | dispatched outcome =>
    rw [hear, ids_hearOutcome]
    exact (List.append_nil _).symm
  | _ => exact (List.append_nil _).symm

/-- A run has its conversation. -/
theorem follows_run {capacity : ℕ} {actions : List WsAction} {state : WsState}
    (ran : Labelled.run (WsState.step capacity) .start actions = some state)
    (few : state.forwarders.length < 2 ^ 64) : (conversation actions).Follows state actions := by
  refine Labelled.run_traced
    (R := fun state before => state.forwarders.length < 2 ^ 64 → (conversation before).Follows state before)
    ?_ (fun _ => ⟨describes_start, rfl⟩) ran few
  intro state before action next follows stepped few
  rw [conversation_concat]
  exact (follows (Nat.lt_of_le_of_lt (WsState.step_forwarders stepped) few)).step few stepped

/-- **The answers of a connection, in every order of its steps.** While the writer writes, the responses on
the queue and the one about to be placed are the answers of the conversation; once it has stopped, the
queue has the first of them. There is one for each frame, in the order of the frames and under its id, but
for the request that waits. -/
theorem answers_run {capacity : ℕ} {actions : List WsAction} {state : WsState}
    (ran : Labelled.run (WsState.step capacity) .start actions = some state)
    (few : state.forwarders.length < 2 ^ 64) :
    state.responses <+: (conversation actions).said ∧
      (state.writing = true → state.answered = (conversation actions).said) ∧
      (conversation actions).said.map ResponseFrame.id ++ state.reader.asking.toList =
        actions.filterMap WsAction.asks := by
  have follows := follows_run ran few
  refine ⟨follows.describes.begins, follows.describes.said, ?_⟩
  rw [follows.describes.asking]
  exact follows.ids

/-- A subscription, a request and a frame that is not text, with an event in between. -/
def threeFrames : List WsAction :=
  [.read (.text (.ok (.subMgmt ⟨"1", .subscribe, .subscribe "#"⟩))), .reply,
    .read (.text (.ok (.request ⟨"2", "ping", .null⟩))),
    .publish ⟨topicEntered, .null, oneOClock firstOfMarch⟩, .messageBranch 0,
    .dispatched (.ok (.obj [("pong", .bool true)])), .forward 0, .reply, .read .binary]

theorem answers_run_threeFrames :
    ∃ state, Labelled.run (WsState.step 1024) .start threeFrames = some state ∧
      state.responses <+: (conversation threeFrames).said ∧
      (state.writing = true → state.answered = (conversation threeFrames).said) ∧
      (conversation threeFrames).said.map ResponseFrame.id ++ state.reader.asking.toList =
        threeFrames.filterMap WsAction.asks := by
  have length : (Labelled.run (WsState.step 1024) .start threeFrames).map
      (fun state => state.forwarders.length) = some 1 := by decide +kernel
  obtain ⟨state, ran, one⟩ := Option.map_eq_some_iff.mp length
  exact ⟨state, ran, answers_run ran (by omega)⟩

/-- **The answers do not depend on the bus, the forwarders or the writer**: two runs that take in the same
frames and outcomes are answered alike. -/
theorem answers_independent {capacity capacity' : ℕ} {actions actions' : List WsAction}
    {state state' : WsState} (ran : Labelled.run (WsState.step capacity) .start actions = some state)
    (ran' : Labelled.run (WsState.step capacity') .start actions' = some state')
    (few : state.forwarders.length < 2 ^ 64) (few' : state'.forwarders.length < 2 ^ 64)
    (same : actions.filter WsAction.isInput = actions'.filter WsAction.isInput)
    (writing : state.writing = true) (writing' : state'.writing = true) :
    state.answered = state'.answered := by
  have first := (follows_run ran few).describes.said writing
  have second := (follows_run ran' few').describes.said writing'
  rw [conversation_inputs] at first second
  rw [first, second, same]

end Invoicing
