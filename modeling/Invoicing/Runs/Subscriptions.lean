/-
**After an unsubscribe.**

* `WsState.Final` — no event of a subscription is placed on the outbound queue after the success of its
  unsubscribe.
* `WsState.Settled` — a step that does not let one through: the success is placed while the forwarder holds
  no event, and from then on a `select!` that sees the cancellation leaves matching messages alone.
* `Subscribed` — what every settled step keeps: an id whose unsubscribe succeeded has no handle any more and
  is not given out again.
* **`unsubscribe_final`** — a run of settled steps is final. **`unsettled_not_final`** — a run with a step
  that is not can go on to one that is not final. **`event_after_unsubscribe`** — one that is not.
-/

import Invoicing.Runs.Steps
import Invoicing.Ws.Handler

namespace Invoicing

/-! ### What is placed when -/

/-- The subscriptions, in the order they were made. -/
def WsState.subIds (state : WsState) : List String := state.forwarders.map Forwarder.subId

/-- Why the frames were placed, in their order. -/
def WsState.origins (state : WsState) : List Origin := state.placed.map Outbound.origin

/-- **Unsubscribe is final**: after the success of an unsubscribe no event of its subscription is placed. -/
def WsState.Final (state : WsState) : Prop :=
  state.origins.Pairwise fun first later =>
    ∀ subId, first = .unsubscribed subId → later ≠ .forwarded subId

/-- The unsubscribe whose success the read loop is about to place. -/
def Reader.unsubscribing : Reader → Option String
  | .replying removed _ => removed
  | _ => none

/-- The forwarder holds an event it has not placed. -/
def Forwarder.holds (fwd : Forwarder) : Bool :=
  match fwd.phase with
  | .sending _ => true
  | _ => false

/-- The next message of the forwarder matches its pattern. -/
def Forwarder.matchesNext (fwd : Forwarder) : Bool :=
  match fwd.unread with
  | [] => false
  | message :: _ => topicMatches fwd.pattern message.topic

def SocketMessage.subscribes : SocketMessage → Bool
  | .text (.ok (.subMgmt ⟨_, .subscribe, .subscribe _⟩)) => true
  | _ => false

/-- The success of an unsubscribe is placed while its forwarder holds no event; a `select!` whose
cancellation is ready takes no matching message once the success is placed; and the counter of the
subscriptions has not come round. -/
def WsState.Settled (state : WsState) : WsAction → Prop
  | .read message => message.subscribes = true → state.forwarders.length < 2 ^ 64
  | .reply =>
      ∀ subId ∈ state.reader.unsubscribing, ∀ fwd ∈ state.forwarders,
        fwd.subId = subId → fwd.holds = false
  | .messageBranch k =>
      ∀ fwd ∈ state.forwarders[k]?, state.cancelReady k = true →
        .unsubscribed fwd.subId ∈ state.origins → fwd.matchesNext = false
  | .dispatched _ => True
  | .cancelBranch _ => True
  | .forward _ => True
  | .write _ => True
  | .publish _ => True
  | .closeBus => True

instance (state : WsState) : (action : WsAction) → Decidable (state.Settled action)
  | .read _ => inferInstanceAs (Decidable (_ → _))
  | .reply => inferInstanceAs (Decidable (∀ subId ∈ state.reader.unsubscribing, _))
  | .messageBranch k => inferInstanceAs (Decidable (∀ fwd ∈ state.forwarders[k]?, _))
  | .dispatched _ => inferInstanceAs (Decidable True)
  | .cancelBranch _ => inferInstanceAs (Decidable True)
  | .forward _ => inferInstanceAs (Decidable True)
  | .write _ => inferInstanceAs (Decidable True)
  | .publish _ => inferInstanceAs (Decidable True)
  | .closeBus => inferInstanceAs (Decidable True)

/-! ### What settled steps keep -/

/-- The success of the unsubscribe is placed, or the read loop is about to place it. -/
def WsState.Removed (state : WsState) (subId : String) : Prop :=
  .unsubscribed subId ∈ state.origins ∨ state.reader.unsubscribing = some subId

/-- Ids are given out in order, handles are those of their forwarders, a removed id has no handle, and a
forwarder that holds an event is not answered as cancelled. -/
structure Subscribed (state : WsState) : Prop where
  ids : state.subIds = (List.range state.subIds.length).map fun i => subIdText ((i + 1) % 2 ^ 64)
  counter : state.nextSubId = (state.subIds.length + 1) % 2 ^ 64
  handles : ∀ sub ∈ state.subs, state.subIds[sub.2]? = some sub.1
  gone : ∀ subId, state.Removed subId → subId ∈ state.subIds ∧ ∀ sub ∈ state.subs, sub.1 ≠ subId
  held : ∀ fwd ∈ state.forwarders, fwd.holds = true → .unsubscribed fwd.subId ∉ state.origins
  final : state.Final

theorem subscribed_start : Subscribed .start := by
  refine ⟨rfl, rfl, ?_, ?_, ?_, .nil⟩
  · intro sub there
    cases there
  · rintro subId (placed | replying)
    · cases placed
    · cases replying
  · intro fwd there
    cases there

namespace Subscribed

variable {state next : WsState}

/-- A step that keeps the ids and the queue, adds no handle, begins no success and lets no forwarder take
an event it must not. -/
theorem of_same (inv : Subscribed state) (ids : next.subIds = state.subIds)
    (counter : next.nextSubId = state.nextSubId) (subs : ∀ sub ∈ next.subs, sub ∈ state.subs)
    (origins : next.origins = state.origins)
    (reader : ∀ subId, next.reader.unsubscribing = some subId → state.reader.unsubscribing = some subId)
    (held : ∀ fwd ∈ next.forwarders, fwd.holds = true → .unsubscribed fwd.subId ∉ state.origins) :
    Subscribed next := by
  refine ⟨?_, ?_, ?_, ?_, ?_, ?_⟩
  · rw [ids]
    exact inv.ids
  · rw [ids, counter]
    exact inv.counter
  · intro sub there
    rw [ids]
    exact inv.handles sub (subs sub there)
  · intro subId removed
    have before : state.Removed subId := by
      rcases removed with placed | replying
      · exact Or.inl (origins ▸ placed)
      · exact Or.inr (reader subId replying)
    obtain ⟨given, dropped⟩ := inv.gone subId before
    refine ⟨?_, fun sub there => dropped sub (subs sub there)⟩
    rw [ids]
    exact given
  · rw [origins]
    exact held
  · unfold WsState.Final
    rw [origins]
    exact inv.final

/-! ### The read loop -/

/-- An id that has not been given out is fresh while the counter has not come round. -/
theorem fresh (inv : Subscribed state) (few : state.subIds.length < 2 ^ 64) :
    subIdText state.nextSubId ∉ state.subIds := by
  intro given
  rw [inv.ids] at given
  obtain ⟨i, below, same⟩ := List.mem_map.mp given
  have earlier := List.mem_range.mp below
  have numbers := subIdText_injective same
  rw [inv.counter] at numbers
  omega

theorem subscribe (inv : Subscribed state) (few : state.subIds.length < 2 ^ 64) (pattern : String)
    (frame : ResponseFrame) : Subscribed ((state.subscribe pattern).respond frame) := by
  have idsAfter : ((state.subscribe pattern).respond frame).subIds =
      state.subIds ++ [subIdText state.nextSubId] := List.map_append
  have longer : ((state.subscribe pattern).respond frame).subIds.length =
      state.subIds.length + 1 := by
    rw [idsAfter]
    exact List.length_append
  refine ⟨?_, ?_, ?_, ?_, ?_, inv.final⟩
  · rw [longer, List.range_succ, List.map_append, idsAfter, ← inv.ids]
    rw [inv.counter]
    rfl
  · rw [longer]
    show (state.nextSubId + 1) % 2 ^ 64 = _
    rw [inv.counter]
    omega
  · intro sub there
    rw [idsAfter]
    rcases List.mem_cons.mp there with rfl | older
    · have place : state.forwarders.length = state.subIds.length :=
        (List.length_map Forwarder.subId).symm
      show (state.subIds ++ [subIdText state.nextSubId])[state.forwarders.length]? = _
      rw [place]
      exact List.getElem?_concat_length
    · have before := inv.handles sub (List.mem_filter.mp older).1
      rw [List.getElem?_append_left (List.getElem?_eq_some_iff.mp before).1]
      exact before
  · rintro subId (placed | replying)
    · obtain ⟨given, dropped⟩ := inv.gone subId (Or.inl placed)
      refine ⟨?_, ?_⟩
      · rw [idsAfter]
        exact List.mem_append_left _ given
      · intro sub there
        rcases List.mem_cons.mp there with rfl | older
        · intro same
          have again : subIdText state.nextSubId = subId := same
          exact inv.fresh few (again ▸ given)
        · exact dropped sub (List.mem_filter.mp older).1
    · cases replying
  · intro fwd there
    rcases List.mem_append.mp there with older | new
    · exact inv.held fwd older
    · obtain rfl := List.mem_singleton.mp new
      intro holds
      cases holds

theorem unsubscribe (inv : Subscribed state) {subId : String}
    (found : (state.subs.lookup subId).isSome = true) (frame : ResponseFrame) :
    Subscribed { state.removeSub subId with reader := .replying (some subId) frame } := by
  obtain ⟨handle, there⟩ := Option.isSome_iff_exists.mp found
  obtain ⟨before, after, split, _⟩ := List.lookup_eq_some_iff.mp there
  have given : subId ∈ state.subIds := by
    have inside : (subId, handle) ∈ state.subs := by
      rw [split]
      exact List.mem_append_right _ List.mem_cons_self
    exact List.mem_of_getElem? (inv.handles _ inside)
  refine ⟨inv.ids, inv.counter, ?_, ?_, inv.held, inv.final⟩
  · intro sub kept
    exact inv.handles sub (List.mem_filter.mp kept).1
  · rintro other (placed | replying)
    · obtain ⟨otherGiven, dropped⟩ := inv.gone other (Or.inl placed)
      exact ⟨otherGiven, fun sub kept => dropped sub (List.mem_filter.mp kept).1⟩
    · obtain rfl : subId = other := Option.some.inj replying
      exact ⟨given, fun sub kept => of_decide_eq_true (List.mem_filter.mp kept).2⟩

/-- The read loop answers with anything but the success of an unsubscribe. -/
theorem answer (inv : Subscribed state) (frame : ResponseFrame) :
    Subscribed (state.respond frame) :=
  inv.of_same rfl rfl (fun _ there => there) rfl (fun _ replying => nomatch replying) inv.held

theorem subMgmt (inv : Subscribed state) {sub : SubMgmtFrame}
    (few : (SocketMessage.text (.ok (.subMgmt sub))).subscribes = true → state.subIds.length < 2 ^ 64) :
    Subscribed (state.handleSubMgmt sub) := by
  obtain ⟨id, op, payload⟩ := sub
  cases op with
  | subscribe =>
    cases payload with
    | subscribe pattern => exact inv.subscribe (few rfl) pattern _
    | unsubscribe subId => exact inv.answer _
  | unsubscribe =>
    cases payload with
    | subscribe pattern => exact inv.answer _
    | unsubscribe subId =>
      unfold WsState.handleSubMgmt
      dsimp only
      split
      · rename_i found
        exact inv.unsubscribe found _
      · exact inv.of_same rfl rfl (fun _ kept => (List.mem_filter.mp kept).1) rfl
          (fun _ replying => nomatch replying) inv.held

theorem read (inv : Subscribed state) {message : SocketMessage}
    (few : message.subscribes = true → state.subIds.length < 2 ^ 64) :
    Subscribed (state.handle message) := by
  have closed : Subscribed { state with reader := .closed, subs := [] } :=
    inv.of_same rfl rfl (fun _ there => nomatch there) rfl (fun _ replying => nomatch replying) inv.held
  cases message with
  | text decoded =>
    cases decoded with
    | error e => exact inv.answer _
    | ok frame =>
      cases frame with
      | subMgmt sub => exact inv.subMgmt few
      | request req =>
        exact inv.of_same rfl rfl (fun _ there => there) rfl (fun _ replying => nomatch replying) inv.held
  | binary => exact inv.answer _
  | ping => exact inv
  | pong => exact inv
  | close => exact closed
  | failed => exact closed

/-- The read loop places its answer. -/
theorem reply (inv : Subscribed state) {done : Option String} {answer : ResponseFrame}
    (replying : state.reader = .replying done answer) (settled : state.Settled .reply) :
    Subscribed { state.place (answerEntry done answer) with reader := .waiting } := by
  have originsAfter : (state.place (answerEntry done answer)).origins =
      state.origins ++ [done.elim .reply .unsubscribed] := List.map_append
  -- a success on the queue was on the queue, or about to be
  have removed : ∀ subId, .unsubscribed subId ∈ (state.place (answerEntry done answer)).origins →
      state.Removed subId := by
    intro subId placed
    rw [originsAfter] at placed
    rcases List.mem_append.mp placed with older | new
    · exact Or.inl older
    · refine Or.inr ?_
      rw [replying]
      cases done with
      | none => cases List.mem_singleton.mp new
      | some other =>
        obtain rfl := Origin.unsubscribed.inj (List.mem_singleton.mp new)
        rfl
  refine ⟨inv.ids, inv.counter, inv.handles, ?_, ?_, ?_⟩
  · rintro subId (placed | again)
    · exact inv.gone subId (removed subId placed)
    · cases again
  · intro fwd there holds placed
    rcases removed fwd.subId placed with older | now
    · exact inv.held fwd there holds older
    · have empty := settled fwd.subId now fwd there rfl
      rw [empty] at holds
      cases holds
  · show (state.place (answerEntry done answer)).origins.Pairwise _
    rw [originsAfter]
    refine List.pairwise_append.mpr ⟨inv.final, List.pairwise_singleton _ _, ?_⟩
    intro first _ later new subId _ forwarded
    rw [List.mem_singleton.mp new] at forwarded
    cases done with
    | none => cases forwarded
    | some other => cases forwarded

/-! ### The forwarders -/

/-- A forwarder goes on, with an event in hand only if it may. -/
theorem goOn (inv : Subscribed state) {k : ℕ} {fwd after : Forwarder}
    (found : state.forwarders[k]? = some fwd) (same : after.subId = fwd.subId)
    (held : after.holds = true → .unsubscribed fwd.subId ∉ state.origins) :
    Subscribed (state.setForwarder k after) := by
  have ids : (state.setForwarder k after).subIds = state.subIds := by
    have here : (state.forwarders.map Forwarder.subId)[k]? = some fwd.subId := by
      rw [List.getElem?_map, found]
      rfl
    obtain ⟨inside, there⟩ := List.getElem?_eq_some_iff.mp here
    show (state.forwarders.set k after).map Forwarder.subId = state.forwarders.map Forwarder.subId
    rw [List.map_set, same, ← there]
    exact List.set_getElem_self inside
  refine inv.of_same ids rfl (fun _ there => there) rfl (fun _ replying => replying) ?_
  intro other there
  rcases List.mem_or_eq_of_mem_set there with older | rfl
  · exact inv.held other older
  · rw [same]
    exact held

/-- Once the success of its unsubscribe is placed a forwarder sees the cancellation. -/
theorem ready (inv : Subscribed state) {k : ℕ} {fwd : Forwarder}
    (found : state.forwarders[k]? = some fwd) (placed : .unsubscribed fwd.subId ∈ state.origins) :
    state.cancelReady k = true := by
  refine List.all_eq_true.mpr fun sub there => decide_eq_true ?_
  intro own
  have named := inv.handles sub there
  have id : state.subIds[k]? = some fwd.subId := by
    unfold WsState.subIds
    rw [List.getElem?_map, found]
    rfl
  rw [own, id] at named
  exact (inv.gone fwd.subId (Or.inl placed)).2 sub there (Option.some.inj named).symm

/-- A forwarder receives a message. -/
theorem receive (inv : Subscribed state) {k : ℕ} {fwd : Forwarder} {message : BusEvent}
    {rest : List BusEvent} (found : state.forwarders[k]? = some fwd) (unread : fwd.unread = message :: rest)
    (selecting : fwd.phase = .selecting) (settled : state.Settled (.messageBranch k)) :
    Subscribed (state.setForwarder k (fwd.receive message rest)) := by
  have next : fwd.matchesNext = topicMatches fwd.pattern message.topic := by
    unfold Forwarder.matchesNext
    rw [unread]
  unfold Forwarder.receive
  split
  · rename_i takes
    refine inv.goOn found rfl fun _ placed => ?_
    have left := settled fwd found (inv.ready found placed) placed
    rw [next, takes] at left
    cases left
  · refine inv.goOn found rfl fun holds => ?_
    have idle : Forwarder.holds { fwd with unread := rest } = false := by
      unfold Forwarder.holds
      rw [selecting]
    rw [idle] at holds
    cases holds

/-- A forwarder places the event it holds. -/
theorem placeEvent (inv : Subscribed state) {fwd : Forwarder} (there : fwd ∈ state.forwarders)
    (holds : fwd.holds = true) (frame : ServerFrame) :
    Subscribed (state.place ⟨.forwarded fwd.subId, frame⟩) := by
  have originsAfter : (state.place ⟨.forwarded fwd.subId, frame⟩).origins =
      state.origins ++ [.forwarded fwd.subId] := List.map_append
  have older : ∀ subId, .unsubscribed subId ∈ (state.place ⟨.forwarded fwd.subId, frame⟩).origins →
      .unsubscribed subId ∈ state.origins := by
    intro subId placed
    rw [originsAfter] at placed
    rcases List.mem_append.mp placed with older | new
    · exact older
    · cases List.mem_singleton.mp new
  refine ⟨inv.ids, inv.counter, inv.handles, ?_, ?_, ?_⟩
  · rintro subId (placed | replying)
    · exact inv.gone subId (Or.inl (older subId placed))
    · exact inv.gone subId (Or.inr replying)
  · intro other inside otherHolds placed
    exact inv.held other inside otherHolds (older _ placed)
  · show (state.place ⟨.forwarded fwd.subId, frame⟩).origins.Pairwise _
    rw [originsAfter]
    refine List.pairwise_append.mpr ⟨inv.final, List.pairwise_singleton _ _, ?_⟩
    rintro first before later new subId rfl forwarded
    rw [List.mem_singleton.mp new] at forwarded
    obtain rfl := Origin.forwarded.inj forwarded
    exact inv.held fwd there holds before

theorem publish (inv : Subscribed state) (capacity : ℕ) (message : BusEvent) :
    Subscribed { state with forwarders := state.forwarders.map (Forwarder.deliver capacity message) } := by
  refine inv.of_same ?_ rfl (fun _ there => there) rfl (fun _ replying => replying) ?_
  · exact List.map_map
  · intro fwd there
    obtain ⟨before, inside, rfl⟩ := List.mem_map.mp there
    exact inv.held before inside

/-- **A settled step keeps it.** -/
theorem step {capacity : ℕ} {action : WsAction} (inv : Subscribed state) (settled : state.Settled action)
    (stepped : state.step capacity action = some next) : Subscribed next := by
  cases action with
  | read message =>
    obtain ⟨_, rfl⟩ := WsState.step_read stepped
    refine inv.read fun subscribes => ?_
    unfold WsState.subIds
    rw [List.length_map]
    exact settled subscribes
  | dispatched answer =>
    obtain ⟨id, rfl⟩ := WsState.step_dispatched stepped
    exact inv.answer _
  | reply =>
    obtain ⟨removed, answer, sent, replying, done, rfl⟩ := WsState.step_reply stepped
    rcases WsState.send_cases done with ⟨_, rfl⟩ | ⟨_, _, rfl⟩
    · exact inv.of_same rfl rfl (fun _ there => there) rfl (fun _ replying => nomatch replying) inv.held
    · exact inv.reply replying settled
  | cancelBranch k =>
    obtain ⟨fwd, found, _, rfl⟩ := WsState.step_cancelBranch stepped
    exact inv.goOn found rfl fun holds => nomatch holds
  | messageBranch k =>
    obtain ⟨fwd, found, selecting, ⟨message, rest, unread, rfl⟩ | ⟨_, rfl⟩⟩ :=
      WsState.step_messageBranch stepped
    · exact inv.receive found unread selecting settled
    · exact inv.goOn found rfl fun holds => nomatch holds
  | forward k =>
    obtain ⟨fwd, frame, sent, found, sending, done, rfl⟩ := WsState.step_forward stepped
    have holds : fwd.holds = true := by
      unfold Forwarder.holds
      rw [sending]
    have empty : ∀ phase : Bool, Forwarder.holds
        { fwd with phase := if phase = true then .selecting else .ended } = false := by
      intro phase
      cases phase with
      | false => rfl
      | true => rfl
    rcases WsState.send_cases done with ⟨_, rfl⟩ | ⟨_, _, rfl⟩
    · exact inv.goOn found rfl fun after => by rw [empty] at after; cases after
    · have placed := inv.placeEvent (List.mem_of_getElem? found) holds (.event frame)
      exact placed.goOn found rfl fun after => by rw [empty] at after; cases after
  | write sent =>
    obtain ⟨_, rfl⟩ := WsState.step_write stepped
    exact inv.of_same rfl rfl (fun _ there => there) rfl (fun _ replying => replying) inv.held
  | publish message =>
    obtain rfl := WsState.step_publish stepped
    exact inv.publish capacity message
  | closeBus =>
    obtain rfl := Option.some.inj stepped
    exact inv.of_same rfl rfl (fun _ there => there) rfl (fun _ replying => replying) inv.held

end Subscribed

/-! ### Runs -/

/-- **Unsubscribe is final** in every state that settled steps reach. -/
theorem unsubscribe_final {capacity : ℕ} {actions : List WsAction} {state : WsState}
    (settled : Labelled.Meets (WsState.step capacity) WsState.Settled .start actions)
    (ran : Labelled.run (WsState.step capacity) .start actions = some state) : state.Final :=
  (settled.keeps (fun _ _ _ inv settled stepped => inv.step settled stepped) subscribed_start ran).final

/-- The frames of a client that subscribes to everything, and unsubscribes. -/
def subscribeFrame : WsAction := .read (.text (.ok (.subMgmt ⟨"1", .subscribe, .subscribe "#"⟩)))

def unsubscribeFrame : WsAction := .read (.text (.ok (.subMgmt ⟨"2", .unsubscribe, .unsubscribe "sub_1"⟩)))

def enteredEvent : BusEvent := ⟨topicEntered, .null, oneOClock firstOfMarch⟩

/-- One event is forwarded, and the forwarder sees the cancellation. -/
def cancelledInTime : List WsAction :=
  [subscribeFrame, .reply, .publish enteredEvent, .messageBranch 0, .forward 0, unsubscribeFrame, .reply,
    .publish enteredEvent, .cancelBranch 0]

theorem unsubscribe_final_in_time :
    ∃ state, Labelled.run (WsState.step 1024) .start cancelledInTime = some state ∧
      state.origins = [.reply, .forwarded "sub_1", .unsubscribed "sub_1"] ∧ state.Final := by
  have placed : (Labelled.run (WsState.step 1024) .start cancelledInTime).map WsState.origins =
      some [.reply, .forwarded "sub_1", .unsubscribed "sub_1"] := by decide +kernel
  obtain ⟨state, ran, origins⟩ := Option.map_eq_some_iff.mp placed
  exact ⟨state, ran, origins, unsubscribe_final (by decide +kernel) ran⟩

/-- An event is published once the unsubscribe is answered, and the `select!` takes it. -/
def cancelledLate : List WsAction :=
  [subscribeFrame, .reply, unsubscribeFrame, .reply, .publish enteredEvent, .messageBranch 0, .forward 0]

/-- **An event after its unsubscribe**: of two ready branches the `select!` takes the message. -/
theorem event_after_unsubscribe :
    ¬ ∀ (capacity : ℕ) (actions : List WsAction) (state : WsState),
      Labelled.run (WsState.step capacity) .start actions = some state → state.Final := by
  intro final
  have placed : (Labelled.run (WsState.step 1024) .start cancelledLate).map WsState.origins =
      some [.reply, .unsubscribed "sub_1", .forwarded "sub_1"] := by decide +kernel
  obtain ⟨state, ran, origins⟩ := Option.map_eq_some_iff.mp placed
  have ordered := final 1024 cancelledLate state ran
  unfold WsState.Final at ordered
  rw [origins] at ordered
  have after := (List.pairwise_cons.mp (List.pairwise_cons.mp ordered).2).1
  exact after (.forwarded "sub_1") List.mem_cons_self "sub_1" rfl rfl

/-! ### Steps that are not settled -/

section Unsettled

variable {capacity : ℕ} {state next : WsState}

theorem Forwarder.sending_of_holds {fwd : Forwarder} (holds : fwd.holds = true) :
    ∃ frame, fwd.phase = .sending frame := by
  unfold Forwarder.holds at holds
  split at holds
  · rename_i frame sending
    exact ⟨frame, sending⟩
  · cases holds

/-- With room in the queue, a forwarder whose unsubscribe has succeeded places the event it holds. -/
theorem forward_not_final (capacity : ℕ) (writing : state.writing = true) (room : state.hasRoom = true) {k : ℕ}
    {fwd : Forwarder} (found : state.forwarders[k]? = some fwd) (holds : fwd.holds = true)
    (placed : .unsubscribed fwd.subId ∈ state.origins) :
    ∃ after, state.step capacity (.forward k) = some after ∧ ¬ after.Final := by
  obtain ⟨frame, sending⟩ := Forwarder.sending_of_holds holds
  let event : Outbound := ⟨.forwarded fwd.subId, .event frame⟩
  refine ⟨(state.place event).setForwarder k
    { fwd with phase := if state.writing = true then .selecting else .ended }, ?_, ?_⟩
  · show state.forwarders[k]?.bind (state.forward k) = _
    rw [found, Option.bind_some]
    unfold WsState.forward
    rw [sending]
    dsimp only
    rw [WsState.send_room event writing room]
    rfl
  · intro final
    have origins : (state.place event).origins = state.origins ++ [.forwarded fwd.subId] :=
      List.map_append
    have ordered : (state.place event).origins.Pairwise _ := final
    rw [origins] at ordered
    exact (List.pairwise_append.mp ordered).2.2 _ placed _ List.mem_cons_self fwd.subId rfl rfl

/-- A forwarder whose unsubscribe has succeeded can place the event it holds. -/
theorem held_not_final (bounded : state.Bounded) (writing : state.writing = true) {k : ℕ}
    {fwd : Forwarder} (found : state.forwarders[k]? = some fwd) (holds : fwd.holds = true)
    (placed : .unsubscribed fwd.subId ∈ state.origins) :
    ∃ more after, Labelled.run (WsState.step capacity) state more = some after ∧ ¬ after.Final := by
  cases room : state.hasRoom with
  | true =>
    obtain ⟨after, stepped, late⟩ := forward_not_final capacity writing room found holds placed
    refine ⟨[.forward k], after, ?_, late⟩
    rw [Labelled.run, stepped]
    rfl
  | false =>
    -- on a full queue the writer goes first
    have full : ¬ state.placed.length < state.written + outCapacity := of_decide_eq_false room
    let drained : WsState := { state with written := state.written + 1, writing := true }
    have wrote : state.step capacity (.write true) = some drained := by
      refine if_pos ⟨writing, ?_⟩
      unfold outCapacity at full
      omega
    have roomAfter : drained.hasRoom = true := by
      refine decide_eq_true ?_
      show state.placed.length < state.written + 1 + outCapacity
      have most := bounded.2
      omega
    obtain ⟨after, stepped, late⟩ :=
      forward_not_final capacity (show drained.writing = true from rfl) roomAfter found holds placed
    refine ⟨[.write true, .forward k], after, ?_, late⟩
    rw [Labelled.run, wrote, Option.bind_some, Labelled.run, stepped]
    rfl

/-- A success is placed while the forwarder holds an event. -/
theorem reply_not_final (bounded : next.Bounded) (writing : state.writing = true)
    (unsettled : ¬ state.Settled .reply) (stepped : state.step capacity .reply = some next) :
    ∃ more after, Labelled.run (WsState.step capacity) next more = some after ∧ ¬ after.Final := by
  obtain ⟨removed, answer, sent, replying, done, rfl⟩ := WsState.step_reply stepped
  have held : ∃ subId fwd, removed = some subId ∧ fwd ∈ state.forwarders ∧ fwd.subId = subId ∧
      fwd.holds = true := by
    by_contra none
    refine unsettled fun subId pending fwd there same => ?_
    rw [replying] at pending
    cases holds : fwd.holds with
    | false => rfl
    | true => exact absurd ⟨subId, fwd, pending, there, same, holds⟩ none
  obtain ⟨subId, fwd, rfl, there, rfl, holds⟩ := held
  obtain ⟨k, found⟩ := List.getElem?_of_mem there
  rcases WsState.send_cases done with ⟨closed, _⟩ | ⟨_, _, rfl⟩
  · rw [writing] at closed
    cases closed
  · refine held_not_final bounded writing found holds ?_
    exact List.mem_map_of_mem (List.mem_append_right _ List.mem_cons_self)

/-- A `select!` takes a matching message after the success. -/
theorem branch_not_final (bounded : next.Bounded) (writing : state.writing = true) {k : ℕ}
    (unsettled : ¬ state.Settled (.messageBranch k))
    (stepped : state.step capacity (.messageBranch k) = some next) :
    ∃ more after, Labelled.run (WsState.step capacity) next more = some after ∧ ¬ after.Final := by
  obtain ⟨fwd, found, selecting, branch⟩ := WsState.step_messageBranch stepped
  have takes : .unsubscribed fwd.subId ∈ state.origins ∧ fwd.matchesNext = true := by
    by_contra none
    refine unsettled fun same there _ placed => ?_
    obtain rfl : fwd = same := Option.some.inj (found.symm.trans there)
    cases next : fwd.matchesNext with
    | false => rfl
    | true => exact absurd ⟨placed, next⟩ none
  obtain ⟨placed, matched⟩ := takes
  unfold Forwarder.matchesNext at matched
  rcases branch with ⟨message, rest, unread, rfl⟩ | ⟨unread, rfl⟩
  · rw [unread] at matched
    have taken : fwd.receive message rest =
        { fwd with unread := rest, phase := .sending message.toFrame } := if_pos matched
    have here : (state.setForwarder k (fwd.receive message rest)).forwarders[k]? =
        some (fwd.receive message rest) :=
      List.getElem?_set_self (List.getElem?_eq_some_iff.mp found).1
    refine held_not_final bounded writing here ?_ ?_
    · rw [taken]
      rfl
    · rw [taken]
      exact placed
  · rw [unread] at matched
    cases matched

/-- **The condition is needed**: after a step that is not settled, other than a subscribe, the run can go on
to place an event after the success of its unsubscribe. -/
theorem unsettled_not_final {actions : List WsAction} {action : WsAction}
    (ran : Labelled.run (WsState.step capacity) .start actions = some state)
    (writing : state.writing = true) (other : ∀ message, action ≠ .read message)
    (unsettled : ¬ state.Settled action) (stepped : state.step capacity action = some next) :
    ∃ more after, Labelled.run (WsState.step capacity) next more = some after ∧ ¬ after.Final := by
  have bounded : next.Bounded := (WsState.bounded_run ran).step stepped
  cases action with
  | read message => exact absurd rfl (other message)
  | reply => exact reply_not_final bounded writing unsettled stepped
  | messageBranch k => exact branch_not_final bounded writing unsettled stepped
  | _ => exact absurd trivial unsettled

end Unsettled

end Invoicing
