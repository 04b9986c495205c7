/-
**What a WebSocket subscription is sent.**

* `publishedSince` — the messages published since the subscription of a given number was made.
* `WsState.Fed` — a forwarder between its bus and its queue: what it has received, before what it has not;
  of what it has received, the matching messages are on the queue, but for the one it holds.
* `KeepsUp` — a forwarder that has room for a message when it is published, so that none is dropped.
* **`events_run`** — in every order of steps, the events of a subscription are matching messages published
  since it was made, in the order of the bus and each once; none is missing while it keeps up.
-/

import Invoicing.Runs.Answers
import Invoicing.Runs.Subscriptions

namespace Invoicing

/-! ### Messages and events -/

/-- The message a step publishes. -/
def WsAction.message : WsAction → Option BusEvent
  | .publish message => some message
  | _ => none

/-- The step makes a subscription. -/
def WsAction.subscribes : WsAction → Bool
  | .read message => message.subscribes
  | _ => false

/-- The messages published since the subscription of number `k`, counted from zero. -/
def publishedSince : ℕ → List WsAction → List BusEvent
  | _, [] => []
  | k, action :: rest =>
      match action.subscribes, k with
      | false, k => publishedSince k rest
      | true, 0 => rest.filterMap WsAction.message
      | true, k + 1 => publishedSince k rest

/-- One more step: its message, when the subscription was made before. -/
theorem publishedSince_concat (k : ℕ) (before : List WsAction) (action : WsAction) :
    publishedSince k (before ++ [action]) =
      if k < before.countP WsAction.subscribes then publishedSince k before ++ action.message.toList
      else [] := by
  induction before generalizing k with
  | nil =>
    show publishedSince k [action] = if k < 0 then _ else []
    rw [if_neg (Nat.not_lt_zero k)]
    cases made : action.subscribes with
    | false => simp only [publishedSince, made]
    | true =>
      cases k with
      | zero => simp only [publishedSince, made, List.filterMap_nil]
      | succ k => simp only [publishedSince, made]
  | cons first rest ih =>
    rw [List.cons_append]
    cases made : first.subscribes with
    | false =>
      have off : ¬ first.subscribes = true := by simp [made]
      rw [List.countP_cons_of_neg off]
      simp only [publishedSince, made]
      exact ih k
    | true =>
      rw [List.countP_cons_of_pos made]
      cases k with
      | zero =>
        rw [if_pos (Nat.succ_pos _)]
        simp only [publishedSince, made]
        rw [List.filterMap_append]
        cases action <;> rfl
      | succ k =>
        simp only [publishedSince, made, Nat.add_lt_add_iff_right]
        exact ih k

/-- What is published after the step that makes a subscription. -/
theorem publishedSince_made (earlier later : List WsAction) {action : WsAction}
    (makes : action.subscribes = true) :
    publishedSince (earlier.countP WsAction.subscribes) (earlier ++ action :: later) =
      later.filterMap WsAction.message := by
  induction earlier with
  | nil =>
    show publishedSince 0 (action :: later) = _
    simp only [publishedSince, makes]
  | cons first rest ih =>
    rw [List.cons_append]
    cases made : first.subscribes with
    | false =>
      rw [List.countP_cons_of_neg (by simp [made])]
      simp only [publishedSince, made]
      exact ih
    | true =>
      rw [List.countP_cons_of_pos made]
      simp only [publishedSince, made]
      exact ih

/-- The frame is an event of the subscription. -/
def Outbound.eventOf (subId : String) (entry : Outbound) : Option EventFrame :=
  match entry.origin, entry.frame with
  | .forwarded other, .event frame => if other = subId then some frame else none
  | _, _ => none

/-- The events of a subscription on the queue, in order. -/
def WsState.events (state : WsState) (subId : String) : List EventFrame :=
  state.placed.filterMap (Outbound.eventOf subId)

/-- The event a forwarder is about to place. -/
def Forwarder.held (fwd : Forwarder) : Option EventFrame :=
  match fwd.phase with
  | .sending frame => some frame
  | _ => none

/-- The events of those messages that match. -/
def Forwarder.forwards (fwd : Forwarder) (messages : List BusEvent) : List EventFrame :=
  (messages.filter fun message => topicMatches fwd.pattern message.topic).map BusEvent.toFrame

theorem Forwarder.forwards_append (fwd : Forwarder) (first second : List BusEvent) :
    fwd.forwards (first ++ second) = fwd.forwards first ++ fwd.forwards second := by
  unfold forwards
  rw [List.filter_append, List.map_append]

theorem WsState.events_place (state : WsState) (entry : Outbound) (subId : String) :
    (state.place entry).events subId = state.events subId ++ (entry.eventOf subId).toList := by
  unfold events place
  rw [List.filterMap_append]
  cases event : entry.eventOf subId with
  | none => simp [event]
  | some frame => simp [event]

/-- An answer is no event. -/
theorem eventOf_answer (removed : Option String) (answer : ResponseFrame) (subId : String) :
    (answerEntry removed answer).eventOf subId = none := by
  cases removed with
  | none => rfl
  | some other => rfl

/-! ### A forwarder between the bus and the queue -/

/-- What the forwarder has received is on the queue as far as it matches, but for the event it holds.
`kept` says how what it has received and not received lies in what was published. -/
def WsState.Fed (state : WsState) (kept : List BusEvent → List BusEvent → Prop) (fwd : Forwarder)
    (published : List BusEvent) : Prop :=
  ∃ seen, kept (seen ++ fwd.unread) published ∧ state.events fwd.subId <+: fwd.forwards seen ∧
    (state.writing = true → state.events fwd.subId ++ fwd.held.toList = fwd.forwards seen)

/-- Ids are given out in order, no event is on the queue for an id that is not, and the forwarder of number
`k` is fed. -/
structure Forwarding (kept : List BusEvent → List BusEvent → Prop) (k : ℕ) (state : WsState)
    (before : List WsAction) : Prop where
  made : state.forwarders.length = before.countP WsAction.subscribes
  counter : state.nextSubId = (state.forwarders.length + 1) % 2 ^ 64
  ids : ∀ j fwd, state.forwarders[j]? = some fwd → fwd.subId = subIdText (j + 1)
  unused : ∀ n, state.forwarders.length ≤ n → state.events (subIdText (n + 1)) = []
  fed : ∀ fwd, state.forwarders[k]? = some fwd → state.Fed kept fwd (publishedSince k before)

theorem forwarding_start (kept : List BusEvent → List BusEvent → Prop) (k : ℕ) :
    Forwarding kept k .start [] := by
  refine ⟨rfl, rfl, ?_, fun _ _ => rfl, ?_⟩
  · intro j fwd there
    cases there
  · intro fwd there
    cases there

/-- What is found in a list with a new last element. -/
theorem getElem?_concat_cases {α : Type} {l : List α} {new found : α} {j : ℕ}
    (there : (l ++ [new])[j]? = some found) : l[j]? = some found ∨ (j = l.length ∧ new = found) := by
  rw [List.getElem?_append] at there
  split at there
  · exact Or.inl there
  · rename_i past
    obtain ⟨inside, same⟩ := List.getElem?_eq_some_iff.mp there
    have last : j = l.length := by
      have below : j - l.length < 1 := inside
      omega
    exact Or.inr ⟨last, by simpa [last] using same⟩

namespace Forwarding

variable {kept : List BusEvent → List BusEvent → Prop} {k : ℕ} {state next : WsState}
  {before : List WsAction} {action : WsAction}

/-- A forwarder that is not made yet is fed in any way. -/
theorem unmade {kept' : List BusEvent → List BusEvent → Prop} (forwarding : Forwarding kept k state before)
    (later : state.forwarders.length ≤ k) : Forwarding kept' k state before := by
  refine ⟨forwarding.made, forwarding.counter, forwarding.ids, forwarding.unused, fun fwd found => ?_⟩
  have inside := (List.getElem?_eq_some_iff.mp found).1
  exact absurd inside (Nat.not_lt_of_le later)

/-- The list of steps grows by one that neither subscribes nor publishes. -/
theorem since_same (forwarding : Forwarding kept k state before) (silent : action.message = none)
    {fwd : Forwarder} (found : state.forwarders[k]? = some fwd) :
    publishedSince k (before ++ [action]) = publishedSince k before := by
  have inside : k < before.countP WsAction.subscribes := by
    rw [← forwarding.made]
    exact (List.getElem?_eq_some_iff.mp found).1
  rw [publishedSince_concat, if_pos inside, silent]
  exact List.append_nil _

theorem made_same (forwarding : Forwarding kept k state before) (quiet : action.subscribes = false) :
    state.forwarders.length = (before ++ [action]).countP WsAction.subscribes := by
  rw [List.countP_append, List.countP_singleton, quiet]
  exact forwarding.made

/-- A step that leaves the forwarders alone, and places no event. -/
theorem of_same (forwarding : Forwarding kept k state before) (quiet : action.subscribes = false)
    (silent : action.message = none) (forwarders : next.forwarders = state.forwarders)
    (counter : next.nextSubId = state.nextSubId) (events : ∀ subId, next.events subId = state.events subId)
    (writing : next.writing = true → state.writing = true) : Forwarding kept k next (before ++ [action]) := by
  refine ⟨?_, ?_, ?_, ?_, ?_⟩
  · rw [forwarders]
    exact forwarding.made_same quiet
  · rw [counter, forwarders]
    exact forwarding.counter
  · rw [forwarders]
    exact forwarding.ids
  · rw [forwarders]
    intro n more
    rw [events]
    exact forwarding.unused n more
  · rw [forwarders]
    intro fwd found
    obtain ⟨seen, lies, begins, all⟩ := forwarding.fed fwd found
    rw [forwarding.since_same silent found]
    refine ⟨seen, lies, ?_, fun still => ?_⟩
    · rw [events]
      exact begins
    · rw [events]
      exact all (writing still)

/-- A new forwarder has received nothing, and nothing was published to it. -/
theorem subscribe (forwarding : Forwarding kept k state before) (empty : kept [] [])
    (few : state.forwarders.length + 1 < 2 ^ 64) (pattern : String) (frame : ResponseFrame)
    (made : action.subscribes = true) (silent : action.message = none) :
    Forwarding kept k ((state.subscribe pattern).respond frame) (before ++ [action]) := by
  have number : state.nextSubId = state.forwarders.length + 1 := by
    rw [forwarding.counter, Nat.mod_eq_of_lt few]
  let new : Forwarder := ⟨subIdText state.nextSubId, pattern, [], .selecting⟩
  have forwarders : ((state.subscribe pattern).respond frame).forwarders = state.forwarders ++ [new] := rfl
  have longer :
      ((state.subscribe pattern).respond frame).forwarders.length = state.forwarders.length + 1 := by
    rw [forwarders]
    exact List.length_append
  refine ⟨?_, ?_, ?_, ?_, ?_⟩
  · rw [longer, List.countP_append, List.countP_singleton, made, forwarding.made]
    rfl
  · rw [longer]
    show (state.nextSubId + 1) % 2 ^ 64 = _
    rw [number]
  · intro j fwd found
    rw [forwarders] at found
    rcases getElem?_concat_cases found with older | ⟨rfl, rfl⟩
    · exact forwarding.ids j fwd older
    · show subIdText state.nextSubId = _
      rw [number]
  · intro n more
    rw [longer] at more
    exact forwarding.unused n (Nat.le_of_succ_le more)
  · intro fwd found
    rw [forwarders] at found
    rcases getElem?_concat_cases found with older | ⟨rfl, rfl⟩
    · obtain ⟨seen, lies, begins, all⟩ := forwarding.fed fwd older
      rw [forwarding.since_same silent older]
      exact ⟨seen, lies, begins, all⟩
    · have nothing : state.events (subIdText state.nextSubId) = [] := by
        rw [number]
        exact forwarding.unused _ (Nat.le_refl _)
      have outside : ¬ state.forwarders.length < before.countP WsAction.subscribes := by
        rw [forwarding.made]
        exact lt_irrefl _
      rw [publishedSince_concat, if_neg outside]
      refine ⟨[], empty, ?_, fun _ => ?_⟩
      · show state.events (subIdText state.nextSubId) <+: []
        rw [nothing]
      · show state.events (subIdText state.nextSubId) ++ [] = []
        rw [nothing]
        rfl

/-! ### The forwarders -/

/-- A forwarder goes on: it receives a message, ends or places the event it holds. -/
theorem goOn (forwarding : Forwarding kept k state before) (quiet : action.subscribes = false)
    (silent : action.message = none) {j : ℕ} {fwd : Forwarder} (found : state.forwarders[j]? = some fwd)
    (after : Forwarder) (named : after.subId = fwd.subId)
    (forwarders : next.forwarders = state.forwarders.set j after)
    (counter : next.nextSubId = state.nextSubId)
    (others : ∀ subId, subId ≠ fwd.subId → next.events subId = state.events subId)
    (writing : next.writing = true → state.writing = true)
    (fed : ∀ published, state.Fed kept fwd published → next.Fed kept after published) :
    Forwarding kept k next (before ++ [action]) := by
  have inside : j < state.forwarders.length := (List.getElem?_eq_some_iff.mp found).1
  have same : next.forwarders.length = state.forwarders.length := by
    rw [forwarders]
    exact List.length_set
  refine ⟨?_, ?_, ?_, ?_, ?_⟩
  · rw [same]
    exact forwarding.made_same quiet
  · rw [counter, same]
    exact forwarding.counter
  · intro i other there
    rw [forwarders, List.getElem?_set] at there
    split at there
    · rename_i here
      obtain rfl := Option.some.inj there
      rw [named, ← here]
      exact forwarding.ids j fwd found
    · exact forwarding.ids i other there
  · intro n more
    rw [same] at more
    rw [others, forwarding.unused n more]
    intro clash
    rw [forwarding.ids j fwd found] at clash
    have numbers := subIdText_injective clash
    omega
  · intro other there
    rw [forwarders, List.getElem?_set] at there
    split at there
    · rename_i here
      subst here
      obtain rfl := Option.some.inj there
      rw [forwarding.since_same silent found]
      exact fed _ (forwarding.fed fwd found)
    · rename_i elsewhere
      obtain ⟨seen, lies, begins, all⟩ := forwarding.fed other there
      rw [forwarding.since_same silent there]
      have distinct : other.subId ≠ fwd.subId := by
        rw [forwarding.ids k other there, forwarding.ids j fwd found]
        intro clash
        have numbers := subIdText_injective clash
        omega
      refine ⟨seen, lies, ?_, fun still => ?_⟩
      · rw [others _ distinct]
        exact begins
      · rw [others _ distinct]
        exact all (writing still)

/-- A forwarder with nothing in hand ends. -/
theorem fed_ended {fwd : Forwarder} {published : List BusEvent} (idle : fwd.held = none)
    (fed : state.Fed kept fwd published) : state.Fed kept { fwd with phase := .ended } published := by
  obtain ⟨seen, lies, begins, all⟩ := fed
  rw [idle] at all
  exact ⟨seen, lies, begins, all⟩

/-- A forwarder receives its next message, and holds it when it matches. -/
theorem fed_receive {fwd : Forwarder} {message : BusEvent} {rest published : List BusEvent}
    (selecting : fwd.phase = .selecting) (unread : fwd.unread = message :: rest)
    (fed : state.Fed kept fwd published) : state.Fed kept (fwd.receive message rest) published := by
  obtain ⟨seen, lies, begins, all⟩ := fed
  have idle : fwd.held = none := by
    unfold Forwarder.held
    rw [selecting]
  rw [idle] at all
  have liesAfter : kept ((seen ++ [message]) ++ rest) published := by
    rw [List.append_assoc]
    rw [unread] at lies
    exact lies
  unfold Forwarder.receive
  split
  · rename_i takes
    have grown : fwd.forwards (seen ++ [message]) = fwd.forwards seen ++ [message.toFrame] := by
      rw [fwd.forwards_append]
      unfold Forwarder.forwards
      simp [takes]
    refine ⟨seen ++ [message], liesAfter, ?_, fun writing => ?_⟩
    · show state.events fwd.subId <+: fwd.forwards (seen ++ [message])
      rw [grown]
      exact begins.trans (List.prefix_append _ _)
    · show state.events fwd.subId ++ [message.toFrame] = fwd.forwards (seen ++ [message])
      rw [grown, ← all writing]
      exact congrArg (· ++ [message.toFrame]) (List.append_nil _).symm
  · rename_i leaves
    have same : fwd.forwards (seen ++ [message]) = fwd.forwards seen := by
      rw [fwd.forwards_append]
      unfold Forwarder.forwards
      simp [leaves]
    refine ⟨seen ++ [message], liesAfter, ?_, fun writing => ?_⟩
    · show state.events fwd.subId <+: fwd.forwards (seen ++ [message])
      rw [same]
      exact begins
    · show state.events fwd.subId ++ fwd.held.toList = fwd.forwards (seen ++ [message])
      rw [same, idle]
      exact all writing

/-- The event in hand is placed. -/
theorem fed_place {fwd : Forwarder} {frame : EventFrame} {published : List BusEvent}
    (sending : fwd.phase = .sending frame) (writing : state.writing = true)
    (fed : state.Fed kept fwd published) :
    (state.place ⟨.forwarded fwd.subId, .event frame⟩).Fed kept { fwd with phase := .selecting }
      published := by
  obtain ⟨seen, lies, _, all⟩ := fed
  have placed : (state.place ⟨.forwarded fwd.subId, .event frame⟩).events fwd.subId = fwd.forwards seen := by
    have held : fwd.held = some frame := by
      unfold Forwarder.held
      rw [sending]
    have own : Outbound.eventOf fwd.subId ⟨.forwarded fwd.subId, .event frame⟩ = some frame := if_pos rfl
    rw [WsState.events_place, own, ← all writing, held]
  refine ⟨seen, lies, ?_, fun _ => ?_⟩
  · show (state.place _).events fwd.subId <+: fwd.forwards seen
    rw [placed]
  · show (state.place _).events fwd.subId ++ [] = fwd.forwards seen
    rw [placed]
    exact List.append_nil _

/-- The event in hand is lost, because the writer has stopped. -/
theorem fed_lost {fwd : Forwarder} {published : List BusEvent} (stopped : state.writing = false)
    (fed : state.Fed kept fwd published) : state.Fed kept { fwd with phase := .ended } published := by
  obtain ⟨seen, lies, begins, _⟩ := fed
  refine ⟨seen, lies, begins, fun writing => ?_⟩
  rw [stopped] at writing
  cases writing

/-- A message is published to every forwarder. -/
theorem publish (forwarding : Forwarding kept k state before) {capacity : ℕ} {message : BusEvent}
    (delivers : ∀ fwd, state.forwarders[k]? = some fwd → ∀ seen published,
      kept (seen ++ fwd.unread) published →
        kept (seen ++ (fwd.deliver capacity message).unread) (published ++ [message])) :
    Forwarding kept k { state with forwarders := state.forwarders.map (Forwarder.deliver capacity message) }
      (before ++ [.publish message]) := by
  have same : (state.forwarders.map (Forwarder.deliver capacity message)).length =
      state.forwarders.length := List.length_map _
  have delivered : ∀ {i : ℕ} {fwd : Forwarder},
      (state.forwarders.map (Forwarder.deliver capacity message))[i]? = some fwd →
      ∃ earlier, state.forwarders[i]? = some earlier ∧ Forwarder.deliver capacity message earlier = fwd := by
    intro i fwd there
    rw [List.getElem?_map] at there
    exact Option.map_eq_some_iff.mp there
  refine ⟨?_, ?_, ?_, ?_, ?_⟩
  · show (state.forwarders.map _).length = _
    rw [same]
    exact forwarding.made_same rfl
  · show state.nextSubId = ((state.forwarders.map _).length + 1) % 2 ^ 64
    rw [same]
    exact forwarding.counter
  · intro i fwd there
    obtain ⟨earlier, found, rfl⟩ := delivered there
    exact forwarding.ids i earlier found
  · intro n more
    exact forwarding.unused n (same ▸ more)
  · intro fwd there
    obtain ⟨earlier, found, rfl⟩ := delivered there
    obtain ⟨seen, lies, begins, all⟩ := forwarding.fed earlier found
    have inside : k < before.countP WsAction.subscribes := by
      rw [← forwarding.made]
      exact (List.getElem?_eq_some_iff.mp found).1
    rw [publishedSince_concat, if_pos inside]
    exact ⟨seen, delivers earlier found seen _ lies, begins, all⟩

/-- The read loop takes a message: it makes a subscription, or leaves the forwarders alone. -/
theorem read (forwarding : Forwarding kept k state before) (empty : kept [] []) {message : SocketMessage}
    (few : (state.handle message).forwarders.length < 2 ^ 64) :
    Forwarding kept k (state.handle message) (before ++ [.read message]) := by
  have alone : ∀ after : WsState, message.subscribes = false → after.forwarders = state.forwarders →
      after.nextSubId = state.nextSubId → after.placed = state.placed → after.writing = state.writing →
      Forwarding kept k after (before ++ [.read message]) := by
    intro after quiet forwarders counter placed writing
    refine forwarding.of_same quiet rfl forwarders counter (fun subId => ?_) fun still => writing ▸ still
    unfold WsState.events
    rw [placed]
  cases message with
  | text decoded =>
    cases decoded with
    | error e => exact alone _ rfl rfl rfl rfl rfl
    | ok frame =>
      cases frame with
      | subMgmt sub =>
        obtain ⟨id, op, payload⟩ := sub
        cases op with
        | subscribe =>
          cases payload with
          | subscribe pattern =>
            have longer : (state.subscribe pattern).forwarders.length = state.forwarders.length + 1 :=
              List.length_append
            exact forwarding.subscribe empty (longer ▸ few) pattern _ rfl rfl
          | unsubscribe subId => exact alone _ rfl rfl rfl rfl rfl
        | unsubscribe =>
          cases payload with
          | subscribe pattern => exact alone _ rfl rfl rfl rfl rfl
          | unsubscribe subId =>
            unfold WsState.handle WsState.handleSubMgmt
            dsimp only
            split
            · exact alone _ rfl rfl rfl rfl rfl
            · exact alone _ rfl rfl rfl rfl rfl
      | request req => exact alone _ rfl rfl rfl rfl rfl
  | binary => exact alone _ rfl rfl rfl rfl rfl
  | ping => exact alone _ rfl rfl rfl rfl rfl
  | pong => exact alone _ rfl rfl rfl rfl rfl
  | close => exact alone _ rfl rfl rfl rfl rfl
  | failed => exact alone _ rfl rfl rfl rfl rfl

end Forwarding

/-- A forwarder sees its cancellation only in its `select!`. -/
theorem WsState.step_cancelled {capacity k : ℕ} {state next : WsState}
    (stepped : state.step capacity (.cancelBranch k) = some next) :
    ∃ fwd, state.forwarders[k]? = some fwd ∧ fwd.phase = .selecting ∧
      next = state.setForwarder k { fwd with phase := .ended } := by
  obtain ⟨fwd, found, taken⟩ := Option.bind_eq_some_iff.mp stepped
  unfold cancelBranch at taken
  split at taken
  · rename_i selecting
    split at taken
    · exact ⟨fwd, found, selecting, (Option.some.inj taken).symm⟩
    · cases taken
  · cases taken

theorem Forwarder.held_selecting {fwd : Forwarder} (selecting : fwd.phase = .selecting) :
    fwd.held = none := by
  unfold held
  rw [selecting]

/-- **Every step feeds the forwarder**, when what is published lies as what was received and not received
does. -/
theorem Forwarding.step {kept : List BusEvent → List BusEvent → Prop} {k capacity : ℕ} {state next : WsState}
    {before : List WsAction} {action : WsAction} (forwarding : Forwarding kept k state before)
    (empty : kept [] [])
    (delivers : ∀ message ∈ action.message, ∀ fwd, state.forwarders[k]? = some fwd → ∀ seen published,
      kept (seen ++ fwd.unread) published →
        kept (seen ++ (fwd.deliver capacity message).unread) (published ++ [message]))
    (few : next.forwarders.length < 2 ^ 64) (stepped : state.step capacity action = some next) :
    Forwarding kept k next (before ++ [action]) := by
  cases action with
  | read message =>
    obtain ⟨_, rfl⟩ := WsState.step_read stepped
    exact forwarding.read empty few
  | dispatched outcome =>
    obtain ⟨_, rfl⟩ := WsState.step_dispatched stepped
    exact forwarding.of_same rfl rfl rfl rfl (fun _ => rfl) id
  | reply =>
    obtain ⟨removed, answer, sent, _, done, rfl⟩ := WsState.step_reply stepped
    rcases WsState.send_cases done with ⟨_, rfl⟩ | ⟨_, _, rfl⟩
    · exact forwarding.of_same rfl rfl rfl rfl (fun _ => rfl) id
    · refine forwarding.of_same rfl rfl rfl rfl (fun subId => ?_) id
      show (state.place (answerEntry removed answer)).events subId = _
      rw [WsState.events_place, eventOf_answer]
      exact List.append_nil _
  | cancelBranch j =>
    obtain ⟨fwd, found, selecting, rfl⟩ := WsState.step_cancelled stepped
    exact forwarding.goOn rfl rfl found { fwd with phase := .ended } rfl rfl rfl (fun _ _ => rfl) id
      (fun _ fed => Forwarding.fed_ended (Forwarder.held_selecting selecting) fed)
  | messageBranch j =>
    obtain ⟨fwd, found, selecting, ⟨message, rest, unread, rfl⟩ | ⟨_, rfl⟩⟩ :=
      WsState.step_messageBranch stepped
    · have named : (fwd.receive message rest).subId = fwd.subId := by
        unfold Forwarder.receive
        split
        · rfl
        · rfl
      exact forwarding.goOn rfl rfl found (fwd.receive message rest) named rfl rfl (fun _ _ => rfl) id
        (fun _ fed => Forwarding.fed_receive selecting unread fed)
    · exact forwarding.goOn rfl rfl found { fwd with phase := .ended } rfl rfl rfl (fun _ _ => rfl) id
        (fun _ fed => Forwarding.fed_ended (Forwarder.held_selecting selecting) fed)
  | forward j =>
    obtain ⟨fwd, frame, sent, found, sending, done, rfl⟩ := WsState.step_forward stepped
    rcases WsState.send_cases done with ⟨stopped, rfl⟩ | ⟨writing, _, rfl⟩
    · rw [stopped]
      exact forwarding.goOn rfl rfl found { fwd with phase := .ended } rfl rfl rfl (fun _ _ => rfl) id
        (fun _ fed => Forwarding.fed_lost stopped fed)
    · rw [writing]
      refine forwarding.goOn rfl rfl found { fwd with phase := .selecting } rfl rfl rfl
        (fun subId other => ?_) id (fun _ fed => Forwarding.fed_place sending writing fed)
      have foreign : Outbound.eventOf subId ⟨.forwarded fwd.subId, .event frame⟩ = none :=
        if_neg (Ne.symm other)
      show (state.place _).events subId = _
      rw [WsState.events_place, foreign]
      exact List.append_nil _
  | write sent =>
    simp only [WsState.step] at stepped
    split at stepped
    · rename_i running
      obtain rfl := Option.some.inj stepped
      exact forwarding.of_same rfl rfl rfl rfl (fun _ => rfl) fun _ => running.1
    · cases stepped
  | publish message =>
    obtain rfl := WsState.step_publish stepped
    exact forwarding.publish (delivers message rfl)
  | closeBus =>
    obtain rfl := Option.some.inj stepped
    exact forwarding.of_same rfl rfl rfl rfl (fun _ => rfl) id

/-! ### Whole runs -/

/-- The forwarder of number `k` has room when a message is published. -/
def KeepsUp (capacity k : ℕ) (state : WsState) : WsAction → Prop
  | .publish _ => ∀ fwd ∈ state.forwarders[k]?, fwd.unread.length < capacity
  | _ => True

instance (capacity k : ℕ) (state : WsState) :
    (action : WsAction) → Decidable (KeepsUp capacity k state action)
  | .read _ => inferInstanceAs (Decidable True)
  | .dispatched _ => inferInstanceAs (Decidable True)
  | .reply => inferInstanceAs (Decidable True)
  | .cancelBranch _ => inferInstanceAs (Decidable True)
  | .messageBranch _ => inferInstanceAs (Decidable True)
  | .forward _ => inferInstanceAs (Decidable True)
  | .write _ => inferInstanceAs (Decidable True)
  | .publish _ => inferInstanceAs (Decidable (∀ fwd ∈ state.forwarders[k]?, fwd.unread.length < capacity))
  | .closeBus => inferInstanceAs (Decidable True)

/-- What a subscriber drops, it drops from the front. -/
theorem sublist_deliver {fwd : Forwarder} {seen published : List BusEvent} (capacity : ℕ) (message : BusEvent)
    (lies : (seen ++ fwd.unread).Sublist published) :
    (seen ++ (fwd.deliver capacity message).unread).Sublist (published ++ [message]) := by
  have shorter :
      (seen ++ (fwd.deliver capacity message).unread).Sublist (seen ++ (fwd.unread ++ [message])) :=
    (List.Sublist.refl seen).append (List.drop_sublist _ _)
  rw [← List.append_assoc] at shorter
  exact shorter.trans (lies.append (List.Sublist.refl _))

/-- A subscriber with room drops nothing. -/
theorem deliver_room {fwd : Forwarder} {capacity : ℕ} (message : BusEvent)
    (room : fwd.unread.length < capacity) :
    (fwd.deliver capacity message).unread = fwd.unread ++ [message] := by
  have none : (fwd.unread ++ [message]).length - capacity = 0 := by
    rw [List.length_append, List.length_singleton]
    omega
  unfold Forwarder.deliver
  rw [none]
  rfl

section Runs

variable {capacity k : ℕ} {actions : List WsAction} {state : WsState}

theorem forwarding_run (ran : Labelled.run (WsState.step capacity) .start actions = some state)
    (few : state.forwarders.length < 2 ^ 64) : Forwarding List.Sublist k state actions := by
  refine Labelled.run_traced
    (R := fun state before => state.forwarders.length < 2 ^ 64 → Forwarding List.Sublist k state before)
    ?_ (fun _ => forwarding_start _ k) ran few
  intro state before action next forwarding stepped few
  have here := forwarding (Nat.lt_of_le_of_lt (WsState.step_forwarders stepped) few)
  exact here.step (List.Sublist.refl _)
    (fun message _ _ _ _ _ lies => sublist_deliver capacity message lies) few stepped

/-- A forwarder that keeps up is fed all that is published. -/
theorem Forwarding.keepsUp {before : List WsAction} {next : WsState}
    (forwarding : Forwarding (· = ·) k state before)
    (ran : Labelled.run (WsState.step capacity) state actions = some next)
    (keeps : Labelled.Meets (WsState.step capacity) (KeepsUp capacity k) state actions)
    (few : next.forwarders.length < 2 ^ 64) : Forwarding (· = ·) k next (before ++ actions) := by
  refine keeps.traced
    (R := fun state before => state.forwarders.length < 2 ^ 64 → Forwarding (· = ·) k state before)
    ?_ before (fun _ => forwarding) ran few
  intro state before action next forwarding room stepped few
  have here := forwarding (Nat.lt_of_le_of_lt (WsState.step_forwarders stepped) few)
  refine here.step rfl ?_ few stepped
  intro message published fwd found seen earlier same
  cases action with
  | publish other =>
    obtain rfl : other = message := Option.some.inj published
    rw [deliver_room other (room fwd found), ← List.append_assoc, same]
  | _ => cases published

/-- What a subscriber was sent was published since its subscription was made. -/
theorem Forwarding.events_sublist {before : List WsAction}
    (forwarding : Forwarding List.Sublist k state before) {fwd : Forwarder}
    (found : state.forwarders[k]? = some fwd) :
    (state.events fwd.subId).Sublist (fwd.forwards (publishedSince k before)) := by
  obtain ⟨seen, lies, begins, _⟩ := forwarding.fed fwd found
  have received : seen.Sublist (publishedSince k before) := (List.sublist_append_left seen _).trans lies
  exact begins.sublist.trans ((received.filter _).map _)

/-- What was published since is sent, in hand, or not yet received. -/
theorem Forwarding.events_complete {before : List WsAction} (forwarding : Forwarding (· = ·) k state before)
    {fwd : Forwarder} (found : state.forwarders[k]? = some fwd) (writing : state.writing = true) :
    state.events fwd.subId ++ fwd.held.toList ++ fwd.forwards fwd.unread =
      fwd.forwards (publishedSince k before) := by
  obtain ⟨seen, whole, _, all⟩ := forwarding.fed fwd found
  rw [all writing, ← whole, fwd.forwards_append]

/-- **The events of a subscription, in every order of steps**, are matching messages published since it was
made, in the order in which they were published and none twice. As long as it keeps up and the writer
writes, none is missing: those not on its queue are the one in hand and those not yet received. -/
theorem events_run (ran : Labelled.run (WsState.step capacity) .start actions = some state)
    (few : state.forwarders.length < 2 ^ 64) {fwd : Forwarder} (found : state.forwarders[k]? = some fwd) :
    (state.events fwd.subId).Sublist (fwd.forwards (publishedSince k actions)) ∧
      (Labelled.Meets (WsState.step capacity) (KeepsUp capacity k) .start actions → state.writing = true →
        state.events fwd.subId ++ fwd.held.toList ++ fwd.forwards fwd.unread =
          fwd.forwards (publishedSince k actions)) := by
  constructor
  · exact (forwarding_run ran few).events_sublist found
  · intro keeps writing
    exact ((forwarding_start _ k).keepsUp ran keeps few).events_complete found writing

end Runs

/-- The event between the three frames reaches the queue. -/
theorem events_run_threeFrames :
    ∃ state fwd, Labelled.run (WsState.step 1024) .start threeFrames = some state ∧
      state.forwarders[0]? = some fwd ∧
      (state.events fwd.subId).Sublist (fwd.forwards (publishedSince 0 threeFrames)) ∧
        (Labelled.Meets (WsState.step 1024) (KeepsUp 1024 0) .start threeFrames → state.writing = true →
          state.events fwd.subId ++ fwd.held.toList ++ fwd.forwards fwd.unread =
            fwd.forwards (publishedSince 0 threeFrames)) := by
  have length : (Labelled.run (WsState.step 1024) .start threeFrames).map
      (fun state => state.forwarders.length) = some 1 := by decide +kernel
  obtain ⟨state, ran, one⟩ := Option.map_eq_some_iff.mp length
  obtain ⟨fwd, found⟩ : ∃ fwd, state.forwarders[0]? = some fwd := ⟨_, List.getElem?_eq_getElem (by omega)⟩
  exact ⟨state, fwd, ran, found, events_run ran (by omega) found⟩

end Invoicing
