/-
**The two machines behind the facade.**

* `BareMachine` — the current state and the transition table, nothing else.
* `StatigState.callHandler`, `StatigSuperstate.callHandler` — what the statechart answers to an event;
  `FollowsResponse` — what its `handle` does with the answer, the one thing assumed of the library.
* `StatigAdapter` — an inner statechart that starts in `draft` and a shadow that callers see; the inner
  machine is driven while it agrees with the shadow.
* **`adapter_refines`** — from every seed and on every list of events the two answer alike and stay in the
  same state; a seed of `draft` keeps the inner machine at the shadow, any other never drives it.
-/

import Invoicing.Lib.Mealy
import Invoicing.State.Transitions

namespace Invoicing

/-! ### The bare machine -/

structure BareMachine where
  state : InvoiceState
  deriving DecidableEq

namespace BareMachine

def new (initial : InvoiceState) : BareMachine := ⟨initial⟩

def currentState (machine : BareMachine) : InvoiceState := machine.state

def dryRun (machine : BareMachine) (e : InvoiceEvent) : Except TransitionError InvoiceState :=
  nextState machine.state e

/-- The answer and the machine after it; a rejected event leaves the machine as it was. -/
def apply (machine : BareMachine) (e : InvoiceEvent) : Except TransitionError InvoiceState × BareMachine :=
  match nextState machine.state e with
  | .error error => (.error error, machine)
  | .ok next => (.ok next, ⟨next⟩)

end BareMachine

/-! ### The statechart -/

/-- The leaves of the statechart, one for each state of the table. -/
inductive StatigState
  | draft
  | issued
  | sent
  | viewed
  | partiallyPaid
  | paid
  | voided
  deriving DecidableEq

/-- The one superstate. -/
inductive StatigSuperstate
  | issued
  deriving DecidableEq

/-- What a handler answers to the library. -/
inductive Response (σ : Type)
  | handled
  | super
  | transition (next : σ)
  deriving DecidableEq

namespace StatigState

def toDomain : StatigState → InvoiceState
  | draft => .draft
  | issued => .issued
  | sent => .sent
  | viewed => .viewed
  | partiallyPaid => .partiallyPaid
  | paid => .paid
  | voided => .voided

def fromDomain : InvoiceState → StatigState
  | .draft => draft
  | .issued => issued
  | .sent => sent
  | .viewed => viewed
  | .partiallyPaid => partiallyPaid
  | .paid => paid
  | .voided => voided

@[simp] theorem toDomain_fromDomain (state : InvoiceState) : (fromDomain state).toDomain = state := by
  cases state <;> rfl

@[simp] theorem fromDomain_toDomain (state : StatigState) : fromDomain state.toDomain = state := by
  cases state <;> rfl

/-- The state every statechart starts in. -/
def initial : StatigState := draft

def callHandler (state : StatigState) (event : InvoiceEvent) : Response StatigState :=
  match nextState state.toDomain event with
  | .ok next => .transition (fromDomain next)
  | .error _ => .super

def superstate : StatigState → Option StatigSuperstate
  | issued | sent | viewed => some .issued
  | draft | partiallyPaid | paid | voided => none

end StatigState

namespace StatigSuperstate

def callHandler (_ : StatigSuperstate) (_ : InvoiceEvent) : Response StatigState := .handled

def superstate (_ : StatigSuperstate) : Option StatigSuperstate := none

end StatigSuperstate

/-- The library's `handle` follows the response: a leaf's transition is taken; what the leaf passes up goes
to its superstate, and what nobody takes is dropped. -/
structure FollowsResponse (handle : StatigState → InvoiceEvent → StatigState) : Prop where
  leaf : ∀ {state event next}, state.callHandler event = .transition next → handle state event = next
  handled : ∀ {state event}, state.callHandler event = .handled → handle state event = state
  above : ∀ {state event parent next}, state.callHandler event = .super → state.superstate = some parent →
    parent.callHandler event = .transition next → handle state event = next
  taken : ∀ {state event parent}, state.callHandler event = .super → state.superstate = some parent →
    parent.callHandler event = .handled → handle state event = state
  dropped : ∀ {state event}, state.callHandler event = .super → state.superstate = none →
    handle state event = state

/-- The dispatch as the library documents it, for this hierarchy of two levels. -/
def followResponse (state : StatigState) (event : InvoiceEvent) : StatigState :=
  match state.callHandler event with
  | .handled => state
  | .transition next => next
  | .super =>
      match state.superstate with
      | none => state
      | some parent =>
          match parent.callHandler event with
          | .transition next => next
          | _ => state

theorem followResponse_follows : FollowsResponse followResponse where
  leaf answered := by simp only [followResponse, answered]
  handled answered := by simp only [followResponse, answered]
  above answered parent next := by simp only [followResponse, answered, parent, next]
  taken answered parent next := by simp only [followResponse, answered, parent, next]
  dropped answered parent := by simp only [followResponse, answered, parent]

/-- A leaf follows the table. -/
theorem callHandler_ok {state : StatigState} {event : InvoiceEvent} {next : InvoiceState}
    (accepted : nextState state.toDomain event = .ok next) :
    state.callHandler event = .transition (.fromDomain next) := by
  unfold StatigState.callHandler
  rw [accepted]

/-! ### The adapter -/

structure StatigAdapter where
  inner : StatigState
  shadow : InvoiceState
  deriving DecidableEq

namespace StatigAdapter

def new (initial : InvoiceState) : StatigAdapter := ⟨StatigState.initial, initial⟩

def statigState (adapter : StatigAdapter) : StatigState := adapter.inner

def currentState (adapter : StatigAdapter) : InvoiceState := adapter.shadow

def dryRun (adapter : StatigAdapter) (e : InvoiceEvent) : Except TransitionError InvoiceState :=
  nextState adapter.shadow e

variable (handle : StatigState → InvoiceEvent → StatigState)

/-- The table decides; the inner machine is handed the event while it agrees with the shadow. -/
def apply (adapter : StatigAdapter) (e : InvoiceEvent) :
    Except TransitionError InvoiceState × StatigAdapter :=
  match nextState adapter.shadow e with
  | .error error => (.error error, adapter)
  | .ok next =>
      let inner := if adapter.inner.toDomain = adapter.shadow then handle adapter.inner e else adapter.inner
      (.ok next, ⟨inner, next⟩)

/-- The step hands the event to the inner machine. -/
def Drives (adapter : StatigAdapter) (e : InvoiceEvent) : Prop :=
  (∃ next, nextState adapter.shadow e = .ok next) ∧ adapter.inner.toDomain = adapter.shadow

variable {handle}

theorem apply_error {adapter : StatigAdapter} {e : InvoiceEvent} {error : TransitionError}
    (rejected : nextState adapter.shadow e = .error error) : adapter.apply handle e = (.error error, adapter) := by
  unfold apply
  rw [rejected]

theorem apply_driven {adapter : StatigAdapter} {e : InvoiceEvent} {next : InvoiceState}
    (accepted : nextState adapter.shadow e = .ok next) (agrees : adapter.inner.toDomain = adapter.shadow) :
    adapter.apply handle e = (.ok next, ⟨handle adapter.inner e, next⟩) := by
  unfold apply
  rw [accepted]
  show (Except.ok next, StatigAdapter.mk (if _ then _ else _) next) = _
  rw [if_pos agrees]

theorem apply_skipped {adapter : StatigAdapter} {e : InvoiceEvent} {next : InvoiceState}
    (accepted : nextState adapter.shadow e = .ok next) (differs : adapter.inner.toDomain ≠ adapter.shadow) :
    adapter.apply handle e = (.ok next, ⟨adapter.inner, next⟩) := by
  unfold apply
  rw [accepted]
  show (Except.ok next, StatigAdapter.mk (if _ then _ else _) next) = _
  rw [if_neg differs]

/-- A step that does not drive the inner machine does not depend on it. -/
theorem apply_of_not_drives {adapter : StatigAdapter} {e : InvoiceEvent} (alone : ¬ adapter.Drives e)
    (other : StatigState → InvoiceEvent → StatigState) : adapter.apply handle e = adapter.apply other e := by
  cases accepted : nextState adapter.shadow e with
  | error error => rw [apply_error accepted, apply_error accepted]
  | ok next =>
    have differs : adapter.inner.toDomain ≠ adapter.shadow := fun agrees => alone ⟨⟨next, accepted⟩, agrees⟩
    rw [apply_skipped accepted differs, apply_skipped accepted differs]

end StatigAdapter

/-! ### The simulation -/

/-- The machines are in the same state. -/
def SameState (adapter : StatigAdapter) (machine : BareMachine) : Prop := adapter.shadow = machine.state

/-- **One event: the adapter answers as the bare machine does.** -/
theorem adapter_simulates (handle : StatigState → InvoiceEvent → StatigState) :
    Mealy.Simulates SameState (StatigAdapter.apply handle) BareMachine.apply := by
  rintro ⟨inner, shadow⟩ ⟨state⟩ e (rfl : shadow = state)
  unfold StatigAdapter.apply BareMachine.apply
  cases nextState shadow e with
  | error error => exact ⟨rfl, rfl⟩
  | ok next => exact ⟨rfl, rfl⟩

/-- The inner machine is where the shadow is. -/
def Abreast (adapter : StatigAdapter) : Prop := adapter.inner.toDomain = adapter.shadow

theorem apply_abreast {handle : StatigState → InvoiceEvent → StatigState} (follows : FollowsResponse handle)
    (adapter : StatigAdapter) (e : InvoiceEvent) (abreast : Abreast adapter) :
    Abreast (adapter.apply handle e).2 := by
  cases accepted : nextState adapter.shadow e with
  | error error =>
    rw [StatigAdapter.apply_error accepted]
    exact abreast
  | ok next =>
    rw [StatigAdapter.apply_driven accepted abreast]
    have moved : handle adapter.inner e = .fromDomain next :=
      follows.leaf (callHandler_ok (by rw [abreast, accepted]))
    show (handle adapter.inner e).toDomain = next
    rw [moved, StatigState.toDomain_fromDomain]

/-- The inner machine waits in `draft` while the shadow is past it. -/
def LeftBehind (adapter : StatigAdapter) : Prop := adapter.inner = .draft ∧ adapter.shadow ≠ .draft

theorem LeftBehind.differs {adapter : StatigAdapter} (behind : LeftBehind adapter) :
    adapter.inner.toDomain ≠ adapter.shadow := by
  rw [behind.1]
  exact behind.2.symm

theorem LeftBehind.apply {handle : StatigState → InvoiceEvent → StatigState} (adapter : StatigAdapter)
    (e : InvoiceEvent) (behind : LeftBehind adapter) : LeftBehind (adapter.apply handle e).2 := by
  cases accepted : nextState adapter.shadow e with
  | error error =>
    rw [StatigAdapter.apply_error accepted]
    exact behind
  | ok next =>
    rw [StatigAdapter.apply_skipped accepted behind.differs]
    exact ⟨behind.1, nextState_ne_draft accepted⟩

/-- **The statig adapter refines the bare machine.** -/
theorem adapter_refines (handle : StatigState → InvoiceEvent → StatigState) (follows : FollowsResponse handle)
    (seed : InvoiceState) (events : List InvoiceEvent) :
    Mealy.outputs (StatigAdapter.apply handle) (.new seed) events =
        Mealy.outputs BareMachine.apply (.new seed) events ∧
      (Mealy.after (StatigAdapter.apply handle) (.new seed) events).currentState =
        (Mealy.after BareMachine.apply (.new seed) events).currentState ∧
      (seed = .draft → Abreast (Mealy.after (StatigAdapter.apply handle) (.new seed) events)) ∧
      (seed ≠ .draft →
        (Mealy.after (StatigAdapter.apply handle) (.new seed) events).statigState = .draft ∧
          ∀ e, ¬ (Mealy.after (StatigAdapter.apply handle) (.new seed) events).Drives e) := by
  have start : SameState (.new seed) (.new seed) := rfl
  refine ⟨(adapter_simulates handle).outputs_eq start events,
    (adapter_simulates handle).after_related start events, ?_, ?_⟩
  · rintro rfl
    have fresh : Abreast (.new .draft) := rfl
    exact Mealy.after_keeps (apply_abreast follows) fresh events
  · intro started
    have left : LeftBehind (.new seed) := ⟨rfl, started⟩
    have behind : LeftBehind (Mealy.after (StatigAdapter.apply handle) (.new seed) events) :=
      Mealy.after_keeps LeftBehind.apply left events
    exact ⟨behind.1, fun e drives => behind.differs drives.2⟩

/-- A fresh machine walked to `sent`, with a rejected event on the way; a seed of `sent` leaves it in
`draft`. -/
theorem adapter_refines_reminded :
    (∃ final, Mealy.after (StatigAdapter.apply followResponse) (.new .draft)
        [.issue, .view, .send, .remind] = final ∧ Abreast final ∧ final.currentState = .sent) ∧
      (Mealy.after (StatigAdapter.apply followResponse) (.new .sent) [.remind, .view]).statigState = .draft :=
  ⟨⟨_, rfl, (adapter_refines followResponse followResponse_follows .draft _).2.2.1 rfl, by decide⟩,
    ((adapter_refines followResponse followResponse_follows .sent _).2.2.2 (by decide)).1⟩

end Invoicing
