/-
**Steps with labels.**

* `run` — the state after a list of steps, when each of them can be taken.
* `journal` — the labels of another machine that match a list of steps.
* `Meets` — every step of the list meets a guard, a condition on the state before it and on its label.
* **`Meets.keeps`** — what every guarded step keeps, a guarded list of steps keeps.
* **`Meets.traced`** — what every guarded step keeps of a state and the list of steps that led to it.
* **`Meets.refines`** — steps that are each matched by a run of another machine are, in a row, one run of it.
* `Meets.journal` — the journal of guarded steps meets the guard that the labels of each step meet.
* **`meets_iff`** — where the guard says exactly which steps keep an invariant, the guarded lists are
  exactly those all of whose states keep it.
-/

import Mathlib.Data.List.Basic

namespace Labelled

variable {σ α : Type} (step : σ → α → Option σ)

/-- The state after the steps; `none` when one of them cannot be taken. -/
def run (s : σ) : List α → Option σ
  | [] => some s
  | a :: rest => (step s a).bind fun next => run next rest

/-- The labels that match the steps, each in the state its step is taken in. -/
def journal {β : Type} (labels : σ → α → List β) (s : σ) : List α → List β
  | [] => []
  | a :: rest => labels s a ++ (step s a).elim [] fun next => journal labels next rest

/-- Every step meets the guard. -/
def Meets (guard : σ → α → Prop) (s : σ) : List α → Prop
  | [] => True
  | a :: rest => guard s a ∧ ∀ next ∈ step s a, Meets guard next rest

instance Meets.decidable (guard : σ → α → Prop) [∀ s a, Decidable (guard s a)] :
    (s : σ) → (actions : List α) → Decidable (Meets step guard s actions)
  | _, [] => inferInstanceAs (Decidable True)
  | s, a :: rest =>
      haveI : ∀ next, Decidable (Meets step guard next rest) := fun next => Meets.decidable guard next rest
      inferInstanceAs (Decidable (guard s a ∧ ∀ next ∈ step s a, Meets step guard next rest))

variable {step}

theorem run_singleton (s : σ) (a : α) : run step s [a] = step s a := Option.bind_fun_some (step s a)

/-- Steps one after the other. -/
theorem run_append {s after : σ} {first second : List α} (ran : run step s first = some after) :
    run step s (first ++ second) = run step after second := by
  induction first generalizing s with
  | nil =>
    obtain rfl : s = after := Option.some.inj ran
    rfl
  | cons a rest ih =>
    obtain ⟨next, stepped, ran⟩ := Option.bind_eq_some_iff.mp ran
    rw [List.cons_append, run, stepped]
    exact ih ran

theorem run_cons {s after : σ} {a : α} {rest : List α} (ran : run step s (a :: rest) = some after) :
    ∃ next, step s a = some next ∧ run step next rest = some after :=
  Option.bind_eq_some_iff.mp ran

theorem journal_append {β : Type} {labels : σ → α → List β} {s after : σ} {first second : List α}
    (ran : run step s first = some after) :
    journal step labels s (first ++ second) =
      journal step labels s first ++ journal step labels after second := by
  induction first generalizing s with
  | nil =>
    obtain rfl : s = after := Option.some.inj ran
    rfl
  | cons a rest ih =>
    obtain ⟨next, stepped, ran⟩ := run_cons ran
    rw [List.cons_append, journal, journal, stepped, List.append_assoc]
    exact congrArg (labels s a ++ ·) (ih ran)

/-- The labels of each step are in the journal. -/
theorem meets_journal {β : Type} (labels : σ → α → List β) (s : σ) (actions : List α) {whole : List β}
    (within : journal step labels s actions ⊆ whole) :
    Meets step (fun s a => labels s a ⊆ whole) s actions := by
  induction actions generalizing s with
  | nil => trivial
  | cons a rest ih =>
    refine ⟨fun b there => within (List.mem_append_left _ there), fun next stepped => ?_⟩
    refine ih next fun b there => ?_
    refine within (List.mem_append_right _ ?_)
    rw [Option.mem_def.mp stepped]
    exact there

/-- Steps that meet two guards. -/
theorem Meets.and {guard guard' : σ → α → Prop} {s : σ} {actions : List α} (one : Meets step guard s actions)
    (two : Meets step guard' s actions) : Meets step (fun s a => guard s a ∧ guard' s a) s actions := by
  induction actions generalizing s with
  | nil => trivial
  | cons a rest ih => exact ⟨⟨one.1, two.1⟩, fun next stepped => ih (one.2 next stepped) (two.2 next stepped)⟩

/-- A guard on the labels alone. -/
theorem Meets.of_forall {guard : α → Prop} {actions : List α} (all : ∀ a ∈ actions, guard a) (s : σ) :
    Meets step (fun _ a => guard a) s actions := by
  induction actions generalizing s with
  | nil => trivial
  | cons a rest ih =>
    obtain ⟨here, later⟩ := List.forall_mem_cons.mp all
    exact ⟨here, fun next _ => ih later next⟩

/-- Guarded steps one after the other. -/
theorem Meets.append {guard : σ → α → Prop} {s : σ} {first second : List α} (meets : Meets step guard s first)
    (later : ∀ after, run step s first = some after → Meets step guard after second) :
    Meets step guard s (first ++ second) := by
  induction first generalizing s with
  | nil => exact later s rfl
  | cons a rest ih =>
    refine ⟨meets.1, fun next stepped => ih (meets.2 next stepped) fun after ran => later after ?_⟩
    rw [run, Option.mem_def.mp stepped]
    exact ran

/-- **What every guarded step keeps holds after every guarded list of steps.** -/
theorem Meets.keeps {guard : σ → α → Prop} {I : σ → Prop}
    (kept : ∀ s a next, I s → guard s a → step s a = some next → I next) {s after : σ} {actions : List α}
    (meets : Meets step guard s actions) (start : I s) (ran : run step s actions = some after) :
    I after := by
  induction actions generalizing s with
  | nil =>
    obtain rfl : s = after := Option.some.inj ran
    exact start
  | cons a rest ih =>
    obtain ⟨next, stepped, ran⟩ := run_cons ran
    exact ih (meets.2 next stepped) (kept s a next start meets.1 stepped) ran

/-- No guard. -/
theorem meets_true (s : σ) (actions : List α) : Meets step (fun _ _ => True) s actions := by
  induction actions generalizing s with
  | nil => trivial
  | cons a rest ih => exact ⟨trivial, fun _ _ => ih _⟩

/-- What every step keeps holds after every list of steps. -/
theorem run_keeps {I : σ → Prop} (kept : ∀ s a next, I s → step s a = some next → I next) {s after : σ}
    {actions : List α} (start : I s) (ran : run step s actions = some after) : I after :=
  (meets_true s actions).keeps (fun s a next holds _ => kept s a next holds) start ran

/-- **What every guarded step keeps of a state and the steps that led to it.** -/
theorem Meets.traced {guard : σ → α → Prop} {R : σ → List α → Prop}
    (kept : ∀ s before a next, R s before → guard s a → step s a = some next → R next (before ++ [a]))
    {s after : σ} (before : List α) {actions : List α} (meets : Meets step guard s actions)
    (start : R s before) (ran : run step s actions = some after) : R after (before ++ actions) := by
  induction actions generalizing s before with
  | nil =>
    obtain rfl : s = after := Option.some.inj ran
    rw [List.append_nil]
    exact start
  | cons a rest ih =>
    obtain ⟨next, stepped, ran⟩ := run_cons ran
    have later := ih _ (meets.2 next stepped) (kept s before a next start meets.1 stepped) ran
    rwa [List.append_assoc] at later

/-- What every step keeps of a state and the steps that led to it. -/
theorem run_traced {R : σ → List α → Prop}
    (kept : ∀ s before a next, R s before → step s a = some next → R next (before ++ [a])) {s after : σ}
    {actions : List α} (start : R s []) (ran : run step s actions = some after) : R after actions :=
  (meets_true s actions).traced (fun s before a next related _ => kept s before a next related) [] start ran

/-- **Steps matched by runs of another machine are a run of it**, of their journal. -/
theorem Meets.refines {τ β : Type} {step' : τ → β → Option τ} {labels : σ → α → List β} {guard : σ → α → Prop}
    {R : σ → τ → Prop}
    (matched : ∀ s t a next, R s t → guard s a → step s a = some next →
      ∃ t', run step' t (labels s a) = some t' ∧ R next t') {s after : σ} {t : τ} {actions : List α}
    (meets : Meets step guard s actions) (related : R s t) (ran : run step s actions = some after) :
    ∃ t', run step' t (journal step labels s actions) = some t' ∧ R after t' := by
  induction actions generalizing s t with
  | nil =>
    obtain rfl : s = after := Option.some.inj ran
    exact ⟨t, rfl, related⟩
  | cons a rest ih =>
    obtain ⟨next, stepped, ran⟩ := run_cons ran
    obtain ⟨between, taken, related⟩ := matched s t a next related meets.1 stepped
    obtain ⟨last, ends, related⟩ := ih (meets.2 next stepped) related ran
    refine ⟨last, ?_, related⟩
    rw [journal, stepped, run_append taken]
    exact ends

/-- The journal of guarded steps meets another guard, when the labels of each of them do. -/
theorem Meets.journal {τ β : Type} {step' : τ → β → Option τ} {labels : σ → α → List β}
    {guard : σ → α → Prop} {guard' : τ → β → Prop} {R : σ → τ → Prop}
    (matched : ∀ s t a next, R s t → guard s a → step s a = some next → Meets step' guard' t (labels s a) ∧
      ∀ t', run step' t (labels s a) = some t' → R next t') {s after : σ} {t : τ} {actions : List α}
    (meets : Meets step guard s actions) (related : R s t) (ran : run step s actions = some after) :
    Meets step' guard' t (journal step labels s actions) := by
  induction actions generalizing s t with
  | nil => trivial
  | cons a rest ih =>
    obtain ⟨next, stepped, ran⟩ := run_cons ran
    obtain ⟨here, stays⟩ := matched s t a next related meets.1 stepped
    rw [Labelled.journal, stepped]
    exact here.append fun t' taken => ih (meets.2 next stepped) (stays t' taken) ran

/-- **Where a step keeps an invariant exactly when it meets the guard**, the invariant holds all along a
list of steps exactly when every step of it meets the guard. -/
theorem meets_iff {guard : σ → α → Prop} {I : σ → Prop}
    (taken : ∀ s a, I s → ∃ next, step s a = some next ∧ (I next ↔ guard s a)) {s : σ} (start : I s)
    (actions : List α) :
    Meets step guard s actions ↔ ∀ n after, run step s (actions.take n) = some after → I after := by
  induction actions generalizing s with
  | nil =>
    refine ⟨fun _ n after ran => ?_, fun _ => trivial⟩
    rw [List.take_nil] at ran
    obtain rfl : s = after := Option.some.inj ran
    exact start
  | cons a rest ih =>
    obtain ⟨next, stepped, kept⟩ := taken s a start
    constructor
    · rintro ⟨here, later⟩ n after ran
      cases n with
      | zero =>
        obtain rfl : s = after := Option.some.inj ran
        exact start
      | succ n =>
        rw [List.take_succ_cons] at ran
        obtain ⟨next', stepped', ran⟩ := run_cons ran
        obtain rfl : next = next' := Option.some.inj (stepped.symm.trans stepped')
        exact (ih (kept.mpr here)).mp (later next stepped) n after ran
    · intro all
      have holds : I next := by
        refine all 1 next ?_
        rw [List.take_succ_cons, run, stepped]
        rfl
      refine ⟨kept.mp holds, fun next' stepped' => ?_⟩
      obtain rfl : next = next' := Option.some.inj (stepped.symm.trans stepped')
      refine (ih holds).mpr fun n after ran => all (n + 1) after ?_
      rw [List.take_succ_cons, run, stepped]
      exact ran

end Labelled
