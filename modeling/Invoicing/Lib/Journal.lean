/-
**Journals that replay.**

A journal is a list of records, oldest first. `record` is what a record does to the state it is written
in, and `allows` says which records may be written there.

* `Chained` — every record is allowed in the state the records before it lead to.
  **`forall_take_iff`** — an invariant that a record keeps exactly when it is allowed holds at every
  moment of exactly the chained journals.
* `Replays` — the journal is chained and leads to a given state. **`Replays.append`** — it still does
  after an allowed record; **`Replays.last`** — and before its last one.
-/

import Mathlib.Data.List.Basic

namespace Journal

variable {σ ρ : Type} (record : σ → ρ → σ) (allows : σ → ρ → Prop)

/-- Every record is allowed where the records before it lead. -/
def Chained : σ → List ρ → Prop
  | _, [] => True
  | state, first :: rest => allows state first ∧ Chained (record state first) rest

theorem chained_append {state : σ} {first second : List ρ} :
    Chained record allows state (first ++ second) ↔
      Chained record allows state first ∧
        Chained record allows (first.foldl record state) second := by
  induction first generalizing state with
  | nil => simp [Chained]
  | cons r rest ih => simp only [List.cons_append, Chained, List.foldl_cons, ih, and_assoc]

/-- **An invariant that a record keeps exactly when it is allowed** holds after every beginning of a
journal exactly when the journal is chained. -/
theorem forall_take_iff {I : σ → Prop}
    (kept : ∀ state r, I state → (I (record state r) ↔ allows state r)) {start : σ} (holds : I start)
    (journal : List ρ) :
    (∀ n, I ((journal.take n).foldl record start)) ↔ Chained record allows start journal := by
  induction journal generalizing start with
  | nil => simpa [Chained] using holds
  | cons r rest ih =>
    constructor
    · intro all
      have first : I (record start r) := all 1
      exact ⟨(kept start r holds).mp first, (ih first).mp fun n => all (n + 1)⟩
    · rintro ⟨allowed, chained⟩ n
      cases n with
      | zero => exact holds
      | succ n => exact (ih ((kept start r holds).mpr allowed)).mpr chained n

/-- The journal leads from the first state to the given one, each record allowed. -/
structure Replays (start : σ) (journal : List ρ) (current : σ) : Prop where
  chained : Chained record allows start journal
  leads : journal.foldl record start = current

variable {record allows} {start current : σ} {journal : List ρ}

/-- **An allowed record replays.** -/
theorem Replays.append (replays : Replays record allows start journal current) {r : ρ}
    (allowed : allows current r) :
    Replays record allows start (journal ++ [r]) (record current r) where
  chained := by
    rw [chained_append, replays.leads]
    exact ⟨replays.chained, allowed, trivial⟩
  leads := by rw [List.foldl_append, replays.leads]; rfl

/-- **Before its last record a journal replays as well**, and allows it. -/
theorem Replays.last {before : List ρ} {r : ρ}
    (replays : Replays record allows start (before ++ [r]) current) :
    ∃ state, Replays record allows start before state ∧ allows state r ∧ current = record state r := by
  obtain ⟨chained, leads⟩ := replays
  obtain ⟨first, allowed, _⟩ := (chained_append record allows).mp chained
  refine ⟨_, ⟨first, rfl⟩, allowed, ?_⟩
  rw [← leads, List.foldl_append]
  rfl

end Journal
