/-
**Concurrent runs over one store, interleaved step by step.**

* `Pool` — a store and the local states of any number of runs. `advance` is one atomic step of one
  run; `Pool.step` lets run `i` take it and `Pool.exec` follows a whole order of turns. A run that
  is never scheduled again has crashed.
* `AllTurns guard` — every turn taken meets `guard`, a condition on the store and on the local state
  of the run whose turn it is. `Always P` — `P` holds of every pool the order passes through.
* `Rules` — the proof obligations of an invariant made of a part about the store, a part about each
  run, and a part about each two runs; **`Rules.holds_exec`** — it then holds after every guarded
  order. **`Rules.relates`** — and a reflexive, transitive relation that every step keeps relates
  the stores of any two moments.
* **`Rules.written_once`** — a store that is written only while it is free, and taken by that, is
  written by one step of one run, or not at all.
* **`always_iff_allTurns`**, **`relates_iff_allTurns`** — when a turn keeps `P`, or the relation,
  exactly if it meets the guard, it holds throughout exactly if every turn meets the guard.
-/

import Mathlib.Data.List.Basic
import Mathlib.Order.Defs.Unbundled

namespace Interleave

/-- A store and the local states of its runs. -/
structure Pool (σ L : Type) where
  store : σ
  runs : List L

variable {σ L : Type} (advance : L → σ → L × σ)

namespace Pool

/-- Run `i` takes one step. -/
def step (pool : Pool σ L) (i : ℕ) : Pool σ L :=
  match pool.runs[i]? with
  | none => pool
  | some run => ⟨(advance run pool.store).2, pool.runs.set i (advance run pool.store).1⟩

/-- The runs take steps in the given order. -/
def exec (pool : Pool σ L) : List ℕ → Pool σ L
  | [] => pool
  | i :: order => exec (pool.step advance i) order

end Pool

/-- Every turn of the order meets the guard. -/
def AllTurns (guard : σ → L → Prop) (pool : Pool σ L) : List ℕ → Prop
  | [] => True
  | i :: order =>
      (∀ run, pool.runs[i]? = some run → guard pool.store run) ∧
        AllTurns guard (pool.step advance i) order

instance AllTurns.decidable (guard : σ → L → Prop) [∀ s run, Decidable (guard s run)] :
    (pool : Pool σ L) → (order : List ℕ) → Decidable (AllTurns advance guard pool order)
  | _, [] => inferInstanceAs (Decidable True)
  | pool, i :: order =>
      @instDecidableAnd _ _
        (inferInstanceAs (Decidable (∀ run ∈ pool.runs[i]?, guard pool.store run)))
        (AllTurns.decidable guard (pool.step advance i) order)

/-- `P` holds of every pool the order passes through. -/
def Always (P : Pool σ L → Prop) (pool : Pool σ L) : List ℕ → Prop
  | [] => P pool
  | i :: order => P pool ∧ Always P (pool.step advance i) order

variable {advance}

/-! ### Orders of turns -/

theorem step_of_none {pool : Pool σ L} {i : ℕ} (absent : pool.runs[i]? = none) :
    pool.step advance i = pool := by
  unfold Pool.step
  rw [absent]

theorem step_of_some {pool : Pool σ L} {i : ℕ} {run : L} (found : pool.runs[i]? = some run) :
    pool.step advance i =
      ⟨(advance run pool.store).2, pool.runs.set i (advance run pool.store).1⟩ := by
  unfold Pool.step
  rw [found]

/-- The runs after a turn: the one whose turn it was has advanced, the others are as before. -/
theorem run_after_step {pool : Pool σ L} {i j : ℕ} {run after : L}
    (found : pool.runs[i]? = some run) (there : (pool.step advance i).runs[j]? = some after) :
    (j = i ∧ after = (advance run pool.store).1) ∨ (j ≠ i ∧ pool.runs[j]? = some after) := by
  rw [step_of_some found] at there
  rw [List.getElem?_set] at there
  split at there
  · rename_i same
    split at there
    · exact Or.inl ⟨same.symm, (Option.some.inj there).symm⟩
    · cases there
  · rename_i other
    exact Or.inr ⟨Ne.symm other, there⟩

theorem exec_append (pool : Pool σ L) (first second : List ℕ) :
    pool.exec advance (first ++ second) = (pool.exec advance first).exec advance second := by
  induction first generalizing pool with
  | nil => rfl
  | cons i order ih => exact ih _

theorem allTurns_append {guard : σ → L → Prop} {pool : Pool σ L} {first second : List ℕ} :
    AllTurns advance guard pool (first ++ second) ↔
      AllTurns advance guard pool first ∧
        AllTurns advance guard (pool.exec advance first) second := by
  induction first generalizing pool with
  | nil => simp [AllTurns, Pool.exec]
  | cons i order ih =>
    simp only [List.cons_append, AllTurns, Pool.exec, ih, and_assoc]

theorem AllTurns.take {guard : σ → L → Prop} {pool : Pool σ L} {order : List ℕ}
    (turns : AllTurns advance guard pool order) (n : ℕ) :
    AllTurns advance guard pool (order.take n) := by
  rw [← List.take_append_drop n order] at turns
  exact (allTurns_append.mp turns).1

theorem AllTurns.mono {guard guard' : σ → L → Prop} (weaker : ∀ s run, guard s run → guard' s run)
    {pool : Pool σ L} {order : List ℕ} (turns : AllTurns advance guard pool order) :
    AllTurns advance guard' pool order := by
  induction order generalizing pool with
  | nil => trivial
  | cons i order ih => exact ⟨fun run found => weaker _ _ (turns.1 run found), ih turns.2⟩

theorem allTurns_true (pool : Pool σ L) (order : List ℕ) :
    AllTurns advance (fun _ _ => True) pool order := by
  induction order generalizing pool with
  | nil => trivial
  | cons i order ih => exact ⟨fun _ _ => trivial, ih _⟩

/-- A condition on the store that holds at every moment holds at every turn. -/
theorem AllTurns.and_moments {guard : σ → L → Prop} {P : σ → Prop} {pool : Pool σ L}
    {order : List ℕ} (turns : AllTurns advance guard pool order)
    (moments : ∀ n, P (pool.exec advance (order.take n)).store) :
    AllTurns advance (fun s run => guard s run ∧ P s) pool order := by
  induction order generalizing pool with
  | nil => trivial
  | cons i order ih =>
    refine ⟨fun run found => ⟨turns.1 run found, moments 0⟩, ih turns.2 fun n => ?_⟩
    exact moments (n + 1)

/-- `Always`, read at each moment. -/
theorem always_iff_take {P : Pool σ L → Prop} {pool : Pool σ L} {order : List ℕ} :
    Always advance P pool order ↔ ∀ n, P (pool.exec advance (order.take n)) := by
  induction order generalizing pool with
  | nil => simp [Always, Pool.exec]
  | cons i order ih =>
    rw [Always, ih]
    constructor
    · rintro ⟨now, later⟩ n
      cases n with
      | zero => exact now
      | succ n => exact later n
    · intro all
      exact ⟨all 0, fun n => all (n + 1)⟩

/-! ### Runs alone -/

variable (advance) in
/-- A run that takes some turns alone gets from one of these to the other. -/
def Alone (before after : L × σ) : Prop :=
  ∃ turns, Pool.exec advance ⟨before.2, [before.1]⟩ (List.replicate turns 0) = ⟨after.2, [after.1]⟩

theorem Alone.refl (here : L × σ) : Alone advance here here := ⟨0, rfl⟩

theorem Alone.step {run : L} {s : σ} {after : L × σ}
    (rest : Alone advance (advance run s) after) : Alone advance (run, s) after := by
  obtain ⟨turns, ends⟩ := rest
  exact ⟨turns + 1, ends⟩

/-! ### Invariants -/

section Invariants

variable (advance) (guard : σ → L → Prop) (Store : σ → Prop) (Local : σ → L → Prop)
  (Apart : L → L → Prop)

/-- The invariant of a pool: of its store, of each run, and of each two runs. -/
structure Holds (pool : Pool σ L) : Prop where
  store : Store pool.store
  runs : ∀ (i : ℕ) run, pool.runs[i]? = some run → Local pool.store run
  apart : ∀ (i j : ℕ) run other, i ≠ j → pool.runs[i]? = some run → pool.runs[j]? = some other →
    Apart run other

/-- What a guarded step owes: the store part, its own part, and the parts of the other runs. -/
structure Rules : Prop where
  store : ∀ s run, Store s → Local s run → guard s run → Store (advance run s).2
  own : ∀ s run, Store s → Local s run → guard s run →
    Local (advance run s).2 (advance run s).1
  others : ∀ s run other, Store s → Local s run → Local s other → Apart run other →
    guard s run → Local (advance run s).2 other
  apart : ∀ s run other, Store s → Local s run → Local s other → Apart run other →
    guard s run → Apart (advance run s).1 other
  symm : ∀ run other, Apart run other → Apart other run

variable {advance guard Store Local Apart}

/-- One guarded turn keeps the invariant. -/
theorem Rules.holds_step (rules : Rules advance guard Store Local Apart) {pool : Pool σ L}
    (holds : Holds Store Local Apart pool) {i : ℕ}
    (turn : ∀ run, pool.runs[i]? = some run → guard pool.store run) :
    Holds Store Local Apart (pool.step advance i) := by
  cases found : pool.runs[i]? with
  | none => rw [step_of_none found]; exact holds
  | some run =>
    have mine := holds.runs i run found
    have allowed := turn run found
    have after : (pool.step advance i).store = (advance run pool.store).2 := by
      rw [step_of_some found]
    refine ⟨?_, ?_, ?_⟩
    · rw [after]
      exact rules.store _ _ holds.store mine allowed
    · intro j other there
      rw [after]
      rcases run_after_step found there with ⟨_, rfl⟩ | ⟨different, there⟩
      · exact rules.own _ _ holds.store mine allowed
      · exact rules.others _ _ _ holds.store mine (holds.runs j other there)
          (holds.apart i j run other (Ne.symm different) found there) allowed
    · intro j k first second different thereFirst thereSecond
      rcases run_after_step found thereFirst with ⟨rfl, rfl⟩ | ⟨notFirst, wasFirst⟩
      · rcases run_after_step found thereSecond with ⟨same, _⟩ | ⟨_, wasSecond⟩
        · exact absurd same.symm different
        · exact rules.apart _ _ _ holds.store mine (holds.runs k second wasSecond)
            (holds.apart _ k run second different found wasSecond) allowed
      · rcases run_after_step found thereSecond with ⟨rfl, rfl⟩ | ⟨_, wasSecond⟩
        · exact rules.symm _ _ (rules.apart _ _ _ holds.store mine (holds.runs j first wasFirst)
            (holds.apart _ j run first (Ne.symm notFirst) found wasFirst) allowed)
        · exact holds.apart j k first second different wasFirst wasSecond

/-- **The invariant holds after every guarded order.** -/
theorem Rules.holds_exec (rules : Rules advance guard Store Local Apart) {pool : Pool σ L}
    (holds : Holds Store Local Apart pool) {order : List ℕ}
    (turns : AllTurns advance guard pool order) :
    Holds Store Local Apart (pool.exec advance order) := by
  induction order generalizing pool with
  | nil => exact holds
  | cons i order ih => exact ih (rules.holds_step holds turns.1) turns.2

/-- **Whatever every step keeps relates any two moments of a guarded order.** -/
theorem Rules.relates (rules : Rules advance guard Store Local Apart) {R : σ → σ → Prop}
    (refl : ∀ s, R s s) (trans : ∀ a b c, R a b → R b c → R a c)
    (keeps : ∀ s run, Store s → Local s run → guard s run → R s (advance run s).2)
    {pool : Pool σ L} (holds : Holds Store Local Apart pool) {order : List ℕ}
    (turns : AllTurns advance guard pool order) :
    R pool.store (pool.exec advance order).store := by
  induction order generalizing pool with
  | nil => exact refl _
  | cons i order ih =>
    have rest := ih (rules.holds_step holds turns.1) turns.2
    refine trans _ _ _ ?_ rest
    cases found : pool.runs[i]? with
    | none => rw [step_of_none found]; exact refl _
    | some run =>
      rw [step_of_some found]
      exact keeps _ _ holds.store (holds.runs i run found) (turns.1 run found)

/-- The relation between two moments of one order. -/
theorem Rules.relates_take (rules : Rules advance guard Store Local Apart) {R : σ → σ → Prop}
    (refl : ∀ s, R s s) (trans : ∀ a b c, R a b → R b c → R a c)
    (keeps : ∀ s run, Store s → Local s run → guard s run → R s (advance run s).2)
    {pool : Pool σ L} (holds : Holds Store Local Apart pool) {order : List ℕ}
    (turns : AllTurns advance guard pool order) {m n : ℕ} (later : m ≤ n) :
    R (pool.exec advance (order.take m)).store (pool.exec advance (order.take n)).store := by
  have split : order.take n = order.take m ++ (order.take n).drop m := by
    conv_lhs => rw [← List.take_append_drop m (order.take n)]
    rw [List.take_take, Nat.min_eq_left later]
  have both := turns.take n
  rw [split, allTurns_append] at both
  rw [split, exec_append]
  exact rules.relates refl trans keeps (rules.holds_exec holds both.1) both.2

/-- **Any two moments are related exactly when every turn meets the guard**, if under an invariant
that needs no guard a step keeps the relation exactly when it meets the guard. -/
theorem relates_iff_allTurns {R : σ → σ → Prop}
    (rules : Rules advance (fun _ _ => True) Store Local Apart)
    (refl : ∀ s, R s s) (trans : ∀ a b c, R a b → R b c → R a c)
    (turn : ∀ s run, Store s → Local s run → (R s (advance run s).2 ↔ guard s run))
    {pool : Pool σ L} (holds : Holds Store Local Apart pool) (order : List ℕ) :
    (∀ m n, m ≤ n →
        R (pool.exec advance (order.take m)).store (pool.exec advance (order.take n)).store) ↔
      AllTurns advance guard pool order := by
  induction order generalizing pool with
  | nil => simp [AllTurns, Pool.exec, refl]
  | cons i order ih =>
    have holds' := rules.holds_step holds (i := i) (fun _ _ => trivial)
    have headIff : R pool.store (pool.step advance i).store ↔
        ∀ run, pool.runs[i]? = some run → guard pool.store run := by
      cases found : pool.runs[i]? with
      | none => rw [step_of_none found]; simp [refl]
      | some run =>
        rw [step_of_some found]
        simp [turn _ _ holds.store (holds.runs i run found)]
    rw [AllTurns, ← headIff, ← ih holds']
    constructor
    · intro all
      exact ⟨all 0 1 (by omega), fun m n later => all (m + 1) (n + 1) (by omega)⟩
    · rintro ⟨head, rest⟩ m n later
      cases n with
      | zero =>
        obtain rfl : m = 0 := by omega
        exact refl _
      | succ n =>
        cases m with
        | zero => exact trans _ _ _ head (rest 0 n (by omega))
        | succ m => exact rest m n (by omega)

/-- **`P` holds throughout exactly when every turn meets the guard**, if under an invariant that
needs no guard a turn keeps `P` exactly when it meets the guard. -/
theorem always_iff_allTurns {P : σ → Prop}
    (rules : Rules advance (fun _ _ => True) Store Local Apart)
    (turn : ∀ s run, Store s → Local s run → P s → (P (advance run s).2 ↔ guard s run))
    {pool : Pool σ L} (holds : Holds Store Local Apart pool) (start : P pool.store)
    (order : List ℕ) :
    Always advance (fun pool => P pool.store) pool order ↔ AllTurns advance guard pool order := by
  induction order generalizing pool with
  | nil => simp [Always, AllTurns, start]
  | cons i order ih =>
    have holds' := rules.holds_step holds (i := i) (fun _ _ => trivial)
    have headIff : P (pool.step advance i).store ↔
        ∀ run, pool.runs[i]? = some run → guard pool.store run := by
      cases found : pool.runs[i]? with
      | none => rw [step_of_none found]; simp [start]
      | some run =>
        rw [step_of_some found]
        simp [turn _ _ holds.store (holds.runs i run found) start]
    have first : Always advance (fun pool => P pool.store) (pool.step advance i) order →
        P (pool.step advance i).store := by
      cases order with
      | nil => exact id
      | cons j order => exact And.left
    rw [Always, AllTurns]
    constructor
    · rintro ⟨_, rest⟩
      have next := first rest
      exact ⟨headIff.mp next, (ih holds' next).mp rest⟩
    · rintro ⟨head, rest⟩
      have next := headIff.mpr head
      exact ⟨start, (ih holds' next).mpr rest⟩

/-! ### Writing once -/

/-- Once the store is taken no order changes it. -/
theorem Rules.taken_stays (rules : Rules advance (fun _ _ => True) Store Local Apart)
    {Taken : σ → Prop}
    (turn : ∀ s run, Store s → Local s run →
      (advance run s).2 = s ∨ ¬ Taken s ∧ Taken (advance run s).2)
    {pool : Pool σ L} (holds : Holds Store Local Apart pool) (taken : Taken pool.store)
    (order : List ℕ) : (pool.exec advance order).store = pool.store := by
  induction order generalizing pool with
  | nil => rfl
  | cons i order ih =>
    have holds' := rules.holds_step holds (i := i) (fun _ _ => trivial)
    have same : (pool.step advance i).store = pool.store := by
      cases found : pool.runs[i]? with
      | none => rw [step_of_none found]
      | some run =>
        rw [step_of_some found]
        rcases turn _ _ holds.store (holds.runs i run found) with same | ⟨free, _⟩
        · exact same
        · exact absurd taken free
    exact (ih holds' (same ▸ taken)).trans same

/-- **A store that is written only while it is free, and taken by that, is written by one step of
one run**, or not at all. -/
theorem Rules.written_once (rules : Rules advance (fun _ _ => True) Store Local Apart)
    {Taken : σ → Prop}
    (turn : ∀ s run, Store s → Local s run →
      (advance run s).2 = s ∨ ¬ Taken s ∧ Taken (advance run s).2)
    {pool : Pool σ L} (holds : Holds Store Local Apart pool) (order : List ℕ) :
    (pool.exec advance order).store = pool.store ∨
      ∃ run, Local pool.store run ∧ ¬ Taken pool.store ∧ Taken (advance run pool.store).2 ∧
        (pool.exec advance order).store = (advance run pool.store).2 := by
  induction order generalizing pool with
  | nil => exact Or.inl rfl
  | cons i order ih =>
    have holds' := rules.holds_step holds (i := i) (fun _ _ => trivial)
    cases found : pool.runs[i]? with
    | none =>
      have same : pool.step advance i = pool := step_of_none found
      rw [same] at holds'
      rw [Pool.exec, same]
      exact ih holds'
    | some run =>
      have mine := holds.runs i run found
      have after : (pool.step advance i).store = (advance run pool.store).2 := by
        rw [step_of_some found]
      rcases turn _ _ holds.store mine with same | ⟨free, taken⟩
      · have later := ih holds'
        rw [after, same] at later
        exact later
      · refine Or.inr ⟨run, mine, free, taken, ?_⟩
        rw [← after] at taken ⊢
        exact rules.taken_stays turn holds' taken order

end Invariants

end Interleave
