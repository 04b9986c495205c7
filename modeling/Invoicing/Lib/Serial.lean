/-
**Concurrent runs that are as good as one after another.**

A call is served by a run that reads, step by step, and whose last step writes. `whole` serves it at once.

* `finishing` — the calls whose runs finish in an order of turns, in the order in which they finish.
* `Optimistic` — the proof obligations: `Current call run s` says that what the run has read is what it
  would read in `s`, its own steps keep that, and so does the last step of a run of a call apart from it.
* **`Optimistic.serializable`** — after any order of turns the store, and the outcome of every run that
  finished, are those of serving the calls one after the other, as their runs finished.
* **`mem_finishing`**, **`finishing_nodup`** — these are exactly the calls whose runs finished, each once.
-/

import Invoicing.Lib.Interleave
import Invoicing.Lib.Mealy

namespace Interleave

variable {σ L κ ω : Type} (advance : L → σ → L × σ) (outcome : L → Option ω)

/-- The turn of run `i` finishes it. -/
def Finishes (pool : Pool σ L) (i : ℕ) : Prop :=
  ∃ run, pool.runs[i]? = some run ∧ outcome run = none ∧ (outcome (advance run pool.store).1).isSome = true

instance (pool : Pool σ L) (i : ℕ) : Decidable (Finishes advance outcome pool i) :=
  decidable_of_iff
    (∃ run ∈ pool.runs[i]?, (outcome run).isNone = true ∧ (outcome (advance run pool.store).1).isSome = true)
    ⟨fun ⟨run, found, open_, ends⟩ => ⟨run, found, Option.isNone_iff_eq_none.mp open_, ends⟩,
      fun ⟨run, found, open_, ends⟩ => ⟨run, found, Option.isNone_iff_eq_none.mpr open_, ends⟩⟩

/-- The runs that finish, in the order in which they do. -/
def finishing (pool : Pool σ L) : List ℕ → List ℕ
  | [] => []
  | i :: order =>
      if Finishes advance outcome pool i then i :: finishing (pool.step advance i) order
      else finishing (pool.step advance i) order

/-- What the runs of calls owe for being served as if one after the other. -/
structure Optimistic (whole : σ → κ → ω × σ) (Current : κ → L → σ → Prop) (Apart : κ → κ → Prop) : Prop where
  stays : ∀ run s, (outcome run).isSome = true → advance run s = (run, s)
  reads : ∀ call run s, Current call run s → outcome run = none → outcome (advance run s).1 = none →
    (advance run s).2 = s ∧ Current call (advance run s).1 s
  ends : ∀ call run s w, Current call run s → outcome run = none → outcome (advance run s).1 = some w →
    whole s call = (w, (advance run s).2)
  apart : ∀ call run other active s, Current call run s → outcome run = none → Current other active s →
    outcome active = none → (outcome (advance active s).1).isSome = true → Apart call other →
    Current call run (advance active s).2

/-- A pool of runs of the calls: what each unfinished one has read is current. -/
structure Serving (Current : κ → L → σ → Prop) (calls : List κ) (pool : Pool σ L) : Prop where
  length : pool.runs.length = calls.length
  current : ∀ (i : ℕ) call run, calls[i]? = some call → pool.runs[i]? = some run → outcome run = none →
    Current call run pool.store

variable {advance outcome}

/-! ### One turn -/

theorem runs_step_length (pool : Pool σ L) (i : ℕ) :
    (pool.step advance i).runs.length = pool.runs.length := by
  cases found : pool.runs[i]? with
  | none => rw [step_of_none found]
  | some run =>
    rw [step_of_some found]
    exact List.length_set

/-- Turns add no run and drop none. -/
theorem runs_exec_length (pool : Pool σ L) (order : List ℕ) :
    (pool.exec advance order).runs.length = pool.runs.length := by
  induction order generalizing pool with
  | nil => rfl
  | cons i order ih =>
    rw [Pool.exec, ih]
    exact runs_step_length pool i

section Turn

variable {whole : σ → κ → ω × σ} {Current : κ → L → σ → Prop} {Apart : κ → κ → Prop}
  {calls : List κ} {pool : Pool σ L} {i : ℕ}

/-- A finished run stays as it is. -/
theorem Optimistic.step_finished (optimistic : Optimistic advance outcome whole Current Apart) {run : L}
    (found : pool.runs[i]? = some run) (done : (outcome run).isSome = true) : pool.step advance i = pool := by
  rw [step_of_some found, optimistic.stays run pool.store done]
  obtain ⟨inside, here⟩ := List.getElem?_eq_some_iff.mp found
  show Pool.mk pool.store (pool.runs.set i run) = pool
  rw [← here, List.set_getElem_self]

/-- The run of a finished call is the same after any order. -/
theorem Optimistic.exec_finished (optimistic : Optimistic advance outcome whole Current Apart) {run : L}
    (found : pool.runs[i]? = some run) (done : (outcome run).isSome = true) (order : List ℕ) :
    (pool.exec advance order).runs[i]? = some run := by
  induction order generalizing pool with
  | nil => exact found
  | cons j order ih =>
    refine ih ?_
    by_cases mine : j = i
    · subst mine
      rw [optimistic.step_finished found done]
      exact found
    · cases there : pool.runs[j]? with
      | none =>
        rw [step_of_none there]
        exact found
      | some other =>
        rw [step_of_some there]
        show (pool.runs.set j _)[i]? = some run
        rw [List.getElem?_set_ne mine]
        exact found

/-- A turn that finishes no run leaves the store. -/
theorem Optimistic.step_reads (optimistic : Optimistic advance outcome whole Current Apart)
    (serving : Serving outcome Current calls pool) (reading : ¬ Finishes advance outcome pool i) :
    (pool.step advance i).store = pool.store ∧ Serving outcome Current calls (pool.step advance i) := by
  cases found : pool.runs[i]? with
  | none =>
    rw [step_of_none found]
    exact ⟨rfl, serving⟩
  | some run =>
    cases done : outcome run with
    | some w =>
      rw [optimistic.step_finished found (by rw [done]; rfl)]
      exact ⟨rfl, serving⟩
    | none =>
      have open_ : outcome (advance run pool.store).1 = none := by
        by_contra ends
        exact reading ⟨run, found, done, Option.isSome_iff_ne_none.mpr ends⟩
      obtain ⟨inside, _⟩ := List.getElem?_eq_some_iff.mp found
      obtain ⟨call, asked⟩ : ∃ call, calls[i]? = some call :=
        ⟨_, List.getElem?_eq_getElem (serving.length ▸ inside)⟩
      obtain ⟨same, current⟩ :=
        optimistic.reads call run pool.store (serving.current i call run asked found done) done open_
      have store : (pool.step advance i).store = pool.store := by
        rw [step_of_some found]
        exact same
      refine ⟨store, (runs_step_length pool i).trans serving.length, ?_⟩
      intro j other after asks there still
      rw [store]
      rcases run_after_step found there with ⟨rfl, rfl⟩ | ⟨_, before⟩
      · obtain rfl : call = other := Option.some.inj (asked.symm.trans asks)
        exact current
      · exact serving.current j other after asks before still

/-- **The turn that finishes a run serves its call**, and the other runs have still read what is current. -/
theorem Optimistic.step_ends (optimistic : Optimistic advance outcome whole Current Apart)
    (serving : Serving outcome Current calls pool)
    (apart : ∀ (i j : ℕ) a b, i ≠ j → calls[i]? = some a → calls[j]? = some b → Apart a b)
    (finishes : Finishes advance outcome pool i) :
    ∃ call w run, calls[i]? = some call ∧ whole pool.store call = (w, (pool.step advance i).store) ∧
      (pool.step advance i).runs[i]? = some run ∧ outcome run = some w ∧
      Serving outcome Current calls (pool.step advance i) := by
  obtain ⟨run, found, open_, ends⟩ := finishes
  obtain ⟨w, ended⟩ := Option.isSome_iff_exists.mp ends
  obtain ⟨inside, _⟩ := List.getElem?_eq_some_iff.mp found
  obtain ⟨call, asked⟩ : ∃ call, calls[i]? = some call :=
    ⟨_, List.getElem?_eq_getElem (serving.length ▸ inside)⟩
  have mine := serving.current i call run asked found open_
  have store : (pool.step advance i).store = (advance run pool.store).2 := by rw [step_of_some found]
  refine ⟨call, w, (advance run pool.store).1, asked, ?_, ?_, ended,
    (runs_step_length pool i).trans serving.length, ?_⟩
  · rw [store]
    exact optimistic.ends call run pool.store w mine open_ ended
  · rw [step_of_some found]
    exact List.getElem?_set_self inside
  · intro j other after asks there still
    rcases run_after_step found there with ⟨rfl, rfl⟩ | ⟨elsewhere, before⟩
    · rw [still] at ended
      cases ended
    · rw [store]
      exact optimistic.apart other after call run pool.store (serving.current j other after asks before still)
        still mine open_ ends (apart j i other call elsewhere asks asked)

end Turn

/-! ### Whole orders -/

section Orders

variable {whole : σ → κ → ω × σ} {Current : κ → L → σ → Prop} {Apart : κ → κ → Prop}
  {calls : List κ} {pool : Pool σ L}

/-- The calls of some runs. -/
def served (calls : List κ) (indices : List ℕ) : List κ := indices.filterMap fun i => calls[i]?

/-- **Serializability.** After any order of turns the store, and the outcomes of the runs that finished, are
those of serving their calls one after the other, in the order in which they finished. -/
theorem Optimistic.serializable (optimistic : Optimistic advance outcome whole Current Apart)
    (apart : ∀ (i j : ℕ) a b, i ≠ j → calls[i]? = some a → calls[j]? = some b → Apart a b)
    (serving : Serving outcome Current calls pool) (order : List ℕ) :
    (pool.exec advance order).store =
        Mealy.after whole pool.store (served calls (finishing advance outcome pool order)) ∧
      (finishing advance outcome pool order).map
          (fun i => (pool.exec advance order).runs[i]?.bind outcome) =
        (Mealy.outputs whole pool.store (served calls (finishing advance outcome pool order))).map some := by
  induction order generalizing pool with
  | nil => exact ⟨rfl, rfl⟩
  | cons i order ih =>
    rw [Pool.exec, finishing]
    by_cases finishes : Finishes advance outcome pool i
    · obtain ⟨call, w, run, asked, wholly, there, ended, after⟩ :=
        optimistic.step_ends serving apart finishes
      obtain ⟨store, outcomes⟩ := ih after
      have kept : (((pool.step advance i).exec advance order).runs[i]?).bind outcome = some w := by
        rw [optimistic.exec_finished there (by rw [ended]; rfl) order]
        exact ended
      have calls_ : served calls (i :: finishing advance outcome (pool.step advance i) order) =
          call :: served calls (finishing advance outcome (pool.step advance i) order) :=
        List.filterMap_cons_some asked
      rw [if_pos finishes, calls_, Mealy.after, Mealy.outputs, wholly, List.map_cons, List.map_cons, kept]
      exact ⟨store, congrArg (some w :: ·) outcomes⟩
    · rw [if_neg finishes]
      obtain ⟨same, after⟩ := optimistic.step_reads serving finishes
      obtain ⟨store, outcomes⟩ := ih after
      rw [same] at store outcomes
      exact ⟨store, outcomes⟩

/-- A run that finishes in an order is unfinished before it, and finished after it. -/
theorem Optimistic.mem_finishing (optimistic : Optimistic advance outcome whole Current Apart)
    (pool : Pool σ L) (order : List ℕ) (i : ℕ) :
    i ∈ finishing advance outcome pool order ↔
      (∃ run, pool.runs[i]? = some run ∧ outcome run = none) ∧
        ∃ run, (pool.exec advance order).runs[i]? = some run ∧ (outcome run).isSome = true := by
  induction order generalizing pool with
  | nil =>
    refine iff_of_false List.not_mem_nil ?_
    rintro ⟨⟨run, found, open_⟩, after, there, done⟩
    obtain rfl : run = after := Option.some.inj (found.symm.trans there)
    rw [open_] at done
    cases done
  | cons j order ih =>
    -- a turn keeps unfinished runs but for its own, and finished ones
    have before : (∃ run, (pool.step advance j).runs[i]? = some run ∧ outcome run = none) ↔
        (∃ run, pool.runs[i]? = some run ∧ outcome run = none) ∧
          ¬ (i = j ∧ Finishes advance outcome pool j) := by
      cases found : pool.runs[j]? with
      | none =>
        rw [step_of_none found]
        refine ⟨fun unfinished => ⟨unfinished, ?_⟩, And.left⟩
        rintro ⟨_, run, there, _⟩
        rw [found] at there
        cases there
      | some run =>
        constructor
        · rintro ⟨after, there, open_⟩
          rcases run_after_step found there with ⟨rfl, rfl⟩ | ⟨elsewhere, was⟩
          · cases done : outcome run with
            | none =>
              refine ⟨⟨run, found, done⟩, ?_⟩
              rintro ⟨_, other, again, _, ends⟩
              obtain rfl : run = other := Option.some.inj (found.symm.trans again)
              rw [open_] at ends
              cases ends
            | some w =>
              rw [optimistic.stays run pool.store (by rw [done]; rfl), done] at open_
              cases open_
          · exact ⟨⟨after, was, open_⟩, fun mine => elsewhere mine.1⟩
        · rintro ⟨⟨own, there, open_⟩, reading⟩
          by_cases mine : i = j
          · subst mine
            obtain rfl : run = own := Option.some.inj (found.symm.trans there)
            obtain ⟨inside, _⟩ := List.getElem?_eq_some_iff.mp found
            refine ⟨(advance run pool.store).1, ?_, ?_⟩
            · rw [step_of_some found]
              exact List.getElem?_set_self inside
            · by_contra ends
              exact reading ⟨rfl, run, found, open_, Option.isSome_iff_ne_none.mpr ends⟩
          · refine ⟨own, ?_, open_⟩
            rw [step_of_some found]
            show (pool.runs.set j _)[i]? = some own
            rw [List.getElem?_set_ne (Ne.symm mine)]
            exact there
    rw [Pool.exec, finishing]
    by_cases finishes : Finishes advance outcome pool j
    · rw [if_pos finishes, List.mem_cons, ih, before]
      by_cases mine : i = j
      · subst mine
        obtain ⟨run, found, open_, ends⟩ := finishes
        obtain ⟨inside, _⟩ := List.getElem?_eq_some_iff.mp found
        have there : (pool.step advance i).runs[i]? = some (advance run pool.store).1 := by
          rw [step_of_some found]
          exact List.getElem?_set_self inside
        exact iff_of_true (Or.inl rfl)
          ⟨⟨run, found, open_⟩, _, optimistic.exec_finished there ends order, ends⟩
      · simp [mine]
    · rw [if_neg finishes, ih, before]
      simp [finishes]

/-- No run finishes twice. -/
theorem Optimistic.finishing_nodup (optimistic : Optimistic advance outcome whole Current Apart)
    (pool : Pool σ L) (order : List ℕ) : (finishing advance outcome pool order).Nodup := by
  induction order generalizing pool with
  | nil => exact List.nodup_nil
  | cons i order ih =>
    rw [finishing]
    by_cases finishes : Finishes advance outcome pool i
    · rw [if_pos finishes]
      refine List.nodup_cons.mpr ⟨fun again => ?_, ih _⟩
      obtain ⟨⟨after, there, open_⟩, _⟩ := (optimistic.mem_finishing _ order i).mp again
      obtain ⟨run, found, _, ends⟩ := finishes
      obtain ⟨inside, _⟩ := List.getElem?_eq_some_iff.mp found
      rw [step_of_some found, List.getElem?_set_self inside] at there
      rw [Option.some.inj there, open_] at ends
      cases ends
    · rw [if_neg finishes]
      exact ih _

end Orders

end Interleave
