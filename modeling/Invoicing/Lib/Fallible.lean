/-
**Computations that may fail.**

* `bind_ok`, `bind_error` — a computation of two steps, taken apart by how it ended. `map_ok` — one whose
  result is known in part. `map_bind_congr` — two that agree in a part of their results.
* `isOk_iff` — one that went through has a result; `ok_of_mem_foldlM` — so has every turn of a loop.
-/

import Mathlib.Data.List.Basic

/-- A computation that went through, taken apart at its first step. -/
theorem bind_ok {ε α β : Type} {first : Except ε α} {rest : α → Except ε β} {result : β}
    (done : (first >>= rest) = .ok result) : ∃ a, first = .ok a ∧ rest a = .ok result := by
  cases first with
  | error e => cases done
  | ok a => exact ⟨a, rfl, done⟩

/-- A computation that failed, at its first step or later. -/
theorem bind_error {ε α β : Type} {first : Except ε α} {rest : α → Except ε β} {e : ε}
    (failed : (first >>= rest) = .error e) :
    first = .error e ∨ ∃ a, first = .ok a ∧ rest a = .error e := by
  cases first with
  | error e' =>
    cases failed
    exact Or.inl rfl
  | ok a => exact Or.inr ⟨a, rfl, failed⟩

/-- A computation with a part of its result went through. -/
theorem map_ok {ε α β : Type} {first : Except ε α} {part : α → β} {b : β}
    (done : first.map part = .ok b) : ∃ a, first = .ok a ∧ part a = b := by
  cases first with
  | error e => cases done
  | ok a => exact ⟨a, rfl, Except.ok.inj done⟩

/-- Computations that begin alike and whose later steps agree in a part of the result agree in it. -/
theorem map_bind_congr {ε α β γ : Type} {first : Except ε α} {rest rest' : α → Except ε β} {part : β → γ}
    (later : ∀ a, (rest a).map part = (rest' a).map part) :
    (first >>= rest).map part = (first >>= rest').map part := by
  cases first with
  | error e => rfl
  | ok a => exact later a

/-- Every turn of a loop that went through did. -/
theorem ok_of_mem_foldlM {ε α β : Type} {step : β → α → Except ε β} {items : List α} {start result : β}
    (done : items.foldlM step start = .ok result) {item : α} (there : item ∈ items) :
    ∃ before after, step before item = .ok after := by
  induction items generalizing start with
  | nil => cases there
  | cons head rest ih =>
    rw [List.foldlM_cons] at done
    obtain ⟨next, first, later⟩ := bind_ok done
    rcases List.mem_cons.mp there with rfl | inside
    · exact ⟨start, next, first⟩
    · exact ih later inside

theorem isOk_iff {ε α : Type} {done : Except ε α} : done.isOk = true ↔ ∃ a, done = .ok a := by
  cases done with
  | error e => exact iff_of_false (fun ok => by cases ok) fun ⟨a, same⟩ => by cases same
  | ok a => exact iff_of_true rfl ⟨a, rfl⟩

theorem ok_of_isOk {ε α : Type} {done : Except ε α} (ok : done.isOk = true) : ∃ a, done = .ok a := isOk_iff.mp ok
