/-
**Machines that answer every input.**

* `after`, `outputs` — the state after a list of inputs, and the answers on the way.
* **`outputs_eq`**, **`after_related`** — two machines that answer alike from related states, and stay
  related, answer every list of inputs alike and end in related states.
* **`alike_inputs`** — so do they on two lists of inputs that are alike, one by one.
* **`after_keeps`** — what every step keeps holds after every list of inputs.
-/

import Mathlib.Data.List.Basic

namespace Mealy

variable {σ τ ι ω : Type}

/-- The state after the inputs. -/
def after (step : σ → ι → ω × σ) (s : σ) : List ι → σ
  | [] => s
  | i :: rest => after step (step s i).2 rest

/-- The answers to the inputs, in order. -/
def outputs (step : σ → ι → ω × σ) (s : σ) : List ι → List ω
  | [] => []
  | i :: rest => (step s i).1 :: outputs step (step s i).2 rest

/-- From related states the two steps give the same answer and related states. -/
def Simulates (R : σ → τ → Prop) (step : σ → ι → ω × σ) (other : τ → ι → ω × τ) : Prop :=
  ∀ s t i, R s t → (step s i).1 = (other t i).1 ∧ R (step s i).2 (other t i).2

variable {R : σ → τ → Prop} {step : σ → ι → ω × σ} {other : τ → ι → ω × τ}

/-- **Related machines give the same answers.** -/
theorem Simulates.outputs_eq (simulates : Simulates R step other) {s : σ} {t : τ} (related : R s t)
    (inputs : List ι) : outputs step s inputs = outputs other t inputs := by
  induction inputs generalizing s t with
  | nil => rfl
  | cons i rest ih =>
    obtain ⟨same, stays⟩ := simulates s t i related
    show (step s i).1 :: _ = (other t i).1 :: _
    rw [same, ih stays]

/-- **Related machines stay related.** -/
theorem Simulates.after_related (simulates : Simulates R step other) {s : σ} {t : τ} (related : R s t)
    (inputs : List ι) : R (after step s inputs) (after other t inputs) := by
  induction inputs generalizing s t with
  | nil => exact related
  | cons i rest ih => exact ih (simulates s t i related).2

/-- **Related machines on alike inputs** give the same answers and stay related. -/
theorem alike_inputs {A : ι → ι → Prop}
    (alike : ∀ s t i j, R s t → A i j → (step s i).1 = (other t j).1 ∧ R (step s i).2 (other t j).2) {s : σ}
    {t : τ} (related : R s t) {inputs inputs' : List ι} (each : List.Forall₂ A inputs inputs') :
    outputs step s inputs = outputs other t inputs' ∧ R (after step s inputs) (after other t inputs') := by
  induction each generalizing s t with
  | nil => exact ⟨rfl, related⟩
  | cons first _ ih =>
    obtain ⟨same, stays⟩ := alike _ _ _ _ related first
    obtain ⟨answers, ends⟩ := ih stays
    exact ⟨congrArg₂ List.cons same answers, ends⟩

/-- **What every step keeps holds after every list of inputs.** -/
theorem after_keeps {I : σ → Prop} (kept : ∀ s i, I s → I (step s i).2) {s : σ} (start : I s)
    (inputs : List ι) : I (after step s inputs) := by
  induction inputs generalizing s with
  | nil => exact start
  | cons i rest ih => exact ih (kept s i start)

end Mealy
