/-
**Results that fit, and results that do not.**

* `Decimal.fit` — the decimal nearest to a rational number, with as many places as fit into the
  mantissa. **`Decimal.fit_eq_none_iff`**: there is one exactly for the numbers of `Decimal.InRange`, and
  the places asked for do not matter for exact numbers (`Decimal.value_fit_of_places`).
* `Arith.Rounds` — operators that give the exact result, fitted, and overflow where it does not fit;
  `Arith.rounded` is one.
* `SomeWhen`, `OkWhen` — when a computation has a result, and what the result is; `SomeWhen.bind`,
  `OkWhen.bind` take a computation apart. `Decimal.SumsInRange` — every sum on the way is in range;
  **`Arith.someWhen_foldlM`** is the rule for a loop that adds terms up.
-/

import Invoicing.Lib.Rounding

namespace Decimal

/-! ### The nearest integer -/

theorem nearestEven_cases (q : ℚ) :
    (nearestEven q : ℚ) = ⌊q⌋ ∧ (q - ⌊q⌋ < 1 / 2 ∨ (q - ⌊q⌋ = 1 / 2 ∧ ⌊q⌋ % 2 = 0)) ∨
      (nearestEven q : ℚ) = ⌊q⌋ + 1 ∧ (1 / 2 < q - ⌊q⌋ ∨ (q - ⌊q⌋ = 1 / 2 ∧ ⌊q⌋ % 2 ≠ 0)) := by
  unfold nearestEven
  by_cases below : q - ⌊q⌋ < 1 / 2
  · rw [if_pos below]
    exact Or.inl ⟨rfl, Or.inl below⟩
  · rw [if_neg below]
    by_cases above : 1 / 2 < q - ⌊q⌋
    · rw [if_pos above]
      exact Or.inr ⟨by push_cast; rfl, Or.inl above⟩
    · rw [if_neg above]
      have tie : q - ⌊q⌋ = 1 / 2 := le_antisymm (not_lt.mp above) (not_lt.mp below)
      by_cases even : ⌊q⌋ % 2 = 0
      · rw [if_pos even]
        exact Or.inl ⟨rfl, Or.inr ⟨tie, even⟩⟩
      · rw [if_neg even]
        exact Or.inr ⟨by push_cast; rfl, Or.inr ⟨tie, even⟩⟩

/-- **The nearest integer is below an even bound** exactly when the number is below it by more than a
half. -/
theorem nearestEven_lt_iff (q : ℚ) {bound : ℤ} (even : bound % 2 = 0) :
    nearestEven q < bound ↔ q < bound - 1 / 2 := by
  have low : (⌊q⌋ : ℚ) ≤ q := Int.floor_le q
  rcases nearestEven_cases q with ⟨same, rest⟩ | ⟨same, rest⟩
  · have same : nearestEven q = ⌊q⌋ := by exact_mod_cast same
    rw [same]
    constructor
    · intro less
      have step : (⌊q⌋ : ℚ) + 1 ≤ bound := by exact_mod_cast less
      rcases rest with below | ⟨tie, evenFloor⟩
      · linarith
      · -- both are even, so they are two apart
        have apart : ⌊q⌋ + 2 ≤ bound := by omega
        have apart : (⌊q⌋ : ℚ) + 2 ≤ bound := by exact_mod_cast apart
        linarith
    · intro less
      have : (⌊q⌋ : ℚ) < bound := by linarith
      exact_mod_cast this
  · have same : nearestEven q = ⌊q⌋ + 1 := by exact_mod_cast same
    rw [same]
    have high : q < ⌊q⌋ + 1 := Int.lt_floor_add_one q
    constructor
    · intro less
      have step : (⌊q⌋ : ℚ) + 1 + 1 ≤ bound := by exact_mod_cast less
      linarith
    · intro less
      rcases rest with above | ⟨tie, oddFloor⟩
      · have : (⌊q⌋ : ℚ) + 1 < bound := by linarith
        exact_mod_cast this
      · have : (⌊q⌋ : ℚ) + 1 < bound := by linarith
        exact_mod_cast this

/-- **And above one** exactly when the number is above it by more than a half. -/
theorem lt_nearestEven_iff (q : ℚ) {bound : ℤ} (even : bound % 2 = 0) :
    bound < nearestEven q ↔ (bound : ℚ) + 1 / 2 < q := by
  have high : q < ⌊q⌋ + 1 := Int.lt_floor_add_one q
  rcases nearestEven_cases q with ⟨same, rest⟩ | ⟨same, rest⟩
  · have same : nearestEven q = ⌊q⌋ := by exact_mod_cast same
    rw [same]
    have low : (⌊q⌋ : ℚ) ≤ q := Int.floor_le q
    constructor
    · intro less
      have step : (bound : ℚ) + 1 ≤ ⌊q⌋ := by exact_mod_cast less
      linarith
    · intro less
      have : (bound : ℚ) < ⌊q⌋ := by
        rcases rest with below | ⟨tie, _⟩
        · linarith
        · linarith
      exact_mod_cast this
  · have same : nearestEven q = ⌊q⌋ + 1 := by exact_mod_cast same
    rw [same]
    constructor
    · intro less
      have step : (bound : ℚ) ≤ ⌊q⌋ := by
        have : bound ≤ ⌊q⌋ := by omega
        exact_mod_cast this
      rcases rest with above | ⟨tie, oddFloor⟩
      · linarith
      · have apart : bound + 1 ≤ ⌊q⌋ := by omega
        have apart : (bound : ℚ) + 1 ≤ ⌊q⌋ := by exact_mod_cast apart
        linarith
    · intro less
      have : (bound : ℚ) < ⌊q⌋ + 1 := by linarith
      exact_mod_cast this

/-! ### Numbers in range -/

/-- A number whose nearest integer fits into the mantissa. -/
def InRange (q : ℚ) : Prop := |q| < maxMantissa - 1 / 2

instance (q : ℚ) : Decidable (InRange q) := inferInstanceAs (Decidable (_ < _))

theorem natAbs_nearestEven_lt_iff (q : ℚ) :
    (nearestEven q).natAbs < maxMantissa ↔ InRange q := by
  have evenAbove : (2 ^ 96 : ℤ) % 2 = 0 := by norm_num
  have evenBelow : (-2 ^ 96 : ℤ) % 2 = 0 := by norm_num
  have above := nearestEven_lt_iff q evenAbove
  have below := lt_nearestEven_iff q evenBelow
  unfold InRange maxMantissa
  rw [abs_lt]
  push_cast at above below ⊢
  constructor
  · intro less
    refine ⟨?_, above.mp (by omega)⟩
    have := below.mp (by omega)
    linarith
  · rintro ⟨low, high⟩
    have := above.mpr high
    have := below.mpr (by linarith)
    omega

/-- A number with fewer places is in range when its mantissa is. -/
theorem InRange.of_mul {q : ℚ} {dp : ℕ} (range : InRange (q * 10 ^ dp)) : InRange q := by
  unfold InRange at *
  rw [abs_mul, abs_of_pos (by positivity : (0 : ℚ) < 10 ^ dp)] at range
  have unit : (1 : ℚ) ≤ 10 ^ dp := one_le_pow₀ (by norm_num)
  have := le_mul_of_one_le_right (abs_nonneg q) unit
  linarith

/-! ### Fitting -/

/-- The nearest decimal of at most so many places, with as many as fit. -/
def fit (q : ℚ) : ℕ → Option Decimal
  | 0 => ofParts (nearestEven q) 0
  | dp + 1 => (ofParts (nearestEven (q * 10 ^ (dp + 1))) (dp + 1)).or (fit q dp)

/-- The value it has. -/
def fitted (q : ℚ) : ℚ := ((fit q maxScale).map value).getD 0

theorem fits_nearestEven_iff {q : ℚ} {dp : ℕ} (few : dp ≤ maxScale) :
    Fits (nearestEven q) dp ↔ InRange q := by
  rw [← natAbs_nearestEven_lt_iff]
  exact and_iff_left few

/-- **A number is fitted exactly when it is in range.** -/
theorem fit_eq_none_iff {q : ℚ} {dp : ℕ} (few : dp ≤ maxScale) : fit q dp = none ↔ ¬ InRange q := by
  induction dp with
  | zero =>
    unfold fit ofParts
    rw [← fits_nearestEven_iff few]
    split <;> simp_all
  | succ dp ih =>
    have rest := ih (by omega)
    unfold fit ofParts
    by_cases fits : Fits (nearestEven (q * 10 ^ (dp + 1))) (dp + 1)
    · have range := InRange.of_mul ((fits_nearestEven_iff few).mp fits)
      simp [fits, range]
    · rw [dif_neg fits, Option.none_or]
      exact rest

theorem OfPlaces.mono {q : ℚ} {dp dp' : ℕ} (places : OfPlaces dp q) (more : dp ≤ dp') :
    OfPlaces dp' q := by
  obtain ⟨n, rfl⟩ := places
  obtain ⟨extra, rfl⟩ := Nat.exists_eq_add_of_le more
  refine ⟨n * 10 ^ extra, ?_⟩
  push_cast
  rw [pow_add, mul_div_mul_right _ _ (by positivity)]

/-- A number that fits with all its places is not rounded. -/
theorem value_fit_of_inRange {q : ℚ} {dp : ℕ} (few : dp ≤ maxScale) (places : OfPlaces dp q)
    (range : InRange (q * 10 ^ dp)) : (fit q dp).map value = some q := by
  have fits := (fits_nearestEven_iff few).mpr range
  obtain ⟨n, rfl⟩ := places
  have whole : nearestEven ((n : ℚ) / 10 ^ dp * 10 ^ dp) = n := by
    rw [div_mul_cancel₀ _ (by positivity), nearestEven_intCast]
  rw [whole] at fits
  cases dp with
  | zero =>
    rw [pow_zero, mul_one] at whole
    rw [pow_zero, fit, whole, ofParts_of_fits fits, div_one]
    simp [value]
  | succ dp =>
    rw [fit, whole, ofParts_of_fits fits]
    rfl

/-- **Places a number does not need do not matter.** -/
theorem value_fit_of_places {q : ℚ} {dp : ℕ} (few : dp ≤ maxScale) (places : OfPlaces dp q) :
    (fit q dp).map value = (fit q maxScale).map value := by
  obtain ⟨more, total⟩ := Nat.exists_eq_add_of_le few
  have step : ∀ more, dp + more ≤ maxScale → (fit q (dp + more)).map value = (fit q dp).map value := by
    intro more
    induction more with
    | zero => exact fun _ => rfl
    | succ more ih =>
      intro few
      rw [← ih (by omega)]
      by_cases range : InRange (q * 10 ^ (dp + more + 1))
      · -- with one place less the number fits as well, and is not rounded either
        have fewer : InRange (q * 10 ^ (dp + more)) := by
          have range : InRange (q * 10 ^ (dp + more) * 10 ^ 1) := by
            rw [mul_assoc, ← pow_add]
            exact range
          exact range.of_mul
        rw [value_fit_of_inRange (by omega) (places.mono (by omega)) fewer]
        exact value_fit_of_inRange few (places.mono (by omega)) range
      · have fits : ¬ Fits (nearestEven (q * 10 ^ (dp + more + 1))) (dp + more + 1) :=
          mt (fits_nearestEven_iff few).mp range
        rw [← add_assoc, fit, ofParts, dif_neg fits, Option.none_or]
  rw [total, step more (by omega)]

/-- What a fitted number is. -/
theorem map_value_fit (q : ℚ) :
    (fit q maxScale).map value = if InRange q then some (fitted q) else none := by
  by_cases range : InRange q
  · rw [if_pos range]
    unfold fitted
    cases there : fit q maxScale with
    | none => exact absurd range ((fit_eq_none_iff le_rfl).mp there)
    | some d => rfl
  · rw [if_neg range, (fit_eq_none_iff le_rfl).mpr range]
    rfl

/-! ### Running sums -/

/-- The sum of terms, fitted after each. -/
def runningSum (start : ℚ) (terms : List ℚ) : ℚ := terms.foldl (fun sum q => fitted (sum + q)) start

/-- Every sum on the way is in range. -/
def SumsInRange : ℚ → List ℚ → Prop
  | _, [] => True
  | sum, q :: rest => InRange (sum + q) ∧ SumsInRange (fitted (sum + q)) rest

instance SumsInRange.decidable : (start : ℚ) → (terms : List ℚ) → Decidable (SumsInRange start terms)
  | _, [] => inferInstanceAs (Decidable True)
  | start, q :: rest =>
      @instDecidableAnd _ _ (inferInstanceAs (Decidable (InRange (start + q))))
        (SumsInRange.decidable (fitted (start + q)) rest)

end Decimal

/-! ### Computations that have a result on a condition -/

/-- There is a result exactly on the condition, and it is a good one. -/
def SomeWhen {α : Type} (condition : Prop) (good : α → Prop) (result : Option α) : Prop :=
  (condition ∧ ∃ a, result = some a ∧ good a) ∨ (¬ condition ∧ result = none)

/-- There is a result exactly on the condition, and it is a good one; else the computation stops so. -/
def OkWhen {ε α : Type} (stop : ε) (condition : Prop) (good : α → Prop) (result : Except ε α) : Prop :=
  (condition ∧ ∃ a, result = .ok a ∧ good a) ∨ (¬ condition ∧ result = .error stop)

section Results

variable {ε α β : Type} {stop : ε} {first second : Prop} {good : α → Prop} {good' : β → Prop}

theorem SomeWhen.some {a : α} (holds : good a) : SomeWhen True good (some a) :=
  Or.inl ⟨trivial, a, rfl, holds⟩

/-- **Two steps have a result when the first and then the second has one.** -/
theorem SomeWhen.bind {result : Option α} {rest : α → Option β} (one : SomeWhen first good result)
    (two : ∀ a, good a → SomeWhen second good' (rest a)) :
    SomeWhen (first ∧ second) good' (result >>= rest) := by
  rcases one with ⟨holds, a, rfl, fine⟩ | ⟨fails, rfl⟩
  · rcases two a fine with ⟨holds', b, same, fine'⟩ | ⟨fails', same⟩
    · exact Or.inl ⟨⟨holds, holds'⟩, b, same, fine'⟩
    · exact Or.inr ⟨fun both => fails' both.2, same⟩
  · exact Or.inr ⟨fun both => fails both.1, rfl⟩

theorem SomeWhen.imp {result : Option α} {better : α → Prop} (one : SomeWhen first good result)
    (same : first ↔ second) (implies : ∀ a, good a → better a) : SomeWhen second better result := by
  rcases one with ⟨holds, a, there, fine⟩ | ⟨fails, there⟩
  · exact Or.inl ⟨same.mp holds, a, there, implies a fine⟩
  · exact Or.inr ⟨mt same.mpr fails, there⟩

theorem OkWhen.ok {a : α} (holds : good a) : OkWhen stop True good (.ok a) :=
  Or.inl ⟨trivial, a, rfl, holds⟩

/-- **Two steps go through when the first and then the second does.** -/
theorem OkWhen.bind {result : Except ε α} {rest : α → Except ε β}
    (one : OkWhen stop first good result)
    (two : ∀ a, good a → OkWhen stop second good' (rest a)) :
    OkWhen stop (first ∧ second) good' (result >>= rest) := by
  rcases one with ⟨holds, a, rfl, fine⟩ | ⟨fails, rfl⟩
  · rcases two a fine with ⟨holds', b, same, fine'⟩ | ⟨fails', same⟩
    · exact Or.inl ⟨⟨holds, holds'⟩, b, same, fine'⟩
    · exact Or.inr ⟨fun both => fails' both.2, same⟩
  · exact Or.inr ⟨fun both => fails both.1, rfl⟩

theorem OkWhen.imp {result : Except ε α} {better : α → Prop} (one : OkWhen stop first good result)
    (same : first ↔ second) (implies : ∀ a, good a → better a) : OkWhen stop second better result := by
  rcases one with ⟨holds, a, there, fine⟩ | ⟨fails, there⟩
  · exact Or.inl ⟨same.mp holds, a, there, implies a fine⟩
  · exact Or.inr ⟨mt same.mpr fails, there⟩

theorem OkWhen.ne_error {result : Except ε α} (one : OkWhen stop first good result) :
    result ≠ .error stop ↔ first := by
  rcases one with ⟨holds, a, rfl, _⟩ | ⟨fails, rfl⟩
  · exact ⟨fun _ => holds, fun _ => by simp⟩
  · exact ⟨fun other => absurd rfl other, fun holds => absurd holds fails⟩

/-- A step that goes through. -/
theorem OkWhen.after {result : Except ε α} {rest : α → Except ε β} {a : α} (done : result = .ok a)
    (two : OkWhen stop second good' (rest a)) : OkWhen stop second good' (result >>= rest) := by
  rw [done]
  exact two

/-- What is known of a mapped result is known of the result. -/
theorem OkWhen.of_map {result : Except ε α} {f : α → β} (one : OkWhen stop first good' (result.map f)) :
    OkWhen stop first (fun a => good' (f a)) result := by
  cases result with
  | error e =>
    rcases one with ⟨_, b, same, _⟩ | ⟨fails, same⟩
    · cases same
    · cases same
      exact Or.inr ⟨fails, rfl⟩
  | ok a =>
    rcases one with ⟨holds, b, same, fine⟩ | ⟨_, same⟩
    · cases same
      exact Or.inl ⟨holds, a, rfl, fine⟩
    · cases same

theorem OkWhen.mapError {ε' : Type} {result : Except ε α} (f : ε → ε')
    (one : OkWhen stop first good result) : OkWhen (f stop) first good (result.mapError f) := by
  rcases one with ⟨holds, a, rfl, fine⟩ | ⟨fails, rfl⟩
  · exact Or.inl ⟨holds, a, rfl, fine⟩
  · exact Or.inr ⟨fails, rfl⟩

end Results

/-! ### Operators that round -/

namespace Arith

open Decimal

/-- The operators give the exact result with as many places as fit, and overflow where it does not fit. -/
structure Rounds (arith : Arith) : Prop where
  add : ∀ a b, (arith.add a b).map value = (fit (a.value + b.value) maxScale).map value
  mul : ∀ a b, (arith.mul a b).map value = (fit (a.value * b.value) maxScale).map value

/-- Sums have the places of their terms, products the places of both factors, as far as they fit. -/
def rounded : Arith where
  add a b := fit (a.value + b.value) (max a.scale b.scale)
  mul a b := fit (a.value * b.value) (min (a.scale + b.scale) maxScale)

theorem rounded_rounds : rounded.Rounds where
  add := by
    intro a b
    refine value_fit_of_places (max_le a.fits.2 b.fits.2) (.add ?_ ?_)
    · exact OfPlaces.mono ⟨a.mantissa, rfl⟩ (le_max_left _ _)
    · exact OfPlaces.mono ⟨b.mantissa, rfl⟩ (le_max_right _ _)
  mul := by
    intro a b
    show (fit (a.value * b.value) (min (a.scale + b.scale) maxScale)).map value = _
    by_cases few : a.scale + b.scale ≤ maxScale
    · rw [min_eq_left few]
      refine value_fit_of_places few ⟨a.mantissa * b.mantissa, ?_⟩
      push_cast
      rw [pow_add, ← div_mul_div_comm]
      rfl
    · rw [min_eq_right (by omega)]

section Rounds

variable {arith : Arith}

theorem someWhen_of_map {result : Option Decimal} {q : ℚ}
    (same : result.map value = (fit q maxScale).map value) :
    SomeWhen (InRange q) (fun c => c.value = fitted q) result := by
  rw [map_value_fit] at same
  by_cases range : InRange q
  · rw [if_pos range] at same
    obtain ⟨c, there, valued⟩ := Option.map_eq_some_iff.mp same
    exact Or.inl ⟨range, c, there, valued⟩
  · rw [if_neg range] at same
    exact Or.inr ⟨range, Option.map_eq_none_iff.mp same⟩

theorem Rounds.someWhen_add (rounds : arith.Rounds) (a b : Decimal) :
    SomeWhen (InRange (a.value + b.value)) (fun c => c.value = fitted (a.value + b.value))
      (arith.add a b) := someWhen_of_map (rounds.add a b)

theorem Rounds.someWhen_mul (rounds : arith.Rounds) (a b : Decimal) :
    SomeWhen (InRange (a.value * b.value)) (fun c => c.value = fitted (a.value * b.value))
      (arith.mul a b) := someWhen_of_map (rounds.mul a b)

end Rounds

/-- **A loop that adds a term at each step** goes through when every step does and every sum on the way is
in range; it leaves the running sum. -/
theorem someWhen_foldlM {σ α : Type} {step : σ → α → Option σ} {sumOf : σ → ℚ} {condition : α → Prop}
    {term : α → ℚ} (each : ∀ s a, SomeWhen (condition a ∧ InRange (sumOf s + term a))
      (fun s' => sumOf s' = fitted (sumOf s + term a)) (step s a)) (items : List α) (start : σ) :
    SomeWhen ((∀ a ∈ items, condition a) ∧ SumsInRange (sumOf start) (items.map term))
      (fun s' => sumOf s' = runningSum (sumOf start) (items.map term)) (items.foldlM step start) := by
  induction items generalizing start with
  | nil => exact Or.inl ⟨⟨fun _ absent => absurd absent List.not_mem_nil, trivial⟩, start, rfl, rfl⟩
  | cons item rest ih =>
    rw [List.foldlM_cons, List.map_cons]
    have later : ∀ next, sumOf next = fitted (sumOf start + term item) →
        SomeWhen ((∀ a ∈ rest, condition a) ∧
            SumsInRange (fitted (sumOf start + term item)) (rest.map term))
          (fun s' => sumOf s' = runningSum (fitted (sumOf start + term item)) (rest.map term))
          (rest.foldlM step next) := by
      intro next same
      rw [← same]
      exact ih next
    refine ((each start item).bind later).imp ?_ fun _ same => same
    rw [List.forall_mem_cons, SumsInRange]
    exact ⟨fun ⟨⟨here, sum⟩, others, sums⟩ => ⟨⟨here, others⟩, sum, sums⟩,
      fun ⟨⟨here, others⟩, sum, sums⟩ => ⟨⟨here, sum⟩, others, sums⟩⟩

end Arith
