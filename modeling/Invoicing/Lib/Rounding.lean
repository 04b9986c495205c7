/-
**Rounding as a function of rational numbers.**

* `Decimal.nearestEven`, `Decimal.halfEven` — the nearest integer, and the nearest number of so many
  places, ties to the even neighbour; **`Decimal.value_roundDp`**: the rounding of decimals is this one.
* `Decimal.OfPlaces` — the multiples of a unit. Rounding gives one (`Decimal.roundDp_ofPlaces`), leaves
  one as it is (`Decimal.halfEven_of_ofPlaces`), and sums of multiples are multiples.
* **`Decimal.halfEven_pos_iff`** — what is more than half a unit is what stays positive.
* `Arith.Exact` — operators without rounding of their own; `Arith.exact` is one. `Arith.SumsOfPlaces` —
  a sum needs no more places than its terms.
-/

import Invoicing.Lib.Decimal
import Mathlib.Algebra.Order.Floor.Ring
import Mathlib.Data.Rat.Floor
import Mathlib.Tactic.Ring

namespace Decimal

/-! ### Numbers of so many places -/

/-- The nearest integer, ties to the even neighbour. -/
def nearestEven (q : ℚ) : ℤ :=
  if q - ⌊q⌋ < 1 / 2 then ⌊q⌋
  else if 1 / 2 < q - ⌊q⌋ then ⌊q⌋ + 1
  else if ⌊q⌋ % 2 = 0 then ⌊q⌋
  else ⌊q⌋ + 1

/-- The nearest number of `dp` places, ties to the even neighbour. -/
def halfEven (dp : ℕ) (q : ℚ) : ℚ := nearestEven (q * 10 ^ dp) / 10 ^ dp

/-- A number of `dp` places. -/
def OfPlaces (dp : ℕ) (q : ℚ) : Prop := ∃ n : ℤ, q = n / 10 ^ dp

theorem nearestEven_intCast (n : ℤ) : nearestEven n = n := by
  simp [nearestEven]

theorem halfEven_ofPlaces (dp : ℕ) (q : ℚ) : OfPlaces dp (halfEven dp q) := ⟨_, rfl⟩

/-- **A number of so many places is not moved.** -/
theorem halfEven_of_ofPlaces {dp : ℕ} {q : ℚ} (places : OfPlaces dp q) : halfEven dp q = q := by
  obtain ⟨n, rfl⟩ := places
  have unit : (10 : ℚ) ^ dp ≠ 0 := by positivity
  rw [halfEven, div_mul_cancel₀ _ unit, nearestEven_intCast]

/-- The nearest integer is positive from above a half on: a half itself goes down to zero. -/
theorem nearestEven_pos_iff (q : ℚ) : 0 < nearestEven q ↔ 1 / 2 < q := by
  have lower : (⌊q⌋ : ℚ) ≤ q := Int.floor_le q
  have upper : q < ⌊q⌋ + 1 := Int.lt_floor_add_one q
  have above : 1 / 2 < q → 0 ≤ ⌊q⌋ := fun more => Int.floor_nonneg.mpr (by linarith)
  have whole : 0 < ⌊q⌋ → 1 / 2 < q := fun positive => by
    have one : (1 : ℚ) ≤ ⌊q⌋ := by exact_mod_cast positive
    linarith
  unfold nearestEven
  split
  · rename_i down
    refine ⟨whole, fun more => ?_⟩
    have positive : (0 : ℚ) < ⌊q⌋ := by linarith
    exact_mod_cast positive
  · rename_i notDown
    split
    · rename_i up
      refine ⟨fun positive => ?_, fun more => Int.lt_add_one_of_le (above more)⟩
      have nonneg : (0 : ℚ) ≤ ⌊q⌋ := by exact_mod_cast Int.lt_add_one_iff.mp positive
      linarith
    · rename_i notUp
      have tie : q = ⌊q⌋ + 1 / 2 := by linarith
      split
      · refine ⟨whole, fun more => ?_⟩
        have positive : (0 : ℚ) < ⌊q⌋ := by linarith
        exact_mod_cast positive
      · rename_i odd
        refine ⟨fun positive => whole (by omega), fun more => Int.lt_add_one_of_le (above more)⟩

/-- **A rounded number is positive exactly when it was more than half a unit.** -/
theorem halfEven_pos_iff (dp : ℕ) (q : ℚ) : 0 < halfEven dp q ↔ 1 / 2 < q * 10 ^ dp := by
  have unit : (0 : ℚ) < 10 ^ dp := by positivity
  rw [halfEven, div_pos_iff_of_pos_right unit, ← nearestEven_pos_iff]
  exact Int.cast_pos

theorem OfPlaces.intCast (dp : ℕ) (n : ℤ) : OfPlaces dp n := by
  refine ⟨n * 10 ^ dp, ?_⟩
  push_cast
  rw [mul_div_cancel_right₀ _ (by positivity)]

theorem OfPlaces.zero (dp : ℕ) : OfPlaces dp 0 := by exact_mod_cast OfPlaces.intCast dp 0

theorem OfPlaces.add {dp : ℕ} {p q : ℚ} (left : OfPlaces dp p) (right : OfPlaces dp q) :
    OfPlaces dp (p + q) := by
  obtain ⟨m, rfl⟩ := left
  obtain ⟨n, rfl⟩ := right
  refine ⟨m + n, ?_⟩
  push_cast
  rw [add_div]

theorem OfPlaces.sum {dp : ℕ} {terms : List ℚ} (each : ∀ q ∈ terms, OfPlaces dp q) :
    OfPlaces dp terms.sum := by
  induction terms with
  | nil => exact .zero dp
  | cons term rest ih =>
    rw [List.sum_cons]
    exact (each term (List.mem_cons_self ..)).add
      (ih fun q member => each q (List.mem_cons_of_mem _ member))

/-! ### Rounding of decimals -/

/-- **Rounded integer division is the nearest integer to the quotient.** -/
theorem divHalfEven_eq (n : ℤ) {unit : ℕ} (positive : 0 < unit) :
    divHalfEven n unit = nearestEven (n / unit) := by
  have unit_pos : (0 : ℚ) < unit := by exact_mod_cast positive
  have floor : ⌊(n : ℚ) / unit⌋ = n / unit := Rat.floor_intCast_div_natCast n unit
  have rest : (n : ℚ) / unit - (n / (unit : ℤ) : ℤ) = (n % (unit : ℤ) : ℤ) / unit := by
    have split : ((n / (unit : ℤ) : ℤ) : ℚ) * unit + (n % (unit : ℤ) : ℤ) = n := by
      exact_mod_cast Int.ediv_mul_add_emod n unit
    field_simp
    linarith
  have below : (n : ℚ) / unit - (n / (unit : ℤ) : ℤ) < 1 / 2 ↔ 2 * (n % (unit : ℤ)) < unit := by
    rw [rest, div_lt_div_iff₀ unit_pos two_pos, one_mul, mul_comm]
    exact_mod_cast Iff.rfl
  have above : 1 / 2 < (n : ℚ) / unit - (n / (unit : ℤ) : ℤ) ↔ (unit : ℤ) < 2 * (n % (unit : ℤ)) := by
    rw [rest, div_lt_div_iff₀ two_pos unit_pos, one_mul, mul_comm]
    exact_mod_cast Iff.rfl
  unfold divHalfEven nearestEven
  simp only [floor, below, above]

/-- **Rounding a decimal rounds its value.** -/
theorem value_roundDp (dp : ℕ) (d : Decimal) : (d.roundDp dp).value = halfEven dp d.value := by
  unfold roundDp
  by_cases few : d.scale ≤ dp
  · rw [dif_pos few]
    refine (halfEven_of_ofPlaces ⟨d.mantissa * 10 ^ (dp - d.scale), ?_⟩).symm
    have split : (10 : ℚ) ^ dp = 10 ^ d.scale * 10 ^ (dp - d.scale) := by
      rw [← pow_add, Nat.add_sub_cancel' few]
    push_cast
    rw [value, split, mul_div_mul_right _ _ (by positivity)]
  · rw [dif_neg few]
    have split : (10 : ℚ) ^ d.scale = 10 ^ (d.scale - dp) * 10 ^ dp := by
      rw [← pow_add, Nat.sub_add_cancel (by omega)]
    have moved : d.value * 10 ^ dp = (d.mantissa : ℚ) / (10 ^ (d.scale - dp) : ℕ) := by
      push_cast
      rw [value, split, div_mul_eq_mul_div, mul_div_mul_right _ _ (by positivity)]
    rw [halfEven, moved, ← divHalfEven_eq _ (by positivity)]
    rfl

theorem roundDp_ofPlaces (dp : ℕ) (d : Decimal) : OfPlaces dp (d.roundDp dp).value := by
  rw [value_roundDp]
  exact halfEven_ofPlaces dp d.value

/-- Rounding does not change a value that has no more places. -/
theorem value_roundDp_of_ofPlaces {dp : ℕ} {d : Decimal} (places : OfPlaces dp d.value) :
    (d.roundDp dp).value = d.value := by
  rw [value_roundDp, halfEven_of_ofPlaces places]

end Decimal

/-! ### Operators without rounding -/

namespace Arith

/-- Products are exact where they do not overflow. -/
def ExactMul (arith : Arith) : Prop :=
  ∀ a b c, arith.mul a b = some c → c.value = a.value * b.value

/-- Sums and products are exact where they do not overflow. -/
structure Exact (arith : Arith) : Prop where
  add : arith.ExactAdd
  mul : arith.ExactMul

theorem exact_exactMul : ExactMul exact := by
  intro a b c product
  simp only [exact, Decimal.ofParts] at product
  split at product
  · cases product
    simp only [Decimal.value]
    push_cast
    rw [pow_add, mul_div_mul_comm]
  · cases product

theorem exact_isExact : Exact exact := ⟨exact_exactAdd, exact_exactMul⟩

/-- A sum of numbers of so many places has so many places. -/
def SumsOfPlaces (arith : Arith) : Prop :=
  ∀ {dp : ℕ} {a b c : Decimal}, Decimal.OfPlaces dp a.value → Decimal.OfPlaces dp b.value →
    arith.add a b = some c → Decimal.OfPlaces dp c.value

theorem ExactAdd.sumsOfPlaces {arith : Arith} (exact : arith.ExactAdd) : arith.SumsOfPlaces := by
  intro dp a b c left right sum
  rw [exact a b c sum]
  exact left.add right

end Arith
