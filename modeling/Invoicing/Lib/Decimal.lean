/-
**Decimal numbers of 96 bits and 28 places.**

* `Decimal` — an integer mantissa of at most 96 bits over a power of ten of at most 28;
  `Decimal.value` is the rational number it stands for. Two decimals can have one value (`1` and
  `1.00`); the comparisons `<` and `≤` are those of the values (`Decimal.lt_iff`, `Decimal.le_iff`).
* `Decimal.roundDp` — rounding to a number of places, ties to the even neighbour.
* `Decimal.toString`, `Decimal.fromStr` — plain text with all places kept;
  **`Decimal.fromStr_toString`** reads it back.
* `Arith` — addition and multiplication, `none` where the operator overflows.
-/

import Invoicing.Lib.DigitText
import Mathlib.Algebra.Order.Field.Rat
import Mathlib.Data.List.TakeWhile
import Mathlib.Tactic.FieldSimp
import Mathlib.Tactic.Positivity
import Mathlib.Tactic.Linarith
import Mathlib.Tactic.NormNum

open DigitText

/-- The bound of a mantissa. -/
def Decimal.maxMantissa : ℕ := 2 ^ 96

/-- The most decimal places. -/
def Decimal.maxScale : ℕ := 28

/-- What makes a mantissa and a scale a decimal. -/
def Decimal.Fits (mantissa : ℤ) (scale : ℕ) : Prop :=
  mantissa.natAbs < Decimal.maxMantissa ∧ scale ≤ Decimal.maxScale

instance (mantissa : ℤ) (scale : ℕ) : Decidable (Decimal.Fits mantissa scale) :=
  inferInstanceAs (Decidable (_ ∧ _))

/-- `mantissa / 10 ^ scale`. -/
structure Decimal where
  mantissa : ℤ
  scale : ℕ
  fits : Decimal.Fits mantissa scale
  deriving DecidableEq

namespace Decimal

/-- The decimal of a mantissa and a scale, when it fits. -/
def ofParts (mantissa : ℤ) (scale : ℕ) : Option Decimal :=
  if fits : Fits mantissa scale then some ⟨mantissa, scale, fits⟩ else none

theorem ofParts_of_fits {mantissa : ℤ} {scale : ℕ} (fits : Fits mantissa scale) :
    ofParts mantissa scale = some ⟨mantissa, scale, fits⟩ := dif_pos fits

/-- The rational number a decimal stands for. -/
def value (d : Decimal) : ℚ := d.mantissa / (10 : ℚ) ^ d.scale

def zero : Decimal := ⟨0, 0, by decide⟩

theorem fits_one : Fits 1 0 := by decide

@[simp] theorem value_zero : zero.value = 0 := by
  simp [zero, value]

/-! ### Comparison -/

/-- Decimals compare by cross multiplication. -/
instance : LT Decimal where
  lt a b := a.mantissa * 10 ^ b.scale < b.mantissa * 10 ^ a.scale

instance : LE Decimal where
  le a b := a.mantissa * 10 ^ b.scale ≤ b.mantissa * 10 ^ a.scale

instance (a b : Decimal) : Decidable (a < b) :=
  inferInstanceAs (Decidable (a.mantissa * 10 ^ b.scale < b.mantissa * 10 ^ a.scale))

instance (a b : Decimal) : Decidable (a ≤ b) :=
  inferInstanceAs (Decidable (a.mantissa * 10 ^ b.scale ≤ b.mantissa * 10 ^ a.scale))

/-- **The order of decimals is the order of their values.** -/
theorem lt_iff {a b : Decimal} : a < b ↔ a.value < b.value := by
  have left : (0 : ℚ) < 10 ^ a.scale := by positivity
  have right : (0 : ℚ) < 10 ^ b.scale := by positivity
  rw [value, value, div_lt_div_iff₀ left right]
  show a.mantissa * 10 ^ b.scale < b.mantissa * 10 ^ a.scale ↔ _
  exact_mod_cast Iff.rfl

theorem le_iff {a b : Decimal} : a ≤ b ↔ a.value ≤ b.value := by
  have left : (0 : ℚ) < 10 ^ a.scale := by positivity
  have right : (0 : ℚ) < 10 ^ b.scale := by positivity
  rw [value, value, div_le_div_iff₀ left right]
  show a.mantissa * 10 ^ b.scale ≤ b.mantissa * 10 ^ a.scale ↔ _
  exact_mod_cast Iff.rfl

theorem zero_lt_iff {d : Decimal} : zero < d ↔ 0 < d.value := by
  rw [lt_iff, value_zero]

theorem not_le_zero {d : Decimal} : ¬ d ≤ zero ↔ zero < d := by
  rw [le_iff, lt_iff, not_le]

/-! ### Rounding -/

/-- Integer division by `unit`, rounded to the nearest, ties to the even neighbour. -/
def divHalfEven (n : ℤ) (unit : ℕ) : ℤ :=
  let quotient := n / unit
  let twice := 2 * (n % unit)
  if twice < unit then quotient
  else if (unit : ℤ) < twice then quotient + 1
  else if quotient % 2 = 0 then quotient
  else quotient + 1

/-- Rounding up happens only when a part of at least half a unit was cut off. -/
theorem divHalfEven_cases {n : ℤ} {unit : ℕ} (positive : 0 < unit) :
    divHalfEven n unit = n / unit ∨
      (divHalfEven n unit = n / unit + 1 ∧ 0 < n % unit) := by
  have rest : 0 ≤ n % (unit : ℤ) := Int.emod_nonneg _ (by omega)
  unfold divHalfEven
  simp only
  split
  · exact Or.inl rfl
  · split
    · exact Or.inr ⟨rfl, by omega⟩
    · split
      · exact Or.inl rfl
      · exact Or.inr ⟨rfl, by omega⟩

/-- Rounding never grows a number. -/
theorem natAbs_divHalfEven_le (n : ℤ) {unit : ℕ} (positive : 0 < unit) :
    (divHalfEven n unit).natAbs ≤ n.natAbs := by
  have shrink : (n / (unit : ℤ)).natAbs ≤ n.natAbs := Int.natAbs_ediv_le_natAbs n unit
  rcases divHalfEven_cases (n := n) positive with same | ⟨up, rest⟩
  · rw [same]
    exact shrink
  · rw [up]
    have split := Int.mul_ediv_add_emod n unit
    rcases lt_or_ge n 0 with negative | nonneg
    · have below : n / (unit : ℤ) < 0 := Int.ediv_neg_of_neg_of_pos negative (by omega)
      omega
    · have above : 0 ≤ n / (unit : ℤ) := Int.ediv_nonneg nonneg (by omega)
      have grow : n / (unit : ℤ) ≤ unit * (n / (unit : ℤ)) :=
        le_mul_of_one_le_left above (by omega)
      omega

/-- Round to `dp` places, ties to the even neighbour; a number with no more places stays. -/
def roundDp (dp : ℕ) (d : Decimal) : Decimal :=
  if few : d.scale ≤ dp then d
  else ⟨divHalfEven d.mantissa (10 ^ (d.scale - dp)), dp,
    lt_of_le_of_lt (natAbs_divHalfEven_le _ (by positivity)) d.fits.1,
    by have := d.fits.2; omega⟩

/-! ### Text -/

/-- The text of a decimal: sign, whole part, and as many places as the scale says. -/
def text (d : Decimal) : List Char :=
  (if d.mantissa < 0 then ['-'] else []) ++
    (Nat.toDigits 10 (d.mantissa.natAbs / 10 ^ d.scale) ++
      (if d.scale = 0 then [] else '.' :: decimalDigits d.scale d.mantissa.natAbs))

/-- The characters of a decimal. -/
theorem mem_text {d : Decimal} {c : Char} (member : c ∈ d.text) : c.isDigit ∨ c = '-' ∨ c = '.' := by
  unfold text at member
  rcases List.mem_append.mp member with sign | number
  · split at sign
    · exact Or.inr (Or.inl (List.mem_singleton.mp sign))
    · cases sign
  · rcases List.mem_append.mp number with whole | fraction
    · exact Or.inl (List.all_eq_true.mp (isDigit_toDigits _) c whole)
    · split at fraction
      · cases fraction
      · rcases List.mem_cons.mp fraction with point | digit
        · exact Or.inr (Or.inr point)
        · exact Or.inl (List.all_eq_true.mp (isDigit_decimalDigits _ _) c digit)

/-- Read unsigned decimal text. -/
def ofUnsigned (sign : ℤ) (digits : List Char) : Option Decimal :=
  let whole := digits.takeWhile (· != '.')
  let fraction := (digits.dropWhile (· != '.')).drop 1
  if whole ≠ [] ∧ (whole ++ fraction).all Char.isDigit then
    ofParts (sign * Nat.ofDigitChars 10 (whole ++ fraction) 0) fraction.length
  else none

/-- Read decimal text. -/
def ofText : List Char → Option Decimal
  | '-' :: digits => ofUnsigned (-1) digits
  | digits => ofUnsigned 1 digits

def toString (d : Decimal) : String := String.ofList d.text

def fromStr (s : String) : Option Decimal := ofText s.toList

theorem digits_ne_point {digits : List Char} (all : digits.all Char.isDigit) :
    ∀ c ∈ digits, (c != '.') = true := by
  intro c member
  have digit := List.all_eq_true.mp all c member
  rcases eq_or_ne c '.' with same | different
  · subst same
    exact absurd digit (by decide)
  · simpa using different

/-- Digits before a point, and what follows it. -/
theorem takeWhile_digits {digits : List Char} (all : digits.all Char.isDigit) (rest : List Char) :
    (digits ++ '.' :: rest).takeWhile (· != '.') = digits ∧
      (digits ++ '.' :: rest).dropWhile (· != '.') = '.' :: rest := by
  have other := digits_ne_point all
  constructor
  · rw [List.takeWhile_append_of_pos other]
    simp
  · rw [List.dropWhile_append_of_pos other]
    simp

/-- Digits without a point. -/
theorem takeWhile_digits_end {digits : List Char} (all : digits.all Char.isDigit) :
    digits.takeWhile (· != '.') = digits ∧ digits.dropWhile (· != '.') = [] := by
  have other := digits_ne_point all
  exact ⟨List.takeWhile_eq_self_iff.mpr other, List.dropWhile_eq_nil_iff.mpr other⟩

/-- Reading the unsigned text of a natural number over a power of ten. -/
theorem ofUnsigned_text (sign : ℤ) (n scale : ℕ) (fits : Fits (sign * n) scale) :
    ofUnsigned sign (Nat.toDigits 10 (n / 10 ^ scale) ++
      (if scale = 0 then [] else '.' :: decimalDigits scale n)) = some ⟨sign * n, scale, fits⟩ := by
  have whole := isDigit_toDigits (n / 10 ^ scale)
  have places := isDigit_decimalDigits scale n
  have number : Nat.ofDigitChars 10 (Nat.toDigits 10 (n / 10 ^ scale) ++ decimalDigits scale n) 0 =
      n := by
    rw [Nat.ofDigitChars_append, Nat.ofDigitChars_ten_toDigits, ofDigitChars_decimalDigits,
      Nat.div_add_mod']
  have split : ((Nat.toDigits 10 (n / 10 ^ scale) ++
        (if scale = 0 then [] else '.' :: decimalDigits scale n)).takeWhile (· != '.') =
          Nat.toDigits 10 (n / 10 ^ scale)) ∧
      ((Nat.toDigits 10 (n / 10 ^ scale) ++
        (if scale = 0 then [] else '.' :: decimalDigits scale n)).dropWhile (· != '.')).drop 1 =
          decimalDigits scale n := by
    by_cases none : scale = 0
    · subst none
      simp only [if_true, List.append_nil]
      rw [(takeWhile_digits_end whole).1, (takeWhile_digits_end whole).2]
      exact ⟨rfl, rfl⟩
    · simp only [none, if_false]
      rw [(takeWhile_digits whole _).1, (takeWhile_digits whole _).2]
      exact ⟨rfl, rfl⟩
  unfold ofUnsigned
  simp only [split.1, split.2, number, length_fixedDigits]
  rw [if_pos ⟨toDigits_ne_nil _, by rw [List.all_append, whole, places]; rfl⟩, ofParts_of_fits fits]

/-- **Decimal text reads back as the same decimal**, with the same places. -/
theorem fromStr_toString (d : Decimal) : fromStr d.toString = some d := by
  obtain ⟨mantissa, scale, fits⟩ := d
  rw [fromStr, toString, String.toList_ofList]
  unfold text
  simp only
  by_cases negative : mantissa < 0
  · have sign : (-1 : ℤ) * mantissa.natAbs = mantissa := by omega
    have read := ofUnsigned_text (-1) mantissa.natAbs scale (by rw [sign]; exact fits)
    rw [if_pos negative, List.singleton_append, ofText, read]
    simp only [sign]
  · have sign : (1 : ℤ) * mantissa.natAbs = mantissa := by omega
    have read := ofUnsigned_text 1 mantissa.natAbs scale (by rw [sign]; exact fits)
    rw [if_neg negative, List.nil_append]
    have unsigned : ∀ digits : List Char, digits.head? ≠ some '-' →
        ofText digits = ofUnsigned 1 digits := by
      intro digits head
      unfold ofText
      split
      · simp at head
      · rfl
    rw [unsigned, read]
    · simp only [sign]
    · have digits := isDigit_toDigits (mantissa.natAbs / 10 ^ scale)
      cases shape : Nat.toDigits 10 (mantissa.natAbs / 10 ^ scale) with
      | nil => exact absurd shape (toDigits_ne_nil _)
      | cons c rest =>
        rw [shape, List.all_cons, Bool.and_eq_true] at digits
        simp only [List.cons_append, List.head?_cons, ne_eq, Option.some.injEq]
        rintro rfl
        exact absurd digits.1 (by decide)

end Decimal

/-! ### Arithmetic -/

/-- The operators of a decimal type; `none` is an overflow. -/
structure Arith where
  add : Decimal → Decimal → Option Decimal
  mul : Decimal → Decimal → Option Decimal

namespace Arith

/-- Sums are exact where they do not overflow. -/
def ExactAdd (arith : Arith) : Prop :=
  ∀ a b c, arith.add a b = some c → c.value = a.value + b.value

/-- Exact arithmetic: a result that does not fit is an overflow. -/
def exact : Arith where
  add a b :=
    let scale := max a.scale b.scale
    Decimal.ofParts (a.mantissa * 10 ^ (scale - a.scale) + b.mantissa * 10 ^ (scale - b.scale)) scale
  mul a b := Decimal.ofParts (a.mantissa * b.mantissa) (a.scale + b.scale)

theorem exact_exactAdd : ExactAdd exact := by
  intro a b c sum
  simp only [exact, Decimal.ofParts] at sum
  split at sum
  · cases sum
    have left : max a.scale b.scale = a.scale + (max a.scale b.scale - a.scale) := by omega
    have right : max a.scale b.scale = b.scale + (max a.scale b.scale - b.scale) := by omega
    have leftPow : (10 : ℚ) ^ max a.scale b.scale =
        10 ^ a.scale * 10 ^ (max a.scale b.scale - a.scale) := by rw [← pow_add, ← left]
    have rightPow : (10 : ℚ) ^ max a.scale b.scale =
        10 ^ b.scale * 10 ^ (max a.scale b.scale - b.scale) := by rw [← pow_add, ← right]
    simp only [Decimal.value]
    push_cast
    rw [add_div]
    congr 1
    · rw [leftPow, mul_div_mul_right _ _ (by positivity)]
    · rw [rightPow, mul_div_mul_right _ _ (by positivity)]
  · cases sum

/-- The sum of a list, from the left. -/
def sum (arith : Arith) (terms : List Decimal) : Option Decimal :=
  terms.foldlM arith.add Decimal.zero

end Arith
