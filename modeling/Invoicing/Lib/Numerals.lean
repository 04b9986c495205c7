/-
**The spellings of a number that are read.**

* `spelling` — a plus sign or none, some zeros, and the digits of a number.
* `readUnsigned` — an unsigned integer up to a bound, as the standard library reads it.
  **`readUnsigned_eq_some_iff`** — what it reads is exactly the spellings of the numbers up to the bound.
* `spelling_eq_toDigits_iff`, `spelling_eq_twoDigits_iff` — the spellings without sign and zeros, and those
  of two digits.
-/

import Invoicing.Lib.DigitText
import Mathlib.Data.List.Induction

namespace DigitText

/-! ### Zeros in front -/

theorem isDigit_eq_digitChar {c : Char} (digit : c.isDigit = true) : ∃ d < 10, c = Nat.digitChar d := by
  have bounds : 48 ≤ c.toNat ∧ c.toNat ≤ 57 := by
    have := Char.isDigit_iff_toNat.mp digit
    exact this
  refine ⟨c.toNat - 48, by omega, ?_⟩
  apply Char.toNat_inj.mp
  rw [Nat.toNat_digitChar_of_lt_ten (by omega)]
  omega

/-- **Any digits are zeros and then the digits of their number.** -/
theorem eq_zeros_append_toDigits {digits : List Char} (all : digits.all Char.isDigit) (nonempty : digits ≠ []) :
    ∃ zeros, digits = List.replicate zeros '0' ++ Nat.toDigits 10 (Nat.ofDigitChars 10 digits 0) := by
  induction digits using List.reverseRecOn with
  | nil => exact absurd rfl nonempty
  | append_singleton front last ih =>
    rw [List.all_append, Bool.and_eq_true] at all
    obtain ⟨d, small, rfl⟩ := isDigit_eq_digitChar (by simpa using all.2)
    have value : Nat.ofDigitChars 10 (front ++ [Nat.digitChar d]) 0 =
        10 * Nat.ofDigitChars 10 front 0 + d := by
      rw [Nat.ofDigitChars_append, Nat.ofDigitChars_cons_digitChar_of_lt_ten small, Nat.ofDigitChars_nil]
    have single : Nat.toDigits 10 d = [Nat.digitChar d] := Nat.toDigits_of_lt_base small
    rw [value]
    cases front with
    | nil =>
      refine ⟨0, ?_⟩
      rw [Nat.ofDigitChars_nil, Nat.mul_zero, Nat.zero_add, single]
      rfl
    | cons c rest =>
      obtain ⟨zeros, shape⟩ := ih all.1 (List.cons_ne_nil c rest)
      generalize Nat.ofDigitChars 10 (c :: rest) 0 = number at shape ⊢
      rw [shape]
      rcases Nat.eq_zero_or_pos number with rfl | positive
      · -- nothing but zeros so far
        refine ⟨zeros + 1, ?_⟩
        rw [Nat.mul_zero, Nat.zero_add, single, Nat.toDigits_zero, List.replicate_succ']
      · refine ⟨zeros, ?_⟩
        rw [← Nat.toDigits_append_toDigits (by norm_num) positive small, single, List.append_assoc]

/-! ### Spellings -/

/-- A number with a plus sign or not, some zeros and its digits. -/
def spelling (plus : Bool) (zeros n : ℕ) : List Char :=
  (if plus then ['+'] else []) ++ (List.replicate zeros '0' ++ Nat.toDigits 10 n)

theorem isDigit_zeros_append (zeros n : ℕ) :
    (List.replicate zeros '0' ++ Nat.toDigits 10 n).all Char.isDigit := by
  rw [List.all_append, isDigit_toDigits, Bool.and_true, List.all_eq_true]
  intro c member
  rw [List.eq_of_mem_replicate member]
  rfl

theorem ofDigitChars_zeros_append (zeros n : ℕ) :
    Nat.ofDigitChars 10 (List.replicate zeros '0' ++ Nat.toDigits 10 n) 0 = n := by
  rw [Nat.ofDigitChars_append, Nat.ofDigitChars_replicate_zero, Nat.mul_zero, Nat.ofDigitChars_ten_toDigits]

theorem length_spelling (plus : Bool) (zeros n : ℕ) :
    (spelling plus zeros n).length = plus.toNat + zeros + (Nat.toDigits 10 n).length := by
  cases plus
  · simp [spelling]
  · simp [spelling]
    omega

/-! ### Reading -/

/-- An unsigned integer up to a bound; a plus sign may stand in front. -/
def readUnsigned (max : ℕ) (text : List Char) : Option ℕ :=
  let digits := if text.head? = some '+' then text.tail else text
  if digits ≠ [] ∧ digits.all Char.isDigit ∧ Nat.ofDigitChars 10 digits 0 ≤ max then
    some (Nat.ofDigitChars 10 digits 0)
  else none

/-- A text is what stands after its sign, with the sign in front. -/
theorem eq_sign_append {text digits : List Char}
    (rest : (if text.head? = some '+' then text.tail else text) = digits) :
    ∃ plus : Bool, text = (if plus then ['+'] else []) ++ digits := by
  by_cases signed : text.head? = some '+'
  · rw [if_pos signed] at rest
    obtain ⟨others, rfl⟩ := List.head?_eq_some_iff.mp signed
    exact ⟨true, congrArg (['+'] ++ ·) rest⟩
  · rw [if_neg signed] at rest
    exact ⟨false, rest⟩

/-- What stands after the sign of a spelling. -/
theorem digits_of_spelling (plus : Bool) (zeros n : ℕ) :
    (if (spelling plus zeros n).head? = some '+' then (spelling plus zeros n).tail
      else spelling plus zeros n) = List.replicate zeros '0' ++ Nat.toDigits 10 n := by
  cases plus with
  | true => rfl
  | false =>
    have unsigned : spelling false zeros n = List.replicate zeros '0' ++ Nat.toDigits 10 n := rfl
    rw [unsigned]
    refine if_neg fun signed => ?_
    obtain ⟨others, shape⟩ := List.head?_eq_some_iff.mp signed
    have all := isDigit_zeros_append zeros n
    rw [shape] at all
    exact absurd all (by simp)

/-- **What is read is exactly the spellings of the numbers up to the bound.** -/
theorem readUnsigned_eq_some_iff {max n : ℕ} {text : List Char} :
    readUnsigned max text = some n ↔ n ≤ max ∧ ∃ plus zeros, text = spelling plus zeros n := by
  unfold readUnsigned
  constructor
  · intro read
    generalize rest : (if text.head? = some '+' then text.tail else text) = digits at read
    by_cases fits : digits ≠ [] ∧ digits.all Char.isDigit ∧ Nat.ofDigitChars 10 digits 0 ≤ max
    · obtain ⟨nonempty, all, room⟩ := id fits
      obtain rfl := Option.some.inj ((if_pos fits).symm.trans read)
      obtain ⟨zeros, shape⟩ := eq_zeros_append_toDigits all nonempty
      obtain ⟨plus, whole⟩ := eq_sign_append rest
      refine ⟨room, plus, zeros, ?_⟩
      unfold spelling
      rw [← shape]
      exact whole
    · exact absurd ((if_neg fits).symm.trans read) (by simp)
  · rintro ⟨room, plus, zeros, rfl⟩
    rw [digits_of_spelling]
    have value := ofDigitChars_zeros_append zeros n
    have nonempty : List.replicate zeros '0' ++ Nat.toDigits 10 n ≠ [] :=
      List.append_ne_nil_of_right_ne_nil _ (toDigits_ne_nil n)
    dsimp only
    rw [if_pos ⟨nonempty, isDigit_zeros_append zeros n, value.le.trans room⟩, value]

/-! ### The plain spellings -/

/-- A number's own digits have no sign and no zeros in front. -/
theorem spelling_eq_toDigits_iff {plus : Bool} {zeros n : ℕ} :
    spelling plus zeros n = Nat.toDigits 10 n ↔ plus = false ∧ zeros = 0 := by
  constructor
  · intro same
    have lengths := congrArg List.length same
    rw [length_spelling] at lengths
    cases plus with
    | true => exact absurd lengths (by simp only [Bool.toNat_true]; omega)
    | false => exact ⟨rfl, by simp only [Bool.toNat_false] at lengths; omega⟩
  · rintro ⟨rfl, rfl⟩
    rfl

/-- Two digits: no sign, and a zero exactly before a single digit. -/
theorem spelling_eq_twoDigits_iff {plus : Bool} {zeros n : ℕ} (room : n < 100) :
    spelling plus zeros n = decimalDigits 2 n ↔ plus = false ∧ zeros = if n < 10 then 1 else 0 := by
  have digits : decimalDigits 2 n = spelling false (if n < 10 then 1 else 0) n := by
    by_cases small : n < 10
    · rw [if_pos small, spelling, Nat.toDigits_of_lt_base small]
      show [(n / 10 ^ 1 % 10).digitChar, (n / 10 ^ 0 % 10).digitChar] = ['0', n.digitChar]
      rw [show n / 10 ^ 1 % 10 = 0 by omega, show n / 10 ^ 0 % 10 = n by omega]
      rfl
    · rw [if_neg small, spelling, Nat.toDigits_of_base_le (by norm_num) (by omega),
        Nat.toDigits_of_lt_base (by omega)]
      show [(n / 10 ^ 1 % 10).digitChar, (n / 10 ^ 0 % 10).digitChar] =
        [(n / 10).digitChar, (n % 10).digitChar]
      rw [show n / 10 ^ 1 % 10 = n / 10 by omega, show n / 10 ^ 0 % 10 = n % 10 by omega]
  rw [digits]
  constructor
  · intro same
    have lengths := congrArg List.length same
    rw [length_spelling, length_spelling] at lengths
    cases plus with
    | true =>
      -- a plus sign is no digit
      have first : ∀ c ∈ spelling true zeros n, c.isDigit = true := by
        rw [same]
        exact List.all_eq_true.mp (isDigit_zeros_append _ n)
      exact absurd (first '+' (List.mem_cons_self)) (by decide)
    | false => exact ⟨rfl, by omega⟩
  · rintro ⟨rfl, rfl⟩
    rfl

end DigitText
