/-
**Fixed-width digit text and its lexicographic order.**

* `fixedDigits base glyph width n` — the `width` lowest digits of `n`, most significant first, each
  written by `glyph`. Equal texts are equal numbers modulo `base ^ width`
  (`fixedDigits_inj`), and the text order is the numeric order (`fixedDigits_lt_iff`).
* `padDigits width n` — decimal text, padded with zeros to `width` and longer when the number needs
  it. Injective (`padDigits_injective`); `ofDigitChars_padDigits` reads it back;
  **`padDigits_closed_lt_iff`** — the text order of such numbers of any length.
* `append_lt_append_iff` — texts built from fields of equal width compare field by field.
-/

import Mathlib.Data.Char
import Mathlib.Data.List.Basic
import Mathlib.Data.List.Lex
import Mathlib.Data.Nat.Digits.Defs
import Mathlib.Tactic.Ring
import Mathlib.Tactic.IntervalCases

namespace DigitText

/-! ### The order of concatenated fields -/

section Fields

variable {α : Type} [LinearOrder α]

/-- **Fields of equal width compare first field first.** -/
theorem append_lt_append_iff {first second : List α} (width : first.length = second.length)
    (rest rest' : List α) :
    first ++ rest < second ++ rest' ↔ first < second ∨ (first = second ∧ rest < rest') := by
  induction first generalizing second with
  | nil =>
    have empty : second = [] := List.length_eq_zero_iff.mp width.symm
    subst empty
    simp
  | cons a first ih =>
    cases second with
    | nil => simp at width
    | cons b second =>
      have widths : first.length = second.length := by simpa using width
      simp only [List.cons_append, List.cons_lt_cons_iff, ih widths, List.cons.injEq]
      tauto

end Fields

/-! ### Fixed-width digits -/

section Fixed

variable (base : ℕ) (glyph : ℕ → Char)

/-- The `width` lowest digits of `n`, most significant first. -/
def fixedDigits : ℕ → ℕ → List Char
  | 0, _ => []
  | width + 1, n => glyph (n / base ^ width % base) :: fixedDigits width n

@[simp] theorem length_fixedDigits (width n : ℕ) :
    (fixedDigits base glyph width n).length = width := by
  induction width with
  | zero => rfl
  | succ width ih => simp [fixedDigits, ih]

variable {base glyph}

/-- Splitting off the leading digit of `n % base ^ (width + 1)`. -/
theorem mod_pow_succ_split (width n : ℕ) :
    n % base ^ (width + 1) = base ^ width * (n / base ^ width % base) + n % base ^ width := by
  rw [pow_succ, Nat.mod_mul, Nat.add_comm]

/-- **Equal texts are equal numbers**, modulo what the width can hold. -/
theorem fixedDigits_inj (positive : 0 < base)
    (glyphs : ∀ a < base, ∀ b < base, glyph a = glyph b → a = b) {width m n : ℕ} :
    fixedDigits base glyph width m = fixedDigits base glyph width n ↔
      m % base ^ width = n % base ^ width := by
  induction width with
  | zero => simp [fixedDigits, Nat.mod_one]
  | succ width ih =>
    simp only [fixedDigits, List.cons.injEq, ih]
    have power : 0 < base ^ width := Nat.pow_pos positive
    constructor
    · rintro ⟨head, tail⟩
      have digit := glyphs _ (Nat.mod_lt _ positive) _ (Nat.mod_lt _ positive) head
      rw [mod_pow_succ_split, mod_pow_succ_split, digit, tail]
    · intro whole
      have tail : m % base ^ width = n % base ^ width := by
        have := congrArg (· % base ^ width) whole
        simpa [Nat.mod_mod_of_dvd _ (pow_dvd_pow base (Nat.le_succ width))] using this
      rw [mod_pow_succ_split, mod_pow_succ_split, tail] at whole
      have digit : m / base ^ width % base = n / base ^ width % base :=
        Nat.eq_of_mul_eq_mul_left power (Nat.add_right_cancel whole)
      exact ⟨by rw [digit], tail⟩

/-- **The text order is the numeric order**, modulo what the width can hold. -/
theorem fixedDigits_lt_iff (positive : 0 < base)
    (glyphs : ∀ a < base, ∀ b < base, (glyph a < glyph b ↔ a < b)) {width m n : ℕ} :
    fixedDigits base glyph width m < fixedDigits base glyph width n ↔
      m % base ^ width < n % base ^ width := by
  have injective : ∀ a < base, ∀ b < base, glyph a = glyph b → a = b := by
    intro a ha b hb same
    have notBelow : ¬ a < b := fun below => absurd ((glyphs a ha b hb).mpr below) (by simp [same])
    have notAbove : ¬ b < a := fun above => absurd ((glyphs b hb a ha).mpr above) (by simp [same])
    omega
  induction width with
  | zero => simp [fixedDigits, Nat.mod_one]
  | succ width ih =>
    have power : 0 < base ^ width := Nat.pow_pos positive
    have digitM : m / base ^ width % base < base := Nat.mod_lt _ positive
    have digitN : n / base ^ width % base < base := Nat.mod_lt _ positive
    simp only [fixedDigits, List.cons_lt_cons_iff, ih, glyphs _ digitM _ digitN]
    rw [mod_pow_succ_split, mod_pow_succ_split]
    have restM : m % base ^ width < base ^ width := Nat.mod_lt _ power
    have restN : n % base ^ width < base ^ width := Nat.mod_lt _ power
    generalize m % base ^ width = lowM at restM ⊢
    generalize n % base ^ width = lowN at restN ⊢
    rcases Nat.lt_trichotomy (m / base ^ width % base) (n / base ^ width % base) with below | same | above
    · have step := Nat.mul_le_mul_left (base ^ width) (Nat.succ_le_of_lt below)
      rw [Nat.mul_succ] at step
      exact iff_of_true (Or.inl below) (by omega)
    · rw [same]
      simp
    · have step := Nat.mul_le_mul_left (base ^ width) (Nat.succ_le_of_lt above)
      rw [Nat.mul_succ] at step
      refine iff_of_false ?_ (by omega)
      rintro (below | ⟨head, _⟩)
      · omega
      · exact absurd (injective _ digitM _ digitN head) (by omega)

/-- The leading digits, and the digits after them. -/
theorem fixedDigits_add (width more n : ℕ) :
    fixedDigits base glyph (width + more) n =
      fixedDigits base glyph width (n / base ^ more) ++ fixedDigits base glyph more n := by
  induction width with
  | zero => rw [Nat.zero_add]; rfl
  | succ width ih =>
    rw [Nat.succ_add, fixedDigits, fixedDigits, ih, Nat.div_div_eq_div_mul, ← pow_add, Nat.add_comm more]
    rfl

end Fixed

/-! ### Decimal text -/

theorem digitChar_lt_iff : ∀ a < 10, ∀ b < 10, (Nat.digitChar a < Nat.digitChar b ↔ a < b) := by
  decide

theorem digitChar_inj : ∀ a < 10, ∀ b < 10, Nat.digitChar a = Nat.digitChar b → a = b := by
  decide

/-- `width` decimal digits. -/
abbrev decimalDigits (width n : ℕ) : List Char := fixedDigits 10 Nat.digitChar width n

theorem decimalDigits_inj {width m n : ℕ} (hm : m < 10 ^ width) (hn : n < 10 ^ width) :
    decimalDigits width m = decimalDigits width n ↔ m = n := by
  rw [fixedDigits_inj (by norm_num) digitChar_inj, Nat.mod_eq_of_lt hm, Nat.mod_eq_of_lt hn]

theorem decimalDigits_lt_iff {width m n : ℕ} (hm : m < 10 ^ width) (hn : n < 10 ^ width) :
    decimalDigits width m < decimalDigits width n ↔ m < n := by
  rw [fixedDigits_lt_iff (by norm_num) digitChar_lt_iff, Nat.mod_eq_of_lt hm, Nat.mod_eq_of_lt hn]

/-- Decimal text padded with zeros to at least `width` digits. -/
def padDigits (width n : ℕ) : List Char :=
  if n < 10 ^ width then decimalDigits width n else Nat.toDigits 10 n

theorem isDigit_decimalDigits (width n : ℕ) : (decimalDigits width n).all Char.isDigit := by
  induction width with
  | zero => rfl
  | succ width ih =>
    have digit : ∀ a < 10, (Nat.digitChar a).isDigit := by decide
    rw [decimalDigits, fixedDigits, List.all_cons, digit _ (Nat.mod_lt _ (by norm_num))]
    exact ih

theorem isDigit_toDigits (n : ℕ) : (Nat.toDigits 10 n).all Char.isDigit := by
  rw [List.all_eq_true]
  intro c member
  exact Nat.isDigit_of_mem_toDigits (by norm_num) (by norm_num) member

/-- The number `width` digits stand for, after a prefix worth `start`. -/
theorem ofDigitChars_decimalDigits (width n start : ℕ) :
    Nat.ofDigitChars 10 (decimalDigits width n) start = start * 10 ^ width + n % 10 ^ width := by
  induction width generalizing start with
  | zero => simp [fixedDigits, Nat.ofDigitChars_nil, Nat.mod_one]
  | succ width ih =>
    have digit : n / 10 ^ width % 10 < 10 := Nat.mod_lt _ (by norm_num)
    rw [decimalDigits, fixedDigits, Nat.ofDigitChars_cons_digitChar_of_lt_ten digit]
    have rest := ih (10 * start + n / 10 ^ width % 10)
    rw [decimalDigits] at rest
    rw [rest, mod_pow_succ_split, pow_succ]
    ring

theorem toDigits_ne_nil (n : ℕ) : Nat.toDigits 10 n ≠ [] := by
  intro empty
  have := Nat.length_toDigits_pos (b := 10) (n := n)
  rw [empty] at this
  simp at this

theorem toDigits_injective {m n : ℕ} (same : Nat.toDigits 10 m = Nat.toDigits 10 n) : m = n := by
  rw [← Nat.ofDigitChars_ten_toDigits (n := m), same, Nat.ofDigitChars_ten_toDigits]

/-- **Padded decimal text determines the number.** -/
theorem padDigits_injective {width : ℕ} (positive : 0 < width) :
    Function.Injective (padDigits width) := by
  intro m n same
  have long : ∀ k, ¬ k < 10 ^ width → width < (Nat.toDigits 10 k).length := by
    intro k large
    by_contra short
    exact large ((Nat.length_toDigits_le_iff (by norm_num) positive).mp (by omega))
  unfold padDigits at same
  split at same <;> split at same
  · rename_i hm hn
    exact (decimalDigits_inj hm hn).mp same
  · rename_i hm hn
    have lengths := congrArg List.length same
    rw [length_fixedDigits] at lengths
    exact absurd lengths (long n hn).ne
  · rename_i hm hn
    have lengths := congrArg List.length same
    rw [length_fixedDigits] at lengths
    exact absurd lengths (long m hm).ne'
  · exact toDigits_injective same

theorem isDigit_padDigits (width n : ℕ) : (padDigits width n).all Char.isDigit := by
  unfold padDigits
  split
  · exact isDigit_decimalDigits width n
  · exact isDigit_toDigits n

theorem ofDigitChars_padDigits (width n : ℕ) : Nat.ofDigitChars 10 (padDigits width n) 0 = n := by
  unfold padDigits
  split
  · rename_i room
    rw [ofDigitChars_decimalDigits, zero_mul, zero_add, Nat.mod_eq_of_lt room]
  · exact Nat.ofDigitChars_ten_toDigits

/-- A number's own digits are as many digits of fixed width. -/
theorem toDigits_eq_decimalDigits (n : ℕ) :
    Nat.toDigits 10 n = decimalDigits (Nat.toDigits 10 n).length n := by
  induction n using Nat.strong_induction_on with
  | _ n ih =>
    by_cases small : n < 10
    · rw [Nat.toDigits_of_lt_base small]
      show [n.digitChar] = [(n / 10 ^ 0 % 10).digitChar]
      rw [pow_zero, Nat.div_one, Nat.mod_eq_of_lt small]
    · have split := Nat.toDigits_of_base_le (b := 10) (by norm_num) (Nat.not_lt.mp small)
      have length : (Nat.toDigits 10 n).length = (Nat.toDigits 10 (n / 10)).length + 1 := by
        rw [split, List.length_append, List.length_singleton]
      have last : decimalDigits 1 n = [Nat.digitChar (n % 10)] := by
        show [(n / 10 ^ 0 % 10).digitChar] = _
        rw [pow_zero, Nat.div_one]
      calc Nat.toDigits 10 n
          = decimalDigits (Nat.toDigits 10 (n / 10)).length (n / 10) ++ decimalDigits 1 n := by
            rw [split, last, ← ih (n / 10) (by omega)]
        _ = decimalDigits (Nat.toDigits 10 n).length n := by
            rw [length]
            exact (fixedDigits_add _ 1 n).symm

/-- How many digits a padded number has. -/
def paddedWidth (width n : ℕ) : ℕ := max width (Nat.toDigits 10 n).length

theorem lt_pow_paddedWidth (width n : ℕ) : n < 10 ^ paddedWidth width n := by
  have positive := Nat.length_toDigits_pos (b := 10) (n := n)
  have own : n < 10 ^ (Nat.toDigits 10 n).length :=
    (Nat.length_toDigits_le_iff (by norm_num) positive).mp le_rfl
  exact lt_of_lt_of_le own (Nat.pow_le_pow_right (by norm_num) (le_max_right _ _))

theorem paddedWidth_mono (width : ℕ) {m n : ℕ} (le : m ≤ n) : paddedWidth width m ≤ paddedWidth width n := by
  have positive := Nat.length_toDigits_pos (b := 10) (n := n)
  have own : n < 10 ^ (Nat.toDigits 10 n).length :=
    (Nat.length_toDigits_le_iff (by norm_num) positive).mp le_rfl
  have below := (Nat.length_toDigits_le_iff (b := 10) (n := m) (by norm_num) positive).mpr (by omega)
  exact max_le_max le_rfl below

/-- Padded decimal text is text of a fixed width that holds the number. -/
theorem padDigits_eq {width : ℕ} (positive : 0 < width) (n : ℕ) :
    padDigits width n = decimalDigits (paddedWidth width n) n := by
  unfold padDigits paddedWidth
  by_cases room : n < 10 ^ width
  · rw [if_pos room, max_eq_left ((Nat.length_toDigits_le_iff (by norm_num) positive).mpr room)]
  · have long : width ≤ (Nat.toDigits 10 n).length := by
      by_contra short
      exact room ((Nat.length_toDigits_le_iff (by norm_num) positive).mp (by omega))
    rw [if_neg room, max_eq_right long]
    exact toDigits_eq_decimalDigits n

/-- The leading digits of a number, as many as another one has, and the digits after them. -/
theorem padDigits_split {width m n : ℕ} (positive : 0 < width)
    (widths : paddedWidth width m ≤ paddedWidth width n) :
    padDigits width n =
        decimalDigits (paddedWidth width m) (n / 10 ^ (paddedWidth width n - paddedWidth width m)) ++
          decimalDigits (paddedWidth width n - paddedWidth width m) n ∧
      n / 10 ^ (paddedWidth width n - paddedWidth width m) < 10 ^ paddedWidth width m := by
  have holds := lt_pow_paddedWidth width n
  obtain ⟨more, wider⟩ := Nat.exists_eq_add_of_le widths
  rw [padDigits_eq positive, wider, Nat.add_sub_cancel_left]
  rw [wider, pow_add] at holds
  exact ⟨fixedDigits_add _ more n, (Nat.div_lt_iff_lt_mul (Nat.pow_pos (by norm_num))).mpr holds⟩

/-- **Digits of fractions sort as the fractions do**, however many places each has, when what closes them
is below the digits. -/
theorem decimalDigits_closed_lt {places places' m n : ℕ} {close : Char}
    (low : ∀ digit < 10, close < Nat.digitChar digit) (hm : m < 10 ^ places) (hn : n < 10 ^ places')
    (less : m * 10 ^ places' < n * 10 ^ places) (rest rest' : List Char) :
    decimalDigits places m ++ close :: rest < decimalDigits places' n ++ close :: rest' := by
  rcases Nat.le_total places places' with few | few
  · obtain ⟨more, rfl⟩ := Nat.exists_eq_add_of_le few
    have leading : n / 10 ^ more < 10 ^ places := by
      rw [Nat.div_lt_iff_lt_mul (Nat.pow_pos (by norm_num)), ← pow_add]
      exact hn
    have least : m * 10 ^ more < n := by
      rw [pow_add, ← mul_assoc, Nat.mul_right_comm] at less
      exact Nat.lt_of_mul_lt_mul_right less
    have text : decimalDigits (places + more) n =
        decimalDigits places (n / 10 ^ more) ++ decimalDigits more n := fixedDigits_add places more n
    rw [text, List.append_assoc, append_lt_append_iff (by simp), decimalDigits_lt_iff hm leading,
      decimalDigits_inj hm leading]
    cases more with
    | zero =>
      rw [pow_zero, mul_one] at least
      rw [pow_zero, Nat.div_one]
      exact Or.inl least
    | succ more =>
      have shorter : close :: rest < decimalDigits (more + 1) n ++ close :: rest' :=
        List.cons_lt_cons_iff.mpr (Or.inl (low _ (Nat.mod_lt _ (by norm_num))))
      have most : m ≤ n / 10 ^ (more + 1) := (Nat.le_div_iff_mul_le (Nat.pow_pos (by norm_num))).mpr least.le
      rcases Nat.lt_or_eq_of_le most with below | same
      · exact Or.inl below
      · exact Or.inr ⟨same, shorter⟩
  · obtain ⟨more, rfl⟩ := Nat.exists_eq_add_of_le few
    have leading : m / 10 ^ more < 10 ^ places' := by
      rw [Nat.div_lt_iff_lt_mul (Nat.pow_pos (by norm_num)), ← pow_add]
      exact hm
    have most : m < n * 10 ^ more := by
      rw [pow_add, mul_comm (10 ^ places'), ← mul_assoc] at less
      exact Nat.lt_of_mul_lt_mul_right less
    have text : decimalDigits (places' + more) m =
        decimalDigits places' (m / 10 ^ more) ++ decimalDigits more m := fixedDigits_add places' more m
    rw [text, List.append_assoc, append_lt_append_iff (by simp), decimalDigits_lt_iff leading hn]
    exact Or.inl ((Nat.div_lt_iff_lt_mul (Nat.pow_pos (by norm_num))).mpr most)

section Closed

variable {width m n : ℕ} {close : Char}

/-- **Different numbers in decimal, each closed by a character below the digits**: the one with no more
digits comes first exactly when it is at most the leading digits of the other. -/
theorem padDigits_closed_lt_iff (positive : 0 < width) (low : ∀ digit < 10, close < Nat.digitChar digit)
    (differ : m ≠ n) (widths : paddedWidth width m ≤ paddedWidth width n) (rest rest' : List Char) :
    padDigits width m ++ close :: rest < padDigits width n ++ close :: rest' ↔
      m ≤ n / 10 ^ (paddedWidth width n - paddedWidth width m) := by
  obtain ⟨text, leading⟩ := padDigits_split positive widths
  rw [text, padDigits_eq positive m, List.append_assoc, append_lt_append_iff (by simp),
    decimalDigits_lt_iff (lt_pow_paddedWidth width m) leading,
    decimalDigits_inj (lt_pow_paddedWidth width m) leading]
  cases paddedWidth width n - paddedWidth width m with
  | zero =>
    rw [pow_zero, Nat.div_one]
    omega
  | succ more =>
    have shorter : close :: rest < decimalDigits (more + 1) n ++ close :: rest' :=
      List.cons_lt_cons_iff.mpr (Or.inl (low _ (Nat.mod_lt _ (by norm_num))))
    simp only [shorter, and_true]
    omega

/-- The other way round: the longer one comes first exactly when its leading digits are less. -/
theorem padDigits_closed_gt_iff (positive : 0 < width) (low : ∀ digit < 10, close < Nat.digitChar digit)
    (differ : m ≠ n) (widths : paddedWidth width m ≤ paddedWidth width n) (rest rest' : List Char) :
    padDigits width n ++ close :: rest' < padDigits width m ++ close :: rest ↔
      n / 10 ^ (paddedWidth width n - paddedWidth width m) < m := by
  obtain ⟨text, leading⟩ := padDigits_split positive widths
  rw [text, padDigits_eq positive m, List.append_assoc, append_lt_append_iff (by simp),
    decimalDigits_lt_iff leading (lt_pow_paddedWidth width m),
    decimalDigits_inj leading (lt_pow_paddedWidth width m)]
  cases paddedWidth width n - paddedWidth width m with
  | zero =>
    rw [pow_zero, Nat.div_one]
    omega
  | succ more =>
    have longer : ¬ decimalDigits (more + 1) n ++ close :: rest' < close :: rest :=
      not_lt.mpr (List.cons_lt_cons_iff.mpr (Or.inl (low _ (Nat.mod_lt _ (by norm_num))))).le
    simp only [longer, and_false, or_false]

end Closed

theorem padDigits_ne_nil {width : ℕ} (positive : 0 < width) (n : ℕ) : padDigits width n ≠ [] := by
  unfold padDigits
  split
  · intro empty
    have length := congrArg List.length empty
    rw [length_fixedDigits, List.length_nil] at length
    omega
  · exact toDigits_ne_nil n

end DigitText
