/-
**Numbered placeholders.**

* `rewritePostgres` — a text with its `?` replaced by `$1`, `$2`, … in their order. `placeholders` — the
  numbers after the `$` of a text.
* `Numbered n` — no `?` is left, and the placeholders are `$1 … $n` in this order.
* **`numbered_rewritePostgres`** — so it is after the rewriting, for any number of placeholders, when the
  text has no `$` of its own and no `?` runs into a digit.
-/

import Mathlib.Data.List.Chain

namespace Placeholders

/-- Each `?` becomes its number; `n` of them came before. -/
def rewriteFrom : ℕ → List Char → List Char
  | _, [] => []
  | n, c :: rest =>
      if c = '?' then '$' :: (Nat.toDigits 10 (n + 1) ++ rewriteFrom (n + 1) rest)
      else c :: rewriteFrom n rest

/-- The `?` of a text become `$1`, `$2`, …. -/
def rewritePostgres (text : List Char) : List Char := rewriteFrom 0 text

/-- The numbers of the placeholders; a number that is being read comes first. -/
def scan : Option ℕ → List Char → List ℕ
  | none, [] => []
  | some n, [] => [n]
  | none, c :: rest => if c = '$' then scan (some 0) rest else scan none rest
  | some n, c :: rest =>
      if c.isDigit then scan (some (10 * n + (c.toNat - '0'.toNat))) rest
      else if c = '$' then n :: scan (some 0) rest
      else n :: scan none rest

def placeholders (text : List Char) : List ℕ := scan none text

/-- The placeholders of the text are `$1 … $n`, and no `?` is left. -/
def Numbered (n : ℕ) (text : List Char) : Prop := '?' ∉ text ∧ placeholders text = List.range' 1 n

instance (n : ℕ) (text : List Char) : Decidable (Numbered n text) :=
  inferInstanceAs (Decidable (_ ∧ _))

/-- The text has no `$`, and its `?` do not run into digits. -/
def Plain (text : List Char) : Prop :=
  '$' ∉ text ∧ text.IsChain fun first second => first = '?' → second.isDigit = false

instance (text : List Char) : Decidable (Plain text) := inferInstanceAs (Decidable (_ ∧ _))

theorem Plain.tail {c : Char} {rest : List Char} (plain : Plain (c :: rest)) : Plain rest :=
  ⟨fun there => plain.1 (List.mem_cons_of_mem c there), plain.2.tail⟩

/-! ### Reading numbers -/

/-- A number is read to its last digit. -/
theorem scan_digits {digits : List Char} (all : ∀ c ∈ digits, c.isDigit = true) (n : ℕ)
    (rest : List Char) :
    scan (some n) (digits ++ rest) = scan (some (Nat.ofDigitChars 10 digits n)) rest := by
  induction digits generalizing n with
  | nil => rfl
  | cons c digits ih =>
    obtain ⟨digit, others⟩ := List.forall_mem_cons.mp all
    rw [List.cons_append, scan, if_pos digit, ih others]
    rfl

/-- A number ends where no digit follows. -/
theorem scan_end {n : ℕ} {text : List Char} (ends : ∀ c ∈ text.head?, c.isDigit = false) :
    scan (some n) text = n :: scan none text := by
  cases text with
  | nil => rfl
  | cons c rest =>
    have noDigit : c.isDigit = false := ends c rfl
    by_cases dollar : c = '$'
    · subst dollar
      rfl
    · simp only [scan, noDigit, dollar, Bool.false_eq_true, if_false]

/-! ### What the rewriting gives -/

theorem not_mem_rewriteFrom (n : ℕ) (text : List Char) : '?' ∉ rewriteFrom n text := by
  induction text generalizing n with
  | nil => exact List.not_mem_nil
  | cons c rest ih =>
    rw [rewriteFrom]
    by_cases mark : c = '?'
    · rw [if_pos mark, List.mem_cons, List.mem_append]
      rintro (dollar | digit | later)
      · exact absurd dollar (by decide)
      · exact absurd (Nat.isDigit_of_mem_toDigits (by decide) (by decide) digit) (by decide)
      · exact ih (n + 1) later
    · rw [if_neg mark, List.mem_cons]
      rintro (same | later)
      · exact mark same.symm
      · exact ih n later

/-- A rewritten text starts as the text does, or with a `$`. -/
theorem head_rewriteFrom {n : ℕ} {text : List Char} (starts : ∀ c ∈ text.head?, c.isDigit = false) :
    ∀ c ∈ (rewriteFrom n text).head?, c.isDigit = false := by
  cases text with
  | nil => exact fun _ absent => by cases absent
  | cons c rest =>
    rw [rewriteFrom]
    by_cases mark : c = '?'
    · rw [if_pos mark]
      rintro _ ⟨⟩
      rfl
    · rw [if_neg mark]
      exact starts

/-- **The numbers are in order**, from the one that is next. -/
theorem scan_rewriteFrom {text : List Char} (plain : Plain text) (n : ℕ) :
    scan none (rewriteFrom n text) = List.range' (n + 1) (text.count '?') := by
  induction text generalizing n with
  | nil => rfl
  | cons c rest ih =>
    rw [rewriteFrom]
    by_cases mark : c = '?'
    · subst mark
      have starts : ∀ c ∈ rest.head?, c.isDigit = false := by
        intro c first
        cases rest with
        | nil => cases first
        | cons d others =>
          cases first
          exact (List.isChain_cons_cons.mp plain.2).1 rfl
      have digits : ∀ c ∈ Nat.toDigits 10 (n + 1), c.isDigit = true := fun c member =>
        Nat.isDigit_of_mem_toDigits (by decide) (by decide) member
      rw [if_pos rfl, scan, if_pos rfl, scan_digits digits, Nat.ofDigitChars_toDigits (by decide) le_rfl,
        scan_end (head_rewriteFrom starts), ih plain.tail, List.count_cons_self, List.range'_succ]
    · have other : c ≠ '$' := fun dollar => plain.1 (dollar ▸ List.mem_cons_self ..)
      rw [if_neg mark, scan, if_neg other, ih plain.tail, List.count_cons_of_ne mark]

/-- **A rewritten text is numbered**, for any number of placeholders. -/
theorem numbered_rewritePostgres {text : List Char} (plain : Plain text) :
    Numbered (text.count '?') (rewritePostgres text) :=
  ⟨not_mem_rewriteFrom 0 text, scan_rewriteFrom plain 0⟩

/-- A text with a `?` is not numbered. -/
theorem not_numbered {n : ℕ} {text : List Char} (mark : '?' ∈ text) : ¬ Numbered n text :=
  fun numbered => numbered.1 mark

end Placeholders
