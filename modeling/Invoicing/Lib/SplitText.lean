/-
**Splitting a text from its end, and trimming it.**

* `rsplitOnce` — what is before the last separator and what is after it. `rsplitn` — at most so many pieces
  of a text, the last one first; the final piece keeps its separators.
* `joinedRight` — pieces put back behind what was before them.
  **`rsplitn_eq_iff`** — all the pieces are there exactly when the text is these pieces joined and no piece
  but the final one has a separator.
* `trim` — a text without the blanks at its ends; `isWhitespace` — the blanks of Unicode.
-/

import Mathlib.Data.List.TakeWhile

namespace SplitText

/-! ### Splitting from the right -/

section Split

variable {α : Type} [DecidableEq α] {sep : α}

/-- What is before the last separator, and after it. -/
def rsplitOnce (sep : α) (text : List α) : Option (List α × List α) :=
  if sep ∈ text then
    some (((text.reverse.dropWhile (· != sep)).drop 1).reverse, (text.reverse.takeWhile (· != sep)).reverse)
  else none

/-- At most `count` pieces between separators, from the right. -/
def rsplitn (sep : α) : ℕ → List α → List (List α)
  | 0, _ => []
  | 1, text => [text]
  | count + 2, text =>
      match rsplitOnce sep text with
      | none => [text]
      | some (front, last) => last :: rsplitn sep (count + 1) front

theorem rsplitOnce_append {last : List α} (absent : sep ∉ last) (front : List α) :
    rsplitOnce sep (front ++ sep :: last) = some (front, last) := by
  have other : ∀ a ∈ last.reverse, (a != sep) = true := by
    intro a member
    rw [bne_iff_ne]
    rintro rfl
    exact absent (List.mem_reverse.mp member)
  have turned : (front ++ sep :: last).reverse = last.reverse ++ sep :: front.reverse := by simp
  unfold rsplitOnce
  rw [if_pos (by simp), turned, List.takeWhile_append_of_pos other, List.dropWhile_append_of_pos other]
  simp

/-- **The one way to split a text at its last separator.** -/
theorem rsplitOnce_eq_some_iff {text front last : List α} :
    rsplitOnce sep text = some (front, last) ↔ text = front ++ sep :: last ∧ sep ∉ last := by
  constructor
  · intro split
    have there : sep ∈ text := by
      by_contra absent
      rw [rsplitOnce, if_neg absent] at split
      cases split
    -- the first separator of the reversed text
    obtain ⟨after, before, turned, absent⟩ := List.eq_append_cons_of_mem (List.mem_reverse.mpr there)
    have shape : text = before.reverse ++ sep :: after.reverse := by
      rw [← List.reverse_reverse text, turned]
      simp
    have absent' : sep ∉ after.reverse := fun member => absent (List.mem_reverse.mp member)
    rw [shape, rsplitOnce_append absent', Option.some.injEq, Prod.mk.injEq] at split
    obtain ⟨rfl, rfl⟩ := split
    exact ⟨shape, absent'⟩
  · rintro ⟨rfl, absent⟩
    exact rsplitOnce_append absent front

/-- Pieces behind a front, the last one first. -/
def joinedRight (sep : α) (front : List α) : List (List α) → List α
  | [] => front
  | last :: pieces => joinedRight sep front pieces ++ sep :: last

/-- **All the pieces are there exactly when the text is made of them**, and none but the final one has a
separator. -/
theorem rsplitn_eq_iff {text front : List α} {pieces : List (List α)} :
    rsplitn sep (pieces.length + 1) text = pieces ++ [front] ↔
      text = joinedRight sep front pieces ∧ ∀ piece ∈ pieces, sep ∉ piece := by
  induction pieces generalizing text with
  | nil => simp [rsplitn, joinedRight]
  | cons last pieces ih =>
    have step : rsplitn sep (pieces.length + 2) text = last :: (pieces ++ [front]) ↔
        ∃ rest, rsplitOnce sep text = some (rest, last) ∧
          rsplitn sep (pieces.length + 1) rest = pieces ++ [front] := by
      rw [rsplitn]
      cases split : rsplitOnce sep text with
      | none => simp
      | some parts =>
        obtain ⟨before, after⟩ := parts
        simp only [List.cons.injEq, Option.some.injEq, Prod.mk.injEq]
        constructor
        · rintro ⟨rfl, others⟩
          exact ⟨before, ⟨rfl, rfl⟩, others⟩
        · rintro ⟨rest, ⟨rfl, rfl⟩, others⟩
          exact ⟨rfl, others⟩
    rw [List.length_cons, List.cons_append, step, List.forall_mem_cons]
    constructor
    · rintro ⟨rest, split, others⟩
      obtain ⟨rfl, absent⟩ := rsplitOnce_eq_some_iff.mp split
      obtain ⟨rfl, free⟩ := ih.mp others
      exact ⟨rfl, absent, free⟩
    · rintro ⟨rfl, absent, free⟩
      exact ⟨_, rsplitOnce_append absent _, ih.mpr ⟨rfl, free⟩⟩

end Split

/-- The characters of two texts with a separator between them. -/
theorem toList_joined {separator : String} (c : Char) (one : separator.toList = [c]) (first rest : String) :
    (first ++ separator ++ rest).toList = first.toList ++ c :: rest.toList := by
  rw [String.toList_append, String.toList_append, one, List.append_assoc, List.singleton_append]

/-! ### Blanks -/

/-- The blanks of Unicode. -/
def isWhitespace (c : Char) : Bool :=
  let code := c.toNat
  (0x9 ≤ code && code ≤ 0xD) || code == 0x20 || code == 0x85 || code == 0xA0 || code == 0x1680 ||
    (0x2000 ≤ code && code ≤ 0x200A) || code == 0x2028 || code == 0x2029 || code == 0x202F ||
    code == 0x205F || code == 0x3000

/-- A text without the blanks at its ends. -/
def trim (text : List Char) : List Char :=
  ((text.dropWhile isWhitespace).reverse.dropWhile isWhitespace).reverse

end SplitText
