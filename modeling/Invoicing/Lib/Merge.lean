/-
**Lists drawn from, one element at a time.**

* `Drawn lists drawn left` — elements are taken from the fronts of the lists, in any order: `drawn` in the
  order in which they were taken, and `left` is what is left of each list.
* `Drawn.front` — an element is taken while more lists come after.
* **`Drawn.perm`** — every element is drawn or left, and once. **`Drawn.part`** — what is drawn of a list is
  a beginning of it, in its order.
* `Drawn.drained` — when nothing is left, all was drawn.
-/

import Mathlib.Data.List.Perm.Basic
import Mathlib.Data.List.Basic

namespace Merge

variable {α : Type}

/-- Elements are taken from the fronts of the lists, in any order. -/
inductive Drawn : List (List α) → List α → List (List α) → Prop
  | none (lists : List (List α)) : Drawn lists [] lists
  | draw {lists : List (List α)} {i : ℕ} {a : α} {rest drawn : List α} {left : List (List α)}
      (front : lists[i]? = some (a :: rest)) (later : Drawn (lists.set i rest) drawn left) :
      Drawn lists (a :: drawn) left

/-- The lists with a place set have the elements of the place and of the other lists. -/
theorem perm_flatten_set {lists : List (List α)} {i : ℕ} {list : List α} (there : lists[i]? = some list)
    (new : List α) : (list ++ (lists.set i new).flatten).Perm (new ++ lists.flatten) := by
  induction lists generalizing i with
  | nil => cases there
  | cons first rest ih =>
    cases i with
    | zero =>
      obtain rfl : first = list := Option.some.inj there
      rw [List.set_cons_zero, List.flatten_cons, List.flatten_cons, ← List.append_assoc,
        ← List.append_assoc]
      exact List.perm_append_comm.append_right _
    | succ i =>
      rw [List.set_cons_succ, List.flatten_cons, List.flatten_cons]
      calc (list ++ (first ++ (rest.set i new).flatten)).Perm (first ++ (list ++ (rest.set i new).flatten)) :=
            List.perm_append_comm_assoc _ _ _
        _ |>.Perm (first ++ (new ++ rest.flatten)) := (ih there).append_left first
        _ |>.Perm (new ++ (first ++ rest.flatten)) := List.perm_append_comm_assoc _ _ _

namespace Drawn

variable {lists left : List (List α)} {drawn : List α}

/-- An element is taken of lists that more lists come after. -/
theorem front {i : ℕ} {a : α} {rest : List α} (here : lists[i]? = some (a :: rest)) {more : List (List α)}
    (later : Drawn (lists.set i rest ++ more) drawn left) : Drawn (lists ++ more) (a :: drawn) left := by
  have inside : i < lists.length := (List.getElem?_eq_some_iff.mp here).1
  have there : (lists ++ more)[i]? = some (a :: rest) := by
    rw [List.getElem?_append_left inside]
    exact here
  have taken : (lists ++ more).set i rest = lists.set i rest ++ more := List.set_append_left _ _ inside
  exact .draw there (taken ▸ later)

/-- **Every element is drawn or left, and once.** -/
theorem perm (draws : Drawn lists drawn left) : (drawn ++ left.flatten).Perm lists.flatten := by
  induction draws with
  | none lists => exact List.Perm.refl _
  | @draw lists i a rest drawn left front later ih =>
    have moved := perm_flatten_set front rest
    have whole : (rest ++ a :: drawn ++ left.flatten).Perm (rest ++ lists.flatten) := by
      refine List.Perm.trans ?_ moved
      rw [List.append_assoc, List.cons_append]
      exact List.perm_middle.trans ((ih.append_left rest).cons a)
    rw [List.append_assoc] at whole
    exact (List.perm_append_left_iff rest).mp whole

/-- **What is drawn of a list is a beginning of it**, in its order. -/
theorem part (draws : Drawn lists drawn left) {i : ℕ} {list : List α} (there : lists[i]? = some list) :
    ∃ taken rest, list = taken ++ rest ∧ left[i]? = some rest ∧ taken.Sublist drawn := by
  induction draws generalizing list with
  | none lists => exact ⟨[], list, rfl, there, List.nil_sublist _⟩
  | @draw lists j a rest drawn left front later ih =>
    by_cases here : j = i
    · subst here
      obtain rfl : list = a :: rest := Option.some.inj (there.symm.trans front)
      have inside : j < lists.length := (List.getElem?_eq_some_iff.mp front).1
      obtain ⟨taken, rest', split, leaves, within⟩ := ih (List.getElem?_set_self inside)
      exact ⟨a :: taken, rest', by rw [split, List.cons_append], leaves, within.cons_cons a⟩
    · have same : (lists.set j rest)[i]? = some list := by
        rw [List.getElem?_set_ne here]
        exact there
      obtain ⟨taken, rest', split, leaves, within⟩ := ih same
      exact ⟨taken, rest', split, leaves, within.cons a⟩

/-- **When nothing is left, all was drawn.** -/
theorem drained (draws : Drawn lists drawn left) (empty : ∀ list ∈ left, list = []) :
    drawn.Perm lists.flatten := by
  have nothing : left.flatten = [] := List.flatten_eq_nil_iff.mpr empty
  have all := draws.perm
  rwa [nothing, List.append_nil] at all

end Drawn

end Merge
