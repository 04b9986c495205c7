/-
**`ORDER BY` one column, and `LIMIT`.**

* `OrderBy column` — a way to order any table by a column: the rows are the same and the column does
  not decrease. Rows with equal values may come in any order, as SQL leaves open.
* `OrderBy.stable` — ties in the order of the table.
* **`OrderBy.forall_eq_iff`** — every such way returns a table of distinct rows as it is exactly when
  its column increases strictly.
* `limitRows` — at most so many rows; a negative limit is none. `OrderBy.of_limitRows` — rows left out
  are not before rows returned.
-/

import Mathlib.Data.List.Pairwise
import Mathlib.Data.List.Sort

section OrderBy

variable {ρ τ : Type} [LinearOrder τ]

/-- A way to order tables by a column. -/
structure OrderBy (column : ρ → τ) where
  rows : List ρ → List ρ
  perm : ∀ table, (rows table).Perm table
  sorted : ∀ table, (rows table).Pairwise fun first second => column first ≤ column second

namespace OrderBy

/-- Ties are left in the order of the table. -/
def stable (column : ρ → τ) : OrderBy column where
  rows table := table.insertionSort fun first second => column first ≤ column second
  perm := List.perm_insertionSort _
  sorted table := by
    have total : Std.Total fun first second : ρ => column first ≤ column second :=
      ⟨fun first second => le_total _ _⟩
    have trans : IsTrans ρ fun first second => column first ≤ column second :=
      ⟨fun _ _ _ => le_trans⟩
    exact List.pairwise_insertionSort _ table

/-- Columns that compare alike order alike. -/
theorem stable_congr {τ' : Type} [LinearOrder τ'] {column : ρ → τ} {column' : ρ → τ'}
    (alike : ∀ first second, column first ≤ column second ↔ column' first ≤ column' second)
    (table : List ρ) : (stable column).rows table = (stable column').rows table := by
  have sorted := List.map_insertionSort (fun first second => column first ≤ column second)
    (fun first second => column' first ≤ column' second) id table
    fun first _ second _ => alike first second
  rwa [List.map_id, List.map_id] at sorted

/-- Ordering the images of rows is ordering the rows by the column of their images. -/
theorem stable_map {ρ' : Type} (column : ρ → τ) (f : ρ' → ρ) (table : List ρ') :
    (stable column).rows (table.map f) = ((stable fun row => column (f row)).rows table).map f := by
  refine (List.map_insertionSort _ _ _ _ ?_).symm
  exact fun _ _ _ _ => Iff.rfl

variable {column : ρ → τ} (order : OrderBy column)

theorem mem_rows {table : List ρ} {row : ρ} : row ∈ order.rows table ↔ row ∈ table :=
  (order.perm table).mem_iff

/-- **A table in strictly increasing order is returned as it is.** -/
theorem eq_of_increasing {table : List ρ}
    (increasing : table.Pairwise fun first second => column first < column second) :
    order.rows table = table := by
  have apart : ∀ first ∈ table, ∀ second ∈ table, column first = column second → first = second := by
    intro first member second member' same
    by_contra different
    have apart : table.Pairwise fun first second => column first ≠ column second :=
      increasing.imp ne_of_lt
    have symm : Std.Symm fun first second : ρ => column first ≠ column second :=
      ⟨fun _ _ => Ne.symm⟩
    exact apart.forall member member' different same
  refine (order.perm table).eq_of_pairwise ?_ (order.sorted table) (increasing.imp le_of_lt)
  intro first second member member' le ge
  exact apart first (order.mem_rows.mp member) second member' (le_antisymm le ge)

/-- Ties are left in the reverse order of the table. -/
def reversed (column : ρ → τ) : OrderBy column where
  rows table := (stable column).rows table.reverse
  perm table := ((stable column).perm table.reverse).trans table.reverse_perm
  sorted table := (stable column).sorted table.reverse

/-- Two rows of a table of distinct rows stand in one order only. -/
theorem not_both_orders {table : List ρ} (distinct : table.Nodup) {first second : ρ}
    (one : [first, second].Sublist table) (other : [second, first].Sublist table) : False := by
  induction table with
  | nil => cases one
  | cons row rest ih =>
    obtain ⟨new, distinct⟩ := List.nodup_cons.mp distinct
    rcases List.cons_sublist_cons'.mp one with later | ⟨rfl, there⟩
    · rcases List.cons_sublist_cons'.mp other with later' | ⟨rfl, there⟩
      · exact ih distinct later later'
      · exact new (later.subset (List.mem_cons_of_mem _ List.mem_cons_self))
    · rcases List.cons_sublist_cons'.mp other with later' | ⟨rfl, _⟩
      · exact new (later'.subset (List.mem_cons_of_mem _ List.mem_cons_self))
      · exact new (there.subset List.mem_cons_self)

/-- **Every way to order a table of distinct rows returns it as it is exactly when its column
increases strictly.** -/
theorem forall_eq_iff {table : List ρ} (distinct : table.Nodup) :
    (∀ order : OrderBy column, order.rows table = table) ↔
      table.Pairwise fun first second => column first < column second := by
  constructor
  · intro all
    refine List.pairwise_iff_forall_sublist.mpr ?_
    intro first second there
    have sorted := (stable column).sorted table
    rw [all] at sorted
    have le : column first ≤ column second := List.pairwise_iff_forall_sublist.mp sorted there
    refine lt_of_le_of_ne le fun same => not_both_orders distinct there ?_
    -- a tie would come back the other way round
    have total : Std.Total fun first second : ρ => column first ≤ column second :=
      ⟨fun first second => le_total _ _⟩
    have trans : IsTrans ρ fun first second => column first ≤ column second :=
      ⟨fun _ _ _ => le_trans⟩
    have swapped : [second, first].Sublist table.reverse := there.reverse
    have tie : [second, first].Pairwise fun first second => column first ≤ column second := by
      simp [same]
    have back : [second, first].Sublist ((reversed column).rows table) :=
      List.sublist_insertionSort tie swapped
    rwa [all] at back
  · intro increasing order
    exact order.eq_of_increasing increasing

end OrderBy

/-- `LIMIT`; a negative limit is no limit. -/
def limitRows (limit : ℤ) (rows : List ρ) : List ρ :=
  if limit < 0 then rows else rows.take limit.toNat

theorem limitRows_isPrefix (limit : ℤ) (rows : List ρ) : limitRows limit rows <+: rows := by
  unfold limitRows
  split
  · exact List.prefix_rfl
  · exact List.take_prefix _ _

theorem limitRows_of_pos {limit : ℕ} (rows : List ρ) :
    limitRows (limit : ℤ) rows = rows.take limit := by
  unfold limitRows
  rw [if_neg (by omega), Int.toNat_natCast]

/-- A row that was left out is not before a row that was returned. -/
theorem OrderBy.of_limitRows {column : ρ → τ} (order : OrderBy column) {limit : ℤ} {table : List ρ}
    {row other : ρ} (returned : row ∈ limitRows limit (order.rows table)) (there : other ∈ table) :
    other ∈ limitRows limit (order.rows table) ∨ column row ≤ column other := by
  obtain ⟨dropped, split⟩ := limitRows_isPrefix limit (order.rows table)
  have sorted := order.sorted table
  have member := order.mem_rows.mpr there
  rw [← split, List.mem_append] at member
  rw [← split, List.pairwise_append] at sorted
  rcases member with kept | out
  · exact Or.inl kept
  · exact Or.inr (sorted.2.2 row returned other out)

end OrderBy
