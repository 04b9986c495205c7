/-
**Tables of rows with a primary key.**

* A table is the list of its rows in insertion order; `key` reads a row's primary key.
* `find key table k` — the row under `k`.
* `upsert key merge table row` — `INSERT … ON CONFLICT (key) DO UPDATE`: the row under the same key
  is merged in place, else the row is appended. `merge old new` says which columns the update keeps;
  `KeepsKey` is the one law it must obey.
* `Distinct key table` — the primary key is unique; `upsert` keeps it so (`distinct_upsert`).
* `filter_insertionSort` — selecting rows commutes with sorting them.
* `find_upsert` — an upsert changes the lookup of its own key only; `countP_upsert` — and a count by
  at most its own row.
-/

import Mathlib.Data.List.Nodup
import Mathlib.Data.List.Sort

namespace KeyedTable

variable {κ ρ : Type} [DecidableEq κ] (key : ρ → κ)

/-- The row under a key. -/
def find (table : List ρ) (k : κ) : Option ρ := table.find? fun row => decide (key row = k)

/-- `INSERT … ON CONFLICT (key) DO UPDATE`. -/
def upsert (merge : ρ → ρ → ρ) : List ρ → ρ → List ρ
  | [], row => [row]
  | old :: rest, row =>
      if key old = key row then merge old row :: rest else old :: upsert merge rest row

/-- The primary key is unique. -/
def Distinct (table : List ρ) : Prop := (table.map key).Nodup

/-- A merge of two rows with one key has that key. -/
def KeepsKey (merge : ρ → ρ → ρ) : Prop :=
  ∀ old row, key old = key row → key (merge old row) = key row

variable {key}

/-! ### Lookups -/

theorem find_cons (old : ρ) (rest : List ρ) (k : κ) :
    find key (old :: rest) k = if key old = k then some old else find key rest k := by
  unfold find
  rw [List.find?_cons]
  by_cases same : key old = k
  · simp [same]
  · simp [same]

theorem key_of_find {table : List ρ} {k : κ} {row : ρ} (found : find key table k = some row) :
    key row = k := by
  have := List.find?_some found
  simpa using this

theorem mem_of_find {table : List ρ} {k : κ} {row : ρ} (found : find key table k = some row) :
    row ∈ table := List.mem_of_find?_eq_some found

theorem find_eq_none {table : List ρ} {k : κ} :
    find key table k = none ↔ ∀ row ∈ table, key row ≠ k := by
  simp [find, List.find?_eq_none]

/-- **With a unique key, the members are what lookups find.** -/
theorem find_of_mem {table : List ρ} (distinct : Distinct key table) {row : ρ}
    (member : row ∈ table) : find key table (key row) = some row := by
  induction table with
  | nil => simp at member
  | cons old rest ih =>
    have parts : key old ∉ rest.map key ∧ (rest.map key).Nodup := by
      simpa [Distinct] using distinct
    rw [find_cons]
    rcases List.mem_cons.mp member with rfl | inRest
    · rw [if_pos rfl]
    · have other : key old ≠ key row := fun same =>
        parts.1 (same ▸ List.mem_map_of_mem (f := key) inRest)
      rw [if_neg other]
      exact ih parts.2 inRest

theorem mem_iff_find {table : List ρ} (distinct : Distinct key table) {row : ρ} :
    row ∈ table ↔ find key table (key row) = some row :=
  ⟨find_of_mem distinct, mem_of_find⟩

/-- Two members with one key are one row. -/
theorem eq_of_key_eq {table : List ρ} (distinct : Distinct key table) {first second : ρ}
    (member : first ∈ table) (member' : second ∈ table) (same : key first = key second) :
    first = second := by
  have found := find_of_mem distinct member
  rw [same, find_of_mem distinct member'] at found
  exact (Option.some.inj found).symm

/-! ### Upserts -/

variable {merge : ρ → ρ → ρ}

/-- The row an upsert leaves under its key. -/
def merged (merge : ρ → ρ → ρ) (old : Option ρ) (row : ρ) : ρ :=
  match old with
  | none => row
  | some old => merge old row

/-- **An upsert changes the lookup of its own key only.** -/
theorem find_upsert (keeps : KeepsKey key merge) (table : List ρ) (row : ρ) (k : κ) :
    find key (upsert key merge table row) k =
      if k = key row then some (merged merge (find key table (key row)) row)
      else find key table k := by
  induction table with
  | nil =>
    by_cases same : key row = k
    · simp [upsert, find, merged, same]
    · simp [upsert, find, same, Ne.symm same]
  | cons old rest ih =>
    rw [upsert]
    by_cases same : key old = key row
    · rw [if_pos same, find_cons, keeps old row same, find_cons, if_pos same, find_cons]
      by_cases hit : k = key row
      · rw [if_pos hit.symm, if_pos hit]
        rfl
      · rw [if_neg (Ne.symm hit), if_neg hit, if_neg (by rw [same]; exact Ne.symm hit)]
    · rw [if_neg same, find_cons, ih, find_cons, if_neg same, find_cons]
      by_cases hit : k = key row
      · subst hit
        rw [if_neg same, if_pos rfl, if_pos rfl]
      · rw [if_neg hit, if_neg hit]

theorem find_upsert_self (keeps : KeepsKey key merge) (table : List ρ) (row : ρ) :
    find key (upsert key merge table row) (key row) =
      some (merged merge (find key table (key row)) row) := by
  rw [find_upsert keeps, if_pos rfl]

theorem find_upsert_other (keeps : KeepsKey key merge) (table : List ρ) {row : ρ} {k : κ}
    (other : k ≠ key row) :
    find key (upsert key merge table row) k = find key table k := by
  rw [find_upsert keeps, if_neg other]

/-- An upsert under a new key appends. -/
theorem upsert_of_fresh {table : List ρ} {row : ρ} (fresh : find key table (key row) = none) :
    upsert key merge table row = table ++ [row] := by
  induction table with
  | nil => rfl
  | cons old rest ih =>
    rw [find_cons] at fresh
    split at fresh
    · cases fresh
    · rename_i other
      rw [upsert, if_neg other, ih fresh, List.cons_append]

/-- The keys of a table after an upsert. -/
theorem map_key_upsert (keeps : KeepsKey key merge) (table : List ρ) (row : ρ) :
    (upsert key merge table row).map key =
      if key row ∈ table.map key then table.map key else table.map key ++ [key row] := by
  induction table with
  | nil => simp [upsert]
  | cons old rest ih =>
    rw [upsert]
    by_cases same : key old = key row
    · rw [if_pos same, List.map_cons, keeps old row same, List.map_cons, same,
        if_pos List.mem_cons_self]
    · rw [if_neg same, List.map_cons, ih, List.map_cons]
      by_cases inRest : key row ∈ rest.map key
      · rw [if_pos inRest, if_pos (List.mem_cons_of_mem _ inRest)]
      · rw [if_neg inRest, if_neg (by simpa [Ne.symm same] using inRest), List.cons_append]

/-- **Upserts keep the primary key unique.** -/
theorem distinct_upsert (keeps : KeepsKey key merge) {table : List ρ} (row : ρ)
    (distinct : Distinct key table) : Distinct key (upsert key merge table row) := by
  unfold Distinct at distinct ⊢
  rw [map_key_upsert keeps]
  split
  · exact distinct
  · rename_i absent
    exact List.nodup_append.mpr ⟨distinct, List.nodup_singleton _, by
      intro k inTable k' single
      rw [List.mem_singleton.mp single]
      rintro rfl
      exact absent inTable⟩

/-- The members of a table after an upsert. -/
theorem mem_upsert_iff (keeps : KeepsKey key merge) {table : List ρ}
    (distinct : Distinct key table) (row member : ρ) :
    member ∈ upsert key merge table row ↔
      member = merged merge (find key table (key row)) row ∨
        (member ∈ table ∧ key member ≠ key row) := by
  have distinct' := distinct_upsert keeps row distinct
  rw [mem_iff_find distinct', find_upsert keeps]
  constructor
  · intro found
    split at found
    · exact Or.inl (Option.some.inj found).symm
    · rename_i other
      exact Or.inr ⟨mem_of_find found, other⟩
  · rintro (rfl | ⟨inTable, other⟩)
    · have same : key (merged merge (find key table (key row)) row) = key row := by
        cases found : find key table (key row) with
        | none => rfl
        | some old => exact keeps old row (key_of_find found)
      rw [if_pos same]
    · rw [if_neg other]
      exact find_of_mem distinct inTable

/-- A member after an upsert was there, or is the upserted row, merged or not. -/
theorem mem_upsert {table : List ρ} {row member : ρ} (there : member ∈ upsert key merge table row) :
    member ∈ table ∨ member = row ∨ ∃ old, member = merge old row := by
  induction table with
  | nil =>
    rw [upsert, List.mem_singleton] at there
    exact Or.inr (Or.inl there)
  | cons old rest ih =>
    rw [upsert] at there
    by_cases same : key old = key row
    · rw [if_pos same] at there
      rcases List.mem_cons.mp there with rfl | inRest
      · exact Or.inr (Or.inr ⟨old, rfl⟩)
      · exact Or.inl (List.mem_cons_of_mem _ inRest)
    · rw [if_neg same] at there
      rcases List.mem_cons.mp there with rfl | inRest
      · exact Or.inl List.mem_cons_self
      · rcases ih inRest with before | now
        · exact Or.inl (List.mem_cons_of_mem _ before)
        · exact Or.inr now

/-- **What holds of every row holds of every row after an upsert** exactly when it holds of the row left
under the key. -/
theorem forall_mem_upsert {P : ρ → Prop} {table : List ρ} (all : ∀ row ∈ table, P row) (row : ρ) :
    (∀ member ∈ upsert key merge table row, P member) ↔
      P (merged merge (find key table (key row)) row) := by
  induction table with
  | nil => exact List.forall_mem_singleton
  | cons old rest ih =>
    obtain ⟨here, later⟩ := List.forall_mem_cons.mp all
    rw [upsert, find_cons]
    by_cases same : key old = key row
    · rw [if_pos same, if_pos same, List.forall_mem_cons]
      exact and_iff_left later
    · rw [if_neg same, if_neg same, List.forall_mem_cons, ih later]
      exact and_iff_right here

/-- **Leaving a key out commutes with an upsert under another key.** -/
theorem filter_upsert_other (keeps : KeepsKey key merge) (table : List ρ) {row : ρ} {k : κ}
    (other : key row ≠ k) :
    (upsert key merge table row).filter (fun row => decide (key row ≠ k)) =
      upsert key merge (table.filter fun row => decide (key row ≠ k)) row := by
  induction table with
  | nil => simp [upsert, other]
  | cons old rest ih =>
    rw [upsert]
    by_cases same : key old = key row
    · have left : key old ≠ k := by rw [same]; exact other
      have left' : key (merge old row) ≠ k := by rw [keeps old row same]; exact other
      rw [if_pos same, List.filter_cons_of_pos (by simpa using left'),
        List.filter_cons_of_pos (by simpa using left), upsert, if_pos same]
    · rw [if_neg same]
      by_cases out : key old = k
      · rw [List.filter_cons_of_neg (by simpa using out), List.filter_cons_of_neg (by simpa using out)]
        exact ih
      · rw [List.filter_cons_of_pos (by simpa using out),
          List.filter_cons_of_pos (by simpa using out), upsert, if_neg same, ih]

/-- The rows under other keys are found without the left-out ones. -/
theorem find_filter_other (table : List ρ) {k out : κ} (other : k ≠ out) :
    find key (table.filter fun row => decide (key row ≠ out)) k = find key table k := by
  unfold find
  rw [List.find?_filter]
  congr 1
  funext row
  by_cases hit : key row = k
  · simp [hit, other]
  · simp [hit]

theorem countP_cons_toNat (p : ρ → Bool) (old : ρ) (rest : List ρ) :
    (old :: rest).countP p = rest.countP p + (p old).toNat := by
  rw [List.countP_cons]
  cases p old <;> rfl

/-- **A count moves by the upserted row only.** -/
theorem countP_upsert (key : ρ → κ) (merge : ρ → ρ → ρ) (p : ρ → Bool) (table : List ρ) (row : ρ) :
    (upsert key merge table row).countP p +
        ((find key table (key row)).elim 0 fun old => (p old).toNat) =
      table.countP p + (p (merged merge (find key table (key row)) row)).toNat := by
  induction table with
  | nil =>
    rw [upsert, countP_cons_toNat]
    rfl
  | cons old rest ih =>
    rw [upsert, find_cons]
    by_cases same : key old = key row
    · rw [if_pos same, if_pos same, countP_cons_toNat, countP_cons_toNat]
      simp only [merged, Option.elim]
      omega
    · rw [if_neg same, if_neg same, countP_cons_toNat, countP_cons_toNat]
      omega

/-! ### Sorted selections -/

section Sorted

variable {α : Type} (r : α → α → Prop) [DecidableRel r] [IsTrans α r]

theorem filter_orderedInsert (p : α → Bool) (a : α) {sorted : List α} (inOrder : sorted.Pairwise r) :
    (sorted.orderedInsert r a).filter p =
      if p a then (sorted.filter p).orderedInsert r a else sorted.filter p := by
  induction sorted with
  | nil => cases kept : p a <;> simp [kept]
  | cons b rest ih =>
    obtain ⟨first, inOrder'⟩ := List.pairwise_cons.mp inOrder
    rw [List.orderedInsert_cons]
    by_cases before : r a b
    · rw [if_pos before]
      have all : ∀ c ∈ (b :: rest).filter p, r a c := by
        intro c member
        rcases List.mem_cons.mp (List.mem_of_mem_filter member) with rfl | inRest
        · exact before
        · exact IsTrans.trans _ _ _ before (first c inRest)
      cases kept : p a with
      | false => rw [List.filter_cons_of_neg (by simp [kept]), if_neg (by simp)]
      | true =>
        rw [List.filter_cons_of_pos kept, if_pos rfl]
        cases shape : (b :: rest).filter p with
        | nil => rfl
        | cons c others =>
          rw [List.orderedInsert_cons, if_pos (all c (by rw [shape]; exact List.mem_cons_self))]
    · rw [if_neg before]
      cases kept : p b with
      | false =>
        rw [List.filter_cons_of_neg (by simp [kept]), List.filter_cons_of_neg (by simp [kept])]
        exact ih inOrder'
      | true =>
        rw [List.filter_cons_of_pos kept, List.filter_cons_of_pos kept, ih inOrder']
        cases p a with
        | false => rfl
        | true => rw [if_pos rfl, if_pos rfl, List.orderedInsert_cons, if_neg before]

/-- **Selecting rows commutes with sorting them.** -/
theorem filter_insertionSort [Std.Total r] (p : α → Bool) (rows : List α) :
    (rows.insertionSort r).filter p = (rows.filter p).insertionSort r := by
  induction rows with
  | nil => rfl
  | cons a rest ih =>
    rw [List.insertionSort_cons, filter_orderedInsert r p a (List.pairwise_insertionSort r rest), ih]
    cases kept : p a with
    | false => rw [List.filter_cons_of_neg (by simp [kept]), if_neg (by simp)]
    | true => rw [List.filter_cons_of_pos kept, if_pos rfl, List.insertionSort_cons]

end Sorted

end KeyedTable
