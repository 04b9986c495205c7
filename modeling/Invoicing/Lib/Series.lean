/-
**Gapless numbers in a table.**

* `Numbering` — how the rows of a keyed table are numbered: the period a row was issued in, if it was,
  and the name of the `n`-th document of a period. Names are injective on the periods it covers.
* `entriesOf log p` — the keys issued in period `p`, in order.
* `Gapless numbering table log` — the `k`-th entry of a period has the period's name `k + 1`; every
  issued row is an entry, and nothing else has a number.
* **`Gapless.keep`**, **`Gapless.issue`** — an upsert that leaves number and period alone keeps it,
  and so does the issue of a row under the name that follows the count of its period.
* **`Gapless.taken_iff`**, **`Gapless.unique`** — the names in use are the names `1 … count`, each of
  one row.
-/

import Invoicing.Lib.KeyedTable

namespace Series

open KeyedTable

/-- How the rows of a keyed table are numbered. -/
structure Numbering (ρ κ π ν : Type) where
  key : ρ → κ
  merge : ρ → ρ → ρ
  number : ρ → Option ν
  period : ρ → Option π
  name : π → ℕ → ν
  Covered : π → Prop
  keepsKey : KeepsKey key merge
  merge_number : ∀ old row, number (merge old row) = number row
  merge_period : ∀ old row, period (merge old row) = period row
  name_injective : ∀ p q m n, Covered p → Covered q → name p m = name q n → p = q ∧ m = n

variable {ρ κ π ν : Type}

section Entries

variable [DecidableEq π]

/-- The keys issued in a period, in order. -/
def entriesOf (log : List (κ × π)) (p : π) : List κ :=
  (log.filter fun entry => decide (entry.2 = p)).map Prod.fst

theorem entriesOf_append (log more : List (κ × π)) (p : π) :
    entriesOf (log ++ more) p = entriesOf log p ++ entriesOf more p := by
  simp [entriesOf]

theorem entriesOf_singleton (k : κ) (p q : π) :
    entriesOf [(k, q)] p = if q = p then [k] else [] := by
  by_cases same : q = p
  · simp [entriesOf, same]
  · simp [entriesOf, same]

end Entries

namespace Numbering

variable (numbering : Numbering ρ κ π ν)

/-- The row was issued in the period. -/
def issuedIn [DecidableEq π] (p : π) (row : ρ) : Bool := decide (numbering.period row = some p)

/-- The upsert of the table. -/
abbrev save [DecidableEq κ] (table : List ρ) (row : ρ) : List ρ :=
  upsert numbering.key numbering.merge table row

theorem merged_number (old : Option ρ) (row : ρ) :
    numbering.number (merged numbering.merge old row) = numbering.number row := by
  cases old with
  | none => rfl
  | some old => exact numbering.merge_number old row

theorem merged_period (old : Option ρ) (row : ρ) :
    numbering.period (merged numbering.merge old row) = numbering.period row := by
  cases old with
  | none => rfl
  | some old => exact numbering.merge_period old row

theorem merged_key [DecidableEq κ] (table : List ρ) (row : ρ) :
    numbering.key (merged numbering.merge (find numbering.key table (numbering.key row)) row) =
      numbering.key row := by
  cases found : find numbering.key table (numbering.key row) with
  | none => rfl
  | some old => exact numbering.keepsKey old row (key_of_find found)

end Numbering

variable [DecidableEq π]

/-- **The table is numbered without gaps**, in the order of the log. -/
structure Gapless (numbering : Numbering ρ κ π ν) (table : List ρ) (log : List (κ × π)) : Prop where
  distinct : Distinct numbering.key table
  covered : ∀ row ∈ table, ∀ p, numbering.period row = some p → numbering.Covered p
  logged : ∀ row ∈ table, ∀ p, numbering.period row = some p →
    ∃ k, (entriesOf log p)[k]? = some (numbering.key row) ∧
      numbering.number row = some (numbering.name p (k + 1))
  unnumbered : ∀ row ∈ table, numbering.period row = none → numbering.number row = none
  stored : ∀ (p : π) (k : ℕ) (i : κ), (entriesOf log p)[k]? = some i →
    ∃ row ∈ table, numbering.key row = i ∧ numbering.period row = some p ∧
      numbering.number row = some (numbering.name p (k + 1))
  count : ∀ p, table.countP (numbering.issuedIn p) = (entriesOf log p).length

namespace Gapless

variable {numbering : Numbering ρ κ π ν} {table : List ρ} {log : List (κ × π)}

theorem nil (numbering : Numbering ρ κ π ν) : Gapless numbering [] [] where
  distinct := List.nodup_nil
  covered := by
    intro row member
    cases member
  logged := by
    intro row member
    cases member
  unnumbered := by
    intro row member
    cases member
  stored := by
    intro p k i there
    cases there
  count := fun _ => rfl

/-- **The names in use are the first ones of each period.** -/
theorem taken_iff (gapless : Gapless numbering table log) {p : π} (covered : numbering.Covered p)
    (n : ℕ) :
    (∃ row ∈ table, numbering.number row = some (numbering.name p n)) ↔
      1 ≤ n ∧ n ≤ (entriesOf log p).length := by
  constructor
  · rintro ⟨row, inTable, named⟩
    cases issued : numbering.period row with
    | none =>
      rw [gapless.unnumbered row inTable issued] at named
      cases named
    | some q =>
      obtain ⟨k, there, named'⟩ := gapless.logged row inTable q issued
      rw [named] at named'
      obtain ⟨rfl, rfl⟩ := numbering.name_injective _ _ _ _ covered
        (gapless.covered row inTable q issued) (Option.some.inj named')
      have inside := (List.getElem?_eq_some_iff.mp there).1
      omega
  · rintro ⟨positive, bound⟩
    have inside : n - 1 < (entriesOf log p).length := by omega
    obtain ⟨row, inTable, _, _, named⟩ := gapless.stored p (n - 1) _
      (List.getElem?_eq_getElem inside)
    refine ⟨row, inTable, ?_⟩
    rw [named, Nat.sub_add_cancel positive]

/-- The next name of a covered period is free. -/
theorem next_free (gapless : Gapless numbering table log) {p : π} (covered : numbering.Covered p) :
    ∀ row ∈ table, numbering.number row ≠ some (numbering.name p ((entriesOf log p).length + 1)) := by
  intro row inTable named
  have bound := ((gapless.taken_iff covered _).mp ⟨row, inTable, named⟩).2
  omega

/-! ### Upserts -/

variable [DecidableEq κ]

/-- The count of a period after an upsert that leaves periods alone, or that issues. -/
theorem countP_save (numbering : Numbering ρ κ π ν) (table : List ρ) (row : ρ) (p : π) :
    (numbering.save table row).countP (numbering.issuedIn p) +
        ((find numbering.key table (numbering.key row)).elim 0 fun old =>
          (numbering.issuedIn p old).toNat) =
      table.countP (numbering.issuedIn p) + (numbering.issuedIn p row).toNat := by
  have moved := countP_upsert numbering.key numbering.merge (numbering.issuedIn p) table row
  have same : numbering.issuedIn p
      (merged numbering.merge (find numbering.key table (numbering.key row)) row) =
        numbering.issuedIn p row := by
    unfold Numbering.issuedIn
    rw [numbering.merged_period]
  rw [same] at moved
  exact moved

/-- **An upsert that leaves number and period alone keeps the series**; so does a new row without
either. -/
theorem keep (gapless : Gapless numbering table log) (row : ρ)
    (number : numbering.number row =
      (find numbering.key table (numbering.key row)).bind numbering.number)
    (period : numbering.period row =
      (find numbering.key table (numbering.key row)).bind numbering.period) :
    Gapless numbering (numbering.save table row) log := by
  have members := mem_upsert_iff numbering.keepsKey gapless.distinct row
  -- the stored row under the key is numbered like the new one
  have old : ∀ p, numbering.period row = some p → ∃ before ∈ table,
      numbering.key before = numbering.key row ∧ numbering.period before = some p ∧
        numbering.number before = numbering.number row := by
    intro p issued
    rw [period] at issued
    obtain ⟨before, found, samePeriod⟩ := Option.bind_eq_some_iff.mp issued
    refine ⟨before, mem_of_find found, key_of_find found, samePeriod, ?_⟩
    rw [number, found]
    rfl
  refine ⟨distinct_upsert numbering.keepsKey row gapless.distinct, ?_, ?_, ?_, ?_, ?_⟩
  · intro member there p issued
    rcases (members member).mp there with rfl | ⟨inTable, _⟩
    · rw [numbering.merged_period] at issued
      obtain ⟨before, inTable, _, samePeriod, _⟩ := old p issued
      exact gapless.covered before inTable p samePeriod
    · exact gapless.covered member inTable p issued
  · intro member there p issued
    rcases (members member).mp there with rfl | ⟨inTable, _⟩
    · rw [numbering.merged_period] at issued
      obtain ⟨before, inTable, sameKey, samePeriod, sameNumber⟩ := old p issued
      rw [numbering.merged_key, numbering.merged_number, ← sameKey, ← sameNumber]
      exact gapless.logged before inTable p samePeriod
    · exact gapless.logged member inTable p issued
  · intro member there notIssued
    rcases (members member).mp there with rfl | ⟨inTable, _⟩
    · rw [numbering.merged_period, period] at notIssued
      rw [numbering.merged_number, number]
      cases found : find numbering.key table (numbering.key row) with
      | none => rfl
      | some before =>
        rw [found] at notIssued
        exact gapless.unnumbered before (mem_of_find found) notIssued
    · exact gapless.unnumbered member inTable notIssued
  · intro p k i there
    obtain ⟨member, inTable, sameKey, issued, named⟩ := gapless.stored p k i there
    by_cases mine : numbering.key member = numbering.key row
    · have found := find_of_mem gapless.distinct inTable
      rw [mine] at found
      refine ⟨_, (members _).mpr (Or.inl rfl), ?_, ?_, ?_⟩
      · rw [numbering.merged_key, ← mine, sameKey]
      · rw [numbering.merged_period, period, found]
        exact issued
      · rw [numbering.merged_number, number, found]
        exact named
    · exact ⟨member, (members member).mpr (Or.inr ⟨inTable, mine⟩), sameKey, issued, named⟩
  · intro p
    have moved := countP_save numbering table row p
    rw [← gapless.count p]
    cases found : find numbering.key table (numbering.key row) with
    | none =>
      rw [found] at moved period
      have notIssued : numbering.issuedIn p row = false := by
        unfold Numbering.issuedIn
        rw [period]
        rfl
      rw [notIssued] at moved
      simpa using moved
    | some before =>
      rw [found] at moved period
      have same : numbering.issuedIn p before = numbering.issuedIn p row := by
        unfold Numbering.issuedIn
        rw [period]
        rfl
      simp only [Option.elim, same] at moved
      omega

/-- **The issue of a row under the name that follows the count of its period keeps the series.** -/
theorem issue (gapless : Gapless numbering table log) (row : ρ) {p : π}
    (unissued : ∀ before, find numbering.key table (numbering.key row) = some before →
      numbering.period before = none)
    (period : numbering.period row = some p) (covered : numbering.Covered p)
    (number : numbering.number row = some (numbering.name p ((entriesOf log p).length + 1))) :
    Gapless numbering (numbering.save table row) (log ++ [(numbering.key row, p)]) := by
  have members := mem_upsert_iff numbering.keepsKey gapless.distinct row
  have entries : ∀ q, entriesOf (log ++ [(numbering.key row, p)]) q =
      entriesOf log q ++ if p = q then [numbering.key row] else [] := by
    intro q
    rw [entriesOf_append, entriesOf_singleton]
  refine ⟨distinct_upsert numbering.keepsKey row gapless.distinct, ?_, ?_, ?_, ?_, ?_⟩
  · intro member there q issued
    rcases (members member).mp there with rfl | ⟨inTable, _⟩
    · rw [numbering.merged_period, period] at issued
      cases issued
      exact covered
    · exact gapless.covered member inTable q issued
  · intro member there q issued
    rcases (members member).mp there with rfl | ⟨inTable, _⟩
    · rw [numbering.merged_period, period] at issued
      cases issued
      refine ⟨(entriesOf log p).length, ?_, ?_⟩
      · rw [numbering.merged_key, entries, if_pos rfl, List.getElem?_append_right (Nat.le_refl _),
          Nat.sub_self]
        rfl
      · rw [numbering.merged_number, number]
    · obtain ⟨k, there, named⟩ := gapless.logged member inTable q issued
      refine ⟨k, ?_, named⟩
      have inside : k < (entriesOf log q).length := (List.getElem?_eq_some_iff.mp there).1
      rw [entries, List.getElem?_append_left inside, there]
  · intro member there notIssued
    rcases (members member).mp there with rfl | ⟨inTable, _⟩
    · rw [numbering.merged_period, period] at notIssued
      cases notIssued
    · exact gapless.unnumbered member inTable notIssued
  · intro q k i there
    rw [entries] at there
    by_cases inside : k < (entriesOf log q).length
    · rw [List.getElem?_append_left inside] at there
      obtain ⟨member, inTable, sameKey, issued, named⟩ := gapless.stored q k i there
      refine ⟨member, (members member).mpr (Or.inr ⟨inTable, ?_⟩), sameKey, issued, named⟩
      intro mine
      have found := find_of_mem gapless.distinct inTable
      rw [mine] at found
      rw [unissued member found] at issued
      cases issued
    · rw [List.getElem?_append_right (Nat.not_lt.mp inside)] at there
      by_cases same : p = q
      · subst same
        rw [if_pos rfl] at there
        obtain ⟨single, rfl⟩ := List.getElem?_eq_some_iff.mp there
        have last : k = (entriesOf log p).length := by
          have : k - (entriesOf log p).length < 1 := single
          omega
        subst last
        refine ⟨_, (members _).mpr (Or.inl rfl), ?_, ?_, ?_⟩
        · rw [numbering.merged_key]
          simp
        · rw [numbering.merged_period, period]
        · rw [numbering.merged_number, number]
      · rw [if_neg same] at there
        cases there
  · intro q
    have moved := countP_save numbering table row q
    have notBefore : ((find numbering.key table (numbering.key row)).elim 0 fun old =>
        (numbering.issuedIn q old).toNat) = 0 := by
      cases found : find numbering.key table (numbering.key row) with
      | none => rfl
      | some before =>
        simp [Numbering.issuedIn, unissued before found]
    rw [notBefore, gapless.count q] at moved
    rw [entries, List.length_append]
    by_cases same : p = q
    · subst same
      have issued : numbering.issuedIn p row = true := by simp [Numbering.issuedIn, period]
      rw [issued] at moved
      simpa using moved
    · have other : numbering.issuedIn q row = false := by simp [Numbering.issuedIn, period, same]
      rw [other] at moved
      simpa [same] using moved

/-- **No two rows have one number.** -/
theorem unique (gapless : Gapless numbering table log) {row other : ρ} (inTable : row ∈ table)
    (inTable' : other ∈ table) (numbered : numbering.number row ≠ none)
    (same : numbering.number row = numbering.number other) : row = other := by
  have issued : ∀ member ∈ table, numbering.number member ≠ none →
      ∃ q, numbering.period member = some q := by
    intro member inTable numbered
    cases period : numbering.period member with
    | none => exact absurd (gapless.unnumbered member inTable period) numbered
    | some q => exact ⟨q, rfl⟩
  obtain ⟨p, period⟩ := issued row inTable numbered
  obtain ⟨q, period'⟩ := issued other inTable' (by rw [← same]; exact numbered)
  obtain ⟨k, there, named⟩ := gapless.logged row inTable p period
  obtain ⟨k', there', named'⟩ := gapless.logged other inTable' q period'
  rw [same, named'] at named
  obtain ⟨rfl, sameIndex⟩ := numbering.name_injective _ _ _ _
    (gapless.covered other inTable' q period') (gapless.covered row inTable p period)
    (Option.some.inj named)
  obtain rfl : k' = k := by omega
  rw [there] at there'
  exact eq_of_key_eq gapless.distinct inTable inTable' (Option.some.inj there')

end Gapless

end Series
