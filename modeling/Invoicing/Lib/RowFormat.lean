/-
**Tables whose rows are stored as columns.**

* `Inverts read write Fits` — what is written is read back exactly when it fits. `Inverts.optional`,
  `Inverts.ofEq` build it for a column, `bind_eq_ok` takes a reader of several columns apart.
* `RowFormat` — how a row is written and read, with the rows that are read back.
* `Query` — which stored rows a `SELECT` returns; `select` reads all of them and fails at the first
  that is not read. **`RowFormat.select_of_fits`** — a table of rows that fit answers every query;
  **`RowFormat.fits_of_select`** — a row that does not fit fails every query that returns it;
  **`RowFormat.select_isOk_iff`**, **`RowFormat.mem_of_select`** — when a query is answered, and with what;
  `RowFormat.blocked_at_front` — and every page when rows that do not fit come first.
* **`RowFormat.select_in_order`** — for every way to break ties, a page of a table whose kept rows fit is a
  page of them, in order.
* **`RowFormat.fetchOptional_eq_ok_iff`**, **`RowFormat.select_ordered_eq_ok_iff`** — a row is fetched, and a
  page read, exactly when what is returned fits: filtering and ordering the stored rows is filtering and
  ordering the rows.
-/

import Invoicing.Lib.Fallible
import Invoicing.Lib.OrderBy
import Mathlib.Data.List.Perm.Basic

variable {α γ ρ ε τ : Type}

/-! ### Reading what was written -/

/-- What is written is read back exactly when it fits. -/
def Inverts (read : γ → Except ε α) (write : α → γ) (Fits : α → Prop) : Prop :=
  ∀ a b, read (write a) = .ok b ↔ Fits a ∧ b = a

/-- Everything is read back. -/
theorem Inverts.ofEq {read : γ → Except ε α} {write : α → γ} (back : ∀ a, read (write a) = .ok a) :
    Inverts read write fun _ => True := by
  intro a b
  rw [back, Except.ok.injEq]
  exact ⟨fun same => ⟨trivial, same.symm⟩, fun same => same.2.symm⟩

theorem Inverts.read {read : γ → Except ε α} {write : α → γ} {Fits : α → Prop}
    (inverts : Inverts read write Fits) {a : α} (fits : Fits a) : read (write a) = .ok a :=
  (inverts a a).mpr ⟨fits, rfl⟩

/-- What is read back was written differently from everything else. -/
theorem injective_of_read {read : γ → Except ε α} {write : α → γ}
    (back : ∀ a, read (write a) = .ok a) : Function.Injective write := by
  intro first second same
  have read := back first
  rw [same, back second] at read
  exact (Except.ok.inj read).symm

/-- A column that may be null. -/
def readOptional (read : γ → Except ε α) : Option γ → Except ε (Option α)
  | none => .ok none
  | some column => some <$> read column

theorem Inverts.optional {read : γ → Except ε α} {write : α → γ} {Fits : α → Prop}
    (inverts : Inverts read write Fits) :
    Inverts (readOptional read) (Option.map write) fun a => ∀ b ∈ a, Fits b := by
  intro a b
  cases a with
  | none => simp [readOptional, eq_comm]
  | some a =>
    simp only [Option.map_some, readOptional, Option.mem_def, Option.some.injEq, forall_eq']
    constructor
    · intro done
      cases found : read (write a) with
      | error e =>
        rw [found] at done
        cases done
      | ok c =>
        rw [found] at done
        cases done
        obtain ⟨fits, rfl⟩ := (inverts a c).mp found
        exact ⟨fits, rfl⟩
    · rintro ⟨fits, rfl⟩
      rw [inverts.read fits]
      rfl

/-- A reader in two parts that went through. -/
theorem bind_eq_ok {first : Except ε α} {rest : α → Except ε ρ} {result : ρ} :
    (first >>= rest) = .ok result ↔ ∃ a, first = .ok a ∧ rest a = .ok result := by
  constructor
  · intro done
    cases first with
    | error e => cases done
    | ok a => exact ⟨a, rfl, done⟩
  · rintro ⟨a, rfl, done⟩
    exact done

/-- Every column of a list that was read was read. -/
theorem read_of_mem {read : γ → Except ε ρ} {columns : List γ} {found : List ρ} {column : γ}
    (done : columns.mapM read = .ok found) (member : column ∈ columns) :
    ∃ row, read column = .ok row := by
  induction columns generalizing found with
  | nil => cases member
  | cons head rest ih =>
    rw [List.mapM_cons] at done
    obtain ⟨row, first, later⟩ := bind_eq_ok.mp done
    obtain ⟨others, later, _⟩ := bind_eq_ok.mp later
    rcases List.mem_cons.mp member with rfl | there
    · exact ⟨row, first⟩
    · exact ih later there

/-! ### Tables -/

/-- How the rows of a table are stored. -/
structure RowFormat (ρ γ ε : Type) where
  write : ρ → γ
  read : γ → Except ε ρ
  Fits : ρ → Prop
  inverts : Inverts read write Fits

/-- Which of the stored rows a `SELECT` returns. -/
structure Query (γ : Type) where
  rows : List γ → List γ
  subset : ∀ {table : List γ} {row : γ}, row ∈ rows table → row ∈ table

/-- `LIMIT … OFFSET …`, if there is one; a negative offset is none. -/
def pageRows : Option (ℤ × Option ℤ) → List γ → List γ
  | none, rows => rows
  | some (limit, offset), rows => limitRows limit (rows.drop (offset.getD 0).toNat)

theorem mem_of_mem_pageRows {page : Option (ℤ × Option ℤ)} {rows : List γ} {row : γ}
    (member : row ∈ pageRows page rows) : row ∈ rows := by
  cases page with
  | none => exact member
  | some page => exact List.mem_of_mem_drop ((limitRows_isPrefix _ _).subset member)

theorem map_pageRows (f : α → γ) (page : Option (ℤ × Option ℤ)) (rows : List α) :
    pageRows page (rows.map f) = (pageRows page rows).map f := by
  cases page with
  | none => rfl
  | some page =>
    simp only [pageRows, limitRows, ← List.map_drop]
    split
    · rfl
    · rw [List.map_take]

/-- `SELECT … WHERE … ORDER BY … LIMIT … OFFSET …`. -/
def Query.ordered [LinearOrder τ] (keep : γ → Bool) {column : γ → τ} (order : OrderBy column)
    (page : Option (ℤ × Option ℤ)) : Query γ where
  rows table := pageRows page (order.rows (table.filter keep))
  subset member := List.mem_of_mem_filter (order.mem_rows.mp (mem_of_mem_pageRows member))

/-- Run a query and read every row it returns. -/
def select (read : γ → Except ε ρ) (query : Query γ) (stored : List γ) : Except ε (List ρ) :=
  (query.rows stored).mapM read

/-- Read the first row that is kept, if there is one. -/
def fetchOptional (read : γ → Except ε ρ) (keep : γ → Bool) (stored : List γ) :
    Except ε (Option ρ) :=
  match stored.find? keep with
  | none => .ok none
  | some columns => some <$> read columns

theorem fetchOptional_none {read : γ → Except ε ρ} {keep : γ → Bool} {stored : List γ}
    (absent : stored.find? keep = none) : fetchOptional read keep stored = .ok none := by
  unfold fetchOptional
  rw [absent]

theorem fetchOptional_some {read : γ → Except ε ρ} {keep : γ → Bool} {stored : List γ} {columns : γ}
    (found : stored.find? keep = some columns) :
    fetchOptional read keep stored = (read columns).map some := by
  unfold fetchOptional
  rw [found]
  rfl

/-- Without a page every row that is kept is returned. -/
theorem Query.mem_ordered [LinearOrder τ] {keep : γ → Bool} {column : γ → τ}
    {order : OrderBy column} {table : List γ} {row : γ} :
    row ∈ (Query.ordered keep order none).rows table ↔ row ∈ table ∧ keep row = true := by
  show row ∈ order.rows (table.filter keep) ↔ _
  rw [order.mem_rows, List.mem_filter]

namespace RowFormat

variable (format : RowFormat ρ γ ε)

/-- **Stored rows are read back exactly when all of them fit.** -/
theorem readRows {rows found : List ρ} :
    (rows.map format.write).mapM format.read = .ok found ↔
      (∀ row ∈ rows, format.Fits row) ∧ found = rows := by
  induction rows generalizing found with
  | nil => simp [pure, Except.pure, eq_comm]
  | cons row rest ih =>
    rw [List.map_cons, List.mapM_cons, bind_eq_ok, List.forall_mem_cons]
    constructor
    · rintro ⟨a, first, later⟩
      obtain ⟨others, later, done⟩ := bind_eq_ok.mp later
      obtain ⟨fits, rfl⟩ := (format.inverts row a).mp first
      obtain ⟨all, rfl⟩ := ih.mp later
      cases done
      exact ⟨⟨fits, all⟩, rfl⟩
    · rintro ⟨⟨fits, all⟩, rfl⟩
      exact ⟨row, format.inverts.read fits, bind_eq_ok.mpr ⟨rest, ih.mpr ⟨all, rfl⟩, rfl⟩⟩

/-- Columns taken from a table are those of some of its rows. -/
theorem rows_of_columns {table : List ρ} {columns : List γ}
    (there : ∀ column ∈ columns, column ∈ table.map format.write) :
    ∃ rows : List ρ, (∀ row ∈ rows, row ∈ table) ∧ rows.map format.write = columns := by
  induction columns with
  | nil => exact ⟨[], by simp, rfl⟩
  | cons column rest ih =>
    obtain ⟨here, later⟩ := List.forall_mem_cons.mp there
    obtain ⟨row, member, rfl⟩ := List.mem_map.mp here
    obtain ⟨rows, inside, same⟩ := ih later
    exact ⟨row :: rows, List.forall_mem_cons.mpr ⟨member, inside⟩, by rw [List.map_cons, same]⟩

/-- **A table of rows that fit answers every query**, with rows of the table. -/
theorem select_of_fits {table : List ρ} (fits : ∀ row ∈ table, format.Fits row) (query : Query γ) :
    ∃ found, select format.read query (table.map format.write) = .ok found ∧
      (∀ row ∈ found, row ∈ table) ∧
      found.map format.write = query.rows (table.map format.write) := by
  have there : ∀ column ∈ query.rows (table.map format.write), column ∈ table.map format.write :=
    fun _ member => query.subset member
  obtain ⟨rows, inside, same⟩ := format.rows_of_columns there
  refine ⟨rows, ?_, inside, same⟩
  rw [select, ← same]
  exact format.readRows.mpr ⟨fun row member => fits row (inside row member), rfl⟩

theorem select_isOk {table : List ρ} (fits : ∀ row ∈ table, format.Fits row) (query : Query γ) :
    (select format.read query (table.map format.write)).isOk = true := by
  obtain ⟨found, done, _⟩ := format.select_of_fits fits query
  rw [done]
  rfl

/-- **A row that does not fit fails every query that returns it.** -/
theorem fits_of_select {table found : List ρ} {query : Query γ} {row : ρ}
    (done : select format.read query (table.map format.write) = .ok found)
    (returned : format.write row ∈ query.rows (table.map format.write)) : format.Fits row := by
  have there : ∀ column ∈ query.rows (table.map format.write), column ∈ table.map format.write :=
    fun _ member => query.subset member
  obtain ⟨rows, _, same⟩ := format.rows_of_columns there
  rw [← same] at returned
  rw [select, ← same] at done
  obtain ⟨a, read⟩ := read_of_mem done returned
  exact ((format.inverts row a).mp read).1

/-- **A query is answered exactly when every row it returns fits.** -/
theorem select_isOk_iff {table : List ρ} {query : Query γ} :
    (select format.read query (table.map format.write)).isOk = true ↔
      ∀ row ∈ table, format.write row ∈ query.rows (table.map format.write) → format.Fits row := by
  constructor
  · intro answered row _ returned
    obtain ⟨found, done⟩ := ok_of_isOk answered
    exact format.fits_of_select done returned
  · intro fits
    have there : ∀ column ∈ query.rows (table.map format.write), column ∈ table.map format.write :=
      fun _ member => query.subset member
    obtain ⟨rows, inside, same⟩ := format.rows_of_columns there
    refine isOk_iff.mpr ⟨rows, ?_⟩
    rw [select, ← same]
    refine format.readRows.mpr ⟨fun row member => fits row (inside row member) ?_, rfl⟩
    rw [← same]
    exact List.mem_map_of_mem member

/-- **The rows a query gives are the rows it returns.** -/
theorem mem_of_select {table found : List ρ} {query : Query γ}
    (done : select format.read query (table.map format.write) = .ok found) {row : ρ} :
    row ∈ found ↔ row ∈ table ∧ format.write row ∈ query.rows (table.map format.write) := by
  have there : ∀ column ∈ query.rows (table.map format.write), column ∈ table.map format.write :=
    fun _ member => query.subset member
  obtain ⟨rows, inside, same⟩ := format.rows_of_columns there
  have fits : ∀ other : ρ, format.write other ∈ query.rows (table.map format.write) → format.Fits other :=
    fun _ returned => format.fits_of_select done returned
  rw [select, ← same] at done
  obtain ⟨_, rfl⟩ := format.readRows.mp done
  rw [← same] at fits ⊢
  constructor
  · intro member
    exact ⟨inside row member, List.mem_map_of_mem member⟩
  · rintro ⟨_, returned⟩
    obtain ⟨other, member, written⟩ := List.mem_map.mp returned
    -- both are read, from the same columns
    have read := format.inverts.read (fits row returned)
    rw [← written, format.inverts.read (fits other (List.mem_map_of_mem member))] at read
    rw [← Except.ok.inj read]
    exact member

theorem blocked {table : List ρ} {query : Query γ} {row : ρ} (outside : ¬ format.Fits row)
    (returned : format.write row ∈ query.rows (table.map format.write)) :
    ¬ (select format.read query (table.map format.write)).isOk = true := by
  intro done
  obtain ⟨rows, found⟩ := ok_of_isOk done
  exact outside (format.fits_of_select found returned)

/-- **A row that comes before every row that fits blocks every page from the start**: what comes first
does not fit either. -/
theorem blocked_at_front [LinearOrder τ] {table : List ρ} {keep : γ → Bool} {column : γ → τ}
    {order : OrderBy column} {row : ρ} (there : row ∈ table) (kept : keep (format.write row) = true)
    (front : ∀ first ∈ table, keep (format.write first) = true →
      column (format.write first) ≤ column (format.write row) → ¬ format.Fits first)
    {limit : ℤ} (nonzero : limit ≠ 0) :
    ¬ (select format.read (.ordered keep order (some (limit, none)))
      (table.map format.write)).isOk = true := by
  have member : format.write row ∈ order.rows ((table.map format.write).filter keep) :=
    order.mem_rows.mpr (List.mem_filter.mpr ⟨List.mem_map_of_mem there, kept⟩)
  have sorted := order.sorted ((table.map format.write).filter keep)
  cases shape : order.rows ((table.map format.write).filter keep) with
  | nil =>
    rw [shape] at member
    cases member
  | cons head rest =>
    have inside : head ∈ (table.map format.write).filter keep :=
      order.mem_rows.mp (shape ▸ List.mem_cons_self)
    obtain ⟨stored, keptHead⟩ := List.mem_filter.mp inside
    obtain ⟨first, member', rfl⟩ := List.mem_map.mp stored
    rw [shape] at member sorted
    have le : column (format.write first) ≤ column (format.write row) := by
      rcases List.mem_cons.mp member with same | later
      · exact le_of_eq (congrArg column same.symm)
      · exact (List.pairwise_cons.mp sorted).1 _ later
    refine format.blocked (front first member' keptHead le) ?_
    show format.write first ∈ limitRows limit ((order.rows _).drop 0)
    rw [List.drop_zero, shape, limitRows]
    split
    · exact List.mem_cons_self
    · obtain ⟨n, positive⟩ : ∃ n, limit.toNat = n + 1 := ⟨limit.toNat - 1, by omega⟩
      rw [positive, List.take_succ_cons]
      exact List.mem_cons_self

/-- **A row is fetched exactly when it fits**, and as it is. -/
theorem fetchOptional_eq_ok_iff {table : List ρ} {keep : γ → Bool} {found : Option ρ} :
    fetchOptional format.read keep (table.map format.write) = .ok found ↔
      (table.find? fun row => keep (format.write row)) = found ∧ ∀ row ∈ found, format.Fits row := by
  have stored : (table.map format.write).find? keep =
      (table.find? fun row => keep (format.write row)).map format.write := List.find?_map
  cases first : table.find? fun row => keep (format.write row) with
  | none =>
    rw [first] at stored
    rw [fetchOptional_none stored, Except.ok.injEq]
    constructor
    · rintro rfl
      exact ⟨rfl, fun _ absent => by cases absent⟩
    · exact fun found => found.1
  | some row =>
    rw [first] at stored
    rw [fetchOptional_some stored]
    constructor
    · intro done
      obtain ⟨a, read, same⟩ := map_ok done
      obtain ⟨fits, rfl⟩ := (format.inverts row a).mp read
      subst same
      exact ⟨rfl, fun _ here => Option.some.inj here ▸ fits⟩
    · rintro ⟨rfl, fits⟩
      rw [format.inverts.read (fits row rfl)]
      rfl

/-- A row of a table of rows that fit is fetched as it is. -/
theorem fetchOptional_of_fits {table : List ρ} (fits : ∀ row ∈ table, format.Fits row)
    (keep : γ → Bool) :
    fetchOptional format.read keep (table.map format.write) =
      .ok (table.find? fun row => keep (format.write row)) :=
  format.fetchOptional_eq_ok_iff.mpr ⟨rfl, fun row found => fits row (List.mem_of_find?_eq_some found)⟩

theorem fetchOptional_isOk {table : List ρ} (fits : ∀ row ∈ table, format.Fits row)
    (keep : γ → Bool) : (fetchOptional format.read keep (table.map format.write)).isOk = true := by
  rw [format.fetchOptional_of_fits fits]
  rfl

/-- The row that is fetched is read back only if it fits. -/
theorem fetchOptional_blocked {table : List ρ} {keep : γ → Bool} {row : ρ}
    (found : (table.find? fun row => keep (format.write row)) = some row)
    (outside : ¬ format.Fits row) :
    ¬ (fetchOptional format.read keep (table.map format.write)).isOk = true := by
  intro done
  have stored : (table.map format.write).find? keep = some (format.write row) := by
    rw [List.find?_map]
    exact congrArg (Option.map format.write) found
  obtain ⟨fetched, read⟩ := ok_of_isOk done
  unfold fetchOptional at read
  rw [stored] at read
  dsimp only at read
  cases first : format.read (format.write row) with
  | error e =>
    rw [first] at read
    cases read
  | ok a => exact outside ((format.inverts row a).mp first).1

/-- **A page of stored rows is read exactly when its rows fit**, and is the page of the rows. -/
theorem select_ordered_eq_ok_iff [LinearOrder τ] {table found : List ρ} {keep : γ → Bool} {column : γ → τ}
    {page : Option (ℤ × Option ℤ)} :
    select format.read (.ordered keep (OrderBy.stable column) page) (table.map format.write) = .ok found ↔
      (∀ row ∈ pageRows page ((OrderBy.stable fun row => column (format.write row)).rows
          (table.filter fun row => keep (format.write row))), format.Fits row) ∧
        found = pageRows page ((OrderBy.stable fun row => column (format.write row)).rows
          (table.filter fun row => keep (format.write row))) := by
  have rows : (Query.ordered keep (OrderBy.stable column) page).rows (table.map format.write) =
      (pageRows page ((OrderBy.stable fun row => column (format.write row)).rows
        (table.filter fun row => keep (format.write row)))).map format.write := by
    show pageRows page ((OrderBy.stable column).rows ((table.map format.write).filter keep)) = _
    rw [List.filter_map, OrderBy.stable_map, map_pageRows]
    rfl
  rw [select, rows, format.readRows]

/-- **Filtering and ordering stored rows** is filtering and ordering the rows. -/
theorem select_ordered [LinearOrder τ] {table : List ρ} (fits : ∀ row ∈ table, format.Fits row)
    (keep : γ → Bool) (column : γ → τ) (page : Option (ℤ × Option ℤ)) :
    select format.read (.ordered keep (OrderBy.stable column) page) (table.map format.write) =
      .ok (pageRows page ((OrderBy.stable fun row => column (format.write row)).rows
        (table.filter fun row => keep (format.write row)))) := by
  refine format.select_ordered_eq_ok_iff.mpr ⟨fun row member => fits row ?_, rfl⟩
  exact List.mem_of_mem_filter ((OrderBy.mem_rows _).mp (mem_of_mem_pageRows member))

/-- **A page of a table whose kept rows fit** is a page of the rows that are kept, in an order in which the
column does not decrease. -/
theorem select_in_order [LinearOrder τ] {table : List ρ} (keep : γ → Bool)
    (fits : ∀ row ∈ table, keep (format.write row) = true → format.Fits row) {column : γ → τ}
    (order : OrderBy column) (page : Option (ℤ × Option ℤ)) :
    ∃ ordered : List ρ, ordered.Perm (table.filter fun row => keep (format.write row)) ∧
      (ordered.Pairwise fun first second => column (format.write first) ≤ column (format.write second)) ∧
      select format.read (.ordered keep order page) (table.map format.write) =
        .ok (pageRows page ordered) := by
  have stored : (table.map format.write).filter keep =
      (table.filter fun row => keep (format.write row)).map format.write := List.filter_map ..
  have perm := order.perm ((table.map format.write).filter keep)
  have there : ∀ column ∈ order.rows ((table.map format.write).filter keep),
      column ∈ (table.filter fun row => keep (format.write row)).map format.write := by
    intro column member
    rw [← stored]
    exact order.mem_rows.mp member
  obtain ⟨ordered, inside, same⟩ := format.rows_of_columns there
  have keptFits : ∀ row ∈ table.filter fun row => keep (format.write row), format.Fits row := by
    intro row member
    obtain ⟨inTable, kept⟩ := List.mem_filter.mp member
    exact fits row inTable kept
  refine ⟨ordered, ?_, ?_, ?_⟩
  · have back : ∀ rows : List ρ, (∀ row ∈ rows, row ∈ table.filter fun row => keep (format.write row)) →
        (rows.map format.write).map format.read = rows.map Except.ok := by
      intro rows inside
      rw [List.map_map]
      exact List.map_congr_left fun row member => format.inverts.read (keptFits row (inside row member))
    have read := perm.map format.read
    rw [← same, stored, back _ inside, back _ fun row member => member] at read
    exact (List.map_perm_map_iff fun _ _ => Except.ok.inj).mp read
  · have sorted := order.sorted ((table.map format.write).filter keep)
    rw [← same, List.pairwise_map] at sorted
    exact sorted
  · have rows : (Query.ordered keep order page).rows (table.map format.write) =
        (pageRows page ordered).map format.write := by
      show pageRows page (order.rows ((table.map format.write).filter keep)) = _
      rw [← same, map_pageRows]
    rw [select, rows, format.readRows]
    exact ⟨fun row member => keptFits row (inside row (mem_of_mem_pageRows member)), rfl⟩

end RowFormat
